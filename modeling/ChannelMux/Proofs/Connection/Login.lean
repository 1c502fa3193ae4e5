import ChannelMux.Codec.Plain
import ChannelMux.Proofs.Connection.Course

/-!
The login comes before everything else. On a connection that has to log in, nothing but answers to
pings is written between the login and its acknowledgement, and nothing that comes in meanwhile
touches a channel. The registry is up only while a connection is in service.
-/
namespace ChannelMux

namespace Passage

/-- The frames that were written, in order. -/
def written (passed : List Passage) : List Frame :=
  passed.filterMap fun
    | .wrote frame => some frame
    | _ => none

/-- What the pings that came in carried, in order. -/
def pings (passed : List Passage) : List (List UInt8) :=
  passed.filterMap fun
    | .came (.frame (.ping bytes)) _ => some bytes
    | _ => none

def isAck : Passage → Bool
  | .came _ (some .ack) => true
  | _ => false

/-- The login was acknowledged. -/
def acknowledged (passed : List Passage) : Bool := passed.any isAck

/-- What may pass over a connection that has to log in. -/
structure Gated (login : Frame) (passed : List Passage) : Prop where
  first : ∀ frame ∈ (written passed).head?, frame = login
  /-- Up to the acknowledgement only pings are answered, each at most once and in their order. -/
  waits : ∀ early, early <+: passed → acknowledged early = false → written early = [] ∨
    ∃ answered, written early = login :: answered.map .pong ∧ answered <+: pings early

variable {κ ν : Type} [Codec κ ν] {login frame : Frame} {passed : List Passage} {arrival : Arrival}
  {reply : Option LoginReply}

theorem written_append (first second : List Passage) :
    written (first ++ second) = written first ++ written second :=
  List.filterMap_append

theorem pings_append (first second : List Passage) :
    pings (first ++ second) = pings first ++ pings second :=
  List.filterMap_append

theorem acknowledged_append (first second : List Passage) :
    acknowledged (first ++ second) = (acknowledged first || acknowledged second) :=
  List.any_append

theorem gated_nil (login : Frame) : Gated login [] := by
  refine ⟨by simp [written], fun early hearly _ => Or.inl ?_⟩
  rw [List.prefix_nil.mp hearly]
  rfl

/-- Whatever comes in may come. -/
theorem Gated.came (h : Gated login passed) (arrival : Arrival) (reply : Option LoginReply) :
    Gated login (passed ++ [.came arrival reply]) := by
  have hwritten : written (passed ++ [.came arrival reply]) = written passed := by
    rw [written_append]
    exact List.append_nil _
  refine ⟨by rw [hwritten]; exact h.first, fun early hearly hunanswered => ?_⟩
  rcases List.prefix_concat_iff.mp hearly with rfl | hbefore
  · rw [acknowledged_append, Bool.or_eq_false_iff] at hunanswered
    rw [hwritten, pings_append]
    refine (h.waits passed (List.prefix_refl _) hunanswered.1).imp_right ?_
    rintro ⟨answered, heq, hprefix⟩
    exact ⟨answered, heq, hprefix.trans (List.prefix_append _ _)⟩
  · exact h.waits early hbefore hunanswered

/-- A frame may be written after the acknowledgement, or as an answer that is due. -/
theorem Gated.wrote (h : Gated login passed)
    (hfirst : ∀ first ∈ (written passed ++ [frame]).head?, first = login)
    (hdue : acknowledged passed = false → ∃ answered,
      written passed ++ [frame] = login :: answered.map .pong ∧ answered <+: pings passed) :
    Gated login (passed ++ [.wrote frame]) := by
  have hwritten : written (passed ++ [.wrote frame]) = written passed ++ [frame] :=
    written_append _ _
  refine ⟨by rw [hwritten]; exact hfirst, fun early hearly hunanswered => ?_⟩
  rcases List.prefix_concat_iff.mp hearly with rfl | hbefore
  · rw [acknowledged_append, Bool.or_eq_false_iff] at hunanswered
    obtain ⟨answered, heq, hprefix⟩ := hdue hunanswered.1
    rw [hwritten, pings_append]
    exact Or.inr ⟨answered, heq, hprefix.trans (List.prefix_append _ _)⟩
  · exact h.waits early hbefore hunanswered

/-- After the acknowledgement anything may pass. By induction on what passes. -/
theorem Gated.later (h : Gated login passed) (hack : acknowledged passed = true)
    (hbegun : written passed ≠ []) (more : List Passage) : Gated login (passed ++ more) := by
  induction more generalizing passed with
  | nil => rwa [List.append_nil]
  | cons passage rest ih =>
    have hstep : Gated login (passed ++ [passage]) := by
      cases passage with
      | came arrival reply => exact h.came arrival reply
      | wrote frame =>
        refine h.wrote ?_ fun hunanswered => ?_
        · rw [List.head?_append_of_ne_nil _ hbegun]
          exact h.first
        · rw [hack] at hunanswered
          cases hunanswered
    have hsplit : passed ++ passage :: rest = (passed ++ [passage]) ++ rest := by simp
    rw [hsplit]
    refine ih hstep ?_ ?_
    · rw [acknowledged_append, hack]
      rfl
    · rw [written_append]
      simp [hbegun]

/-- The login is written, every ping that came since is answered, and nothing acknowledged it. -/
structure Awaits (login : Frame) (passed : List Passage) : Prop where
  gated : Gated login passed
  unanswered : acknowledged passed = false
  echoed : written passed = login :: (pings passed).map .pong

theorem awaits_login (login : Frame) : Awaits login [.wrote login] := by
  refine ⟨?_, rfl, rfl⟩
  exact (gated_nil login).wrote (by simp [written]) fun _ => ⟨[], rfl, List.nil_prefix⟩

theorem Awaits.came (h : Awaits login passed) (hreply : reply ≠ some .ack)
    (hquiet : pings [.came arrival reply] = []) :
    Awaits login (passed ++ [.came arrival reply]) := by
  refine ⟨h.gated.came arrival reply, ?_, ?_⟩
  · rw [acknowledged_append, h.unanswered]
    cases reply with
    | none => rfl
    | some meaning =>
      cases meaning with
      | ack => exact absurd rfl hreply
      | _ => rfl
  · rw [written_append, pings_append, hquiet, List.append_nil, h.echoed]
    exact List.append_nil _

theorem Awaits.pinged (h : Awaits login passed) (bytes : List UInt8) :
    Awaits login (passed ++ [.came (.frame (.ping bytes)) none, .wrote (.pong bytes)]) := by
  have hwritten : written (passed ++ [.came (.frame (.ping bytes)) none]) ++ [.pong bytes] =
      login :: (pings (passed ++ [.came (.frame (.ping bytes)) none])).map .pong := by
    rw [written_append, pings_append, h.echoed, List.map_append]
    simp [written, pings]
  have hsplit : passed ++ [.came (.frame (.ping bytes)) none, .wrote (.pong bytes)] =
      (passed ++ [.came (.frame (.ping bytes)) none]) ++ [.wrote (.pong bytes)] := by simp
  rw [hsplit]
  refine ⟨(h.gated.came _ none).wrote ?_ fun _ => ⟨_, hwritten, List.prefix_refl _⟩, ?_, ?_⟩
  · rw [hwritten]
    simp
  · rw [acknowledged_append, acknowledged_append, h.unanswered]
    rfl
  · rw [written_append, pings_append]
    exact hwritten.trans (by simp [pings])

/-- What comes meanwhile is answered if it is a ping. -/
theorem Awaits.heard (h : Awaits login passed) {router : Router κ ν} {deadline : Nat}
    (hreply : Manager.loginReply? router (.loggingIn deadline) (.arrival arrival) ≠ some .ack) :
    Awaits login (passed ++ (.came arrival (Manager.loginReply? router (.loggingIn deadline)
      (.arrival arrival)) :: (Manager.echoes arrival).map .wrote)) := by
  cases arrival with
  | frame frame =>
    cases frame with
    | ping bytes => exact h.pinged bytes
    | _ => exact h.came hreply rfl
  | _ => exact h.came hreply rfl

end Passage

namespace Connection

open Passage

/-- More passes over a connection. -/
def extend (connection : Connection) (more : List Passage) : Connection :=
  { connection with passed := connection.passed ++ more }

/-- Channels may be asked for on it. -/
def Admitted (connection : Connection) : Prop :=
  connection.login = .ok none ∨ ∃ login, connection.login = .ok (some login) ∧
    acknowledged connection.passed = true ∧ written connection.passed ≠ []

/-- If it has to log in, it does so before anything else. -/
def Guarded (connection : Connection) : Prop :=
  ∀ login, connection.login = .ok (some login) → Gated login connection.passed

/-- A connection is in the condition that the phase of its manager asks for. -/
structure Fits (connection : Connection) (phase : Phase) : Prop where
  guarded : connection.Guarded
  waiting : ∀ deadline, phase = .loggingIn deadline →
    ∃ login, connection.login = .ok (some login) ∧ Awaits login connection.passed
  serving : phase.inService = true → connection.Admitted

variable {connection : Connection}

theorem Admitted.extend (h : connection.Admitted) (more : List Passage) :
    (connection.extend more).Admitted := by
  refine h.imp_right ?_
  rintro ⟨login, hlogin, hack, hbegun⟩
  refine ⟨login, hlogin, ?_, ?_⟩
  · rw [Connection.extend, acknowledged_append, hack]
    rfl
  · rw [Connection.extend, written_append]
    simp [hbegun]

theorem Guarded.extend (h : connection.Guarded) (admitted : connection.Admitted)
    (more : List Passage) : (connection.extend more).Guarded := by
  intro login hlogin
  rcases admitted with hnone | ⟨other, -, hack, hbegun⟩
  · rw [Connection.extend, hnone] at hlogin
    cases hlogin
  · exact (h login hlogin).later hack hbegun more

theorem Fits.of_detached {phase : Phase} (h : connection.Guarded)
    (hphase : phase.isDetached = true) : connection.Fits phase := by
  refine ⟨h, ?_, fun hserving => ?_⟩
  · rintro deadline rfl
    cases hphase
  · rw [Phase.isDetached_of_inService hserving] at hphase
    cases hphase

theorem Fits.of_inService {phase : Phase} (h : connection.Guarded) (admitted : connection.Admitted)
    (hphase : phase.inService = true) : connection.Fits phase := by
  refine ⟨h, ?_, fun _ => admitted⟩
  rintro deadline rfl
  cases hphase

end Connection

namespace Course

open Passage Connection Registry

variable {κ ν : Type} {c : Course κ ν}

/-- What there is on the connections of a course. -/
structure Guarded (c : Course κ ν) : Prop where
  kept : c.Kept
  earlier : ∀ connection ∈ c.earlier, connection.Guarded
  latest : ∀ connection ∈ c.latest, connection.Fits c.manager.phase
  attached : c.latest = none → c.manager.phase.isDetached = true

variable [Codec κ ν] {settings : Settings} {endpoint : String} {moment : Moment} {cue : Cue}
  {turn : Turn κ ν}

theorem turned_opened : c.turned moment .opened turn =
    { c with
      manager := turn.manager
      hub := turn.hub
      earlier := c.connections
      latest := some ⟨(Codec.encodeLogin (Codec.reset c.hub.router.codec) moment.wall).map Prod.fst,
        turn.wrote.map .wrote⟩ } := by
  rw [turned, if_pos rfl]
  rfl

theorem turned_other (hcue : cue ≠ .opened) : c.turned moment cue turn =
    { c with
      manager := turn.manager
      hub := turn.hub
      latest := c.latest.map (·.extend (c.news cue ++ turn.wrote.map .wrote)) } := by
  rw [turned, if_neg hcue]
  rfl

/-- A new connection begins with its login, if it begins at all. -/
theorem fits_opened (hphase : c.manager.phase.isDetached = true)
    (upshot : Manager.Upshot moment c.hub c.manager.phase .opened turn) :
    (⟨(Codec.encodeLogin (Codec.reset c.hub.router.codec) moment.wall).map Prod.fst,
      turn.wrote.map .wrote⟩ : Connection).Fits turn.manager.phase := by
  have hserving : c.manager.phase.inService = true → False := by
    intro hserving
    rw [Phase.isDetached_of_inService hserving] at hphase
    cases hphase
  cases upshot with
  | away hbefore hafter quiet =>
    refine .of_detached (fun login _ => ?_) (Phase.isDetached_of_isAway hafter)
    rw [quiet.wrote]
    exact gated_nil login
  | ended hafter hregistry hstate hpermit hwrote =>
    refine .of_detached (fun login _ => ?_) (by rw [hafter]; rfl)
    rw [hwrote]
    exact gated_nil login
  | @asked login codec hcue hbefore hafter hlogin hregistry hstate hpermit hwrote =>
    rw [hlogin, hwrote]
    obtain ⟨deadline, hnext⟩ := hafter
    refine ⟨?_, fun _ _ => ⟨login, rfl, awaits_login login⟩, fun hserving => ?_⟩
    · rintro other ⟨⟩
      exact (awaits_login login).gated
    · rw [hnext] at hserving
      cases hserving
  | listened hcue => cases hcue
  | established hready hbefore hafter =>
    rcases hready with ⟨-, codec, hlogin⟩ | ⟨⟨deadline, hlogging⟩, -⟩
    · rw [hlogin]
      refine .of_inService ?_ (Or.inl rfl) (by rw [hafter]; rfl)
      rintro other ⟨⟩
    · rw [hlogging] at hphase
      cases hphase
  | worked hbefore => exact (hserving hbefore).elim
  | woken hbefore => exact (hserving (by rw [hbefore]; rfl)).elim
  | lost hbefore => exact (hserving hbefore).elim

theorem guarded_news {connection : Connection} (h : connection.Guarded) :
    (connection.extend (c.news cue)).Guarded := by
  intro login hlogin
  cases cue with
  | arrival arrival => exact (h login hlogin).came arrival _
  | _ =>
    change Gated login (connection.passed ++ [])
    rw [List.append_nil]
    exact h login hlogin

/-- The connection stays in the condition that the manager asks for, whatever it does. -/
theorem fits_turned {connection : Connection} (h : connection.Fits c.manager.phase)
    (hcue : cue ≠ .opened) (upshot : Manager.Upshot moment c.hub c.manager.phase cue turn) :
    (connection.extend (c.news cue ++ turn.wrote.map .wrote)).Fits turn.manager.phase := by
  cases upshot with
  | away hbefore hafter quiet =>
    rw [quiet.wrote, List.map_nil, List.append_nil]
    exact .of_detached (guarded_news h.guarded) (Phase.isDetached_of_isAway hafter)
  | ended hafter hregistry hstate hpermit hwrote =>
    rw [hwrote, List.map_nil, List.append_nil]
    exact .of_detached (guarded_news h.guarded) (by rw [hafter]; rfl)
  | asked hopened => exact absurd hopened hcue
  | @listened arrival harrival hbefore hafter hregistry hstate hpermit hwrote hreply =>
    obtain ⟨deadline, hlogging⟩ := hbefore
    obtain ⟨login, hlogin, hawaits⟩ := h.waiting deadline hlogging
    subst harrival
    rw [hlogging] at hreply hafter
    have hheard : Awaits login
        (connection.extend (c.news (.arrival arrival) ++ turn.wrote.map .wrote)).passed := by
      rw [hwrote, news, hlogging]
      exact hawaits.heard hreply
    refine ⟨?_, fun _ _ => ⟨login, hlogin, hheard⟩, fun hserving => ?_⟩
    · intro other hother
      cases hlogin.symm.trans hother
      exact hheard.gated
    · rw [hafter] at hserving
      cases hserving
  | established hready hbefore hafter hregistry hstate hpermit hwrote =>
    rcases hready with ⟨hopened, -⟩ | ⟨⟨deadline, hlogging⟩, hack⟩
    · exact absurd hopened hcue
    · obtain ⟨login, hlogin, hawaits⟩ := h.waiting deadline hlogging
      rw [hwrote, List.map_nil, List.append_nil]
      refine .of_inService (guarded_news h.guarded) (Or.inr ⟨login, hlogin, ?_, ?_⟩)
        (by rw [hafter]; rfl)
      · have hnews : acknowledged (c.news cue) = true := by
          cases cue with
          | arrival arrival => simp [news, hack, acknowledged, isAck]
          | _ => simp [Manager.loginReply?] at hack
        rw [Connection.extend, acknowledged_append, hnews, Bool.or_true]
      · rw [Connection.extend, written_append, hawaits.echoed]
        simp
  | worked hbefore hafter =>
    have admitted := h.serving hbefore
    exact .of_inService (h.guarded.extend admitted _) (admitted.extend _) hafter
  | woken hbefore hafter =>
    have admitted := h.serving (by rw [hbefore]; rfl)
    exact .of_inService (h.guarded.extend admitted _) (admitted.extend _) (by rw [hafter]; rfl)
  | lost hbefore hafter =>
    have admitted := h.serving hbefore
    exact .of_detached (h.guarded.extend admitted _) (Phase.isDetached_of_isAway hafter)

/-- A manager that has no connection open writes nothing, and opens none but on the cue for it. -/
theorem detached_turned (hphase : c.manager.phase.isDetached = true) (hcue : cue ≠ .opened)
    (upshot : Manager.Upshot moment c.hub c.manager.phase cue turn) :
    turn.manager.phase.isDetached = true ∧ turn.wrote = [] := by
  have hserving : c.manager.phase.inService = true → False := by
    intro hserving
    rw [Phase.isDetached_of_inService hserving] at hphase
    cases hphase
  cases upshot with
  | away hbefore hafter quiet => exact ⟨Phase.isDetached_of_isAway hafter, quiet.wrote⟩
  | ended hafter hregistry hstate hpermit hwrote => exact ⟨by rw [hafter]; rfl, hwrote⟩
  | asked hopened => exact absurd hopened hcue
  | listened harrival hbefore =>
    obtain ⟨deadline, hlogging⟩ := hbefore
    rw [hlogging] at hphase
    cases hphase
  | established hready =>
    rcases hready with ⟨hopened, -⟩ | ⟨⟨deadline, hlogging⟩, -⟩
    · exact absurd hopened hcue
    · rw [hlogging] at hphase
      cases hphase
  | worked hbefore => exact (hserving hbefore).elim
  | woken hbefore => exact (hserving (by rw [hbefore]; rfl)).elim
  | lost hbefore => exact (hserving hbefore).elim

theorem Guarded.turned (h : c.Guarded)
    (hstep : c.manager.step settings endpoint moment c.hub cue = some turn)
    (hkept : (c.turned moment cue turn).Kept) : (c.turned moment cue turn).Guarded := by
  have upshot := Manager.upshot hstep
  by_cases hcue : cue = .opened
  · subst hcue
    have hphase := Manager.detached_of_opened hstep
    rw [turned_opened] at hkept ⊢
    refine ⟨hkept, fun connection hmem => ?_, ?_, by simp⟩
    · rcases List.mem_append.mp hmem with hold | hlatest
      · exact h.earlier connection hold
      · exact (h.latest connection (Option.mem_toList.mp hlatest)).guarded
    · rintro connection ⟨⟩
      exact fits_opened hphase upshot
  · rw [turned_other hcue] at hkept ⊢
    refine ⟨hkept, h.earlier, fun connection hmem => ?_, fun hnone => ?_⟩
    · obtain ⟨before, hbefore, rfl⟩ := Option.map_eq_some_iff.mp hmem
      exact fits_turned (h.latest before hbefore) hcue upshot
    · exact (detached_turned (h.attached (Option.map_eq_none_iff.mp hnone)) hcue upshot).1

theorem Guarded.step (h : c.Guarded) (settings : Settings) (endpoint : String) (move : Move ν) :
    (c.step settings endpoint move).Guarded := by
  have hkept := h.kept.step settings endpoint move
  cases move with
  | step moment cue =>
    simp only [Course.step] at hkept ⊢
    split
    · exact h
    · rename_i turn hstep
      rw [hstep] at hkept
      exact h.turned hstep hkept
  | wake =>
    simp only [Course.step] at hkept ⊢
    split
    · rename_i hwaking
      rw [if_pos hwaking] at hkept
      exact ⟨hkept, h.earlier, h.latest, h.attached⟩
    · exact h
  | connect now =>
    simp only [Course.step] at hkept ⊢
    split
    · rename_i hfinished
      rw [if_pos hfinished] at hkept
      have hlatest : ∀ connection ∈ c.latest, connection.Fits .starting :=
        fun connection hmem => .of_detached (h.latest connection hmem).guarded rfl
      exact ⟨hkept, h.earlier, hlatest, fun _ => rfl⟩
    · exact h
  | _ => exact ⟨hkept, h.earlier, h.latest, h.attached⟩

/-- These connections are over: they come before the latest, or none is open. -/
def Past (past : List Connection) (c : Course κ ν) : Prop :=
  past <+: c.earlier ∨ c.manager.phase.isDetached = true ∧ past <+: c.connections

theorem Past.turned {past : List Connection} (h : Past past c)
    (hstep : c.manager.step settings endpoint moment c.hub cue = some turn) :
    Past past (c.turned moment cue turn) := by
  by_cases hcue : cue = .opened
  · subst hcue
    rw [turned_opened]
    refine Or.inl (h.elim (fun hearlier => ?_) And.right)
    exact hearlier.trans (List.prefix_append _ _)
  · rw [turned_other hcue]
    refine h.imp id ?_
    rintro ⟨hphase, hpast⟩
    obtain ⟨hnext, hwrote⟩ := detached_turned hphase hcue (Manager.upshot hstep)
    have hnews : c.news cue = [] := by
      cases cue with
      | arrival arrival =>
        rw [Manager.attached_of_arrival hstep] at hphase
        cases hphase
      | _ => rfl
    have hsame : c.latest.map (·.extend (c.news cue ++ turn.wrote.map .wrote)) = c.latest := by
      simp [hnews, hwrote, Connection.extend]
    refine ⟨hnext, ?_⟩
    rw [connections, hsame]
    exact hpast

theorem Past.step {past : List Connection} (h : Past past c) (settings : Settings)
    (endpoint : String) (move : Move ν) : Past past (c.step settings endpoint move) := by
  cases move with
  | step moment cue =>
    simp only [Course.step]
    split
    · exact h
    · rename_i turn hstep
      exact h.turned hstep
  | wake =>
    simp only [Course.step]
    split
    · exact h
    · exact h
  | connect now =>
    simp only [Course.step]
    split
    · exact h.imp_right fun hpast => ⟨rfl, hpast.2⟩
    · exact h
  | _ => exact h

/-- By induction on the moves that follow. -/
theorem Past.run {past : List Connection} (h : Past past c) (settings : Settings)
    (endpoint : String) (moves : List (Move ν)) :
    past <+: (c.run settings endpoint moves).connections := by
  have hlast : Past past (c.run settings endpoint moves) :=
    run_induction (fun _ move h => h.step settings endpoint move) h moves
  exact hlast.elim (fun hearlier => hearlier.trans (List.prefix_append _ _)) And.right

/-- Nothing that comes in on a connection that is not in service touches a channel. -/
theorem Guarded.untouched (h : c.Guarded) (hphase : c.manager.phase.inService = false)
    (settings : Settings) (endpoint : String) (moment : Moment) (arrival : Arrival) :
    let next := c.step settings endpoint (.step moment (.arrival arrival))
    next.registry.records = c.registry.records ∧ next.registry.inboxes = c.registry.inboxes := by
  simp only [Course.step]
  split
  · exact ⟨rfl, rfl⟩
  · rename_i turn hstep
    rw [registry_turned]
    have hserving : c.manager.phase.inService ≠ true := by simp [hphase]
    cases Manager.upshot hstep with
    | away hbefore hafter quiet =>
      rw [quiet.registry]
      exact ⟨rfl, rfl⟩
    | ended hafter hregistry =>
      have hsame := (h.kept.untried hphase).setOnline_of_offline h.kept.consistent
        (Hub.Kept.offline h.kept hphase)
      rw [hregistry, hsame]
      exact ⟨rfl, rfl⟩
    | asked hopened => cases hopened
    | listened harrival hbefore hafter hregistry =>
      rw [hregistry]
      exact ⟨rfl, rfl⟩
    | established hready hbefore hafter hregistry =>
      rw [hregistry]
      exact ⟨rfl, rfl⟩
    | worked hbefore => exact absurd hbefore hserving
    | woken hbefore => exact absurd (by rw [hbefore]; rfl) hserving
    | lost hbefore => exact absurd hbefore hserving

/-- What a login is for. -/
structure LoginGates (settings : Settings) (endpoint : String) (c : Course κ ν) : Prop where
  /-- A connection that has to log in does so first, and writes nothing but answers to pings until
  that is acknowledged. -/
  guarded : ∀ connection ∈ c.connections, connection.Guarded
  /-- Until then nobody sees a connection, and nothing that comes in touches a channel. -/
  untouched : ∀ connection ∈ c.latest, ∀ login, connection.login = .ok (some login) →
    acknowledged connection.passed = false →
    c.registry.online = false ∧ c.hub.state ≠ .connected ∧ ∀ moment arrival,
      let next := c.step settings endpoint (.step moment (.arrival arrival))
      next.registry.records = c.registry.records ∧ next.registry.inboxes = c.registry.inboxes
  /-- Once a login has failed, nothing passes over its connection any more. -/
  failed : ∀ connection ∈ c.latest, ∀ login, connection.login = .ok (some login) →
    acknowledged connection.passed = false →
    (∀ deadline, c.manager.phase ≠ .loggingIn deadline) →
    ∀ moves, c.connections <+: (c.run settings endpoint moves).connections
  /-- Nor does anything once there is another. -/
  replaced : ∀ moves, c.earlier <+: (c.run settings endpoint moves).connections
  /-- The registry is up only while a connection is in service. That needs no login, or its login
  is acknowledged. -/
  online : c.registry.online = true → c.manager.phase.inService = true ∧
    ∃ connection ∈ c.latest, connection.Admitted

theorem Guarded.loginGates (h : c.Guarded) (settings : Settings) (endpoint : String) :
    LoginGates settings endpoint c := by
  have hwaits : ∀ connection ∈ c.latest, ∀ login, connection.login = .ok (some login) →
      acknowledged connection.passed = false → c.manager.phase.inService = false := by
    intro connection hmem login hlogin hunanswered
    by_contra hserving
    rcases (h.latest connection hmem).serving (by simpa using hserving) with
      hnone | ⟨other, -, hack, -⟩
    · rw [hlogin] at hnone
      cases hnone
    · rw [hunanswered] at hack
      cases hack
  refine ⟨fun connection hmem => ?_, ?_, ?_, ?_, fun hup => ?_⟩
  · rcases List.mem_append.mp hmem with hold | hlatest
    · exact h.earlier connection hold
    · exact (h.latest connection (Option.mem_toList.mp hlatest)).guarded
  · intro connection hmem login hlogin hunanswered
    have hphase := hwaits connection hmem login hlogin hunanswered
    exact ⟨Hub.Kept.offline h.kept hphase, Hub.Kept.unconnected h.kept hphase,
      h.untouched hphase settings endpoint⟩
  · intro connection hmem login hlogin hunanswered hover moves
    have hphase := hwaits connection hmem login hlogin hunanswered
    exact Past.run (Or.inr ⟨Phase.isDetached_of_neither hphase hover, List.prefix_refl _⟩)
      settings endpoint moves
  · exact Past.run (Or.inl (List.prefix_refl _)) settings endpoint
  · have hserving := h.kept.online hup
    refine ⟨hserving, ?_⟩
    cases hlatest : c.latest with
    | none =>
      have hphase := h.attached hlatest
      rw [Phase.isDetached_of_inService hserving] at hphase
      cases hphase
    | some connection => exact ⟨connection, rfl, (h.latest connection hlatest).serving hserving⟩

/-- Whatever becomes of a client, the login comes before everything else. -/
theorem login_gates (settings : Settings) (endpoint : String) (codec : κ)
    (moves : List (Move ν)) :
    LoginGates settings endpoint
      ((start settings codec : Course κ ν).run settings endpoint moves) := by
  have hstart : (start settings codec : Course κ ν).Guarded :=
    ⟨kept_start settings codec, by simp [start], by simp [start], fun _ => rfl⟩
  have h : ((start settings codec : Course κ ν).run settings endpoint moves).Guarded :=
    run_induction (fun _ move h => h.step settings endpoint move) hstart moves
  exact h.loginGates settings endpoint

/-- The exchange pings a connection whose login it has not answered, and then hangs up. -/
def hungUpOn : List (Move PlainEvent) :=
  [.connect 0, .step atOnce .proceed, .step atOnce .opened, .acquire trades tradesRequest, .wake,
    .step atOnce (.arrival (.frame (.ping [7]))), .step atOnce (.arrival .ended)]

/-- The login and the answer to the ping are all that was ever written, and no frame follows. -/
theorem login_gates_hung_up :
    let codec : PlainCodec := ⟨true, none, 0⟩
    let c := (start Settings.standard codec).run Settings.standard "wss://example" hungUpOn
    (∃ login, c.connections = [⟨.ok (some login), [.wrote login,
        .came (.frame (.ping [7])) none, .wrote (.pong [7]), .came .ended none]⟩]) ∧
      LoginGates Settings.standard "wss://example" c :=
  ⟨⟨_, rfl⟩, login_gates Settings.standard "wss://example" _ hungUpOn⟩

end Course

end ChannelMux
