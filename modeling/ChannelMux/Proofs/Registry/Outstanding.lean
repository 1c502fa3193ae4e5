import ChannelMux.Proofs.Registry.Sharing

/-!
One outstanding subscribe for each channel. While the connection stays up, a second subscribe of a
channel is handed out before the first one is answered or taken back exactly if the record was let
go of while nobody held it: then it does not know any more that a subscribe is on its way. This
happens when the last subscriber leaves while the unsubscribe of an earlier round is unanswered.
-/
namespace ChannelMux.Registry

variable {ν : Type} {r : Registry ν} {key : ChannelKey}

/-- A call, with its answer, after which a subscribe of `key` written before is answered or taken
back: a confirmation, a payload, a refusal, or an unsubscribe to be written. -/
def settles (key : ChannelKey) : Operation ν × Answer → Bool
  | (.activate k, _) => k = key
  | (.dispatch k _, .dispatched (.delivered _)) => k = key
  | (.fail k _, _) => k = key
  | (.beginUnsubscribe k _, .claimed (some _)) => k = key
  | _ => false

/-- A call that starts a record over, or drops it, while nobody holds it: whatever was written for
it is forgotten. -/
def LetsGo (r : Registry ν) (key : ChannelKey) (operation : Operation ν) : Prop :=
  ∃ record, r.find? key = some record ∧ record.subscribers = [] ∧
    match operation with
    | .acquire k _ => k = key ∧ record.unsubscribeSent.isSome
    | .unsubscribeAcked k => k = key ∧ record.unsubscribeSent.isSome
    | .forget k => k = key
    | .expire now timeout => isOverdue now timeout record
    | _ => False

theorem settles_dispatch {record : Record} (hfind : r.find? key = some record)
    (held : record.subscribers ≠ []) (hstate : record.state ≠ .unsubscribing) (payload : ν) :
    settles key (.dispatch key payload, (r.perform (.dispatch key payload)).1) = true := by
  simp [settles, perform, dispatch, hfind, held, hstate]

theorem settles_beginUnsubscribe {record : Record} (hfind : r.find? key = some record)
    (howes : record.OwesUnsubscribe) (hup : r.online = true) (now : Nat) :
    settles key ((.beginUnsubscribe key now : Operation ν),
      (r.perform (.beginUnsubscribe key now)).1) = true := by
  have hsome := (beginUnsubscribe_isSome r key now).mpr ⟨hup, record, hfind, howes⟩
  obtain ⟨request, hrequest⟩ := Option.isSome_iff_exists.mp hsome
  simp [settles, perform, hrequest]

theorem up_perform (hup : r.online = true) {operation : Operation ν}
    (hdown : operation ≠ .setOnline false) : (r.perform operation).2.online = true := by
  rw [online_perform]
  cases operation with
  | setOnline up =>
    cases up with
    | true => rfl
    | false => exact absurd rfl hdown
  | _ => exact hup

theorem up_run {operations : List (Operation ν)} (hup : r.online = true)
    (hdown : .setOnline false ∉ operations) : (r.run operations).2.online = true := by
  induction operations generalizing r with
  | nil => exact hup
  | cons operation rest ih =>
    simp only [List.mem_cons, not_or] at hdown
    exact ih (up_perform hup (Ne.symm hdown.1)) hdown.2

/-- A subscribe that is outstanding stays so, unless it is settled or the record is let go of. -/
theorem sent_perform (h : Reachable r) (hup : r.online = true) {record : Record}
    (hfind : r.find? key = some record) (hsent : record.subscribeSent = true)
    {operation : Operation ν} (hdown : operation ≠ .setOnline false)
    (hsettles : settles key (operation, (r.perform operation).1) = false)
    (hkept : ¬r.LetsGo key operation) :
    ∃ next, (r.perform operation).2.find? key = some next ∧ next.subscribeSent = true := by
  have hsound := h.sound hfind
  have hrevision := revision h.distinct hfind operation
  generalize (r.perform operation).2.find? key = result at hrevision ⊢
  cases hrevision with
  | same => exact ⟨record, rfl, hsent⟩
  | acquire request =>
    refine ⟨_, rfl, ?_⟩
    simp only [Record.joined, Record.reopened]
    split
    · rename_i hstate
      rw [if_neg (fun hmark => hkept ⟨record, hfind, hsound.idle.mp hstate, rfl, hmark⟩)]
      exact hsent
    · exact hsent
  | release ticket hresult =>
    have hlive : (r.online && record.liveOnWire) = true := by simp [hup, Record.liveOnWire, hsent]
    rw [Record.released, if_pos hlive] at hresult
    repeat' split at hresult
    all_goals exact ⟨_, hresult.symm, hsent⟩
  | activate => simp [settles] at hsettles
  | fail error => simp [settles] at hsettles
  | unsubscribeAcked hresult =>
    rw [Record.unsubscribed] at hresult
    split at hresult
    · exact ⟨record, hresult.symm, hsent⟩
    · rename_i hmark
      rw [if_neg (fun hnone =>
        hkept ⟨record, hfind, hnone, rfl, Option.isSome_iff_ne_none.mpr hmark⟩)] at hresult
      exact ⟨_, hresult.symm, hsent⟩
  | forget hresult =>
    rw [Record.forgotten, if_neg (fun hnone => hkept ⟨record, hfind, hnone, rfl⟩)] at hresult
    exact ⟨record, hresult.symm, hsent⟩
  | beginSubscribe =>
    refine ⟨_, rfl, ?_⟩
    unfold Record.subscribing
    split
    · rfl
    · exact hsent
  | beginUnsubscribe now hresult =>
    have howes : ¬record.OwesUnsubscribe := by
      intro howes
      rw [settles_beginUnsubscribe hfind howes hup now] at hsettles
      cases hsettles
    rw [Record.unsubscribing, if_neg howes] at hresult
    exact ⟨record, hresult.symm, hsent⟩
  | loss => exact absurd rfl hdown
  | expire now timeout hresult =>
    rw [Record.swept] at hresult
    split at hresult
    · rename_i hover
      rw [if_neg (fun hnone => hkept ⟨record, hfind, hnone, hover⟩)] at hresult
      exact ⟨_, hresult.symm, hsent⟩
    · exact ⟨record, hresult.symm, hsent⟩
  | dispatch payload =>
    refine ⟨_, rfl, ?_⟩
    unfold Record.fed
    rw [if_neg]
    · exact hsent
    · intro hfed
      obtain ⟨held, hstate⟩ := hfed
      rw [settles_dispatch hfind held (by simp [hstate]) payload] at hsettles
      cases hsettles

/-- A record that was let go of is gone, or owes a subscribe anew. -/
theorem owes_of_letsGo (h : Reachable r) {operation : Operation ν} (hlets : r.LetsGo key operation)
    {next : Record} (hnext : (r.perform operation).2.find? key = some next) :
    next.OwesSubscribe := by
  obtain ⟨record, hfind, hnone, hcase⟩ := hlets
  have hstate : record.state = .unsubscribing := (h.sound hfind).idle.mpr hnone
  have hrevision := revision h.distinct hfind operation
  rw [hnext] at hrevision
  cases hrevision with
  | same hother =>
    cases operation with
    | acquire k request => exact absurd hcase.1 hother
    | unsubscribeAcked k => exact absurd hcase.1 hother
    | forget k => exact absurd hcase hother
    | expire now timeout => exact absurd trivial hother
    | _ => exact hcase.elim
  | acquire request =>
    obtain ⟨-, hmark⟩ := hcase
    simp [Record.joined, Record.reopened, hstate, hmark, Record.OwesSubscribe]
  | unsubscribeAcked hresult =>
    obtain ⟨-, hmark⟩ := hcase
    rw [Record.unsubscribed, if_neg (Option.isSome_iff_ne_none.mp hmark), if_pos hnone] at hresult
    cases hresult
  | forget hresult =>
    rw [Record.forgotten, if_pos hnone] at hresult
    cases hresult
  | expire now timeout hresult =>
    rw [Record.swept, if_pos hcase, if_pos hnone] at hresult
    cases hresult
  | _ => exact hcase.elim

/-- While nothing is outstanding, calls that neither settle a channel nor ask for it leave it owing,
if anybody wants it. -/
theorem owes_perform (h : Reachable r) (hup : r.online = true)
    (howes : ∀ record, r.find? key = some record → record.OwesSubscribe)
    {operation : Operation ν} (hdown : operation ≠ .setOnline false)
    (hsettles : settles key (operation, (r.perform operation).1) = false)
    (hasks : asksFor key (operation, (r.perform operation).1) = false)
    {next : Record} (hnext : (r.perform operation).2.find? key = some next) :
    next.OwesSubscribe := by
  cases hfind : r.find? key with
  | none =>
    obtain ⟨request, -, rfl⟩ := joined_of_find?_none h.distinct hfind hnext
    simp [Record.joined, Record.opened, Record.OwesSubscribe]
  | some record =>
    have hrecord := howes record hfind
    obtain ⟨hstate, hsent, held⟩ := id hrecord
    have hrevision := revision h.distinct hfind operation
    rw [hnext] at hrevision
    cases hrevision with
    | same => exact hrecord
    | acquire request =>
      simp [Record.joined, Record.reopened, hstate, hsent, Record.OwesSubscribe]
    | release ticket hresult =>
      rcases Record.released_cases hresult with rfl | ⟨left, hleft, -, rfl⟩ | ⟨-, -, hlive, -⟩
      · exact hrecord
      · exact ⟨hstate, hsent, hleft⟩
      · simp [Record.liveOnWire, hstate, hsent] at hlive
    | activate => simp [settles] at hsettles
    | unsubscribeAcked hresult =>
      rcases Record.unsubscribed_cases hresult with ⟨rfl, -⟩ | ⟨-, rfl⟩
      · exact hrecord
      · exact hrecord
    | forget hresult => exact Record.forgotten_cases hresult ▸ hrecord
    | beginSubscribe =>
      rw [(asksFor_iff _).mpr ⟨rfl, hup, record, hfind, hrecord⟩] at hasks
      cases hasks
    | beginUnsubscribe now hresult =>
      rcases Record.unsubscribing_cases hresult with ⟨rfl, -⟩ | ⟨hgive, -, -⟩
      · exact hrecord
      · rw [hgive.1] at hstate
        cases hstate
    | loss => exact absurd rfl hdown
    | expire now timeout hresult =>
      rcases Record.swept_cases hresult with rfl | ⟨-, rfl⟩
      · exact hrecord
      · exact hrecord
    | dispatch payload =>
      rw [settles_dispatch hfind held (by simp [hstate]) payload] at hsettles
      cases hsettles

theorem owes_run {operations : List (Operation ν)} (h : Reachable r) (hup : r.online = true)
    (howes : ∀ record, r.find? key = some record → record.OwesSubscribe)
    (hdown : .setOnline false ∉ operations)
    (hsettles : ∀ event ∈ r.events operations, settles key event = false)
    (hasks : ∀ event ∈ r.events operations, asksFor key event = false) :
    ∀ next, (r.run operations).2.find? key = some next → next.OwesSubscribe := by
  induction operations generalizing r with
  | nil => exact howes
  | cons operation rest ih =>
    simp only [List.mem_cons, not_or] at hdown
    rw [events_cons, List.forall_mem_cons] at hsettles hasks
    exact ih (h.perform operation) (up_perform hup (Ne.symm hdown.1))
      (fun _ hnext => owes_perform h hup howes (Ne.symm hdown.1) hsettles.1 hasks.1 hnext)
      hdown.2 hsettles.2 hasks.2

/-- After calls that neither settle a channel nor ask for it, an outstanding subscribe is still
outstanding, or the record was let go of on the way and owes one again. -/
theorem outstanding_run {operations : List (Operation ν)} (h : Reachable r) (hup : r.online = true)
    {record : Record} (hfind : r.find? key = some record) (hsent : record.subscribeSent = true)
    (hdown : .setOnline false ∉ operations)
    (hsettles : ∀ event ∈ r.events operations, settles key event = false)
    (hasks : ∀ event ∈ r.events operations, asksFor key event = false) :
    ((∀ before operation, before ++ [operation] <+: operations →
        ¬(r.run before).2.LetsGo key operation) ∧
      ∃ next, (r.run operations).2.find? key = some next ∧ next.subscribeSent = true) ∨
    ((∃ before operation, before ++ [operation] <+: operations ∧
        (r.run before).2.LetsGo key operation) ∧
      ∀ next, (r.run operations).2.find? key = some next → next.OwesSubscribe) := by
  induction operations generalizing r record with
  | nil =>
    refine Or.inl ⟨?_, record, hfind, hsent⟩
    intro before operation hbefore
    simp at hbefore
  | cons operation rest ih =>
    simp only [List.mem_cons, not_or] at hdown
    rw [events_cons, List.forall_mem_cons] at hsettles hasks
    have hup' := up_perform hup (Ne.symm hdown.1)
    by_cases hlets : r.LetsGo key operation
    · have hlast := owes_run (h.perform operation) hup'
        (fun _ hnext => owes_of_letsGo h hlets hnext) hdown.2 hsettles.2 hasks.2
      exact Or.inr ⟨⟨[], operation, ⟨rest, rfl⟩, hlets⟩, hlast⟩
    · obtain ⟨next, hnext, hnextSent⟩ :=
        sent_perform h hup hfind hsent (Ne.symm hdown.1) hsettles.1 hlets
      rcases ih (h.perform operation) hup' hnext hnextSent hdown.2 hsettles.2 hasks.2 with
        ⟨hnone, hlast⟩ | ⟨⟨before, later, hbefore, hlater⟩, hlast⟩
      · refine Or.inl ⟨?_, hlast⟩
        intro before later hbefore
        cases before with
        | nil =>
          have hsame : later = operation := (List.cons_prefix_cons.mp hbefore).1
          exact hsame ▸ hlets
        | cons first tail =>
          obtain ⟨hfirst, htail⟩ := List.cons_prefix_cons.mp hbefore
          subst hfirst
          exact hnone tail later htail
      · refine Or.inr ⟨⟨operation :: before, later, ?_, hlater⟩, hlast⟩
        exact List.cons_prefix_cons.mpr ⟨rfl, hbefore⟩

/-- A subscribe was handed out, and the connection stayed up over calls that neither settled the
channel nor handed out a subscribe for it. Then the next one is handed out exactly if the channel
has a subscriber and its record was let go of on the way. -/
theorem asks_again_iff (h : Reachable r) (first : (r.beginSubscribe key).1.isSome)
    (between : List (Operation ν)) (up : .setOnline false ∉ between)
    (unsettled : ∀ event ∈ (r.beginSubscribe key).2.events between, settles key event = false)
    (unasked : ∀ event ∈ (r.beginSubscribe key).2.events between, asksFor key event = false) :
    ((((r.beginSubscribe key).2.run between).2.beginSubscribe key).1.isSome ↔
      0 < ((r.beginSubscribe key).2.run between).2.subscriberCount key ∧
        ∃ before operation, before ++ [operation] <+: between ∧
          ((r.beginSubscribe key).2.run before).2.LetsGo key operation) := by
  obtain ⟨hup, record, hfind, howes⟩ := (beginSubscribe_isSome r key).mp first
  have hnext : (r.beginSubscribe key).2.find? key =
      some { record with subscribeSent := true } := by
    rw [find?_beginSubscribe, if_pos rfl, hfind]
    simp [Record.subscribing, hup, howes]
  have hup' : (r.perform (.beginSubscribe key)).2.online = true := up_perform hup (by simp)
  have hreachable : (r.beginSubscribe key).2.Reachable := h.perform (.beginSubscribe key)
  have hend := up_run hup' up
  rw [beginSubscribe_isSome, subscriberCount_pos]
  rcases outstanding_run hreachable hup' hnext rfl up unsettled unasked with
    ⟨hnone, last, hlast, hsent⟩ | ⟨hlets, hlast⟩
  · constructor
    · intro hagain
      obtain ⟨-, other, hother, hotherOwes⟩ := hagain
      rw [hlast] at hother
      cases hother
      rw [hotherOwes.2.1] at hsent
      cases hsent
    · intro hlaw
      obtain ⟨-, before, operation, hbefore, hlets⟩ := hlaw
      exact absurd hlets (hnone before operation hbefore)
  · constructor
    · intro hagain
      obtain ⟨-, other, hother, hotherOwes⟩ := hagain
      exact ⟨⟨other, hother, hotherOwes.2.2⟩, hlets⟩
    · intro hlaw
      obtain ⟨⟨other, hother, held⟩, -⟩ := hlaw
      exact ⟨hend, other, hother, hlast other hother⟩

/-- Everybody leaves and somebody comes back, while the first unsubscribe is still unanswered. -/
def leftAndRejoined : List (Operation Nat) :=
  [.release trades ⟨1, 1⟩, .acquire trades tradesRequest]

theorem asks_again_after_rejoining :
    0 < ((((empty : Registry Nat).run rejoined).2.beginSubscribe trades).2.run
        leftAndRejoined).2.subscriberCount trades ∧
      ∃ before operation, before ++ [operation] <+: leftAndRejoined ∧
        ((((empty : Registry Nat).run rejoined).2.beginSubscribe trades).2.run
          before).2.LetsGo trades operation :=
  (asks_again_iff (Reachable.empty.run rejoined) (by decide) leftAndRejoined
    (by simp [leftAndRejoined]) (by decide) (by decide)).mp (by decide)

/-- So a subscribe can be handed out twice with nothing in between that answers or takes back the
first one. -/
theorem asks_twice_unsettled :
    ¬∀ (r : Registry Nat) (key : ChannelKey) (between : List (Operation Nat)), Reachable r →
      (r.beginSubscribe key).1.isSome → .setOnline false ∉ between →
      (((r.beginSubscribe key).2.run between).2.beginSubscribe key).1.isSome →
      ∃ event ∈ (r.beginSubscribe key).2.events between, settles key event = true := by
  intro law
  have hsettled := law ((empty : Registry Nat).run rejoined).2 trades leftAndRejoined
    (Reachable.empty.run rejoined) (by decide) (by simp [leftAndRejoined]) (by decide)
  revert hsettled
  decide

end ChannelMux.Registry
