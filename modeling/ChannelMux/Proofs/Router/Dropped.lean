import ChannelMux.Codec.Plain
import ChannelMux.Proofs.Bybit.Replies
import ChannelMux.Proofs.Registry.Inboxes
import ChannelMux.Proofs.Registry.Sharing
import ChannelMux.Router

/-!
Frames that are dropped. A frame that cannot be read, names no channel or comes for a channel that
nobody holds leaves its mark in the counters alone, and the counters account for every frame.
-/
namespace ChannelMux

/-- No payload changes what a codec remembers. -/
def Codec.Quiet (κ : Type) {ν : Type} [Codec κ ν] : Prop :=
  ∀ (codec : κ) (frame : Frame) (payload : ν) (next : κ),
    Codec.decode codec frame = .ok (.data payload, next) → next = codec

theorem OkxCodec.quiet : Codec.Quiet OkxCodec := by
  intro codec frame payload next h
  change decodeFrame codec frame = _ at h
  unfold decodeFrame at h
  split at h
  · cases h
  · cases h
  · split at h
    · cases h
    · rename_i message _
      split at h
      · cases h
      · cases hpush : decodePush message with
        | error cause =>
          rw [hpush] at h
          cases h
        | ok event =>
          rw [hpush] at h
          cases h
          rfl

theorem BybitCodec.quiet : Codec.Quiet BybitCodec :=
  fun _ _ _ _ h => (topic_of_decode h).1

theorem PlainCodec.quiet : Codec.Quiet PlainCodec := by
  intro codec frame payload next h
  change (decodeFrame frame).map (·, codec) = _ at h
  cases hread : decodeFrame frame with
  | error cause =>
    rw [hread] at h
    cases h
  | ok envelope =>
    rw [hread] at h
    cases h
    rfl

instance : Add Counters where
  add a b := ⟨a.frames + b.frames, a.delivered + b.delivered, a.decodeErrors + b.decodeErrors,
    a.stale + b.stale, a.unroutable + b.unroutable, a.control + b.control⟩

theorem Counters.add_right_comm (a b c : Counters) : a + b + c = a + c + b := by
  change Counters.mk _ _ _ _ _ _ = Counters.mk _ _ _ _ _ _
  simp only [Counters.mk.injEq]
  exact ⟨Nat.add_right_comm _ _ _, Nat.add_right_comm _ _ _, Nat.add_right_comm _ _ _,
    Nat.add_right_comm _ _ _, Nat.add_right_comm _ _ _, Nat.add_right_comm _ _ _⟩

/-- What was counted besides the frames themselves. -/
def Counters.outcomes (c : Counters) : Nat :=
  c.delivered + c.decodeErrors + c.stale + c.unroutable + c.control

theorem Counters.frames_add (a b : Counters) : (a + b).frames = a.frames + b.frames := rfl

theorem Counters.delivered_add (a b : Counters) :
    (a + b).delivered = a.delivered + b.delivered := rfl

theorem Counters.outcomes_add (a b : Counters) : (a + b).outcomes = a.outcomes + b.outcomes := by
  change (_ + _) + (_ + _) + (_ + _) + (_ + _) + (_ + _) = (_ + _ + _ + _ + _) + (_ + _ + _ + _ + _)
  omega

/-- What a routed frame counts for: as a frame, and in one more way. -/
def Routed.counted : Routed → Counters
  | .delivered _ => ⟨1, 1, 0, 0, 0, 0⟩
  | .malformed => ⟨1, 0, 1, 0, 0, 0⟩
  | .stale => ⟨1, 0, 0, 1, 0, 0⟩
  | .unroutable => ⟨1, 0, 0, 0, 1, 0⟩
  | .control => ⟨1, 0, 0, 0, 0, 1⟩

def Routed.isDropped : Routed → Bool
  | .malformed | .stale | .unroutable => true
  | .delivered _ | .control => false

namespace Registry

variable {ν : Type} {r registry : Registry ν} {key : ChannelKey}

theorem dispatch_of_noSubscribers {payload : ν}
    (h : r.dispatch key payload = (.noSubscribers, registry)) : registry = r := by
  unfold dispatch at h
  split at h
  · cases h
    rfl
  · split at h
    · cases h
      rfl
    · cases h

/-- A channel that somebody holds takes every payload. -/
theorem Consistent.dispatch_of_held (h : r.Consistent) (payload : ν)
    (hheld : 0 < r.subscriberCount key) :
    ∃ count registry, r.dispatch key payload = (.delivered count, registry) := by
  obtain ⟨record, hfind, hsubscribers⟩ := subscriberCount_pos.mp hheld
  have hstate := mt (h.sound key record hfind).idle.mp hsubscribers
  simp only [dispatch, hfind, hsubscribers, hstate, or_self, if_false]
  exact ⟨_, _, rfl⟩

theorem dispatch_of_unheld (payload : ν) (hnobody : ¬0 < r.subscriberCount key) :
    r.dispatch key payload = (.noSubscribers, r) := by
  unfold dispatch
  cases hfind : r.find? key with
  | none => rfl
  | some record =>
    have hsubscribers : record.subscribers = [] :=
      Classical.not_not.mp fun hheld => hnobody (subscriberCount_pos.mpr ⟨record, hfind, hheld⟩)
    simp only [hsubscribers, true_or, if_true]

end Registry

namespace Router

variable {κ ν : Type} [Codec κ ν] {r : Router κ ν} {frame : Frame}

def count (r : Router κ ν) (counters : Counters) : Router κ ν :=
  { r with counters := r.counters + counters }

/-- What a routed frame comes to. -/
inductive Handled (r : Router κ ν) (frame : Frame) : Routed × Router κ ν → Prop
  | malformed {cause : Error} : Codec.decode r.codec frame = .error cause →
      Handled r frame (.malformed, r.count Routed.malformed.counted)
  | unroutable {payload : ν} {codec : κ} : Codec.decode r.codec frame = .ok (.data payload, codec) →
      Codec.channelOf codec payload = none →
        Handled r frame (.unroutable, { r with codec }.count Routed.unroutable.counted)
  | dispatched {payload : ν} {codec : κ} {key : ChannelKey} {registry : Registry ν}
      {outcome : Routed} : Codec.decode r.codec frame = .ok (.data payload, codec) →
      Codec.channelOf codec payload = some key →
      ((∃ n, r.registry.dispatch key payload = (.delivered n, registry) ∧ outcome = .delivered n) ∨
        r.registry.dispatch key payload = (.noSubscribers, registry) ∧ outcome = .stale) →
        Handled r frame (outcome, { r with codec, registry }.count outcome.counted)
  | control {event : ControlEvent} {codec : κ} :
      Codec.decode r.codec frame = .ok (.control event, codec) → Handled r frame
        (.control, { r with codec, registry := applyControl r.registry event }.count
          Routed.control.counted)

theorem handled (r : Router κ ν) (frame : Frame) : Handled r frame (r.route frame) := by
  unfold route
  simp only [countFrame]
  cases hdecode : Codec.decode r.codec frame with
  | error cause => exact .malformed hdecode
  | ok read =>
    obtain ⟨envelope, codec⟩ := read
    cases envelope with
    | control event => exact .control hdecode
    | data payload =>
      simp only [deliver]
      cases hkey : Codec.channelOf codec payload with
      | none => exact .unroutable hdecode hkey
      | some key =>
        simp only
        cases hdispatch : r.registry.dispatch key payload with
        | mk result registry =>
          cases result with
          | delivered n => exact .dispatched hdecode hkey (Or.inl ⟨n, hdispatch, rfl⟩)
          | noSubscribers => exact .dispatched hdecode hkey (Or.inr ⟨hdispatch, rfl⟩)

/-- A routed frame counts as its outcome says. -/
theorem counters_route (r : Router κ ν) (frame : Frame) :
    (r.route frame).2.counters = r.counters + (r.route frame).1.counted := by
  have hhandled := handled r frame
  generalize r.route frame = result at hhandled
  cases hhandled <;> rfl

/-- A dropped frame leaves the codec and every channel as they were. -/
theorem route_of_isDropped (quiet : Codec.Quiet κ) (h : (r.route frame).1.isDropped = true) :
    (r.route frame).2 = r.count (r.route frame).1.counted := by
  have hhandled := handled r frame
  generalize r.route frame = result at hhandled h
  cases hhandled with
  | malformed => rfl
  | unroutable hdecode =>
    obtain rfl := quiet _ _ _ _ hdecode
    rfl
  | dispatched hdecode hkey hresult =>
    obtain rfl := quiet _ _ _ _ hdecode
    rcases hresult with ⟨n, -, rfl⟩ | ⟨hdispatch, rfl⟩
    · cases h
    · rw [Registry.dispatch_of_noSubscribers hdispatch]
  | control => cases h

/-- What a frame that waits for the login counts for. -/
def loginCounted (codec : κ) (frame : Frame) : Counters :=
  if (Codec.decode codec frame).isOk then ⟨1, 0, 0, 0, 0, 0⟩ else ⟨1, 0, 1, 0, 0, 0⟩

/-- Waiting for the login touches no channel, and its answer does not depend on what was counted. -/
theorem routeLogin_eq (r : Router κ ν) (frame : Frame) :
    ∃ reply codec, ∀ counters, routeLogin { r with counters } frame =
      (reply, { r with codec, counters := counters + loginCounted r.codec frame }) := by
  cases hdecode : Codec.decode r.codec frame with
  | error cause =>
    refine ⟨.ignored, r.codec, fun counters => ?_⟩
    simp only [routeLogin, countFrame, hdecode, loginCounted]
    rfl
  | ok read =>
    refine ⟨(r.routeLogin frame).1, read.2, fun counters => ?_⟩
    simp only [routeLogin, countFrame, hdecode, loginCounted]
    rfl

theorem counters_routeLogin (r : Router κ ν) (frame : Frame) :
    (r.routeLogin frame).2.counters = r.counters + loginCounted r.codec frame := by
  obtain ⟨reply, codec, h⟩ := routeLogin_eq r frame
  rw [h r.counters]

/-- How a frame is routed does not depend on what was counted before. -/
theorem Handled.count {result : Routed × Router κ ν} (h : Handled r frame result)
    (counters : Counters) :
    (r.count counters).route frame = (result.1, result.2.count counters) := by
  unfold route
  simp only [countFrame, Router.count]
  cases h with
  | malformed hdecode =>
    simp only [hdecode, countDecodeError, Router.count, Counters.add_right_comm]
    rfl
  | unroutable hdecode hkey =>
    simp only [hdecode, deliver, hkey, Router.count, Counters.add_right_comm]
    rfl
  | dispatched hdecode hkey hresult =>
    rcases hresult with ⟨n, hdispatch, rfl⟩ | ⟨hdispatch, rfl⟩
    · simp only [hdecode, deliver, hkey, hdispatch, Router.count, Counters.add_right_comm]
      rfl
    · simp only [hdecode, deliver, hkey, hdispatch, Router.count, Counters.add_right_comm]
      rfl
  | control hdecode =>
    simp only [hdecode, Router.count, Counters.add_right_comm]
    rfl

theorem routeLogin_count (r : Router κ ν) (counters : Counters) (frame : Frame) :
    (r.count counters).routeLogin frame =
      ((r.routeLogin frame).1, (r.routeLogin frame).2.count counters) := by
  obtain ⟨reply, codec, h⟩ := routeLogin_eq r frame
  rw [Router.count, h, h r.counters, Counters.add_right_comm]
  rfl

/-- What happens to a router: frames arrive, before or after the login is answered, while others use
the registry, the inboxes and the codec. -/
inductive Call (κ ν : Type) where
  | route (frame : Frame)
  | login (frame : Frame)
  | perform (operation : Registry.Operation ν)
  | read (subscriber : Nat) (edit : Inbox ν → Inbox ν)
  | write (edit : κ → κ)

inductive Reply where
  | routed (outcome : Routed)
  | login (reply : LoginReply)
  | answered (answer : Registry.Answer)
  | silent

def serve (r : Router κ ν) : Call κ ν → Reply × Router κ ν
  | .route frame => (r.route frame).map .routed id
  | .login frame => (r.routeLogin frame).map .login id
  | .perform operation =>
    (.answered (r.registry.perform operation).1,
      { r with registry := (r.registry.perform operation).2 })
  | .read subscriber edit => (.silent, { r with registry := r.registry.editInbox subscriber edit })
  | .write edit => (.silent, { r with codec := edit r.codec })

def run (r : Router κ ν) : List (Call κ ν) → List Reply × Router κ ν
  | [] => ([], r)
  | call :: rest =>
    ((r.serve call).1 :: (run (r.serve call).2 rest).1, (run (r.serve call).2 rest).2)

/-- The calls of a run, each with the router that it finds. -/
def trace (r : Router κ ν) : List (Call κ ν) → List (Router κ ν × Call κ ν)
  | [] => []
  | call :: rest => (r, call) :: trace (r.serve call).2 rest

theorem serve_count (r : Router κ ν) (counters : Counters) (call : Call κ ν) :
    (r.count counters).serve call = ((r.serve call).1, (r.serve call).2.count counters) := by
  cases call with
  | route frame =>
    rw [serve, (handled r frame).count]
    rfl
  | login frame =>
    rw [serve, routeLogin_count]
    rfl
  | perform operation | read subscriber edit | write edit => rfl

theorem run_count (r : Router κ ν) (counters : Counters) (calls : List (Call κ ν)) :
    (r.count counters).run calls = ((r.run calls).1, (r.run calls).2.count counters) := by
  induction calls generalizing r with
  | nil => rfl
  | cons call rest ih => rw [run, serve_count, ih, run]

/-- A frame that came before the login was answered, and could be read. -/
def readsLogin : Router κ ν × Call κ ν → Bool
  | (r, .login frame) => (Codec.decode r.codec frame).isOk
  | _ => false

/-- A payload for a channel that somebody holds. -/
def feeds : Router κ ν × Call κ ν → Bool
  | (r, .route frame) =>
    match Codec.decode r.codec frame with
    | .ok (.data payload, codec) =>
      (Codec.channelOf codec payload).any (fun key => 0 < r.registry.subscriberCount key)
    | _ => false
  | _ => false

/-- What a call adds to the counters. -/
def counted : Router κ ν × Call κ ν → Counters
  | (r, .route frame) => (r.route frame).1.counted
  | (r, .login frame) => loginCounted r.codec frame
  | _ => ⟨0, 0, 0, 0, 0, 0⟩

theorem counters_serve (r : Router κ ν) (call : Call κ ν) :
    (r.serve call).2.counters = r.counters + counted (r, call) := by
  cases call with
  | route frame => exact counters_route r frame
  | login frame => exact counters_routeLogin r frame
  | perform operation | read subscriber edit | write edit => rfl

/-- Each frame that is routed is counted in one more way, each that waits for the login only if it
cannot be read. -/
theorem frames_counted (r : Router κ ν) (call : Call κ ν) :
    (counted (r, call)).frames =
      (counted (r, call)).outcomes + if readsLogin (r, call) then 1 else 0 := by
  cases call with
  | route frame =>
    change (Routed.counted _).frames = (Routed.counted _).outcomes
    cases (r.route frame).1 <;> rfl
  | login frame =>
    change (loginCounted _ _).frames = (loginCounted _ _).outcomes + _
    cases hdecode : Codec.decode r.codec frame with
    | error cause | ok read =>
      simp only [loginCounted, readsLogin, hdecode]
      rfl
  | perform operation | read subscriber edit | write edit => rfl

theorem delivered_counted (h : r.registry.Consistent) (call : Call κ ν) :
    (counted (r, call)).delivered = if feeds (r, call) then 1 else 0 := by
  cases call with
  | route frame =>
    change (Routed.counted _).delivered = _
    have hhandled := handled r frame
    generalize r.route frame = result at hhandled ⊢
    cases hhandled with
    | malformed hdecode => simp [feeds, hdecode, Routed.counted]
    | unroutable hdecode hkey => simp [feeds, hdecode, hkey, Routed.counted]
    | control hdecode => simp [feeds, hdecode, Routed.counted]
    | @dispatched payload codec key registry outcome hdecode hkey hresult =>
      by_cases hheld : 0 < r.registry.subscriberCount key
      · obtain ⟨count, after, hdispatch⟩ := h.dispatch_of_held payload hheld
        obtain ⟨-, rfl⟩ : after = registry ∧ outcome = .delivered count := by
          simpa [hdispatch] using hresult
        simp only [feeds, hdecode, hkey, Option.any_some, hheld, decide_true]
        rfl
      · obtain ⟨-, rfl⟩ : r.registry = registry ∧ outcome = .stale := by
          simpa [Registry.dispatch_of_unheld payload hheld] using hresult
        simp only [feeds, hdecode, hkey, Option.any_some, hheld, decide_false]
        rfl
  | login frame =>
    change (loginCounted _ _).delivered = _
    unfold loginCounted
    split <;> rfl
  | perform operation | read subscriber edit | write edit => rfl

theorem consistent_applyControl {registry : Registry ν} (h : registry.Consistent)
    (event : ControlEvent) : (applyControl registry event).Consistent := by
  cases event with
  | subscribeAck key => exact h.perform (.activate key)
  | subscribeError key reason => exact h.perform (.fail key (.subscribe key reason))
  | unsubscribeAck key => exact h.perform (.unsubscribeAcked key)
  | loginAck | loginError reason | error reason | heartbeat => exact h

theorem consistent_serve (h : r.registry.Consistent) (call : Call κ ν) :
    (r.serve call).2.registry.Consistent := by
  cases call with
  | route frame =>
    change (r.route frame).2.registry.Consistent
    have hhandled := handled r frame
    generalize r.route frame = result at hhandled ⊢
    cases hhandled with
    | malformed | unroutable => exact h
    | control => exact consistent_applyControl h _
    | @dispatched payload codec key registry outcome hdecode hkey hresult =>
      have hregistry : registry = (r.registry.dispatch key payload).2 := by
        rcases hresult with ⟨count, hdispatch, -⟩ | ⟨hdispatch, -⟩ <;> rw [hdispatch]
      rw [hregistry]
      exact h.perform (.dispatch key payload)
  | login frame =>
    obtain ⟨reply, codec, hlogin⟩ := routeLogin_eq r frame
    change (r.routeLogin frame).2.registry.Consistent
    rw [hlogin r.counters]
    exact h
  | perform operation => exact h.perform operation
  | read subscriber edit => exact h.editInbox subscriber edit
  | write edit => exact h

/-- The frames of a run are those that were counted in one more way, and those that were read while
the login was awaited. -/
theorem frames_run (r : Router κ ν) (calls : List (Call κ ν)) :
    (r.run calls).2.counters.frames + r.counters.outcomes =
      r.counters.frames + (r.run calls).2.counters.outcomes +
        (r.trace calls).countP readsLogin := by
  induction calls generalizing r with
  | nil => rfl
  | cons call rest ih =>
    have hstep := frames_counted r call
    have hrest := ih (r.serve call).2
    rw [counters_serve, Counters.outcomes_add, Counters.frames_add] at hrest
    simp only [run, trace, List.countP_cons]
    omega

theorem delivered_run (h : r.registry.Consistent) (calls : List (Call κ ν)) :
    (r.run calls).2.counters.delivered =
      r.counters.delivered + (r.trace calls).countP feeds := by
  induction calls generalizing r with
  | nil => rfl
  | cons call rest ih =>
    have hstep := delivered_counted h call
    have hrest := ih (consistent_serve h call)
    rw [counters_serve, Counters.delivered_add] at hrest
    simp only [run, trace, List.countP_cons]
    omega

/-- What a router for one codec does with frames that are of no use. -/
structure Tolerates (κ : Type) {ν : Type} [Codec κ ν] : Prop where
  /-- A frame that is dropped moves the counters and nothing else: no channel, no inbox, and nothing
  that the codec remembers. -/
  dropped : ∀ (r : Router κ ν) (frame : Frame), (r.route frame).1.isDropped = true →
    (r.route frame).2 = r.count (r.route frame).1.counted
  /-- Whatever is done later comes out as if it had never arrived. -/
  unnoticed : ∀ (r : Router κ ν) (frame : Frame), (r.route frame).1.isDropped = true →
    ∀ calls : List (Call κ ν), (r.route frame).2.run calls =
      ((r.run calls).1, (r.run calls).2.count (r.route frame).1.counted)
  /-- Every routed frame is counted as one, and in the way of its outcome. -/
  counted : ∀ (r : Router κ ν) (frame : Frame),
    (r.route frame).2.counters = r.counters + (r.route frame).1.counted
  /-- The counters account for every frame. -/
  balanced : ∀ (codec : κ) (calls : List (Call κ ν)),
    ((start codec).run calls).2.counters.frames =
      ((start codec).run calls).2.counters.outcomes +
        ((start codec).trace calls).countP readsLogin
  /-- A payload is counted as delivered if its channel was held when it was routed. -/
  delivered : ∀ (codec : κ) (calls : List (Call κ ν)),
    ((start codec).run calls).2.counters.delivered =
      ((start codec).trace calls).countP feeds

theorem tolerates (quiet : Codec.Quiet κ) : Tolerates κ where
  dropped _ _ h := route_of_isDropped quiet h
  unnoticed _ _ h calls := by rw [route_of_isDropped quiet h, run_count]
  counted := counters_route
  balanced codec calls := by simpa [start, Counters.outcomes] using frames_run (start codec) calls
  delivered codec calls := by
    simpa [start] using delivered_run (r := start codec) Registry.consistent_empty calls

/-- Frames that cannot be read, name no channel or come for a channel that nobody holds change
nothing, whichever protocol the connection speaks, and every frame is accounted for. -/
theorem bad_frames_change_nothing :
    Tolerates OkxCodec ∧ Tolerates BybitCodec ∧ Tolerates PlainCodec :=
  ⟨tolerates OkxCodec.quiet, tolerates BybitCodec.quiet, tolerates PlainCodec.quiet⟩

end Router

end ChannelMux
