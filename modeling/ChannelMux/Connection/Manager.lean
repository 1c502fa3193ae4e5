import ChannelMux.Connection.Turn
import ChannelMux.Text.Span

/-!
The manager of a connection. A run of it opens a connection, logs in where the codec asks for it,
requests every wanted channel, and then serves the connection until that is lost; after a delay it
begins again, until it is told to stop or its retry budget is spent.

    starting -> opening -> (loggingIn ->) requesting -> serving <-> requesting
        ^          |            |         |   |  ^        |
        |          |            |         |   v  |        |
        |          v            v         |  holding      |
        +------------------- waiting <----+---------------+

A manager moves in steps. A step is taken on a cue, writes at most one frame, and sees nothing of
the world but the time and what becomes of that frame. Which cue comes next, of those that are
possible, is not the manager's choice.
-/
namespace ChannelMux

namespace Manager

variable {κ ν : Type} [Codec κ ν] (settings : Settings) (endpoint : String) (moment : Moment)

def attempt (t : Turn κ ν) : Turn κ ν :=
  let state := if t.manager.firstAttempt then .connecting else .reconnecting
  ((t.publish state).act .dial).enter (.opening (moment.now + settings.connectTimeout))

/-- No connection came of an attempt. -/
def attemptFailed (t : Turn κ ν) (cause : Error) : Turn κ ν :=
  let failures := t.manager.failures + 1
  let t := { t with manager := { t.manager with failures } }.announce
    (.reconnectFailed failures cause)
  if settings.reconnect.exhausted failures then
    (t.announce (.gaveUp failures)).finish (.retriesExhausted failures)
  else t.retreat moment

def loginFailed (t : Turn κ ν) (cause : Error) : Turn κ ν :=
  attemptFailed settings moment (t.act .close) cause

/-- The connection can be used: every wanted channel is to be requested on it. -/
def established (t : Turn κ ν) : Turn κ ν :=
  let manager := { t.manager with
    backoff := t.manager.backoff.reset, failures := 0, firstAttempt := false }
  let t := { t with manager }.setOnline true
  t.enter (.requesting (.replay 0)
    (t.hub.router.registry.wanted.map (fun (key, _) => .subscribe key)))

def opened (t : Turn κ ν) : Turn κ ν :=
  let t := (t.withCodec (Codec.reset t.hub.router.codec)).announce (.connected endpoint)
  match Codec.encodeLogin t.hub.router.codec moment.wall with
  | .error cause => loginFailed settings moment t cause
  | .ok (none, codec) => established (t.withCodec codec)
  | .ok (some login, codec) =>
    let t := (t.withCodec codec).publish .authenticating
    match t.write moment login with
    | .error cause => loginFailed settings moment t cause
    | .ok t => t.enter (.loggingIn (moment.now + settings.loginTimeout))

/-- Until the login is answered, pings are answered and all else is left alone. -/
def loginArrival (t : Turn κ ν) : Arrival → Turn κ ν
  | .ended | .frame .close =>
    loginFailed settings moment t (.transport "connection closed during login")
  | .fault cause => loginFailed settings moment t cause
  | .frame (.ping bytes) =>
    match t.write moment (.pong bytes) with
    | .error cause => loginFailed settings moment t cause
    | .ok t => t
  | .frame (.pong _) => t
  | .frame frame =>
    match t.hub.router.routeLogin frame with
    | (.ack, router) => established ((t.withRouter router).announce .authenticated)
    | (.rejected reason, router) =>
      loginFailed settings moment (t.withRouter router) (.auth reason)
    | (.ignored, router) => t.withRouter router

/-- How often overdue unsubscribes are looked for. -/
def sweepPeriod : Nat := max (settings.unsubscribeTimeout / 2) (10 * nanosPerMilli)

/-- Nothing is left to be written for now. -/
def requested (t : Turn κ ν) : Purpose → Turn κ ν
  | .replay sent =>
    ((t.announce (.replayed sent)).publish .connected).enter (.serving {
      pingAt := settings.ping.map (moment.now + ·.interval)
      sweepAt := moment.now + sweepPeriod settings
      lastInbound := moment.now })
  | .upkeep timers => t.enter (.serving timers)

def transmit (t : Turn κ ν) (purpose : Purpose) (frame : Frame) (todo : List Owed) : Turn κ ν :=
  match t.write moment frame, purpose with
  | .ok t, .replay sent => t.enter (.requesting (.replay (sent + 1)) todo)
  | .ok t, .upkeep timers => t.enter (.requesting (.upkeep timers) todo)
  | .error cause, .replay _ => t.lose moment ("replay failed: " ++ cause.message)
  | .error cause, .upkeep _ => t.lose moment ("send error: " ++ cause.message)

/-- Writes a frame, once the throttle lets it through. -/
def submit (t : Turn κ ν) (purpose : Purpose) (frame : Frame) (todo : List Owed) : Turn κ ν :=
  match t.manager.throttle with
  | none => transmit moment t purpose frame todo
  | some throttle =>
    let (wait, throttle) := throttle.reserve moment.now
    let t := { t with manager := { t.manager with throttle := some throttle } }
    match wait with
    | none => transmit moment t purpose frame todo
    | some release => t.enter (.holding purpose release frame todo)

/-- Sees to the next request. What was settled meanwhile is passed over, and a channel whose
request has no wire form fails alone. -/
def request (t : Turn κ ν) (purpose : Purpose) : List Owed → Turn κ ν
  | [] => requested settings moment t purpose
  | .subscribe key :: todo =>
    match t.hub.router.registry.beginSubscribe key with
    | (none, registry) => (t.withRegistry registry).enter (.requesting purpose todo)
    | (some request, registry) =>
      match Codec.encodeSubscribe t.hub.router.codec request with
      | .error cause =>
        (t.withRegistry (registry.fail key (.subscribe key cause.message)).2).enter
          (.requesting purpose todo)
      | .ok (frame, codec) =>
        submit moment ((t.withRegistry registry).withCodec codec) purpose frame todo
  | .unsubscribe key :: todo =>
    match t.hub.router.registry.beginUnsubscribe key moment.now with
    | (none, registry) => (t.withRegistry registry).enter (.requesting purpose todo)
    | (some request, registry) =>
      match Codec.encodeUnsubscribe t.hub.router.codec request with
      | .error _ => (t.withRegistry (registry.forget key).2).enter (.requesting purpose todo)
      | .ok (frame, codec) =>
        submit moment ((t.withRegistry registry).withCodec codec) purpose frame todo

def serveArrival (t : Turn κ ν) (timers : Timers) : Arrival → Turn κ ν
  | .ended => t.lose moment "stream ended"
  | .frame .close => t.lose moment "received close frame"
  | .fault cause => t.lose moment ("read error: " ++ cause.message)
  | .frame (.ping bytes) =>
    match t.write moment (.pong bytes) with
    | .error cause => t.lose moment ("pong send error: " ++ cause.message)
    | .ok t => t.enter (.serving { timers with lastInbound := moment.now })
  | .frame (.pong _) => t.enter (.serving { timers with lastInbound := moment.now })
  | .frame frame =>
    (t.withRouter (t.hub.router.route frame).2).enter
      (.serving { timers with lastInbound := moment.now })

/-- How late a ping may be before the next ones are put off too. -/
def pingTolerance : Nat := 5 * nanosPerMilli

def ping (t : Turn κ ν) (timers : Timers) (ping : Ping) (due : Nat) : Turn κ ν :=
  let next := if due + pingTolerance < moment.now then moment.now else due
  match t.write moment ping.payload.frame with
  | .error cause => t.lose moment ("ping send error: " ++ cause.message)
  | .ok t => t.enter (.serving { timers with pingAt := some (next + ping.interval) })

def sweep (t : Turn κ ν) (timers : Timers) : Turn κ ν :=
  let registry := (t.hub.router.registry.expire moment.now settings.unsubscribeTimeout).2
  (t.withRegistry registry).enter
    (.serving { timers with sweepAt := timers.sweepAt + sweepPeriod settings })

/-- One step on a cue, if the manager waits for that cue and it is due. -/
def step (manager : Manager) (hub : Hub κ ν) (cue : Cue) : Option (Turn κ ν) :=
  let t : Turn κ ν := ⟨manager, hub, []⟩
  match manager.phase, cue with
  | .starting, .proceed => if manager.stopping then none else some (attempt settings moment t)
  | .requesting purpose todo, .proceed => some (request settings moment t purpose todo)
  | .opening _, .opened => some (opened settings endpoint moment t)
  | .opening _, .refused cause => some (attemptFailed settings moment t cause)
  | .loggingIn _, .arrival arrival => some (loginArrival settings moment t arrival)
  | .serving timers, .arrival arrival => some (serveArrival moment t timers arrival)
  | .serving timers, .nudged =>
    if hub.permit then
      some ({ t with hub := { hub with permit := false } }.enter
        (.requesting (.upkeep timers) hub.router.registry.due.owed))
    else none
  | .serving timers, .pingDue =>
    match settings.ping, timers.pingAt with
    | some p, some due => if due ≤ moment.now then some (ping moment t timers p due) else none
    | _, _ => none
  | .serving timers, .sweepDue =>
    if timers.sweepAt ≤ moment.now then some (sweep settings moment t timers) else none
  | .opening deadline, .elapsed =>
    if deadline ≤ moment.now then
      some (attemptFailed settings moment t (.timeout ("connect to " ++ endpoint)))
    else none
  | .loggingIn deadline, .elapsed =>
    if deadline ≤ moment.now then
      some (loginFailed settings moment t
        (.timeout ("login not acknowledged within " ++ Text.span settings.loginTimeout)))
    else none
  | .holding purpose release frame todo, .elapsed =>
    if release ≤ moment.now then some (transmit moment t purpose frame todo) else none
  | .serving timers, .elapsed =>
    if settings.idleTimeout.any (fun idle => timers.lastInbound + idle ≤ moment.now) then
      some (t.lose moment "idle timeout")
    else none
  | .waiting release, .elapsed =>
    if release ≤ moment.now then some (t.enter .starting) else none
  | .serving _, .shutdown =>
    if manager.stopping then some ((t.act .close).finish .closed) else none
  | .starting, .shutdown | .opening _, .shutdown | .loggingIn _, .shutdown
  | .waiting _, .shutdown => if manager.stopping then some (t.finish .closed) else none
  | _, _ => none

def isFinished (manager : Manager) : Bool := manager.phase = .finished

end Manager

end ChannelMux
