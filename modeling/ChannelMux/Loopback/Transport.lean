import ChannelMux.Connection.Manager

/-!
A transport in memory. The far end of each connection is played by whoever drives it: it decides
what comes in, and what becomes of attempts to connect and of frames.
-/
namespace ChannelMux.Loopback

/-- The near end of an open connection. -/
structure Link where
  /-- Connections are numbered from one. -/
  number : Nat
  /-- What came in and is not taken yet. -/
  queue : List Arrival
  /-- The far end hung up. -/
  ended : Bool
deriving Repr

/-- What can be taken next. -/
def Link.arrival? (link : Link) : Option Arrival :=
  match link.queue with
  | arrival :: _ => some arrival
  | [] => if link.ended then some .ended else none

inductive Line where
  /-- An attempt that is never answered. -/
  | ringing
  | refused (cause : Error)
  | open (link : Link)
deriving Repr

/-- What reached the transport, by connection. -/
inductive Traffic where
  | opened (connection : Nat)
  | frame (connection : Nat) (frame : Frame)
  | closed (connection : Nat)
deriving DecidableEq, Repr

structure Transport where
  /-- What each manager holds, by the number of the manager. -/
  lines : List (Nat × Line)
  /-- Connections that were opened so far. -/
  opened : Nat
  /-- The far end of the newest connection did not hang up. -/
  farEnd : Bool
  attempts : Nat
  /-- How many of the next attempts are refused. -/
  refusals : Nat
  /-- Attempts are left unanswered. -/
  stalled : Bool
  /-- No frame gets through. -/
  broken : Bool
  traffic : List Traffic
deriving Repr

namespace Transport

def idle : Transport := ⟨[], 0, false, 0, 0, false, false, []⟩

def line? (t : Transport) (manager : Nat) : Option Line := t.lines.lookup manager

/-- A manager lets go of its connection. -/
def release (t : Transport) (manager : Nat) : Transport :=
  { t with lines := t.lines.filter (fun (holder, _) => holder ≠ manager) }

def hold (t : Transport) (manager : Nat) (line : Line) : Transport :=
  { t with lines := (t.release manager).lines ++ [(manager, line)] }

def log (t : Transport) (entry : Traffic) : Transport := { t with traffic := t.traffic ++ [entry] }

/-- A manager tries to connect. A refusal comes before everything else. -/
def dial (t : Transport) (manager : Nat) : Transport :=
  let t := { t with attempts := t.attempts + 1 }
  if t.refusals ≠ 0 then
    { t with refusals := t.refusals - 1 }.hold manager (.refused (.transport "connection refused"))
  else if t.stalled then t.hold manager .ringing
  else
    let number := t.opened + 1
    ({ t with opened := number, farEnd := true }.hold manager (.open ⟨number, [], false⟩)).log
      (.opened number)

/-- What becomes of a frame that is written now. -/
def writing (t : Transport) : Except Error Unit :=
  if t.broken then .error (.transport "peer gone") else .ok ()

def logOn (t : Transport) (manager : Nat) (entry : Nat → Traffic) : Transport :=
  match t.line? manager with
  | some (.open link) => t.log (entry link.number)
  | _ => t

/-- What a manager's line has for it. -/
def cues (t : Transport) (manager : Nat) : List Cue :=
  match t.line? manager with
  | some (.refused cause) => [.refused cause]
  | some (.open link) => .opened :: link.arrival?.toList.map .arrival
  | some .ringing | none => []

def updateLink (t : Transport) (manager : Nat) (f : Link → Link) : Transport :=
  { t with
    lines := t.lines.map (fun (holder, line) =>
      match line with
      | .open link => if holder = manager then (holder, .open (f link)) else (holder, line)
      | _ => (holder, line)) }

/-- A manager takes the first item from its connection. -/
def take (t : Transport) (manager : Nat) : Transport :=
  t.updateLink manager (fun link => { link with queue := link.queue.tail })

/-- The manager that holds the newest connection. -/
def newest? (t : Transport) : Option Nat :=
  t.lines.findSome? (fun (holder, line) =>
    match line with
    | .open link => if link.number = t.opened then some holder else none
    | _ => none)

/-- Something comes in on the newest connection, if that is still held and the far end did not hang
up. The first result is the manager it comes to. -/
def push (t : Transport) (arrival : Arrival) : Option Nat × Transport :=
  match t.newest? with
  | some manager =>
    if t.farEnd then
      (some manager,
        t.updateLink manager (fun link => { link with queue := link.queue ++ [arrival] }))
    else (none, t)
  | none => (none, t)

/-- The far end of the newest connection hangs up, whether or not the near end is still held. -/
def hangUp (t : Transport) : Option Nat × Transport :=
  let t' := { t with farEnd := false }
  match t.newest? with
  | some manager => (some manager, t'.updateLink manager (fun link => { link with ended := true }))
  | none => (none, t')

end Transport

end ChannelMux.Loopback
