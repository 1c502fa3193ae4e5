import ChannelMux.Feed.Plan
import Mathlib.Data.List.Forall2

/-!
What the codec of a planned feed is asked in the course of its life, and what it answers. What the
codec logs in with shows in the frame that logs in and nowhere else: if it is replaced, all other
answers, and all that is remembered, stay the same.
-/
namespace ChannelMux.Feed

/-- What a codec is asked to do. -/
inductive Call where
  | subscribe (request : ChannelRequest)
  | unsubscribe (request : ChannelRequest)
  | decode (frame : Frame)
  | reset
  | login (now : Nat)

inductive Answer where
  | wrote (frame : Frame)
  | read (envelope : Envelope Event)
  | forgot
  /-- The frame to log in with, if there is a login. -/
  | login (frame : Option Frame)
  | failed (cause : Error)

/-- The same but for what a frame that logs in says. -/
inductive Answer.Alike : Answer → Answer → Prop
  | same (answer : Answer) : Alike answer answer
  | login (frame other : Frame) : Alike (.login (some frame)) (.login (some other))

section
variable {κ : Type} [Codec κ Event]

/-- What fails leaves the codec as it was. -/
def answered {α : Type} (codec : κ) (f : α → Answer) : Except Error (α × κ) → Answer × κ
  | .ok (a, next) => (f a, next)
  | .error cause => (.failed cause, codec)

def ask (codec : κ) : Call → Answer × κ
  | .subscribe request => answered codec .wrote (Codec.encodeSubscribe codec request)
  | .unsubscribe request => answered codec .wrote (Codec.encodeUnsubscribe codec request)
  | .decode frame => answered codec .read (Codec.decode codec frame)
  | .reset => (.forgot, Codec.reset codec)
  | .login now => answered codec .login (Codec.encodeLogin codec now)

end

namespace ExchangeCodec

def ask : ExchangeCodec → Call → Answer × ExchangeCodec
  | okx codec, call => (Feed.ask codec call).map id okx
  | bybit codec, call => (Feed.ask codec call).map id bybit

/-- The codec once it has been asked all this. -/
def after (codec : ExchangeCodec) (calls : List Call) : ExchangeCodec :=
  calls.foldl (fun codec call => (codec.ask call).2) codec

/-- One answer to each call. -/
def answers (codec : ExchangeCodec) : List Call → List Answer
  | [] => []
  | call :: rest => (codec.ask call).1 :: (codec.ask call).2.answers rest

def logsIn : ExchangeCodec → Bool
  | okx codec => codec.credentials.isSome
  | bybit codec => codec.credentials.isSome

end ExchangeCodec

/-! ### Replacing what a codec logs in with -/

/-- A change of the codec that only its login could notice: every other operation does the same,
and the codec that is left is changed in the same way. -/
structure Unnoticed {κ : Type} [Codec κ Event] (change : κ → κ) : Prop where
  subscribe : ∀ codec request, Codec.encodeSubscribe (change codec) request =
    (Codec.encodeSubscribe codec request).map (Prod.map id change)
  unsubscribe : ∀ codec request, Codec.encodeUnsubscribe (change codec) request =
    (Codec.encodeUnsubscribe codec request).map (Prod.map id change)
  decode : ∀ codec frame, Codec.decode (change codec) frame =
    (Codec.decode codec frame).map (Prod.map id change)
  reset : ∀ codec, Codec.reset (change codec) = change (Codec.reset codec)

section
variable {κ : Type} [Codec κ Event] {change : κ → κ}

theorem answered_change {α : Type} (f : α → Answer) (codec : κ)
    (outcome : Except Error (α × κ)) :
    answered (change codec) f (outcome.map (Prod.map id change)) =
      (answered codec f outcome).map id change := by
  cases outcome <;> rfl

theorem Unnoticed.ask_eq (h : Unnoticed change) {call : Call} (hcall : ∀ now, call ≠ .login now)
    (codec : κ) : ask (change codec) call = (ask codec call).map id change := by
  cases call with
  | subscribe request =>
    simp only [ask, h.subscribe]
    exact answered_change Answer.wrote codec _
  | unsubscribe request =>
    simp only [ask, h.unsubscribe]
    exact answered_change Answer.wrote codec _
  | decode frame =>
    simp only [ask, h.decode]
    exact answered_change Answer.read codec _
  | reset =>
    simp only [ask, h.reset]
    rfl
  | login now => exact absurd rfl (hcall now)

theorem Unnoticed.alike (h : Unnoticed change) {call : Call} (hcall : ∀ now, call ≠ .login now)
    (codec : κ) : (ask codec call).1.Alike (ask (change codec) call).1 ∧
      (ask (change codec) call).2 = change (ask codec call).2 := by
  rw [h.ask_eq hcall codec]
  exact ⟨.same _, rfl⟩

end

end Feed

namespace OkxCodec

open Json Okx Feed

variable (codec : OkxCodec) (credentials : Option Okx.Credentials)

def withCredentials : OkxCodec := { codec with credentials }

theorem decodeEvent_withCredentials (event : String) (message : Value) :
    (codec.withCredentials credentials).decodeEvent event message =
      (codec.decodeEvent event message).map id (·.withCredentials credentials) := by
  unfold decodeEvent
  split
  case h_1 =>
    cases (message.get? "id").bind Value.string? <;> cases (message.get? "arg").bind keyOf? <;> rfl
  case h_4 => cases (message.get? "id").bind Value.string? <;> rfl
  all_goals rfl

theorem decodeFrame_withCredentials (frame : Frame) :
    (codec.withCredentials credentials).decodeFrame frame =
      (codec.decodeFrame frame).map (Prod.map id (·.withCredentials credentials)) := by
  unfold decodeFrame
  split
  · rfl
  · rfl
  · split
    · rfl
    · split
      · rw [decodeEvent_withCredentials]
        rfl
      · rename_i message _ _ _
        cases decodePush message <;> rfl

theorem unnoticed_withCredentials :
    Unnoticed (fun codec : OkxCodec => codec.withCredentials credentials) where
  subscribe codec request := by
    change encodeSubscribe _ request = (encodeSubscribe codec request).map _
    unfold encodeSubscribe
    cases Argument.ofRequest request <;> rfl
  unsubscribe codec request := by
    change encodeUnsubscribe _ request = (encodeUnsubscribe codec request).map _
    unfold encodeUnsubscribe
    cases Argument.ofRequest request <;> rfl
  decode codec frame := codec.decodeFrame_withCredentials credentials frame
  reset _ := rfl

variable {codec credentials}

/-- A login is answered alike as long as there is something to log in with in both cases. -/
theorem ask_withCredentials (h : credentials.isSome = codec.credentials.isSome) (call : Feed.Call) :
    (ask codec call).1.Alike (ask (codec.withCredentials credentials) call).1 ∧
      (ask (codec.withCredentials credentials) call).2 =
        (ask codec call).2.withCredentials credentials := by
  cases call with
  | login now =>
    refine ⟨?_, rfl⟩
    change (Feed.Answer.login (codec.encodeLogin now)).Alike
      (.login ((codec.withCredentials credentials).encodeLogin now))
    unfold encodeLogin withCredentials
    cases hgiven : codec.credentials <;> cases hother : credentials
    · exact .same _
    · simp [hgiven, hother] at h
    · simp [hgiven, hother] at h
    · exact .login _ _
  | _ => exact (unnoticed_withCredentials credentials).alike (by simp) codec

theorem credentials_ask (codec : OkxCodec) (call : Feed.Call) :
    (ask codec call).2.credentials = codec.credentials := by
  -- replacing the credentials by themselves changes nothing
  have hself : ask codec call = ask (codec.withCredentials codec.credentials) call := rfl
  rw [hself, (ask_withCredentials rfl call).2]
  rfl

end OkxCodec

namespace BybitCodec

open Json Bybit Market Feed

variable (codec : BybitCodec) (credentials : Option Bybit.Credentials)

def withCredentials : BybitCodec := { codec with credentials }

theorem decodeReply_withCredentials (op : String) (message : Value) :
    (codec.withCredentials credentials).decodeReply op message =
      (codec.decodeReply op message).map id (·.withCredentials credentials) := by
  unfold decodeReply
  cases fieldText? message "req_id" <;> rfl

theorem decodeFrame_withCredentials (frame : Frame) :
    (codec.withCredentials credentials).decodeFrame frame =
      (codec.decodeFrame frame).map (Prod.map id (·.withCredentials credentials)) := by
  unfold decodeFrame
  split
  · rfl
  · split
    · rfl
    · split
      · rw [decodeReply_withCredentials]
        rfl
      · rename_i message _ _ _
        cases decodePush message <;> rfl

theorem unnoticed_withCredentials :
    Unnoticed (fun codec : BybitCodec => codec.withCredentials credentials) where
  subscribe codec request := by
    change encodeSubscribe _ request = (encodeSubscribe codec request).map _
    unfold encodeSubscribe
    split <;> rfl
  unsubscribe _ _ := rfl
  decode codec frame := codec.decodeFrame_withCredentials credentials frame
  reset _ := rfl

variable {codec credentials}

theorem ask_withCredentials (h : credentials.isSome = codec.credentials.isSome) (call : Feed.Call) :
    (ask codec call).1.Alike (ask (codec.withCredentials credentials) call).1 ∧
      (ask (codec.withCredentials credentials) call).2 =
        (ask codec call).2.withCredentials credentials := by
  cases call with
  | login now =>
    change (Feed.Answer.login (codec.encodeLogin now).1).Alike
        (.login ((codec.withCredentials credentials).encodeLogin now).1) ∧
      ((codec.withCredentials credentials).encodeLogin now).2 =
        (codec.encodeLogin now).2.withCredentials credentials
    unfold encodeLogin withCredentials
    cases hgiven : codec.credentials <;> cases hother : credentials
    · exact ⟨.same _, rfl⟩
    · simp [hgiven, hother] at h
    · simp [hgiven, hother] at h
    · exact ⟨.login _ _, rfl⟩
  | _ => exact (unnoticed_withCredentials credentials).alike (by simp) codec

theorem credentials_ask (codec : BybitCodec) (call : Feed.Call) :
    (ask codec call).2.credentials = codec.credentials := by
  -- replacing the credentials by themselves changes nothing
  have hself : ask codec call = ask (codec.withCredentials codec.credentials) call := rfl
  rw [hself, (ask_withCredentials rfl call).2]
  rfl

end BybitCodec

namespace Feed.ExchangeCodec

/-- Equal, but for what they log in with. -/
inductive SameButLogin : ExchangeCodec → ExchangeCodec → Prop
  | okx (codec : OkxCodec) (credentials : Option Okx.Credentials)
    (h : credentials.isSome = codec.credentials.isSome) :
    SameButLogin (okx codec) (okx (codec.withCredentials credentials))
  | bybit (codec : BybitCodec) (credentials : Option Bybit.Credentials)
    (h : credentials.isSome = codec.credentials.isSome) :
    SameButLogin (bybit codec) (bybit (codec.withCredentials credentials))

variable {codec other : ExchangeCodec}

theorem SameButLogin.ask (h : codec.SameButLogin other) (call : Call) :
    (codec.ask call).1.Alike (other.ask call).1 ∧
      (codec.ask call).2.SameButLogin (other.ask call).2 := by
  cases h with
  | okx codec credentials h =>
    obtain ⟨halike, hnext⟩ := OkxCodec.ask_withCredentials h call
    have hkept : credentials.isSome = (Feed.ask codec call).2.credentials.isSome := by
      rw [codec.credentials_ask, h]
    refine ⟨halike, ?_⟩
    change SameButLogin (.okx (Feed.ask codec call).2)
      (.okx (Feed.ask (codec.withCredentials credentials) call).2)
    rw [hnext]
    exact .okx _ _ hkept
  | bybit codec credentials h =>
    obtain ⟨halike, hnext⟩ := BybitCodec.ask_withCredentials h call
    have hkept : credentials.isSome = (Feed.ask codec call).2.credentials.isSome := by
      rw [codec.credentials_ask, h]
    refine ⟨halike, ?_⟩
    change SameButLogin (.bybit (Feed.ask codec call).2)
      (.bybit (Feed.ask (codec.withCredentials credentials) call).2)
    rw [hnext]
    exact .bybit _ _ hkept

theorem SameButLogin.answers (h : codec.SameButLogin other) (calls : List Call) :
    List.Forall₂ Answer.Alike (codec.answers calls) (other.answers calls) := by
  induction calls generalizing codec other with
  | nil => exact .nil
  | cons call rest ih =>
    obtain ⟨halike, hnext⟩ := h.ask call
    exact .cons halike (ih hnext)

theorem SameButLogin.ask_eq (h : codec.SameButLogin other) {call : Call}
    (hcall : ∀ now, call ≠ .login now) : (codec.ask call).1 = (other.ask call).1 := by
  cases h with
  | okx codec credentials _ =>
    exact (congrArg Prod.fst
      ((OkxCodec.unnoticed_withCredentials credentials).ask_eq hcall codec)).symm
  | bybit codec credentials _ =>
    exact (congrArg Prod.fst
      ((BybitCodec.unnoticed_withCredentials credentials).ask_eq hcall codec)).symm

/-- Until they are asked to log in the two cannot be told apart. -/
theorem SameButLogin.answers_eq (h : codec.SameButLogin other) {calls : List Call}
    (hcalls : ∀ now, .login now ∉ calls) : codec.answers calls = other.answers calls := by
  induction calls generalizing codec other with
  | nil => rfl
  | cons call rest ih =>
    have hcall : ∀ now, call ≠ .login now := by
      rintro now rfl
      exact hcalls now List.mem_cons_self
    have hrest : ∀ now, .login now ∉ rest :=
      fun now hin => hcalls now (List.mem_cons_of_mem call hin)
    change _ :: _ = _ :: _
    rw [h.ask_eq hcall, ih (h.ask call).2 hrest]

theorem logsIn_ask (codec : ExchangeCodec) (call : Call) :
    (codec.ask call).2.logsIn = codec.logsIn := by
  cases codec with
  | okx codec => exact congrArg Option.isSome (codec.credentials_ask call)
  | bybit codec => exact congrArg Option.isSome (codec.credentials_ask call)

/-- Nothing a codec is asked makes it log in, or keeps it from logging in. -/
theorem logsIn_after (codec : ExchangeCodec) (calls : List Call) :
    (codec.after calls).logsIn = codec.logsIn := by
  induction calls generalizing codec with
  | nil => rfl
  | cons call rest ih => exact (ih _).trans (codec.logsIn_ask call)

/-- The first frame of a connection is a login exactly for a codec that logs in; making it does not
fail. -/
theorem exists_login (codec : ExchangeCodec) (now : Nat) :
    ∃ frame, codec.login now = .ok frame ∧ frame.isSome = codec.logsIn := by
  cases codec with
  | okx codec => exact ⟨codec.encodeLogin now, rfl, Option.isSome_map⟩
  | bybit codec =>
    refine ⟨(codec.encodeLogin now).1, rfl, ?_⟩
    change (codec.encodeLogin now).1.isSome = codec.credentials.isSome
    unfold BybitCodec.encodeLogin
    cases codec.credentials <;> rfl

end Feed.ExchangeCodec

end ChannelMux
