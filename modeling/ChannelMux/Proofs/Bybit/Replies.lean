import ChannelMux.Bybit.Profile
import ChannelMux.Proofs.Okx.Pending

/-!
Which request a reply on Bybit is about. Replies name no channel, only the id that the request was
sent with; no two frames bear the same id, so a reply is told to the channel of the one request that
still waits under its id, once, and to no channel if there is none.
-/
namespace ChannelMux

/-- The channel that a control event names. -/
def ControlEvent.key? : ControlEvent → Option ChannelKey
  | .subscribeAck key | .subscribeError key _ | .unsubscribeAck key => some key
  | .loginAck | .loginError _ | .error _ | .heartbeat => none

theorem isDigit_of_mem_toString {n : Nat} {c : Char} (h : c ∈ (toString n).toList) :
    c.isDigit = true := by
  rw [Nat.toString_eq_repr, Nat.toList_repr] at h
  exact Nat.isDigit_of_mem_toDigits (by decide) (by decide) h

namespace Json.Value

theorem writeChar_eq_self {c : Char} (h : '\\' ∉ writeChar c) : writeChar c = [c] := by
  unfold writeChar at h ⊢
  split at h
  case h_8 =>
    split at h
    · simp at h
    · rename_i hprints
      rw [if_neg hprints]
  all_goals simp at h

theorem writeChar_of_isDigit {c : Char} (h : c.isDigit = true) : writeChar c = [c] := by
  have hrange : '0'.toNat ≤ c.toNat := by
    simp only [Char.isDigit, Bool.and_eq_true, decide_eq_true_eq] at h
    exact h.1
  unfold writeChar
  split
  case h_8 => exact if_neg (Nat.not_lt.mpr (Nat.le_trans (by decide) hrange))
  all_goals exact absurd h (by decide)

/-- Text that is written without a backslash is written as it is. -/
theorem flatMap_writeChar_eq_self {s : List Char} (h : '\\' ∉ s.flatMap writeChar) :
    s.flatMap writeChar = s := by
  induction s with
  | nil => rfl
  | cons c rest ih =>
    rw [List.flatMap_cons, List.mem_append, not_or] at h
    rw [List.flatMap_cons, writeChar_eq_self h.1, ih h.2]
    rfl

theorem flatMap_writeChar_of_isDigit {s : List Char} (h : ∀ c ∈ s, c.isDigit = true) :
    s.flatMap writeChar = s := by
  induction s with
  | nil => rfl
  | cons c rest ih =>
    rw [List.flatMap_cons, writeChar_of_isDigit (h c List.mem_cons_self),
      ih fun d hd => h d (List.mem_cons_of_mem c hd)]
    rfl

/-- Only a number is written like that number. -/
theorem eq_toString_of_writeString {s : String} {n : Nat}
    (h : writeString (toString n) = writeString s) : s = toString n := by
  have hsame := List.append_cancel_right (List.cons.inj h).2
  rw [flatMap_writeChar_of_isDigit fun _ => isDigit_of_mem_toString] at hsame
  have hplain : '\\' ∉ s.toList.flatMap writeChar := by
    rw [← hsame]
    intro hmem
    exact absurd (isDigit_of_mem_toString hmem) (by decide)
  rw [flatMap_writeChar_eq_self hplain] at hsame
  exact String.toList_inj.mp hsame.symm

end Json.Value

/-- The channel that a request is about. -/
def Bybit.Asked.key : Asked → ChannelKey
  | .subscribe key | .unsubscribe key => key

namespace BybitCodec

open Json Bybit Market
open OkxCodec (Call Answer message? toString_nat_inj)

/-- What fails leaves the codec as it was. -/
def answer {α : Type} (codec : BybitCodec) (f : α → Answer) :
    Except Error (α × BybitCodec) → Answer × BybitCodec
  | .ok (a, next) => (f a, next)
  | .error cause => (.failed cause, codec)

def perform (codec : BybitCodec) : Call → Answer × BybitCodec
  | .subscribe request => codec.answer .wrote (Codec.encodeSubscribe codec request)
  | .unsubscribe request => codec.answer .wrote (Codec.encodeUnsubscribe codec request)
  | .login now => codec.answer .credentials (Codec.encodeLogin codec now)
  | .decode frame => codec.answer .read (Codec.decode codec frame)
  | .reset => (.forgot, Codec.reset codec)

/-- The frame that a call gave to be sent. -/
def sent? : Answer → Option Frame
  | .wrote frame => some frame
  | .credentials frame => frame
  | .read _ | .failed _ | .forgot => none

/-- A request or login as it is sent. -/
def wire (id op : String) (args : List Value) : Frame :=
  .text (Value.ofMembers [("req_id", .string id), ("op", .string op), ("args", .array args)]).write

/-- The operation that a call asks for, and its arguments. -/
def content? (credentials : Option Bybit.Credentials) : Call → Option (String × List Value)
  | .subscribe request => some ("subscribe", [.string (topic request)])
  | .unsubscribe request => some ("unsubscribe", [.string (topic request)])
  | .login now => credentials.map (fun c => ("auth", [.string c.apiKey,
      .number (.int (now + loginWindow : Nat)), .string (Digest.hmacHex c.secretKey
        ("GET/realtime" ++ toString (now + loginWindow)))]))
  | .decode _ | .reset => none

/-- A call was answered by a frame with this id. -/
def Bears (credentials : Option Bybit.Credentials) (id : String) (entry : Call × Answer) : Prop :=
  ∃ op args, content? credentials entry.1 = some (op, args) ∧ sent? entry.2 = some (wire id op args)

/-- The request about a channel that a call makes. -/
def asked? : Call → Option Asked
  | .subscribe request => some (.subscribe ⟨topic request⟩)
  | .unsubscribe request => some (.unsubscribe ⟨topic request⟩)
  | .login _ | .decode _ | .reset => none

/-- A message is the reply to what was sent with an id. -/
def Answers (message : Value) (id : String) : Prop :=
  (textField? message "op").isSome = true ∧ fieldText? message "req_id" = some id

instance (message : Value) (id : String) : Decidable (Answers message id) :=
  inferInstanceAs (Decidable (_ ∧ _))

/-- No reply is due any more to what was sent with this id. -/
def Clears (id : String) : Call → Prop
  | .reset => True
  | .decode frame => ∃ message, message? frame = some message ∧ Answers message id
  | .subscribe _ | .unsubscribe _ | .login _ => False

/-- A request was sent with this id, and nothing has cleared it since. -/
def Awaited (credentials : Option Bybit.Credentials) (history : List (Call × Answer)) (id : String)
    (asked : Asked) : Prop :=
  ∃ before entry after, history = before ++ entry :: after ∧ Bears credentials id entry ∧
    asked? entry.1 = some asked ∧ ∀ later ∈ after, ¬ Clears id later.1

/-- An absent verdict counts as success. -/
def succeeded (message : Value) : Bool :=
  ((message.get? "success").bind Value.bool?).getD true

def reason (message : Value) : String := (fieldText? message "ret_msg").getD ""

/-- What a reply says about the request that it answers. -/
def verdict (message : Value) : Asked → ControlEvent
  | .subscribe key =>
    if succeeded message then .subscribeAck key else .subscribeError key (reason message)
  | .unsubscribe key => .unsubscribeAck key

variable {codec : BybitCodec} {credentials : Option Bybit.Credentials}
  {history before after : List (Call × Answer)} {entry : Call × Answer} {frame : Frame}
  {message : Value} {id op : String} {args : List Value} {asked : Asked} {key : ChannelKey}

theorem wire_inj {n : Nat} (h : wire (toString n) op args = wire id op args) : id = toString n := by
  have hchars : ∀ i, (wire i op args).text?.map String.toList = some
      ('\x7b' :: (Value.writeMembers [("args", .array args), ("op", .string op),
        ("req_id", .string i)] ++ ['\x7d'])) := by
    intro i
    exact congrArg some String.toList_ofList
  have hsame := hchars id
  rw [← h, hchars] at hsame
  simp only [Option.some.injEq, List.cons.injEq, true_and, Value.writeMembers,
    List.append_cancel_right_eq, List.append_cancel_left_eq, Value.writeChars] at hsame
  exact Value.eq_toString_of_writeString hsame

/-- The id of a frame can be told from it. -/
theorem Bears.unique {n : Nat} (h : Bears credentials (toString n) entry)
    (hother : Bears credentials id entry) : id = toString n := by
  obtain ⟨op, args, hcontent, hsent⟩ := h
  obtain ⟨op', args', hcontent', hsent'⟩ := hother
  rw [hcontent] at hcontent'
  cases hcontent'
  rw [hsent] at hsent'
  exact wire_inj (Option.some.inj hsent')

/-- How many ids were given away. -/
def issued (history : List (Call × Answer)) : Nat :=
  history.countP (fun entry => (sent? entry.2).isSome)

@[simp] theorem issued_append (before after : List (Call × Answer)) :
    issued (before ++ after) = issued before + issued after :=
  List.countP_append

theorem issued_sent (h : (sent? entry.2).isSome = true) (after : List (Call × Answer)) :
    issued (entry :: after) = issued after + 1 :=
  List.countP_cons_of_pos h

theorem issued_silent (h : sent? entry.2 = none) : issued [entry] = 0 := by
  simp [issued, h]

theorem Bears.isSent (h : Bears credentials id entry) : (sent? entry.2).isSome = true := by
  obtain ⟨op, args, -, hsent⟩ := h
  rw [hsent]
  rfl

/-- Frames are numbered in the order in which they are sent. -/
def Numbered (credentials : Option Bybit.Credentials) (history : List (Call × Answer)) : Prop :=
  Throughout (fun before entry => (sent? entry.2).isSome = true →
    Bears credentials (toString (issued before + 1)) entry) history

theorem Numbered.id_eq (h : Numbered credentials history)
    (hsplit : history = before ++ entry :: after) (hbears : Bears credentials id entry) :
    id = toString (issued before + 1) :=
  (h before entry after hsplit hbears.isSent).unique hbears

theorem eq_nil_of_issued {mid after' : List (Call × Answer)} {entry' : Call × Answer}
    (h : entry :: after = mid ++ entry' :: after') (hsent : (sent? entry.2).isSome = true)
    (hmid : issued mid = 0) : mid = [] := by
  cases mid with
  | nil => rfl
  | cons first mid =>
    cases h
    rw [issued_sent hsent] at hmid
    cases hmid

/-- Two frames of one history with the same id are the same. -/
theorem Numbered.place_unique (h : Numbered credentials history)
    {before' after' : List (Call × Answer)} {entry' : Call × Answer}
    (hsplit : history = before ++ entry :: after)
    (hsplit' : history = before' ++ entry' :: after') (hbears : Bears credentials id entry)
    (hbears' : Bears credentials id entry') :
    before = before' ∧ entry = entry' ∧ after = after' := by
  have hnumber : issued before = issued before' := Nat.succ.inj (toString_nat_inj
    ((h.id_eq hsplit hbears).symm.trans (h.id_eq hsplit' hbears')))
  have hplace : before = before' := by
    rcases List.append_eq_append_iff.mp (hsplit.symm.trans hsplit') with
      ⟨mid, rfl, hrest⟩ | ⟨mid, rfl, hrest⟩
    · rw [issued_append] at hnumber
      rw [eq_nil_of_issued hrest hbears.isSent (by omega), List.append_nil]
    · rw [issued_append] at hnumber
      rw [eq_nil_of_issued hrest hbears'.isSent (by omega), List.append_nil]
  subst hplace
  obtain ⟨hentry, hafter⟩ := List.cons.inj (List.append_cancel_left (hsplit.symm.trans hsplit'))
  exact ⟨rfl, hentry, hafter⟩

theorem awaited_concat : Awaited credentials (history ++ [entry]) id asked ↔
    Awaited credentials history id asked ∧ ¬ Clears id entry.1 ∨
      Bears credentials id entry ∧ asked? entry.1 = some asked := by
  constructor
  · intro h
    obtain ⟨before, first, after, hsplit, hbears, hasked, hkept⟩ := h
    rcases concat_eq_append_cons_iff.mp hsplit with ⟨rfl, rfl, -⟩ | ⟨rest, hhistory, rfl⟩
    · exact Or.inr ⟨hbears, hasked⟩
    · exact Or.inl ⟨⟨before, first, rest, hhistory, hbears, hasked,
        fun e he => hkept e (List.mem_append_left _ he)⟩, hkept entry (by simp)⟩
  · intro h
    rcases h with ⟨⟨before, first, after, rfl, hbears, hasked, hkept⟩, hlast⟩ | ⟨hbears, hasked⟩
    · refine ⟨before, first, after ++ [entry], by simp, hbears, hasked, fun e he => ?_⟩
      rcases List.mem_append.mp he with hold | hnew
      · exact hkept e hold
      · rwa [List.mem_singleton.mp hnew]
    · exact ⟨history, entry, [], rfl, hbears, hasked, by simp⟩

/-- An id that was cleared after it was sent is never awaited again. -/
theorem Numbered.not_awaited_of_clears (h : Numbered credentials history) {later : Call × Answer}
    (hsplit : history = before ++ later :: after) (hentry : entry ∈ before)
    (hbears : Bears credentials id entry) (hclears : Clears id later.1) :
    ¬ Awaited credentials history id asked := by
  intro hagain
  obtain ⟨before₁, entry₁, after₁, hsplit₁, hbears₁, -, hkept⟩ := hagain
  obtain ⟨before₂, after₂, rfl⟩ := List.append_of_mem hentry
  rw [List.append_assoc, List.cons_append] at hsplit
  obtain ⟨-, -, rfl⟩ := h.place_unique hsplit₁ hsplit hbears₁ hbears
  exact hkept later (by simp) hclears

/-- The id of a login is no request's. -/
theorem Numbered.not_awaited_of_unasked (h : Numbered credentials history)
    (hentry : entry ∈ history) (hbears : Bears credentials id entry)
    (hasked : asked? entry.1 = none) : ¬ Awaited credentials history id asked := by
  intro hawaited
  obtain ⟨before₁, entry₁, after₁, hsplit₁, hbears₁, hasked₁, -⟩ := hawaited
  obtain ⟨before₂, after₂, hsplit₂⟩ := List.append_of_mem hentry
  obtain ⟨-, rfl, -⟩ := h.place_unique hsplit₁ hsplit₂ hbears₁ hbears
  rw [hasked] at hasked₁
  cases hasked₁

/-- What is awaited is awaited under a number. -/
theorem Numbered.exists_number (h : Numbered credentials history)
    (hawaited : Awaited credentials history id asked) : ∃ n, id = toString (n + 1) := by
  obtain ⟨before, entry, after, hsplit, hbears, -⟩ := hawaited
  exact ⟨issued before, h.id_eq hsplit hbears⟩

/-- The codec without the request that a reply is about. -/
def settle (codec : BybitCodec) (message : Value) : BybitCodec :=
  { codec with
    pending := codec.pending.filter (fun (id, _) => fieldText? message "req_id" ≠ some id) }

theorem decodeReply_snd : (codec.decodeReply op message).2 = codec.settle message := by
  unfold decodeReply settle
  simp only
  cases hid : fieldText? message "req_id" with
  | some id => simp [ne_comm]
  | none => simp

theorem decode_of_no_message (h : message? frame = none) :
    ∃ cause, Codec.decode codec frame = .error cause := by
  change ∃ cause, decodeFrame codec frame = .error cause
  unfold decodeFrame
  split
  · exact ⟨_, rfl⟩
  · rename_i text htext
    rw [message?, htext, Option.bind_some] at h
    rw [h]
    exact ⟨_, rfl⟩

/-- A message is a reply or a push. -/
theorem decode_of_parse (h : message? frame = some message) :
    Codec.decode codec frame = match textField? message "op" with
      | some op => .ok (.control (codec.decodeReply op message).1, codec.settle message)
      | none => (decodePush message).map (fun event => (.data event, codec)) := by
  obtain ⟨text, htext, hparse⟩ := Option.bind_eq_some_iff.mp h
  change decodeFrame codec frame = _
  unfold decodeFrame
  simp only [htext, hparse]
  cases hop : textField? message "op" with
  | some op => rw [← decodeReply_snd]
  | none => rfl

theorem perform_decode (h : message? frame = some message)
    (hop : textField? message "op" = some op) :
    codec.perform (.decode frame) =
      (.read (.control (codec.decodeReply op message).1), codec.settle message) := by
  rw [perform, decode_of_parse h, hop]
  rfl

/-- What is no reply is about no request. -/
theorem perform_decode_of_none
    (h : ∀ message, message? frame = some message → textField? message "op" = none) :
    (codec.perform (.decode frame)).2 = codec := by
  cases hmessage : message? frame with
  | some message =>
    rw [perform, decode_of_parse hmessage, h message hmessage]
    cases decodePush message with
    | error cause => rfl
    | ok event => rfl
  | none =>
    obtain ⟨cause, hcause⟩ := decode_of_no_message hmessage
    rw [perform, hcause]
    rfl

/-- A call that sends a frame gives it the next id and remembers what it asked. -/
theorem perform_sends {call : Call} (h : sent? (codec.perform call).1 = some frame) :
    Bears codec.credentials (toString codec.nextId) (call, (codec.perform call).1) ∧
      (∀ id, ¬ Clears id call) ∧ (codec.perform call).2 = { codec with
        nextId := codec.nextId + 1
        pending := codec.pending ++
          (asked? call).toList.map (Prod.mk (toString codec.nextId)) } := by
  cases call with
  | subscribe request =>
    by_cases hname : Text.trim request.name = ""
    · have hrefused : codec.encodeSubscribe request = .error (.encode "empty topic") := if_pos hname
      have hnothing : (codec.perform (.subscribe request)).1 = .failed (.encode "empty topic") :=
        congrArg (fun outcome => (codec.answer .wrote outcome).1) hrefused
      rw [hnothing] at h
      cases h
    · have hwritten : codec.encodeSubscribe request =
          .ok (codec.operation "subscribe" .subscribe request) := if_neg hname
      have hperform : codec.perform (.subscribe request) =
          codec.answer .wrote (.ok (codec.operation "subscribe" .subscribe request)) :=
        congrArg (codec.answer .wrote) hwritten
      rw [hperform]
      exact ⟨⟨_, _, rfl, rfl⟩, fun _ => not_false, rfl⟩
  | unsubscribe request => exact ⟨⟨_, _, rfl, rfl⟩, fun _ => not_false, rfl⟩
  | login now =>
    obtain ⟨credentials, nextId, pending⟩ := codec
    cases credentials with
    | none => cases h
    | some credentials =>
      refine ⟨⟨_, _, rfl, rfl⟩, fun _ => not_false, ?_⟩
      exact congrArg (BybitCodec.mk _ _) (List.append_nil pending).symm
  | decode frame =>
    change sent? (codec.answer .read (Codec.decode codec frame)).1 = _ at h
    cases hdecode : Codec.decode codec frame with
    | ok result => rw [hdecode] at h; cases h
    | error cause => rw [hdecode] at h; cases h
  | reset => cases h

/-- What a call that sends nothing makes of a codec: no id is given away, and what the call clears
is forgotten. -/
structure Rests (codec : BybitCodec) (call : Call) (next : BybitCodec) : Prop where
  nextId : next.nextId = codec.nextId
  credentials : next.credentials = codec.credentials
  sublist : next.pending.Sublist codec.pending
  pending : ∀ id asked, (id, asked) ∈ next.pending ↔
    (id, asked) ∈ codec.pending ∧ ¬ Clears id call

theorem Rests.refl {call : Call} (h : ∀ id, ¬ Clears id call) : codec.Rests call codec :=
  ⟨rfl, rfl, .refl _, fun id _ => (and_iff_left (h id)).symm⟩

theorem rests_decode (codec : BybitCodec) (frame : Frame) :
    codec.Rests (.decode frame) (codec.perform (.decode frame)).2 := by
  by_cases hreply : ∃ message op, message? frame = some message ∧
      textField? message "op" = some op
  · obtain ⟨message, op, hmessage, hop⟩ := hreply
    rw [perform_decode hmessage hop]
    refine ⟨rfl, rfl, List.filter_sublist, fun id asked => ?_⟩
    simp [settle, Clears, Answers, hmessage, hop]
  · have hnone : ∀ message, message? frame = some message → textField? message "op" = none := by
      intro message hmessage
      refine Option.eq_none_iff_forall_ne_some.mpr fun op hop => ?_
      exact hreply ⟨message, op, hmessage, hop⟩
    rw [perform_decode_of_none hnone]
    refine .refl fun id hclears => ?_
    obtain ⟨message, hmessage, hop, -⟩ := hclears
    rw [hnone message hmessage] at hop
    cases hop

theorem perform_silent {call : Call} (h : sent? (codec.perform call).1 = none) :
    codec.Rests call (codec.perform call).2 := by
  cases call with
  | subscribe request =>
    change sent? (codec.answer .wrote (codec.encodeSubscribe request)).1 = none at h
    change codec.Rests _ (codec.answer .wrote (codec.encodeSubscribe request)).2
    by_cases hname : Text.trim request.name = ""
    · rw [encodeSubscribe, if_pos hname]
      exact .refl fun _ => not_false
    · rw [encodeSubscribe, if_neg hname] at h
      cases h
  | unsubscribe request => cases h
  | login now =>
    obtain ⟨credentials, nextId, pending⟩ := codec
    cases credentials with
    | none => exact .refl fun _ => not_false
    | some credentials => cases h
  | decode frame => exact rests_decode codec frame
  | reset =>
    exact ⟨rfl, rfl, List.nil_sublist _,
      fun id asked => iff_of_false List.not_mem_nil fun hkept => hkept.2 trivial⟩

theorem decodeReply_asked (hop : op ≠ "auth")
    (hlookup : (fieldText? message "req_id").bind (fun id => codec.pending.lookup id) =
      some asked) : (codec.decodeReply op message).1 = verdict message asked := by
  unfold decodeReply
  simp only [hlookup, if_neg hop]
  cases asked <;> rfl

/-- A reply names the channel of the request that it answers, or none. -/
theorem lookup_of_key_decodeReply (h : (codec.decodeReply op message).1.key? = some key) :
    ∃ id asked, fieldText? message "req_id" = some id ∧ codec.pending.lookup id = some asked ∧
      asked.key = key := by
  unfold decodeReply at h
  simp only at h
  split at h
  · split at h <;> cases h
  · cases hasked : (fieldText? message "req_id").bind (fun id => codec.pending.lookup id) with
    | none =>
      rw [hasked] at h
      simp only at h
      split at h <;> cases h
    | some asked =>
      obtain ⟨id, hid, hlookup⟩ := Option.bind_eq_some_iff.mp hasked
      refine ⟨id, asked, hid, hlookup, ?_⟩
      rw [hasked] at h
      cases asked with
      | subscribe k =>
        simp only at h
        split at h <;> exact Option.some.inj h
      | unsubscribe k => exact Option.some.inj h

/-- A push goes by its topic. -/
theorem topic_of_decodePush {event : Event} (h : decodePush message = .ok event) :
    textField? message "topic" = some event.key.text := by
  unfold decodePush at h
  split at h
  · cases h
  · rename_i topic htopic
    split at h
    · cases h
    · simp only at h
      split at h
      · cases h
      · cases h
        exact htopic

theorem topic_of_decode {event : Event} {next : BybitCodec}
    (h : Codec.decode codec frame = .ok (.data event, next)) : next = codec ∧
      ∃ message, message? frame = some message ∧
        textField? message "topic" = some event.key.text := by
  cases hmessage : message? frame with
  | none =>
    obtain ⟨cause, hcause⟩ := decode_of_no_message hmessage
    rw [hcause] at h
    cases h
  | some message =>
    rw [decode_of_parse hmessage] at h
    split at h
    · cases h
    · cases hpush : decodePush message with
      | error cause =>
        rw [hpush] at h
        cases h
      | ok pushed =>
        rw [hpush] at h
        cases h
        exact ⟨rfl, message, rfl, topic_of_decodePush hpush⟩

/-- A codec with all that was asked of it since the start. -/
structure Usage where
  codec : BybitCodec
  history : List (Call × Answer)

namespace Usage

def start (credentials : Option Bybit.Credentials) : Usage := ⟨BybitCodec.start credentials, []⟩

def perform (u : Usage) (call : Call) : Usage :=
  ⟨(u.codec.perform call).2, u.history ++ [(call, (u.codec.perform call).1)]⟩

def run (u : Usage) (calls : List Call) : Usage := calls.foldl perform u

/-- The codec knows what its history says. -/
structure Kept (u : Usage) : Prop where
  nextId : u.codec.nextId = issued u.history + 1
  numbered : Numbered u.codec.credentials u.history
  pending : ∀ id asked, (id, asked) ∈ u.codec.pending ↔
    Awaited u.codec.credentials u.history id asked
  distinct : (u.codec.pending.map Prod.fst).Nodup

variable {u : Usage}

theorem Kept.start (credentials : Option Bybit.Credentials) : (start credentials).Kept := by
  refine ⟨rfl, Throughout.nil, fun id asked => iff_of_false List.not_mem_nil fun h => ?_,
    List.nodup_nil⟩
  obtain ⟨before, entry, after, hsplit, -⟩ := h
  simp [Usage.start] at hsplit

/-- An id that was given away is none to come. -/
theorem Kept.fresh (kept : u.Kept) : toString u.codec.nextId ∉ u.codec.pending.map Prod.fst := by
  intro hmem
  obtain ⟨⟨id, asked⟩, hpending, hid⟩ := List.mem_map.mp hmem
  obtain ⟨before, entry, after, hsplit, hbears, -⟩ := (kept.pending id asked).mp hpending
  have hnext := toString_nat_inj (hid.symm.trans (kept.numbered.id_eq hsplit hbears))
  rw [kept.nextId, hsplit, issued_append, issued_sent hbears.isSent] at hnext
  omega

theorem Kept.sends (kept : u.Kept) {call : Call}
    (h : sent? (u.codec.perform call).1 = some frame) : (u.perform call).Kept := by
  obtain ⟨hbears, hnone, hnext⟩ := perform_sends h
  have hsent : (sent? (u.codec.perform call).1).isSome = true := hbears.isSent
  have hhistory : (u.perform call).history = u.history ++ [(call, (u.codec.perform call).1)] := rfl
  have hcodec : (u.perform call).codec = (u.codec.perform call).2 := rfl
  refine ⟨?_, ?_, fun id asked => ?_, ?_⟩
  · rw [hcodec, hnext, hhistory, issued_append, issued_sent hsent, kept.nextId]
    rfl
  · rw [hcodec, hnext, hhistory]
    refine kept.numbered.concat fun _ => ?_
    rw [← kept.nextId]
    exact hbears
  · rw [hcodec, hnext, hhistory, awaited_concat, ← kept.pending, List.mem_append]
    refine or_congr (and_iff_left (hnone id)).symm ?_
    constructor
    · intro hmem
      obtain ⟨other, hother, hsame⟩ := List.mem_map.mp hmem
      cases hsame
      exact ⟨hbears, Option.mem_toList.mp hother⟩
    · intro hnew
      rw [hbears.unique hnew.1]
      exact List.mem_map.mpr ⟨asked, Option.mem_toList.mpr hnew.2, rfl⟩
  · rw [hcodec, hnext, List.map_append, List.map_map]
    cases hasked : asked? call with
    | none => simpa using kept.distinct
    | some asked => exact List.concat_eq_append ▸ List.Nodup.concat kept.fresh kept.distinct

theorem Kept.rests (kept : u.Kept) {call : Call} (h : sent? (u.codec.perform call).1 = none) :
    (u.perform call).Kept := by
  have hrests := perform_silent h
  have hnobody : ∀ id, ¬ Bears u.codec.credentials id (call, (u.codec.perform call).1) := by
    intro id hbears
    have hsent := hbears.isSent
    rw [h] at hsent
    cases hsent
  have hhistory : (u.perform call).history = u.history ++ [(call, (u.codec.perform call).1)] := rfl
  have hcodec : (u.perform call).codec = (u.codec.perform call).2 := rfl
  refine ⟨?_, ?_, fun id asked => ?_, ?_⟩
  · rw [hcodec, hrests.nextId, hhistory, issued_append, issued_silent h]
    exact kept.nextId
  · rw [hcodec, hrests.credentials, hhistory]
    refine kept.numbered.concat fun hsent => ?_
    rw [h] at hsent
    cases hsent
  · rw [hcodec, hrests.pending, hrests.credentials, hhistory, awaited_concat, kept.pending]
    exact ⟨Or.inl, fun hawaited => hawaited.resolve_right fun hnew => hnobody id hnew.1⟩
  · exact kept.distinct.sublist (hrests.sublist.map _)

theorem Kept.perform (kept : u.Kept) (call : Call) : (u.perform call).Kept := by
  cases h : sent? (u.codec.perform call).1 with
  | some frame => exact kept.sends h
  | none => exact kept.rests h

theorem Kept.run (kept : u.Kept) (calls : List Call) : (u.run calls).Kept := by
  induction calls generalizing u with
  | nil => exact kept
  | cons call calls ih => exact ih (kept.perform call)

/-- What becomes of the requests that a codec sends. -/
structure Correlated (u : Usage) : Prop where
  /-- Whatever is sent has an id. -/
  written : ∀ entry ∈ u.history, (sent? entry.2).isSome = true →
    ∃ id, Bears u.codec.credentials id entry
  /-- No two frames have the same id, whatever was reset between them. -/
  unique : ∀ before₁ entry₁ after₁ before₂ entry₂ after₂ id,
    u.history = before₁ ++ entry₁ :: after₁ → u.history = before₂ ++ entry₂ :: after₂ →
      Bears u.codec.credentials id entry₁ → Bears u.codec.credentials id entry₂ →
        before₁ = before₂
  /-- What is remembered is what is awaited. -/
  pending : ∀ id asked, (id, asked) ∈ u.codec.pending ↔
    Awaited u.codec.credentials u.history id asked
  /-- The key of a request is the topic that is sent for it. -/
  keyed : ∀ request, Codec.subscriptionKey u.codec request = ⟨topic request⟩
  /-- A payload goes by its topic. -/
  pushed : ∀ frame event next, Codec.decode u.codec frame = .ok (.data event, next) →
    ∃ message topic, message? frame = some message ∧ textField? message "topic" = some topic ∧
      Codec.channelOf u.codec event = some ⟨topic⟩
  /-- A reply with the id of a request that is awaited. -/
  replied : ∀ frame message op id asked, message? frame = some message →
    textField? message "op" = some op → op ≠ "auth" → fieldText? message "req_id" = some id →
      Awaited u.codec.credentials u.history id asked →
        (u.codec.perform (.decode frame)).1 = .read (.control (verdict message asked))
  /-- No other reply names a channel. -/
  named : ∀ frame message event key, message? frame = some message →
    (textField? message "op").isSome = true →
      (u.codec.perform (.decode frame)).1 = .read (.control event) → event.key? = some key →
        ∃ id asked, fieldText? message "req_id" = some id ∧
          Awaited u.codec.credentials u.history id asked ∧ asked.key = key
  /-- A reply is the last that its request gets. -/
  once : ∀ before frame answer after message id asked later,
    u.history = before ++ (.decode frame, answer) :: after → message? frame = some message →
      Answers message id → Awaited u.codec.credentials before id asked →
        ¬ Awaited u.codec.credentials u.history id later
  /-- Nothing is awaited of an earlier connection. -/
  earlier : ∀ before answer after entry id asked, u.history = before ++ (.reset, answer) :: after →
    entry ∈ before → Bears u.codec.credentials id entry →
      ¬ Awaited u.codec.credentials u.history id asked
  login : ∀ now answer id asked, (.login now, answer) ∈ u.history →
    Bears u.codec.credentials id (.login now, answer) →
      ¬ Awaited u.codec.credentials u.history id asked
  keepAlive : ∀ id asked, fieldText? Bybit.keepAlive "req_id" = some id →
    ¬ Awaited u.codec.credentials u.history id asked
  /-- What is no reply is about no request. -/
  unread : ∀ frame, (∀ message, message? frame = some message → textField? message "op" = none) →
    (u.codec.perform (.decode frame)).2 = u.codec

theorem Kept.correlated (kept : u.Kept) : u.Correlated := by
  constructor
  case written =>
    intro entry hentry hsent
    obtain ⟨before, after, hsplit⟩ := List.append_of_mem hentry
    exact ⟨_, kept.numbered before entry after hsplit hsent⟩
  case unique =>
    intro before₁ entry₁ after₁ before₂ entry₂ after₂ id hsplit₁ hsplit₂ hbears₁ hbears₂
    exact (kept.numbered.place_unique hsplit₁ hsplit₂ hbears₁ hbears₂).1
  case pending => exact kept.pending
  case keyed => exact fun _ => rfl
  case pushed =>
    intro frame event next hdecode
    obtain ⟨-, message, hmessage, htopic⟩ := topic_of_decode hdecode
    exact ⟨message, event.key.text, hmessage, htopic, rfl⟩
  case replied =>
    intro frame message op id asked hmessage hop hauth hid hawaited
    have hlookup := OkxCodec.lookup_pending kept.distinct ((kept.pending id asked).mpr hawaited)
    rw [perform_decode hmessage hop, decodeReply_asked hauth (by rw [hid]; exact hlookup)]
  case named =>
    intro frame message event key hmessage hop hevent hkey
    obtain ⟨op, hop⟩ := Option.isSome_iff_exists.mp hop
    rw [perform_decode hmessage hop] at hevent
    cases hevent
    obtain ⟨id, asked, hid, hlookup, hasked⟩ := lookup_of_key_decodeReply hkey
    obtain ⟨before, after, hsplit, -⟩ := List.lookup_eq_some_iff.mp hlookup
    exact ⟨id, asked, hid, (kept.pending id asked).mp (hsplit ▸ by simp), hasked⟩
  case once =>
    intro before frame answer after message id asked later hsplit hmessage hanswers hawaited
    obtain ⟨before₁, entry, after₁, rfl, hbears, -⟩ := hawaited
    exact kept.numbered.not_awaited_of_clears hsplit (by simp) hbears ⟨message, hmessage, hanswers⟩
  case earlier =>
    intro before answer after entry id asked hsplit hentry hbears
    exact kept.numbered.not_awaited_of_clears hsplit hentry hbears trivial
  case login =>
    intro now answer id asked hentry hbears
    exact kept.numbered.not_awaited_of_unasked hentry hbears rfl
  case keepAlive =>
    intro id asked hid hawaited
    have hping : fieldText? Bybit.keepAlive "req_id" = some "ping" := rfl
    rw [hping] at hid
    cases hid
    obtain ⟨n, hn⟩ := kept.numbered.exists_number hawaited
    have hletter : 'p' ∈ (toString (n + 1)).toList := by
      rw [← hn]
      decide
    exact absurd (isDigit_of_mem_toString hletter) (by decide)
  case unread => exact fun _ hnone => perform_decode_of_none hnone

/-- Whatever is done with a codec, in whatever order, a reply is told to the channel of the request
that it answers, and to no other. -/
theorem run_correlated (credentials : Option Bybit.Credentials) (calls : List Call) :
    ((start credentials).run calls).Correlated :=
  ((Kept.start credentials).run calls).correlated

example : ((start none).run [.subscribe ⟨"tickers", ["btc-usdt"]⟩, .unsubscribe ⟨"order", []⟩,
    .decode (.text "\x7b\"op\":\"subscribe\",\"req_id\":1\x7d")]).codec.pending =
      [("2", .unsubscribe ⟨"order"⟩)] := by decide +kernel

end Usage

end BybitCodec

end ChannelMux
