import ChannelMux.Proofs.Log
import ChannelMux.Proofs.Okx.Agreement
import Mathlib.Data.List.Nodup

/-!
Which subscribe an error on OKX is about. A codec remembers exactly the subscribes of the present
connection that nothing has settled, each under an id of its own, so an error that names the id of
one is told to that channel, once, and any other error to the channel it echoes or to none.
-/
namespace ChannelMux.OkxCodec

open Json Okx Market

/-- What a codec is asked to do. -/
inductive Call where
  | subscribe (request : ChannelRequest)
  | unsubscribe (request : ChannelRequest)
  | login (now : Nat)
  | decode (frame : Frame)
  | reset

inductive Answer where
  | wrote (frame : Frame)
  | credentials (frame : Option Frame)
  | read (envelope : Envelope Event)
  | failed (cause : Error)
  | forgot

/-- What fails leaves the codec as it was. -/
def answer {α : Type} (codec : OkxCodec) (f : α → Answer) :
    Except Error (α × OkxCodec) → Answer × OkxCodec
  | .ok (a, next) => (f a, next)
  | .error cause => (.failed cause, codec)

def perform (codec : OkxCodec) : Call → Answer × OkxCodec
  | .subscribe request => codec.answer .wrote (Codec.encodeSubscribe codec request)
  | .unsubscribe request => codec.answer .wrote (Codec.encodeUnsubscribe codec request)
  | .login now => codec.answer .credentials (Codec.encodeLogin codec now)
  | .decode frame => codec.answer .read (Codec.decode codec frame)
  | .reset => (.forgot, Codec.reset codec)

/-- How many requests were written. -/
def requests (history : List (Call × Answer)) : Nat :=
  history.countP fun
    | (_, .wrote _) => true
    | _ => false

/-- A message answers the subscribe with an id, or every subscribe of a key if it is an
acknowledgement without an id. -/
def Settles (message : Value) (id : String) (key : ChannelKey) : Prop :=
  textField? message "event" = some "subscribe" ∧ (textField? message "id" = some id ∨
      textField? message "id" = none ∧ (message.get? "arg").bind keyOf? = some key) ∨
    textField? message "event" = some "error" ∧ textField? message "id" = some id

instance (message : Value) (id : String) (key : ChannelKey) : Decidable (Settles message id key) :=
  inferInstanceAs (Decidable (_ ∧ _ ∨ _ ∧ _))

/-- No answer is due any more to a subscribe with this id and key. -/
def Clears (id : String) (key : ChannelKey) : Call → Prop
  | .reset => True
  | .decode frame => ∃ message, message? frame = some message ∧ Settles message id key
  | .subscribe _ | .unsubscribe _ | .login _ => False

/-- A subscribe was written under this id and key that nothing has cleared since. -/
def Outstanding (history : List (Call × Answer)) (id : String) (key : ChannelKey) : Prop :=
  ∃ before request frame after, history = before ++ (.subscribe request, .wrote frame) :: after ∧
    id = toString (requests before + 1) ∧ key = subscriptionKey request ∧
    ∀ entry ∈ after, ¬ Clears id key entry.1

/-- A request as it is written. -/
def wire (id op : String) (argument : Argument) : Frame :=
  .text (Value.ofMembers [("id", .string id), ("op", .string op),
    ("args", .array [argument.toValue])]).write

/-- What is written for a call bears an id. -/
def Bears (frame : Frame) (id : String) : Call → Prop
  | .subscribe request => ∃ argument, Argument.ofRequest request = .ok argument ∧
    frame = wire id "subscribe" argument
  | .unsubscribe request => ∃ argument, Argument.ofRequest request = .ok argument ∧
    frame = wire id "unsubscribe" argument
  | .login _ | .decode _ | .reset => False

/-- What the exchange says about an error. -/
def reason (message : Value) : String :=
  (fieldText? message "code").getD "" ++ ": " ++ (fieldText? message "msg").getD ""

/-- An error is told to its channel, if it has one. -/
def complaint (message : Value) : Option ChannelKey → ControlEvent
  | some key => .subscribeError key (reason message)
  | none => .error (reason message)

variable {codec : OkxCodec} {history before after : List (Call × Answer)} {entry : Call × Answer}
  {frame : Frame} {message : Value} {id : String} {key : ChannelKey}

theorem toString_nat_inj {m n : Nat} (h : toString m = toString n) : m = n := by
  have hdigits := congrArg (fun s : String => Nat.ofDigitChars 10 s.toList 0) h
  simpa using hdigits

theorem answer_ne_wrote {α : Type} {f : α → Answer} (hf : ∀ a, f a ≠ .wrote frame)
    (outcome : Except Error (α × OkxCodec)) : (codec.answer f outcome).1 ≠ .wrote frame := by
  cases outcome with
  | ok result => exact hf result.1
  | error cause => rintro ⟨⟩

theorem eq_of_answer_failed {α : Type} {f : α → Answer} {cause : Error} {next : OkxCodec}
    {outcome : Except Error (α × OkxCodec)} (hf : ∀ a, f a ≠ .failed cause)
    (h : codec.answer f outcome = (.failed cause, next)) : next = codec := by
  cases outcome with
  | ok result => exact absurd (Prod.mk.inj h).1 (hf result.1)
  | error _ => exact (Prod.mk.inj h).2.symm

@[simp] theorem requests_nil : requests [] = 0 := rfl

@[simp] theorem requests_append (before after : List (Call × Answer)) :
    requests (before ++ after) = requests before + requests after :=
  List.countP_append

@[simp] theorem requests_wrote (call : Call) (frame : Frame) (after : List (Call × Answer)) :
    requests ((call, .wrote frame) :: after) = requests after + 1 :=
  List.countP_cons_of_pos rfl

theorem outstanding_concat : Outstanding (history ++ [entry]) id key ↔
    Outstanding history id key ∧ ¬ Clears id key entry.1 ∨
      ∃ request frame, entry = (.subscribe request, .wrote frame) ∧
        id = toString (requests history + 1) ∧ key = subscriptionKey request := by
  constructor
  · intro h
    obtain ⟨before, request, frame, after, hsplit, hid, hkey, hkept⟩ := h
    rcases concat_eq_append_cons_iff.mp hsplit with ⟨rfl, rfl, -⟩ | ⟨rest, hhistory, rfl⟩
    · exact Or.inr ⟨request, frame, rfl, hid, hkey⟩
    · exact Or.inl ⟨⟨before, request, frame, rest, hhistory, hid, hkey,
        fun e he => hkept e (List.mem_append_left _ he)⟩, hkept entry (by simp)⟩
  · intro h
    rcases h with ⟨⟨before, request, frame, after, rfl, hid, hkey, hkept⟩, hlast⟩ |
      ⟨request, frame, rfl, hid, hkey⟩
    · refine ⟨before, request, frame, after ++ [entry], by simp, hid, hkey, fun e he => ?_⟩
      rcases List.mem_append.mp he with hold | hnew
      · exact hkept e hold
      · rwa [List.mem_singleton.mp hnew]
    · exact ⟨history, request, frame, [], rfl, hid, hkey, by simp⟩

theorem eq_of_cons_eq_append {c₁ c₂ : Call} {f₁ f₂ : Frame} {a₁ a₂ mid : List (Call × Answer)}
    (h : (c₁, .wrote f₁) :: a₁ = mid ++ (c₂, .wrote f₂) :: a₂) (hmid : requests mid = 0) :
    mid = [] ∧ c₁ = c₂ ∧ a₁ = a₂ := by
  cases mid with
  | nil =>
    cases h
    exact ⟨rfl, rfl, rfl⟩
  | cons e mid =>
    cases h
    simp at hmid

/-- Two requests of one history with one number are the same. -/
theorem eq_of_requests_eq {b₁ b₂ a₁ a₂ : List (Call × Answer)} {c₁ c₂ : Call} {f₁ f₂ : Frame}
    (h : b₁ ++ (c₁, .wrote f₁) :: a₁ = b₂ ++ (c₂, .wrote f₂) :: a₂)
    (hnumber : requests b₁ = requests b₂) : b₁ = b₂ ∧ c₁ = c₂ ∧ a₁ = a₂ := by
  rcases List.append_eq_append_iff.mp h with ⟨mid, rfl, hrest⟩ | ⟨mid, rfl, hrest⟩
  · rw [requests_append] at hnumber
    obtain ⟨rfl, hcall, hafter⟩ := eq_of_cons_eq_append hrest (by omega)
    exact ⟨(List.append_nil _).symm, hcall, hafter⟩
  · rw [requests_append] at hnumber
    obtain ⟨rfl, hcall, hafter⟩ := eq_of_cons_eq_append hrest (by omega)
    exact ⟨List.append_nil _, hcall.symm, hafter.symm⟩

/-- An id that was attributed is never outstanding again. -/
theorem Outstanding.spent {answer : Answer} {spent : ChannelKey} (h : Outstanding before id spent)
    (hframe : message? frame = some message) (herror : textField? message "event" = some "error")
    (hid : textField? message "id" = some id) :
    ¬ Outstanding (before ++ (.decode frame, answer) :: after) id key := by
  intro hagain
  obtain ⟨b₁, r₁, f₁, a₁, hsplit, hnumber, -, hkept⟩ := hagain
  obtain ⟨b₂, r₂, f₂, a₂, rfl, hfirst, -⟩ := h
  rw [List.append_assoc, List.cons_append] at hsplit
  obtain ⟨-, -, rfl⟩ :=
    eq_of_requests_eq hsplit (Nat.succ.inj (toString_nat_inj (hfirst.symm.trans hnumber)))
  exact hkept (.decode frame, answer) (by simp) ⟨message, hframe, Or.inr ⟨herror, hid⟩⟩

/-- The id of an unsubscribe is no other request's. -/
theorem not_outstanding_of_unsubscribe {request : ChannelRequest} :
    ¬ Outstanding (before ++ (.unsubscribe request, .wrote frame) :: after)
      (toString (requests before + 1)) key := by
  intro h
  obtain ⟨b₁, r₁, f₁, a₁, hsplit, hnumber, -⟩ := h
  obtain ⟨-, hcall, -⟩ := eq_of_requests_eq hsplit (Nat.succ.inj (toString_nat_inj hnumber))
  cases hcall

/-- Nothing is expected on a connection for a request of an earlier one. -/
theorem not_outstanding_of_reset {answer : Answer} {n : Nat} (hn : n ≤ requests before) :
    ¬ Outstanding (before ++ (.reset, answer) :: after) (toString n) key := by
  intro h
  obtain ⟨b₁, r₁, f₁, a₁, hsplit, hnumber, -, hkept⟩ := h
  obtain rfl := toString_nat_inj hnumber
  rcases List.append_eq_append_iff.mp hsplit with ⟨mid, rfl, hrest⟩ | ⟨mid, rfl, hrest⟩
  · rw [requests_append] at hn
    omega
  · cases mid with
    | nil => cases hrest
    | cons e mid =>
      cases hrest
      exact hkept (.reset, answer) (by simp) trivial

/-- The codec without the subscribes that a message settles. -/
def settle (codec : OkxCodec) (message : Value) : OkxCodec :=
  { codec with pending := codec.pending.filter (fun (id, key) => ¬ Settles message id key) }

theorem settle_eq_self (h : ∀ id key, ¬ Settles message id key) : codec.settle message = codec := by
  have hkept : codec.pending.filter (fun (id, key) => ¬ Settles message id key) = codec.pending :=
    List.filter_eq_self.mpr fun entry _ => decide_eq_true (h entry.1 entry.2)
  rw [settle, hkept]

theorem settleId_eq_settle (h : ∀ i key, Settles message i key ↔ i = id) :
    codec.settleId id = codec.settle message := by
  refine congrArg (fun pending => { codec with pending }) (List.filter_congr fun entry _ => ?_)
  simp [h]

theorem settleKey_eq_settle (h : ∀ id k, Settles message id k ↔ k = key) :
    codec.settleKey key = codec.settle message := by
  refine congrArg (fun pending => { codec with pending }) (List.filter_congr fun entry _ => ?_)
  simp [h]

/-- An event settles what it answers, and nothing else. -/
theorem decodeEvent_snd {event : String} (hevent : textField? message "event" = some event) :
    (codec.decodeEvent event message).2 = codec.settle message := by
  have hid : (message.get? "id").bind Value.string? = textField? message "id" := rfl
  unfold decodeEvent
  simp only [hid]
  split
  · simp only
    cases hnamed : textField? message "id" with
    | some id => exact settleId_eq_settle (by simp [Settles, hevent, hnamed, eq_comm])
    | none =>
      cases hecho : (message.get? "arg").bind keyOf? with
      | none => exact (settle_eq_self (by simp [Settles, hevent, hnamed, hecho])).symm
      | some key =>
        exact settleKey_eq_settle (by simp [Settles, hevent, hnamed, hecho, eq_comm])
  · exact (settle_eq_self (by simp [Settles, hevent])).symm
  · exact (settle_eq_self (by simp [Settles, hevent])).symm
  · simp only
    cases hnamed : textField? message "id" with
    | some id => exact settleId_eq_settle (by simp [Settles, hevent, hnamed, eq_comm])
    | none => exact (settle_eq_self (by simp [Settles, hevent, hnamed])).symm
  · exact (settle_eq_self (by simp [Settles, hevent])).symm
  · exact (settle_eq_self (by simp [Settles, hevent])).symm
  · rename_i hsubscribe _ _ herror _ _
    have hneither : event ≠ "subscribe" ∧ event ≠ "error" := ⟨hsubscribe, herror⟩
    exact (settle_eq_self (by simp [Settles, hevent, hneither])).symm

theorem perform_decode (h : message? frame = some message) :
    (codec.perform (.decode frame)).2 = codec.settle message := by
  rw [perform, decode_of_parse h]
  cases hevent : textField? message "event" with
  | some event => exact decodeEvent_snd hevent
  | none =>
    rw [settle_eq_self (by simp [Settles, hevent])]
    cases decodePush message with
    | error cause => rfl
    | ok event => rfl

/-- What is no message settles nothing. -/
theorem perform_decode_of_none (h : message? frame = none) :
    (codec.perform (.decode frame)).2 = codec := by
  change (codec.answer .read (decodeFrame codec frame)).2 = codec
  unfold decodeFrame
  split
  · rfl
  · rfl
  · rename_i text htext
    rw [message?, htext, Option.bind_some] at h
    rw [h]
    rfl

theorem nextId_perform_decode : (codec.perform (.decode frame)).2.nextId = codec.nextId := by
  cases h : message? frame with
  | none => rw [perform_decode_of_none h]
  | some message => rw [perform_decode h, settle]

theorem pending_perform_decode_sublist :
    (codec.perform (.decode frame)).2.pending.Sublist codec.pending := by
  cases h : message? frame with
  | none => rw [perform_decode_of_none h]
  | some message =>
    rw [perform_decode h]
    exact List.filter_sublist

theorem mem_pending_perform_decode : (id, key) ∈ (codec.perform (.decode frame)).2.pending ↔
    (id, key) ∈ codec.pending ∧ ¬ Clears id key (.decode frame) := by
  cases h : message? frame with
  | none => simp [perform_decode_of_none h, Clears, h]
  | some message => simp [perform_decode h, settle, Clears, h]

theorem perform_decode_error (h : message? frame = some message)
    (hevent : textField? message "event" = some "error") :
    (codec.perform (.decode frame)).1 = .read (.control (complaint message
      (((textField? message "id").bind (fun id => codec.pending.lookup id)).or
        ((message.get? "arg").bind keyOf?)))) := by
  rw [perform, decode_of_parse h, hevent]
  rfl

theorem lookup_pending {β : Type} {pending : List (String × β)} {value : β}
    (distinct : (pending.map Prod.fst).Nodup) (h : (id, value) ∈ pending) :
    pending.lookup id = some value := by
  obtain ⟨before, after, hsplit⟩ := List.append_of_mem h
  refine List.lookup_eq_some_iff.mpr ⟨before, after, hsplit, fun entry hentry => ?_⟩
  rw [hsplit, List.map_append, List.map_cons] at distinct
  have hother := List.disjoint_of_nodup_append distinct (List.mem_map_of_mem hentry)
  exact bne_iff_ne.mpr fun hid => hother (hid ▸ List.mem_cons_self)

/-- A codec with all that was asked of it since the start. -/
structure Usage where
  codec : OkxCodec
  history : List (Call × Answer)

namespace Usage

def start (credentials : Option Credentials) : Usage := ⟨OkxCodec.start credentials, []⟩

def perform (u : Usage) (call : Call) : Usage :=
  ⟨(u.codec.perform call).2, u.history ++ [(call, (u.codec.perform call).1)]⟩

def run (u : Usage) (calls : List Call) : Usage := calls.foldl perform u

/-- The codec knows what its history says. -/
structure Kept (u : Usage) : Prop where
  nextId : u.codec.nextId = requests u.history + 1
  pending : ∀ id key, (id, key) ∈ u.codec.pending ↔ Outstanding u.history id key
  distinct : (u.codec.pending.map Prod.fst).Nodup
  written : Throughout (fun before entry => ∀ frame, entry.2 = .wrote frame →
    Bears frame (toString (requests before + 1)) entry.1) u.history

variable {u : Usage}

theorem Kept.start (credentials : Option Credentials) : (start credentials).Kept := by
  refine ⟨rfl, fun id key => iff_of_false List.not_mem_nil fun h => ?_, List.nodup_nil,
    Throughout.nil⟩
  obtain ⟨before, request, frame, after, hsplit, -⟩ := h
  simp [Usage.start] at hsplit

/-- An id that was given away is none to come. -/
theorem Kept.fresh (kept : u.Kept) : toString u.codec.nextId ∉ u.codec.pending.map Prod.fst := by
  intro hmem
  obtain ⟨⟨id, key⟩, hpending, hid⟩ := List.mem_map.mp hmem
  obtain ⟨before, request, frame, after, hhistory, hnumber, -⟩ := (kept.pending id key).mp hpending
  have hnext := toString_nat_inj (hid.symm.trans hnumber)
  rw [kept.nextId, hhistory] at hnext
  simp at hnext

/-- A call that writes no request. -/
theorem Kept.idle (kept : u.Kept) {call : Call}
    (hanswer : ∀ frame, (u.codec.perform call).1 ≠ .wrote frame)
    (hnext : (u.codec.perform call).2.nextId = u.codec.nextId)
    (hsub : (u.codec.perform call).2.pending.Sublist u.codec.pending)
    (hmem : ∀ id key, (id, key) ∈ (u.codec.perform call).2.pending ↔
      (id, key) ∈ u.codec.pending ∧ ¬ Clears id key call) : (u.perform call).Kept := by
  have hrequests : requests [(call, (u.codec.perform call).1)] = 0 := by
    cases hcall : (u.codec.perform call).1 with
    | wrote frame => exact absurd hcall (hanswer frame)
    | _ => rfl
  refine ⟨?_, fun id key => ?_, kept.distinct.sublist (hsub.map _), kept.written.concat ?_⟩
  · rw [perform, requests_append, hrequests]
    exact hnext.trans kept.nextId
  · change (id, key) ∈ (u.codec.perform call).2.pending ↔ _
    rw [perform, outstanding_concat, hmem, kept.pending]
    refine ⟨Or.inl, fun h => h.resolve_right fun hwrote => ?_⟩
    obtain ⟨request, frame, hentry, -⟩ := hwrote
    exact hanswer frame (Prod.mk.inj hentry).2
  · exact fun frame h => absurd h (hanswer frame)

/-- A call that leaves the codec as it was. -/
theorem Kept.unchanged (kept : u.Kept) {call : Call}
    (hanswer : ∀ frame, (u.codec.perform call).1 ≠ .wrote frame)
    (hsame : (u.codec.perform call).2 = u.codec) (hnone : ∀ id key, ¬ Clears id key call) :
    (u.perform call).Kept := by
  refine kept.idle hanswer ?_ ?_ fun id key => ?_
  · rw [hsame]
  · rw [hsame]
  · rw [hsame]
    exact (and_iff_left (hnone id key)).symm

theorem Kept.subscribed (kept : u.Kept) {request : ChannelRequest} {argument : Argument}
    (h : Argument.ofRequest request = .ok argument) : (u.perform (.subscribe request)).Kept := by
  have hperform : u.codec.perform (.subscribe request) =
      (.wrote (u.codec.request "subscribe" argument), { u.codec with
        nextId := u.codec.nextId + 1
        pending := u.codec.pending ++ [(toString u.codec.nextId, subscriptionKey request)] }) :=
    congrArg (u.codec.answer .wrote) (encodeSubscribe_eq h)
  rw [perform, hperform]
  refine ⟨?_, fun id key => ?_, ?_, kept.written.concat ?_⟩
  · simpa using kept.nextId
  · rw [outstanding_concat, ← kept.pending, ← kept.nextId]
    simp [Clears]
  · rw [List.map_append]
    exact List.concat_eq_append ▸ List.Nodup.concat kept.fresh kept.distinct
  · rintro frame ⟨⟩
    rw [← kept.nextId]
    exact ⟨argument, h, rfl⟩

theorem Kept.unsubscribed (kept : u.Kept) {request : ChannelRequest} {argument : Argument}
    (h : Argument.ofRequest request = .ok argument) : (u.perform (.unsubscribe request)).Kept := by
  have hperform : u.codec.perform (.unsubscribe request) =
      (.wrote (u.codec.request "unsubscribe" argument),
        { u.codec with nextId := u.codec.nextId + 1 }) :=
    congrArg (u.codec.answer .wrote) (encodeUnsubscribe_eq h)
  rw [perform, hperform]
  refine ⟨?_, fun id key => ?_, kept.distinct, kept.written.concat ?_⟩
  · simpa using kept.nextId
  · rw [outstanding_concat, ← kept.pending]
    simp [Clears]
  · rintro frame ⟨⟩
    rw [← kept.nextId]
    exact ⟨argument, h, rfl⟩

theorem Kept.perform (kept : u.Kept) (call : Call) : (u.perform call).Kept := by
  cases call with
  | subscribe request =>
    cases h : Argument.ofRequest request with
    | ok argument => exact kept.subscribed h
    | error cause =>
      have hperform : u.codec.perform (.subscribe request) = (.failed cause, u.codec) :=
        congrArg (u.codec.answer .wrote) (encodeSubscribe_error h)
      exact kept.unchanged (by simp [hperform]) (by rw [hperform]) (by simp [Clears])
  | unsubscribe request =>
    cases h : Argument.ofRequest request with
    | ok argument => exact kept.unsubscribed h
    | error cause =>
      have hperform : u.codec.perform (.unsubscribe request) = (.failed cause, u.codec) :=
        congrArg (u.codec.answer .wrote) (encodeUnsubscribe_error h)
      exact kept.unchanged (by simp [hperform]) (by rw [hperform]) (by simp [Clears])
  | login now => exact kept.unchanged (by rintro frame ⟨⟩) rfl (by simp [Clears])
  | decode frame =>
    exact kept.idle (fun written => answer_ne_wrote (by simp) _) nextId_perform_decode
      pending_perform_decode_sublist fun id key => mem_pending_perform_decode
  | reset =>
    exact kept.idle (by rintro frame ⟨⟩) rfl (List.nil_sublist _)
      fun id key => iff_of_false List.not_mem_nil fun h => h.2 trivial

theorem Kept.run (kept : u.Kept) (calls : List Call) : (u.run calls).Kept := by
  induction calls generalizing u with
  | nil => exact kept
  | cons call calls ih => exact ih (kept.perform call)

/-- What becomes of the subscribes that a codec writes. -/
structure Attributed (u : Usage) : Prop where
  /-- What is remembered is what is outstanding. -/
  pending : ∀ id key, (id, key) ∈ u.codec.pending ↔ Outstanding u.history id key
  distinct : (u.codec.pending.map Prod.fst).Nodup
  written : ∀ before call frame after, u.history = before ++ (call, .wrote frame) :: after →
    Bears frame (toString (requests before + 1)) call
  /-- An error with the id of a subscribe that is outstanding. -/
  owned : ∀ frame message id key, message? frame = some message →
    textField? message "event" = some "error" → textField? message "id" = some id →
      Outstanding u.history id key → (u.codec.perform (.decode frame)).1 =
        .read (.control (.subscribeError key (reason message)))
  /-- An error without an id, or with one that is not outstanding. -/
  unowned : ∀ frame message, message? frame = some message →
    textField? message "event" = some "error" →
      (∀ id key, textField? message "id" = some id → ¬ Outstanding u.history id key) →
        (u.codec.perform (.decode frame)).1 =
          .read (.control (complaint message ((message.get? "arg").bind keyOf?)))
  /-- What an error was attributed by is forgotten for good. -/
  once : ∀ before frame answer after message id spent key,
    u.history = before ++ (.decode frame, answer) :: after → message? frame = some message →
      textField? message "event" = some "error" → textField? message "id" = some id →
        Outstanding before id spent → (id, key) ∉ u.codec.pending
  unsubscribed : ∀ before request frame after key,
    u.history = before ++ (.unsubscribe request, .wrote frame) :: after →
      (toString (requests before + 1), key) ∉ u.codec.pending
  /-- Nothing is remembered of an earlier connection. -/
  earlier : ∀ before answer after n key, u.history = before ++ (.reset, answer) :: after →
    n ≤ requests before → (toString n, key) ∉ u.codec.pending
  failed : ∀ call cause next, u.codec.perform call = (.failed cause, next) → next = u.codec

theorem Kept.attributed (kept : u.Kept) : u.Attributed := by
  constructor
  case pending => exact kept.pending
  case distinct => exact kept.distinct
  case written =>
    exact fun before call frame after hsplit => kept.written before _ after hsplit frame rfl
  case owned =>
    intro frame message id key hframe hevent hid hours
    have hlookup := lookup_pending kept.distinct ((kept.pending id key).mpr hours)
    rw [perform_decode_error hframe hevent, hid, Option.bind_some, hlookup]
    rfl
  case unowned =>
    intro frame message hframe hevent hnone
    have hlookup : (textField? message "id").bind (fun id => u.codec.pending.lookup id) = none := by
      refine Option.bind_eq_none_iff.mpr fun id hid => ?_
      refine List.lookup_eq_none_iff.mpr fun entry hentry => bne_iff_ne.mpr ?_
      rintro rfl
      exact hnone entry.1 entry.2 hid ((kept.pending _ _).mp hentry)
    rw [perform_decode_error hframe hevent, hlookup]
    rfl
  case once =>
    intro before frame answer after message id spent key hsplit hframe hevent hid hspent
    rw [kept.pending, hsplit]
    exact hspent.spent hframe hevent hid
  case unsubscribed =>
    intro before request frame after key hsplit
    rw [kept.pending, hsplit]
    exact not_outstanding_of_unsubscribe
  case earlier =>
    intro before answer after n key hsplit hn
    rw [kept.pending, hsplit]
    exact not_outstanding_of_reset hn
  case failed =>
    intro call cause next h
    cases call with
    | reset | login now => cases h
    | subscribe request | unsubscribe request | decode frame =>
      rw [OkxCodec.perform] at h
      exact eq_of_answer_failed (by simp) h

theorem run_attributed (credentials : Option Credentials) (calls : List Call) :
    ((start credentials).run calls).Attributed :=
  ((Kept.start credentials).run calls).attributed

example : ((start none).run [.subscribe ⟨"tickers", ["btcusdt"]⟩, .subscribe ⟨"instruments", []⟩,
    .unsubscribe ⟨"tickers", ["btcusdt"]⟩, .subscribe ⟨"account", []⟩,
    .decode (.text "\x7b\"event\":\"error\",\"id\":\"1\"\x7d")]).codec.pending =
      [("3", ⟨"account"⟩)] := by decide +kernel

end Usage

end ChannelMux.OkxCodec
