import Mathlib
import ChannelMux.Okx.Codec
import ChannelMux.Proofs.Channel.Parts
import ChannelMux.Proofs.Text.Trimmed

/-!
The keys of channels on OKX and the arguments they are requested with. A key keeps only the values
of an argument, but each channel fixes which fields it has, so the argument can be read back from
the key; and whatever echoes an argument is recognised by its key.
-/
namespace ChannelMux

open Text Json

namespace Okx

theorem trimmed_append_hyphen {c : Char} {base quote : List Char} (hhead : isBlank c = false)
    (hlast : quote.getLast?.any (fun d => !isBlank d) = true) :
    Trimmed (c :: base ++ '-' :: quote) := by
  obtain ⟨last, hquote, hblank⟩ := (Option.any_eq_true _ _).mp hlast
  refine ⟨fun d hd => ?_, fun d hd => ?_⟩
  · obtain rfl : c = d := by simpa using hd
    exact hhead
  · rw [List.getLast?_append_of_ne_nil _ (by simp), List.getLast?_cons, hquote] at hd
    obtain rfl : last = d := by simpa using hd
    simpa using hblank

theorem eq_append_of_beforeSuffix? {suffix base s : List Char}
    (h : beforeSuffix? suffix s = some base) : s = base ++ suffix := by
  rw [beforeSuffix?, Option.ite_none_right_eq_some] at h
  obtain ⟨hsuffix, htake⟩ := h
  obtain ⟨front, rfl⟩ := List.isSuffixOf_iff_suffix.mp hsuffix
  rw [List.length_append, Nat.add_sub_cancel, List.take_left, Option.some.injEq] at htake
  rw [htake]

/-- At most a hyphen is put in, between what was there and a quote currency. -/
theorem hyphenate_cases (s : List Char) : hyphenate s = s ∨ ∃ c base quote,
    quote ∈ quotes ∧ s = c :: base ++ quote ∧ hyphenate s = c :: base ++ '-' :: quote := by
  unfold hyphenate
  split
  · rename_i hyphenated hfound
    obtain ⟨quote, hmem, hquote⟩ := List.exists_of_findSome?_eq_some hfound
    split at hquote
    · rename_i c base hbase
      cases hquote
      exact Or.inr ⟨c, base, quote, hmem, eq_append_of_beforeSuffix? hbase, rfl⟩
    · cases hquote
  · exact Or.inl rfl

theorem proper_hyphenate {s : List Char} (h : Proper s) : Proper (hyphenate s) := by
  rcases hyphenate_cases s with hsame | ⟨c, base, quote, hmem, rfl, hhyphen⟩
  · rwa [hsame]
  · have hquotes : ∀ quote ∈ quotes, quote.getLast?.any (fun d => !isBlank d) = true := by
      decide +kernel
    rw [hhyphen]
    exact ⟨by simp, trimmed_append_hyphen (h.trimmed.1 c (by simp)) (hquotes quote hmem)⟩

@[simp] theorem toList_instrument (symbol : String) :
    (instrument symbol).toList = instrumentChars symbol.toList :=
  String.toList_ofList

theorem proper_instrument {symbol : String} (h : Proper symbol.toList) :
    Proper (instrument symbol).toList := by
  rw [toList_instrument, instrumentChars, h.trimmed.trimChars_eq]
  split
  · exact h.toUpper
  · exact proper_hyphenate h.toUpper

theorem proper_upperAscii {s : String} (h : Proper s.toList) : Proper (upperAscii s).toList := by
  rw [toList_upperAscii]
  exact h.toUpper

end Okx

theorem ChannelRequest.proper_arg {request : ChannelRequest} {i : Nat} {s : String}
    (h : request.arg i = some s) : Proper s.toList := by
  obtain ⟨a, -, ha⟩ := Option.bind_eq_some_iff.mp h
  simp only [Option.ite_none_left_eq_some, Option.some.injEq] at ha
  obtain ⟨hempty, rfl⟩ := ha
  refine ⟨fun hnil => hempty (String.toList_eq_nil_iff.mp hnil), ?_⟩
  rw [toList_trim]
  exact trimmed_trimChars _

theorem ChannelRequest.proper_map_arg {request : ChannelRequest} {i : Nat} {f : String → String}
    {part : String} (hf : ∀ {s : String}, Proper s.toList → Proper (f s).toList)
    (h : (request.arg i).map f = some part) : Proper part.toList := by
  obtain ⟨s, hs, rfl⟩ := Option.map_eq_some_iff.mp h
  exact hf (proper_arg hs)

/-- Arguments that are there all count. -/
theorem ChannelKey.canonicalArgs_of_proper {args : List String}
    (h : ∀ a ∈ args, Proper a.toList) : canonicalArgs args = args.map String.toList := by
  have htrim : args.map (fun a => trimChars a.toList) = args.map String.toList :=
    List.map_congr_left fun a ha => (h a ha).trimmed.trimChars_eq
  rw [canonicalArgs, htrim]
  refine List.rdropWhile_eq_self_iff.mpr fun hsome hlast => ?_
  obtain ⟨a, ha, heq⟩ := List.mem_map.mp (List.getLast_mem hsome)
  rw [← heq] at hlast
  exact (h a ha).nonempty (List.isEmpty_iff.mp hlast)

namespace Okx

namespace Argument

/-- The values that make up the key, in their order. -/
def parts (argument : Argument) : List String :=
  argument.instType.toList ++ argument.instId.toList ++ argument.ccy.toList

/-- The argument of a channel with these values. -/
def ofParts (channel : String) (parts : List String) : Argument :=
  if channel ∈ byType then ⟨channel, parts[0]?, parts[1]?, none⟩
  else if channel = "account" then ⟨channel, none, none, parts[0]?⟩
  else if channel ∈ bare then ⟨channel, none, none, none⟩
  else if channel = "instruments" then ⟨channel, parts[0]?, none, none⟩
  else ⟨channel, none, parts[0]?, none⟩

variable {request : ChannelRequest} {argument : Argument}

/-- What a channel is requested with, by its name. -/
inductive Form (request : ChannelRequest) : Argument → Prop
  | typed (hname : request.name ∈ byType) :
      Form request ⟨request.name, some (upperAscii ((request.arg 0).getD "ANY")),
        (request.arg 1).map instrument, none⟩
  | account (hname : request.name ∉ byType) (haccount : request.name = "account") :
      Form request ⟨request.name, none, none, (request.arg 0).map upperAscii⟩
  | bare (hname : request.name ∉ byType) (haccount : request.name ≠ "account")
      (hbare : request.name ∈ Argument.bare) : Form request ⟨request.name, none, none, none⟩
  | kind {kind : String} (hname : request.name ∉ byType) (haccount : request.name ≠ "account")
      (hbare : request.name ∉ Argument.bare) (hkinds : request.name = "instruments")
      (harg : request.arg 0 = some kind) :
      Form request ⟨request.name, some (upperAscii kind), none, none⟩
  | single {symbol : String} (hname : request.name ∉ byType)
      (haccount : request.name ≠ "account") (hbare : request.name ∉ Argument.bare)
      (hkinds : request.name ≠ "instruments") (harg : request.arg 0 = some symbol) :
      Form request ⟨request.name, none, some (instrument symbol), none⟩

theorem form (h : ofRequest request = .ok argument) : Form request argument := by
  unfold ofRequest at h
  simp only at h
  split_ifs at h with hname haccount hbare hkinds
  · cases h
    exact .typed hname
  · cases h
    exact .account hname haccount
  · cases h
    exact .bare hname haccount hbare
  · cases harg : request.arg 0 with
    | none => simp [harg] at h
    | some kind =>
      rw [harg] at h
      cases h
      exact .kind hname haccount hbare hkinds harg
  · cases harg : request.arg 0 with
    | none => simp [harg] at h
    | some symbol =>
      rw [harg] at h
      cases h
      exact .single hname haccount hbare hkinds harg

theorem Form.channel (form : Form request argument) : argument.channel = request.name := by
  cases form <;> rfl

theorem Form.ofParts_parts (form : Form request argument) :
    ofParts request.name argument.parts = argument := by
  cases form with
  | typed hname =>
    rw [ofParts, if_pos hname]
    cases request.arg 1 <;> rfl
  | account hname haccount =>
    rw [ofParts, if_neg hname, if_pos haccount]
    cases request.arg 0 <;> rfl
  | bare hname haccount hbare => rw [ofParts, if_neg hname, if_neg haccount, if_pos hbare]
  | kind hname haccount hbare hkinds harg =>
    rw [ofParts, if_neg hname, if_neg haccount, if_neg hbare, if_pos hkinds]
    rfl
  | single hname haccount hbare hkinds harg =>
    rw [ofParts, if_neg hname, if_neg haccount, if_neg hbare, if_neg hkinds]
    rfl

theorem mem_parts {part : String} : part ∈ argument.parts ↔
    argument.instType = some part ∨ argument.instId = some part ∨ argument.ccy = some part := by
  simp [parts]

theorem Form.proper_parts (form : Form request argument) :
    ∀ part ∈ argument.parts, Proper part.toList := by
  have hany : Proper "ANY".toList := ⟨by decide, trimmed_iff.mpr (by decide +kernel)⟩
  intro part hpart
  rw [mem_parts] at hpart
  cases form with
  | typed hname =>
    rcases hpart with htype | hinst | hccy
    · cases harg : request.arg 0 with
      | none =>
        rw [harg] at htype
        cases htype
        exact proper_upperAscii hany
      | some kind =>
        rw [harg] at htype
        cases htype
        exact proper_upperAscii (ChannelRequest.proper_arg harg)
    · exact ChannelRequest.proper_map_arg proper_instrument hinst
    · cases hccy
  | account hname haccount =>
    rcases hpart with htype | hinst | hccy
    · cases htype
    · cases hinst
    · exact ChannelRequest.proper_map_arg proper_upperAscii hccy
  | bare hname haccount hbare => simp at hpart
  | kind hname haccount hbare hkinds harg =>
    obtain rfl : _ = part := by simpa using hpart
    exact proper_upperAscii (ChannelRequest.proper_arg harg)
  | single hname haccount hbare hkinds harg =>
    obtain rfl : _ = part := by simpa using hpart
    exact proper_instrument (ChannelRequest.proper_arg harg)

/-- The texts that identify a subscription are those of the argument. A member that is no text
counts as absent. -/
def EchoedBy (argument : Argument) (echo : Value) : Prop :=
  ∀ field ∈ "channel" :: keyFields, textField? echo field = textField? argument.toValue field

instance (argument : Argument) (echo : Value) : Decidable (argument.EchoedBy echo) :=
  inferInstanceAs (Decidable (∀ field ∈ "channel" :: keyFields, _))

theorem keyOf?_toValue (argument : Argument) :
    keyOf? argument.toValue = some (ChannelKey.ofParts argument.channel argument.parts) := by
  obtain ⟨channel, instType, instId, ccy⟩ := argument
  cases instType <;> cases instId <;> cases ccy <;> rfl

theorem EchoedBy.keyOf? {echo : Value} (h : argument.EchoedBy echo) :
    keyOf? echo = some (ChannelKey.ofParts argument.channel argument.parts) := by
  have hparts : keyFields.filterMap (textField? echo) =
      keyFields.filterMap (textField? argument.toValue) :=
    List.filterMap_congr fun field hfield => h field (List.mem_cons_of_mem _ hfield)
  rw [← keyOf?_toValue, Okx.keyOf?, Okx.keyOf?, hparts, h "channel" List.mem_cons_self]

end Argument

variable {request : ChannelRequest} {argument : Argument}

theorem subscriptionKey_eq (h : Argument.ofRequest request = .ok argument) :
    subscriptionKey request = ChannelKey.ofParts argument.channel argument.parts := by
  rw [subscriptionKey, h]
  simp only [Argument.keyOf?_toValue, Option.getD_some]

/-- An argument can be read back from its key. -/
theorem argument_eq_of_subscriptionKey {r₁ r₂ : ChannelRequest} {a₁ a₂ : Argument}
    (hname₁ : trim r₁.name = r₁.name) (hname₂ : trim r₂.name = r₂.name)
    (h₁ : Argument.ofRequest r₁ = .ok a₁) (h₂ : Argument.ofRequest r₂ = .ok a₂)
    (hkey : subscriptionKey r₁ = subscriptionKey r₂) : a₁ = a₂ := by
  rw [subscriptionKey_eq h₁, subscriptionKey_eq h₂, ChannelKey.ofParts_eq_iff,
    ChannelKey.canonicalArgs_of_proper ((Argument.form h₁).proper_parts),
    ChannelKey.canonicalArgs_of_proper ((Argument.form h₂).proper_parts),
    (Argument.form h₁).channel, (Argument.form h₂).channel, hname₁, hname₂] at hkey
  obtain ⟨hname, hparts⟩ := hkey
  have hsame : a₁.parts = a₂.parts :=
    List.map_injective_iff.mpr (fun _ _ => String.toList_inj.mp) hparts
  rw [← (Argument.form h₁).ofParts_parts, ← (Argument.form h₂).ofParts_parts, hname, hsame]

end Okx

namespace OkxCodec

open Okx

/-- The message in a frame, if it is one. -/
def message? (frame : Frame) : Option Value := frame.text?.bind Value.parse?

/-- What a message about a channel means comes out under the key of the channel. -/
structure Recognized (codec : OkxCodec) (frame : Frame) (message : Value) (key : ChannelKey) :
    Prop where
  subscribed : textField? message "event" = some "subscribe" →
    ∃ settled, Codec.decode codec frame = .ok (.control (.subscribeAck key), settled)
  unsubscribed : textField? message "event" = some "unsubscribe" →
    Codec.decode codec frame = .ok (.control (.unsubscribeAck key), codec)
  pushed : ∀ event next, Codec.decode codec frame = .ok (.data event, next) →
    Codec.channelOf codec event = some key

variable {codec : OkxCodec} {frame : Frame} {message echo : Value} {key : ChannelKey}

/-- A message is an event or a push. -/
theorem decode_of_parse (hmessage : message? frame = some message) :
    Codec.decode codec frame = match textField? message "event" with
      | some event =>
        .ok (.control (codec.decodeEvent event message).1, (codec.decodeEvent event message).2)
      | none => (decodePush message).map (fun event => (.data event, codec)) := by
  obtain ⟨text, htext, hparse⟩ := Option.bind_eq_some_iff.mp hmessage
  have hpong : text ≠ "pong" := by
    rintro rfl
    have hnone : (Value.parse? "pong").isNone = true := by decide +kernel
    rw [hparse] at hnone
    cases hnone
  change decodeFrame codec frame = _
  unfold decodeFrame
  simp only [htext, hparse]
  rfl

theorem channel_of_decodePush {event : Market.Event} (hkey : keyOf? echo = some key)
    (hecho : message.get? "arg" = some echo) (h : decodePush message = .ok event) :
    event.key = key := by
  unfold decodePush at h
  simp only [hecho, hkey] at h
  split at h
  · cases h
  · split at h
    · cases h
    · cases h
      rfl

theorem recognized (hmessage : message? frame = some message)
    (hecho : message.get? "arg" = some echo) (hkey : keyOf? echo = some key) :
    Recognized codec frame message key := by
  have hdecode : Codec.decode codec frame = _ := decode_of_parse hmessage
  have hasked : (message.get? "arg").bind keyOf? = some key := by rw [hecho]; exact hkey
  refine ⟨fun hevent => ?_, fun hevent => ?_, fun event next hdata => ?_⟩
  · have hack : (codec.decodeEvent "subscribe" message).1 = .subscribeAck key := by
      simp only [decodeEvent, hasked, Option.map_some, Option.getD_some]
    refine ⟨(codec.decodeEvent "subscribe" message).2, ?_⟩
    rw [hdecode, hevent, ← hack]
  · rw [hdecode, hevent]
    simp only [decodeEvent, hasked, Option.map_some, Option.getD_some]
  · rw [hdecode] at hdata
    split at hdata
    · cases hdata
    · cases hpush : decodePush message with
      | error cause => rw [hpush] at hdata; cases hdata
      | ok pushed =>
        rw [hpush] at hdata
        cases hdata
        exact congrArg some (channel_of_decodePush hkey hecho hpush)

theorem encodeSubscribe_eq {request : ChannelRequest} {argument : Argument}
    (h : Argument.ofRequest request = .ok argument) :
    codec.encodeSubscribe request = .ok (codec.request "subscribe" argument, { codec with
      nextId := codec.nextId + 1
      pending := codec.pending ++ [(toString codec.nextId, subscriptionKey request)] }) := by
  simp only [encodeSubscribe, subscriptionKey, h]
  rfl

theorem encodeUnsubscribe_eq {request : ChannelRequest} {argument : Argument}
    (h : Argument.ofRequest request = .ok argument) :
    codec.encodeUnsubscribe request = .ok (codec.request "unsubscribe" argument, { codec with
      nextId := codec.nextId + 1 }) := by
  simp only [encodeUnsubscribe, h]
  rfl

theorem encodeSubscribe_error {request : ChannelRequest} {cause : Error}
    (h : Argument.ofRequest request = .error cause) :
    codec.encodeSubscribe request = .error cause := by
  simp only [encodeSubscribe, h]
  rfl

theorem encodeUnsubscribe_error {request : ChannelRequest} {cause : Error}
    (h : Argument.ofRequest request = .error cause) :
    codec.encodeUnsubscribe request = .error cause := by
  simp only [encodeUnsubscribe, h]
  rfl

/-- Requests that can be sent share a key exactly if they are sent with the same argument. Then it
does not matter which of them is written, and all that echoes the argument is recognised. -/
theorem keys_agree {r₁ r₂ : ChannelRequest} {a₁ a₂ : Argument} (hname₁ : trim r₁.name = r₁.name)
    (hname₂ : trim r₂.name = r₂.name) (h₁ : Argument.ofRequest r₁ = .ok a₁)
    (h₂ : Argument.ofRequest r₂ = .ok a₂) (codec : OkxCodec) :
    (Codec.subscriptionKey codec r₁ = Codec.subscriptionKey codec r₂ ↔
      a₁.toValue = a₂.toValue) ∧
    (Codec.subscriptionKey codec r₁ = Codec.subscriptionKey codec r₂ →
      Codec.encodeSubscribe codec r₁ = Codec.encodeSubscribe codec r₂ ∧
        Codec.encodeUnsubscribe codec r₁ = Codec.encodeUnsubscribe codec r₂) ∧
    ∀ frame message echo, message? frame = some message →
      message.get? "arg" = some echo → a₁.EchoedBy echo →
        Recognized codec frame message (Codec.subscriptionKey codec r₁) := by
  have hread : subscriptionKey r₁ = subscriptionKey r₂ → a₁ = a₂ :=
    argument_eq_of_subscriptionKey hname₁ hname₂ h₁ h₂
  refine ⟨⟨fun hkey => congrArg Argument.toValue (hread hkey), fun hvalue => ?_⟩, fun hkey => ?_,
    fun frame message echo hmessage hecho hechoed => ?_⟩
  · have hkeys := congrArg keyOf? hvalue
    rw [Argument.keyOf?_toValue, Argument.keyOf?_toValue] at hkeys
    change subscriptionKey r₁ = subscriptionKey r₂
    rw [subscriptionKey_eq h₁, subscriptionKey_eq h₂]
    exact Option.some.inj hkeys
  · change subscriptionKey r₁ = subscriptionKey r₂ at hkey
    obtain rfl := hread hkey
    change codec.encodeSubscribe r₁ = codec.encodeSubscribe r₂ ∧
      codec.encodeUnsubscribe r₁ = codec.encodeUnsubscribe r₂
    rw [encodeSubscribe_eq h₁, encodeSubscribe_eq h₂, encodeUnsubscribe_eq h₁,
      encodeUnsubscribe_eq h₂, hkey]
    exact ⟨rfl, rfl⟩
  · refine recognized hmessage hecho ?_
    change keyOf? echo = some (subscriptionKey r₁)
    rw [hechoed.keyOf?, subscriptionKey_eq h₁]

/-- An acknowledgement that tells more of the channel than was asked with. -/
def fullAck : Frame :=
  .text ("\x7b\"event\":\"subscribe\",\"arg\":\x7b\"channel\":\"orders\",\"uid\":7," ++
    "\"instType\":\"SPOT\",\"instId\":\"BTC-USDT\"\x7d\x7d")

/-- How a request is spelled does not count. -/
theorem keys_agree_orders :
    subscriptionKey ⟨"orders", ["spot", "btcusdt"]⟩ =
      subscriptionKey ⟨"orders", [" SPOT", "BTC-USDT "]⟩ ∧
    ∃ settled, Codec.decode (start none) fullAck = .ok
      (.control (.subscribeAck (subscriptionKey ⟨"orders", ["spot", "btcusdt"]⟩)), settled) := by
  let small : ChannelRequest := ⟨"orders", ["spot", "btcusdt"]⟩
  let large : ChannelRequest := ⟨"orders", [" SPOT", "BTC-USDT "]⟩
  let argument : Argument := ⟨"orders", some "SPOT", some "BTC-USDT", none⟩
  have hname : trim small.name = small.name ∧ trim large.name = large.name := by decide +kernel
  have hsmall : Argument.ofRequest small = .ok argument := by cbv
  have hlarge : Argument.ofRequest large = .ok argument := by cbv
  have hparses : (message? fullAck).isSome = true := by decide +kernel
  have hevent : (message? fullAck).bind (textField? · "event") =
      some "subscribe" := by decide +kernel
  have hecho : ((message? fullAck).bind (·.get? "arg")).any
      (fun echo => decide (argument.EchoedBy echo)) = true := by decide +kernel
  obtain ⟨hkeys, -, hrecognized⟩ := keys_agree hname.1 hname.2 hsmall hlarge (start none)
  obtain ⟨message, hmessage⟩ := Option.isSome_iff_exists.mp hparses
  rw [hmessage] at hevent hecho
  obtain ⟨echo, harg, hechoed⟩ := (Option.any_eq_true _ _).mp hecho
  exact ⟨hkeys.mpr rfl,
    (hrecognized _ message echo hmessage harg (of_decide_eq_true hechoed)).subscribed hevent⟩

end OkxCodec

end ChannelMux
