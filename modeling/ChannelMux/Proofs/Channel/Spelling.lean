import ChannelMux.Bybit.Codec
import ChannelMux.Proofs.Json.Written
import ChannelMux.Proofs.Okx.Agreement

/-!
Spellings of one request. Blanks around the name and the arguments, and empty arguments behind them,
do not change the canonical key; whether they change what is sent is up to the exchange. On OKX the
name is sent as it is spelled. On Bybit an empty argument in last place stands where the symbol is
looked for.
-/
namespace ChannelMux

theorem Text.trim_eq_empty_iff {s : String} : trim s = "" ↔ trimChars s.toList = [] := by
  rw [← String.toList_eq_nil_iff, toList_trim]

namespace ChannelKey

/-- What is cut from the end is empty, and what is left does not end so. -/
theorem exists_blanks (args : List String) :
    ∃ blanks : List (List Char), args.map (fun a => Text.trimChars a.toList) =
      canonicalArgs args ++ blanks ∧ ∀ blank ∈ blanks, blank = [] := by
  let parts := args.map (fun a => Text.trimChars a.toList)
  refine ⟨(parts.reverse.takeWhile List.isEmpty).reverse, ?_, fun blank hblank => ?_⟩
  · change parts = (parts.reverse.dropWhile List.isEmpty).reverse ++ _
    rw [← List.reverse_append, List.takeWhile_append_dropWhile, List.reverse_reverse]
  · exact List.isEmpty_iff.mp (List.mem_takeWhile_imp (List.mem_reverse.mp hblank))

theorem ne_nil_of_getLast?_canonicalArgs {args : List String} {part : List Char}
    (hpart : part ∈ (canonicalArgs args).getLast?) : part ≠ [] := by
  obtain ⟨hne, rfl⟩ := List.mem_getLast?_eq_getLast hpart
  intro hnil
  exact List.rdropWhile_last_not List.isEmpty _ hne (List.isEmpty_iff.mpr hnil)

/-- Behind an argument that is not empty nothing is cut. -/
theorem canonicalArgs_concat (init : List String) {last : String}
    (hlast : Text.trimChars last.toList ≠ []) : canonicalArgs (init ++ [last]) =
      init.map (fun a => Text.trimChars a.toList) ++ [Text.trimChars last.toList] := by
  rw [canonicalArgs, List.map_append]
  exact List.rdropWhile_concat_neg _ _ _ (mt List.isEmpty_iff.mp hlast)

end ChannelKey

namespace ChannelRequest

variable {r₁ r₂ : ChannelRequest}

/-- The last argument is empty. -/
def endsBlank (request : ChannelRequest) : Bool :=
  request.args.getLast?.any (fun last => Text.trim last = "")

/-- An argument that is there is one of those that make up the key. -/
theorem arg_eq (request : ChannelRequest) (i : Nat) :
    request.arg i = (ChannelKey.canonicalArgs request.args)[i]?.bind (fun part =>
      if part = [] then none else some (String.ofList part)) := by
  obtain ⟨blanks, hparts, hblank⟩ := ChannelKey.exists_blanks request.args
  have hraw : request.arg i = (request.args.map (fun a => Text.trimChars a.toList))[i]?.bind
      (fun part => if part = [] then none else some (String.ofList part)) := by
    rw [arg, List.getElem?_map, Option.bind_map]
    congr 1
    funext a
    simp only [Text.trim_eq_empty_iff, Function.comp]
    rfl
  rw [hraw, hparts, List.getElem?_append]
  split
  · rfl
  · rename_i hbeyond
    rw [List.getElem?_eq_none (Nat.le_of_not_lt hbeyond)]
    cases hblanks : blanks[i - (ChannelKey.canonicalArgs request.args).length]? with
    | none => rfl
    | some blank => rw [hblank blank (List.mem_of_getElem? hblanks), Option.bind_some, if_pos rfl,
        Option.bind_none]

theorem arg_eq_of_key_eq (same : r₁.key = r₂.key) (i : Nat) : r₁.arg i = r₂.arg i := by
  rw [arg_eq, arg_eq, (ChannelKey.ofParts_eq_iff.mp same).2]

end ChannelRequest

namespace Codec

variable {κ ν : Type} [Codec κ ν]

/-- What is sent to subscribe, if anything. -/
def subscribeFrame? (codec : κ) (request : ChannelRequest) : Option Frame :=
  ((Codec.encodeSubscribe codec request).map Prod.fst).toOption

/-- Two requests come to one subscription: they have one key, and the same is sent for them. -/
structure Alike (codec : κ) (r₁ r₂ : ChannelRequest) : Prop where
  key : Codec.subscriptionKey codec r₁ = Codec.subscriptionKey codec r₂
  written : subscribeFrame? codec r₁ = subscribeFrame? codec r₂

end Codec

namespace Okx

open Json

namespace Argument

/-- Channels that can be requested without an argument. -/
def free : List String := byType ++ "account" :: bare

variable {request r₁ r₂ : ChannelRequest} {argument other : Argument}

theorem exists_error_iff :
    (∃ cause, ofRequest request = .error cause) ↔
      request.name ∉ free ∧ request.arg 0 = none := by
  have hfree : request.name ∈ free ↔
      request.name ∈ byType ∨ request.name = "account" ∨ request.name ∈ bare := by
    simp [free]
  unfold ofRequest
  simp only
  rw [hfree]
  split_ifs with hname haccount hbare hkinds
  · simp [hname]
  · simp [haccount]
  · simp [hbare]
  · cases request.arg 0 <;> simp_all
  · cases request.arg 0 <;> simp_all

/-- The members that an argument is sent with. -/
def members (argument : Argument) : List (String × String) :=
  argument.ccy.toList.map ("ccy", ·) ++ [("channel", argument.channel)] ++
    argument.instId.toList.map ("instId", ·) ++ argument.instType.toList.map ("instType", ·)

theorem toValue_eq (argument : Argument) :
    argument.toValue = .object (Value.texts argument.members) := by
  obtain ⟨channel, instType, instId, ccy⟩ := argument
  cases instType <;> cases instId <;> cases ccy <;> rfl

theorem channel_eq_of_members (h : argument.members = other.members) :
    argument.channel = other.channel := by
  obtain ⟨channel, instType, instId, ccy⟩ := argument
  obtain ⟨channel', instType', instId', ccy'⟩ := other
  cases ccy <;> cases ccy' <;> simp_all [members]

/-- A request named alike, under the same key, is sent with the same argument. -/
theorem ofRequest_eq_of_name_eq (hname : r₁.name = r₂.name) (same : r₁.key = r₂.key) :
    ofRequest r₁ = ofRequest r₂ := by
  unfold ofRequest
  rw [hname, ChannelRequest.arg_eq_of_key_eq same 0, ChannelRequest.arg_eq_of_key_eq same 1]

end Argument

theorem subscriptionKey_of_error {request : ChannelRequest} {cause : Error}
    (h : Argument.ofRequest request = .error cause) : subscriptionKey request = request.key := by
  rw [subscriptionKey, h]

end Okx

namespace OkxCodec

open Json Okx

variable {codec : OkxCodec} {r₁ r₂ : ChannelRequest} {argument other : Argument} {op : String}

/-- The channel can be told from the frame. -/
theorem channel_eq_of_request_eq (h : codec.request op argument = codec.request op other) :
    argument.channel = other.channel := by
  have hchars : ∀ a : Argument, (codec.request op a).text?.map String.toList = some
      ('\x7b' :: (Value.writeMembers [("args", .array [a.toValue]),
        ("id", .string (toString codec.nextId)), ("op", .string op)] ++ ['\x7d'])) := by
    intro a
    exact congrArg some String.toList_ofList
  have hsame := hchars argument
  rw [h, hchars] at hsame
  simp only [Option.some.injEq, List.cons.injEq, true_and, Value.writeMembers,
    List.append_cancel_right_eq, List.append_cancel_left_eq, Value.writeChars, Value.writeItems,
    Argument.toValue_eq] at hsame
  exact Argument.channel_eq_of_members (Value.writeMembers_texts_inj hsame.symm)

theorem subscribeFrame?_of_ok (h : Argument.ofRequest r₁ = .ok argument) :
    Codec.subscribeFrame? codec r₁ = some (codec.request "subscribe" argument) := by
  change ((codec.encodeSubscribe r₁).map Prod.fst).toOption = _
  rw [encodeSubscribe_eq h]
  rfl

theorem subscribeFrame?_of_error {cause : Error} (h : Argument.ofRequest r₁ = .error cause) :
    Codec.subscribeFrame? codec r₁ = none := by
  change ((codec.encodeSubscribe r₁).map Prod.fst).toOption = _
  rw [encodeSubscribe_error h]
  rfl

/-- It is enough that two requests are sent with the same argument, or that neither can be sent and
they have one canonical key. -/
theorem alike_of_ofRequest_eq (hsame : Argument.ofRequest r₁ = Argument.ofRequest r₂)
    (hkey : ∀ cause, Argument.ofRequest r₂ = .error cause → r₁.key = r₂.key) :
    Codec.Alike codec r₁ r₂ := by
  cases h₂ : Argument.ofRequest r₂ with
  | ok argument =>
    have h₁ := hsame.trans h₂
    constructor
    · exact (subscriptionKey_eq h₁).trans (subscriptionKey_eq h₂).symm
    · rw [subscribeFrame?_of_ok h₁, subscribeFrame?_of_ok h₂]
  | error cause =>
    have h₁ := hsame.trans h₂
    constructor
    · exact (subscriptionKey_of_error h₁).trans
        ((hkey cause h₂).trans (subscriptionKey_of_error h₂).symm)
    · rw [subscribeFrame?_of_error h₁, subscribeFrame?_of_error h₂]

/-- The two are named alike, or neither can be sent. -/
theorem alike_iff (same : r₁.key = r₂.key) :
    Codec.Alike codec r₁ r₂ ↔ r₁.name = r₂.name ∨
      r₁.arg 0 = none ∧ r₁.name ∉ Argument.free ∧ r₂.name ∉ Argument.free := by
  have harg : r₁.arg 0 = r₂.arg 0 := ChannelRequest.arg_eq_of_key_eq same 0
  constructor
  · intro alike
    have hwritten := alike.written
    cases h₁ : Argument.ofRequest r₁ with
    | ok argument =>
      cases h₂ : Argument.ofRequest r₂ with
      | ok other =>
        rw [subscribeFrame?_of_ok h₁, subscribeFrame?_of_ok h₂] at hwritten
        have hchannel := channel_eq_of_request_eq (Option.some.inj hwritten)
        rw [(Argument.form h₁).channel, (Argument.form h₂).channel] at hchannel
        exact Or.inl hchannel
      | error cause =>
        rw [subscribeFrame?_of_ok h₁, subscribeFrame?_of_error h₂] at hwritten
        cases hwritten
    | error cause =>
      cases h₂ : Argument.ofRequest r₂ with
      | ok other =>
        rw [subscribeFrame?_of_error h₁, subscribeFrame?_of_ok h₂] at hwritten
        cases hwritten
      | error cause' =>
        obtain ⟨hname₁, hnone⟩ := Argument.exists_error_iff.mp ⟨cause, h₁⟩
        exact Or.inr ⟨hnone, hname₁, (Argument.exists_error_iff.mp ⟨cause', h₂⟩).1⟩
  · rintro (hname | ⟨hnone, hname₁, hname₂⟩)
    · exact alike_of_ofRequest_eq (Argument.ofRequest_eq_of_name_eq hname same) fun _ _ => same
    · obtain ⟨cause₁, h₁⟩ := Argument.exists_error_iff.mpr ⟨hname₁, hnone⟩
      obtain ⟨cause₂, h₂⟩ := Argument.exists_error_iff.mpr ⟨hname₂, harg.symm.trans hnone⟩
      constructor
      · change subscriptionKey r₁ = subscriptionKey r₂
        rw [subscriptionKey_of_error h₁, subscriptionKey_of_error h₂, same]
      · rw [subscribeFrame?_of_error h₁, subscribeFrame?_of_error h₂]

end OkxCodec

namespace Bybit

/-- A part behind a dot, or nothing if it is empty. -/
def dotted (part : List Char) : List Char := if part = [] then [] else '.' :: part

/-- Parts as they are. -/
def plainTopic (parts : List (List Char)) : List Char := parts.flatMap dotted

/-- Parts of which the last is a symbol. -/
def symbolTopic (parts : List (List Char)) : List Char :=
  parts.dropLast.flatMap dotted ++ parts.getLast?.elim [] (fun part => '.' :: symbolChars part)

theorem topicPart_of_blank (write : List Char → List Char) {arg : String}
    (hblank : Text.trimChars arg.toList = []) : topicPart write arg = [] := by
  unfold topicPart
  rw [hblank]

theorem topicPart_of_not_blank (write : List Char → List Char) {arg : String}
    (hblank : Text.trimChars arg.toList ≠ []) :
    topicPart write arg = '.' :: write (Text.trimChars arg.toList) := by
  unfold topicPart
  cases htrim : Text.trimChars arg.toList with
  | nil => exact absurd htrim hblank
  | cons c rest => rfl

/-- Arguments that are no symbols. -/
theorem flatMap_topicPart_id (args : List String) : args.flatMap (topicPart id) =
    (args.map (fun a => Text.trimChars a.toList)).flatMap dotted := by
  rw [List.flatMap_map]
  congr 1
  funext arg
  by_cases hblank : Text.trimChars arg.toList = []
  · rw [topicPart_of_blank id hblank, dotted, if_pos hblank]
  · rw [topicPart_of_not_blank id hblank, dotted, if_neg hblank]
    rfl

theorem topicArgs_append_singleton (init : List String) (last : String) :
    topicArgs (init ++ [last]) = init.flatMap (topicPart id) ++ topicPart symbolChars last := by
  induction init with
  | nil => rfl
  | cons arg rest ih =>
    rw [List.flatMap_cons, List.append_assoc, ← ih]
    cases rest <;> rfl

theorem flatMap_topicPart (args : List String) :
    args.flatMap (topicPart id) = plainTopic (ChannelKey.canonicalArgs args) := by
  obtain ⟨blanks, hparts, hblank⟩ := ChannelKey.exists_blanks args
  have hblanks : blanks.flatMap dotted = [] := by
    refine List.flatMap_eq_nil_iff.mpr fun blank hmem => ?_
    rw [hblank blank hmem]
    rfl
  rw [flatMap_topicPart_id, hparts, List.flatMap_append, hblanks, List.append_nil, plainTopic]

/-- The last argument is a symbol, unless there is nothing in it. -/
theorem topicArgs_eq (request : ChannelRequest) :
    topicArgs request.args =
      if request.endsBlank then plainTopic (ChannelKey.canonicalArgs request.args)
      else symbolTopic (ChannelKey.canonicalArgs request.args) := by
  obtain ⟨name, args⟩ := request
  rcases args.eq_nil_or_concat with rfl | ⟨init, last, rfl⟩
  · rfl
  · rw [List.concat_eq_append]
    have hends : ChannelRequest.endsBlank ⟨name, init ++ [last]⟩ =
        decide (Text.trimChars last.toList = []) := by
      rw [ChannelRequest.endsBlank, List.getLast?_concat, Option.any_some, decide_eq_decide,
        Text.trim_eq_empty_iff]
    by_cases hblank : Text.trimChars last.toList = []
    · rw [hends, if_pos (decide_eq_true hblank), topicArgs_append_singleton,
        topicPart_of_blank symbolChars hblank, ← flatMap_topicPart, List.flatMap_append,
        List.flatMap_singleton, topicPart_of_blank id hblank]
    · rw [hends, if_neg (by simpa using hblank), topicArgs_append_singleton,
        topicPart_of_not_blank symbolChars hblank, flatMap_topicPart_id,
        ChannelKey.canonicalArgs_concat init hblank, symbolTopic, List.dropLast_concat,
        List.getLast?_concat, Option.elim_some]

theorem plainTopic_eq_symbolTopic_iff {parts : List (List Char)}
    (hlast : ∀ part ∈ parts.getLast?, part ≠ []) :
    plainTopic parts = symbolTopic parts ↔
      ∀ part ∈ parts.getLast?, symbolChars part = part := by
  rcases parts.eq_nil_or_concat with rfl | ⟨init, last, rfl⟩
  · simp [plainTopic, symbolTopic]
  · rw [List.concat_eq_append] at hlast ⊢
    have hne : last ≠ [] := hlast last (by simp)
    simp [plainTopic, symbolTopic, dotted, hne, eq_comm]

variable {r₁ r₂ : ChannelRequest}

theorem topic_eq_iff (same : r₁.key = r₂.key) :
    topic r₁ = topic r₂ ↔ r₁.endsBlank = r₂.endsBlank ∨
      ∀ part ∈ (ChannelKey.canonicalArgs r₁.args).getLast?, symbolChars part = part := by
  obtain ⟨hname, hargs⟩ := ChannelKey.ofParts_eq_iff.mp same
  have hlast : ∀ part ∈ (ChannelKey.canonicalArgs r₁.args).getLast?, part ≠ [] :=
    fun _ hpart => ChannelKey.ne_nil_of_getLast?_canonicalArgs hpart
  have hplain := plainTopic_eq_symbolTopic_iff hlast
  rw [topic, topic, String.ofList_inj, Text.trim_eq_iff.mp hname, List.append_cancel_left_eq,
    topicArgs_eq, topicArgs_eq, ← hargs, ← hplain]
  cases r₁.endsBlank <;> cases r₂.endsBlank <;> simp [eq_comm]

end Bybit

namespace BybitCodec

open Bybit

variable {codec : BybitCodec} {r₁ r₂ : ChannelRequest}

/-- Either both spellings have their symbol in last place or neither has, or it makes no difference
to it. -/
theorem alike_iff (same : r₁.key = r₂.key) :
    Codec.Alike codec r₁ r₂ ↔ r₁.endsBlank = r₂.endsBlank ∨
      ∀ part ∈ (ChannelKey.canonicalArgs r₁.args).getLast?, symbolChars part = part := by
  rw [← topic_eq_iff same]
  constructor
  · intro alike
    exact congrArg ChannelKey.text alike.key
  · intro htopic
    have hname : Text.trim r₁.name = Text.trim r₂.name := (ChannelKey.ofParts_eq_iff.mp same).1
    constructor
    · exact congrArg ChannelKey.mk htopic
    · change ((codec.encodeSubscribe r₁).map Prod.fst).toOption =
        ((codec.encodeSubscribe r₂).map Prod.fst).toOption
      unfold encodeSubscribe operation
      rw [hname, htopic]

end BybitCodec

namespace ChannelRequest

open Okx

/-- Spellings of one request come to one subscription on OKX exactly if the name is spelled alike or
neither can be sent. On Bybit they do exactly if both end in an empty argument or neither does,
unless the symbol is written as it would be sent. -/
theorem spellings_alike_iff {r₁ r₂ : ChannelRequest} (same : r₁.key = r₂.key) (okx : OkxCodec)
    (bybit : BybitCodec) :
    (Codec.Alike okx r₁ r₂ ↔ r₁.name = r₂.name ∨
      r₁.arg 0 = none ∧ r₁.name ∉ Argument.free ∧ r₂.name ∉ Argument.free) ∧
    (Codec.Alike bybit r₁ r₂ ↔ r₁.endsBlank = r₂.endsBlank ∨
      ∀ part ∈ (ChannelKey.canonicalArgs r₁.args).getLast?, Bybit.symbolChars part = part) :=
  ⟨OkxCodec.alike_iff same, BybitCodec.alike_iff same⟩

theorem spaced_spelling_alike :
    key ⟨"kline", ["1", "btc-usdt"]⟩ = key ⟨"kline", [" 1", "btc-usdt "]⟩ ∧
      Codec.Alike (OkxCodec.start none) ⟨"kline", ["1", "btc-usdt"]⟩
        ⟨"kline", [" 1", "btc-usdt "]⟩ ∧
      Codec.Alike (BybitCodec.start none) ⟨"kline", ["1", "btc-usdt"]⟩
        ⟨"kline", [" 1", "btc-usdt "]⟩ := by
  have hkey : key ⟨"kline", ["1", "btc-usdt"]⟩ = key ⟨"kline", [" 1", "btc-usdt "]⟩ := by
    decide +kernel
  obtain ⟨hokx, hbybit⟩ := spellings_alike_iff hkey (OkxCodec.start none) (BybitCodec.start none)
  exact ⟨hkey, hokx.mpr (Or.inl rfl), hbybit.mpr (Or.inl (by decide +kernel))⟩

/-- A blank before the name is sent to OKX, and an empty argument in last place keeps Bybit from
finding the symbol. -/
theorem spellings_differ :
    (key ⟨"tickers", ["BTC-USDT"]⟩ = key ⟨" tickers", ["BTC-USDT"]⟩ ∧
      ¬Codec.Alike (OkxCodec.start none) ⟨"tickers", ["BTC-USDT"]⟩ ⟨" tickers", ["BTC-USDT"]⟩) ∧
    key ⟨"kline", ["1", "btc-usdt"]⟩ = key ⟨"kline", ["1", "btc-usdt", ""]⟩ ∧
      ¬Codec.Alike (BybitCodec.start none) ⟨"kline", ["1", "btc-usdt"]⟩
        ⟨"kline", ["1", "btc-usdt", ""]⟩ := by
  have htickers : key ⟨"tickers", ["BTC-USDT"]⟩ = key ⟨" tickers", ["BTC-USDT"]⟩ := by
    decide +kernel
  have hkline : key ⟨"kline", ["1", "btc-usdt"]⟩ = key ⟨"kline", ["1", "btc-usdt", ""]⟩ := by
    decide +kernel
  refine ⟨⟨htickers, mt (OkxCodec.alike_iff htickers).mp ?_⟩,
    hkline, mt (BybitCodec.alike_iff hkline).mp ?_⟩
  · decide +kernel
  · decide +kernel

end ChannelRequest

end ChannelMux
