import ChannelMux.Proofs.Channel.Spelling

/-!
Spellings of a symbol. An instrument is written in capitals without blanks around it and with its
hyphen, and reading it as a symbol again changes nothing. So whoever asks with the instrument that
the exchange answers with comes to the same subscription.
-/
namespace ChannelMux

open Text

theorem ChannelRequest.arg_zero_cons (name symbol : String) (rest : List String) :
    ChannelRequest.arg ⟨name, symbol :: rest⟩ 0 =
      if trim symbol = "" then none else some (trim symbol) := rfl

namespace Okx

variable {s : List Char} {name symbol : String} {rest others : List String}

/-- What reading a symbol makes of it. -/
structure Settled (s : List Char) : Prop where
  trimmed : Trimmed s
  capital : s.map Char.toUpper = s
  hyphenated : '-' ∈ s ∨ hyphenate s = s

theorem Settled.instrumentChars_eq (h : Settled s) : instrumentChars s = s := by
  unfold instrumentChars
  simp only
  rw [h.trimmed.trimChars_eq, h.capital]
  split
  · rfl
  · rename_i hplain
    exact h.hyphenated.resolve_left hplain

/-- Apart from blanks and capitals, a symbol stays as it is or gets one hyphen, its first. -/
theorem instrumentChars_cases (symbol : List Char) :
    instrumentChars symbol = (trimChars symbol).map Char.toUpper ∨
      ∃ base quote, '-' ∉ base ++ quote ∧ quote ∈ quotes ∧
        (trimChars symbol).map Char.toUpper = base ++ quote ∧
        instrumentChars symbol = base ++ '-' :: quote := by
  unfold instrumentChars
  simp only
  split
  · exact Or.inl rfl
  · rename_i hplain
    rcases hyphenate_cases ((trimChars symbol).map Char.toUpper) with
      hsame | ⟨c, base, quote, hmem, hsplit, hhyphen⟩
    · exact Or.inl hsame
    · exact Or.inr ⟨c :: base, quote, hsplit ▸ hplain, hmem, hsplit, hhyphen⟩

theorem trimmed_instrumentChars (symbol : List Char) : Trimmed (instrumentChars symbol) := by
  have htrimmed := (trimmed_trimChars symbol).toUpper
  unfold instrumentChars
  simp only
  split
  · exact htrimmed
  · by_cases hempty : (trimChars symbol).map Char.toUpper = []
    · rw [hempty]
      exact trimmed_iff.mpr rfl
    · exact (proper_hyphenate ⟨hempty, htrimmed⟩).trimmed

theorem map_toUpper_instrumentChars (symbol : List Char) :
    (instrumentChars symbol).map Char.toUpper = instrumentChars symbol := by
  have hcapital : ((trimChars symbol).map Char.toUpper).map Char.toUpper =
      (trimChars symbol).map Char.toUpper := by
    simp
  rcases instrumentChars_cases symbol with hsame | ⟨base, quote, -, -, hsplit, hhyphen⟩
  · rw [hsame, hcapital]
  · rw [hsplit, List.map_append] at hcapital
    obtain ⟨hbase, hquote⟩ := List.append_inj hcapital (List.length_map _)
    rw [hhyphen, List.map_append, List.map_cons, hbase, hquote]
    rfl

/-- No second quote currency is split off behind the first. -/
theorem hyphenated_instrumentChars (symbol : List Char) :
    '-' ∈ instrumentChars symbol ∨ hyphenate (instrumentChars symbol) = instrumentChars symbol := by
  unfold instrumentChars
  simp only
  split
  · rename_i hhyphen
    exact Or.inl hhyphen
  · rcases hyphenate_cases ((trimChars symbol).map Char.toUpper) with
      hsame | ⟨c, base, quote, -, -, hhyphen⟩
    · exact Or.inr (congrArg hyphenate hsame)
    · exact Or.inl (hhyphen ▸ by simp)

theorem settled_instrumentChars (symbol : List Char) : Settled (instrumentChars symbol) :=
  ⟨trimmed_instrumentChars symbol, map_toUpper_instrumentChars symbol,
    hyphenated_instrumentChars symbol⟩

theorem instrumentChars_instrumentChars (symbol : List Char) :
    instrumentChars (instrumentChars symbol) = instrumentChars symbol :=
  (settled_instrumentChars symbol).instrumentChars_eq

/-- The swap for an instrument. -/
def swapChars (s : List Char) : List Char :=
  if swapSuffix.isSuffixOf s then s else s ++ swapSuffix

theorem swapChars_swapChars (s : List Char) : swapChars (swapChars s) = swapChars s := by
  have hsuffix : swapSuffix.isSuffixOf (swapChars s) = true := by
    unfold swapChars
    split
    · assumption
    · exact List.isSuffixOf_iff_suffix.mpr (List.suffix_append _ _)
  conv_lhs => rw [swapChars, if_pos hsuffix]

theorem Settled.swapChars (h : Settled s) : Settled (swapChars s) := by
  unfold Okx.swapChars
  split
  · exact h
  · refine ⟨?_, ?_, Or.inl (by simp [swapSuffix])⟩
    · cases hs : s with
      | nil => exact trimmed_iff.mpr (by decide +kernel)
      | cons c base =>
        have hhead := h.trimmed.1 c (by simp [hs])
        exact trimmed_append_hyphen hhead (by decide +kernel)
    · rw [List.map_append, h.capital]
      rfl

theorem toUpper_eq_iff {c d : Char} (hd : d.isAlpha = false) : c.toUpper = d ↔ c = d := by
  have hsmall : ∀ {e : Char}, e.isAlpha = false → e.toUpper = e := by
    intro e he
    rw [Char.isAlpha, Bool.or_eq_false_iff] at he
    exact Char.toUpper_eq_of_not_isLower (Bool.eq_false_iff.mp he.2)
  constructor
  · rintro rfl
    rw [Char.isAlpha_toUpper_eq_isAlpha] at hd
    exact (hsmall hd).symm
  · rintro rfl
    exact hsmall hd

/-- Capitals do not matter to what is left out of a symbol on Bybit. -/
theorem symbolChars_eq (symbol : List Char) : Bybit.symbolChars symbol =
    ((trimChars symbol).map Char.toUpper).filter (fun c => c ≠ '-' && c ≠ '/') := by
  -- capital letters neither make nor unmake a hyphen or a slash
  have hkept : (fun c : Char => c ≠ '-' && c ≠ '/') ∘ Char.toUpper =
      fun c => c ≠ '-' && c ≠ '/' := by
    funext c
    have hhyphen : c.toUpper = '-' ↔ c = '-' := toUpper_eq_iff rfl
    have hslash : c.toUpper = '/' ↔ c = '/' := toUpper_eq_iff rfl
    simp [hhyphen, hslash]
  rw [List.filter_map, hkept]
  rfl

theorem symbolChars_instrumentChars (symbol : List Char) :
    Bybit.symbolChars (instrumentChars symbol) = Bybit.symbolChars symbol := by
  obtain ⟨htrimmed, hcapital, -⟩ := settled_instrumentChars symbol
  rw [symbolChars_eq, symbolChars_eq, htrimmed.trimChars_eq, hcapital]
  rcases instrumentChars_cases symbol with hsame | ⟨base, quote, -, -, hsplit, hhyphen⟩
  · rw [hsame]
  · rw [hsplit, hhyphen, List.filter_append, List.filter_append,
      List.filter_cons_of_neg (by decide)]

theorem instrumentChars_trimChars (symbol : List Char) :
    instrumentChars (trimChars symbol) = instrumentChars symbol := by
  unfold instrumentChars
  rw [(trimmed_trimChars symbol).trimChars_eq]

theorem instrumentChars_eq_nil_iff {symbol : List Char} :
    instrumentChars symbol = [] ↔ trimChars symbol = [] := by
  have hquotes : ∀ quote ∈ quotes, quote ≠ [] := by decide
  rcases instrumentChars_cases symbol with hsame | ⟨base, quote, -, hmem, hsplit, hhyphen⟩
  · rw [hsame, List.map_eq_nil_iff]
  · have hsome : trimChars symbol ≠ [] := by
      rw [← List.map_eq_nil_iff.ne, hsplit]
      exact List.append_ne_nil_of_right_ne_nil base (hquotes quote hmem)
    rw [hhyphen]
    exact iff_of_false (by simp) hsome

@[simp] theorem toList_swapInstrument (symbol : String) :
    (swapInstrument symbol).toList = swapChars (instrumentChars symbol.toList) :=
  String.toList_ofList

theorem instrument_instrument (symbol : String) :
    instrument (instrument symbol) = instrument symbol := by
  rw [instrument, toList_instrument, instrumentChars_instrumentChars, instrument]

theorem trim_instrument (symbol : String) : trim (instrument symbol) = instrument symbol := by
  rw [trim, toList_instrument, (trimmed_instrumentChars _).trimChars_eq, instrument]

theorem instrument_trim (symbol : String) : instrument (trim symbol) = instrument symbol := by
  rw [instrument, toList_trim, instrumentChars_trimChars, instrument]

theorem instrument_eq_empty_iff : instrument symbol = "" ↔ trim symbol = "" := by
  rw [trim_eq_empty_iff, ← instrumentChars_eq_nil_iff, ← toList_instrument,
    String.toList_eq_nil_iff]

theorem swapInstrument_swapInstrument (symbol : String) :
    swapInstrument (swapInstrument symbol) = swapInstrument symbol := by
  have hsettled := (settled_instrumentChars symbol.toList).swapChars
  refine String.toList_inj.mp ?_
  rw [toList_swapInstrument, toList_swapInstrument, hsettled.instrumentChars_eq,
    swapChars_swapChars]

theorem instrument_cases (symbol : String) : instrument symbol = upperAscii (trim symbol) ∨
    ∃ base quote, upperAscii (trim symbol) = base ++ quote ∧
      instrument symbol = base ++ "-" ++ quote := by
  rcases instrumentChars_cases symbol.toList with hsame | ⟨base, quote, -, -, hsplit, hhyphen⟩
  · refine Or.inl (String.toList_inj.mp ?_)
    rw [toList_instrument, hsame, toList_upperAscii, toList_trim]
  · refine Or.inr ⟨String.ofList base, String.ofList quote, ?_, ?_⟩
    · rw [upperAscii, toList_trim, hsplit, String.ofList_append]
    · rw [instrument, hhyphen]
      simp [String.ofList_cons, String.append_assoc]

theorem bybit_symbol_instrument (symbol : String) :
    Bybit.symbol (instrument symbol) = Bybit.symbol symbol := by
  rw [Bybit.symbol, toList_instrument, symbolChars_instrumentChars, Bybit.symbol]

/-- The channel goes by an instrument. -/
def ByInstrument (name : String) : Prop := name ∉ Argument.free ∧ name ≠ "instruments"

instance (name : String) : Decidable (ByInstrument name) := inferInstanceAs (Decidable (_ ∧ _))

theorem ByInstrument.ofRequest_eq (h : ByInstrument name) :
    Argument.ofRequest ⟨name, symbol :: rest⟩ =
      if trim symbol = "" then .error (.encode (name ++ " needs an instrument id"))
      else .ok ⟨name, none, some (instrument symbol), none⟩ := by
  obtain ⟨hfree, hkinds⟩ := h
  simp only [Argument.free, List.mem_append, List.mem_cons, not_or] at hfree
  obtain ⟨htyped, haccount, hbare⟩ := hfree
  unfold Argument.ofRequest
  simp only
  rw [if_neg htyped, if_neg haccount, if_neg hbare, if_neg hkinds, ChannelRequest.arg_zero_cons]
  by_cases hblank : trim symbol = ""
  · rw [if_pos hblank, if_pos hblank]
  · rw [if_neg hblank, if_neg hblank, ← instrument_trim symbol]

theorem ByInstrument.ofRequest_instrument (h : ByInstrument name) :
    Argument.ofRequest ⟨name, instrument symbol :: others⟩ =
      Argument.ofRequest ⟨name, symbol :: rest⟩ := by
  rw [h.ofRequest_eq, h.ofRequest_eq, trim_instrument, instrument_instrument]
  simp only [instrument_eq_empty_iff]

/-- What cannot be sent keeps its canonical key, in which blanks around a symbol do not show. -/
theorem key_instrument (hblank : trim symbol = "") :
    ChannelRequest.key ⟨name, instrument symbol :: rest⟩ =
      ChannelRequest.key ⟨name, symbol :: rest⟩ := by
  have htrim : trimChars (instrument symbol).toList = trimChars symbol.toList := by
    rw [← toList_trim, ← toList_trim, trim_instrument, hblank, instrument_eq_empty_iff.mpr hblank]
  refine ChannelKey.ofParts_eq_iff.mpr ⟨rfl, ?_⟩
  rw [ChannelKey.canonicalArgs, ChannelKey.canonicalArgs, List.map_cons, List.map_cons, htrim]

theorem ByInstrument.alike (h : ByInstrument name) (codec : OkxCodec) :
    Codec.Alike codec ⟨name, instrument symbol :: rest⟩ ⟨name, symbol :: rest⟩ := by
  refine OkxCodec.alike_of_ofRequest_eq h.ofRequest_instrument fun cause hcause => ?_
  rw [h.ofRequest_eq] at hcause
  split at hcause
  · rename_i hblank
    exact key_instrument hblank
  · cases hcause

/-- The instrument is echoed, and whatever is asked for by it comes to the same subscription. -/
theorem ByInstrument.alike_echoed {argument : Argument} {echo : Json.Value} (h : ByInstrument name)
    (hsent : Argument.ofRequest ⟨name, symbol :: rest⟩ = .ok argument)
    (hecho : argument.EchoedBy echo) (codec : OkxCodec) :
    ∃ id, textField? echo "instId" = some id ∧ ∀ others,
      Codec.Alike codec ⟨name, id :: others⟩ ⟨name, symbol :: rest⟩ := by
  refine ⟨instrument symbol, ?_, fun others => ?_⟩
  · rw [hecho "instId" (by decide)]
    rw [h.ofRequest_eq] at hsent
    split at hsent
    · cases hsent
    · cases hsent
      rfl
  · refine OkxCodec.alike_of_ofRequest_eq h.ofRequest_instrument fun cause hcause => ?_
    rw [hsent] at hcause
    cases hcause

/-- The spellings of a symbol agree. -/
structure Agreeing (symbol : String) : Prop where
  settled : instrument (instrument symbol) = instrument symbol
  swapSettled : swapInstrument (swapInstrument symbol) = swapInstrument symbol
  bybit : Bybit.symbol (instrument symbol) = Bybit.symbol symbol
  /-- Apart from blanks and capitals, at most a hyphen is put in. -/
  hyphenated : instrument symbol = upperAscii (trim symbol) ∨
    ∃ base quote, upperAscii (trim symbol) = base ++ quote ∧
      instrument symbol = base ++ "-" ++ quote
  shared : ∀ (codec : OkxCodec) name rest, ByInstrument name →
    Codec.Alike codec ⟨name, instrument symbol :: rest⟩ ⟨name, symbol :: rest⟩
  echoed : ∀ (codec : OkxCodec) name rest argument echo, ByInstrument name →
    Argument.ofRequest ⟨name, symbol :: rest⟩ = .ok argument → argument.EchoedBy echo →
    ∃ id, textField? echo "instId" = some id ∧ ∀ others,
      Codec.Alike codec ⟨name, id :: others⟩ ⟨name, symbol :: rest⟩

/-- Reading a symbol as an instrument changes nothing that matters to anyone who reads it again, so
a channel can be asked for by the symbol or by the instrument that is echoed. -/
theorem symbols_agree (symbol : String) : Agreeing symbol where
  settled := instrument_instrument symbol
  swapSettled := swapInstrument_swapInstrument symbol
  bybit := bybit_symbol_instrument symbol
  hyphenated := instrument_cases symbol
  shared codec _ _ hname := hname.alike codec
  echoed codec _ _ _ _ hname hsent hecho := hname.alike_echoed hsent hecho codec

/-- An echo that tells more than was asked with. -/
def tickersEcho : Json.Value :=
  .ofMembers [("channel", .string "tickers"), ("instId", .string "BTC-USDT"), ("uid", .string "7")]

theorem symbols_agree_btcusdt :
    Codec.subscriptionKey (OkxCodec.start none) ⟨"tickers", ["BTC-USDT"]⟩ =
      Codec.subscriptionKey (OkxCodec.start none) ⟨"tickers", [" btcusdt"]⟩ := by
  have hname : ByInstrument "tickers" := by decide
  have hsent : Argument.ofRequest ⟨"tickers", [" btcusdt"]⟩ =
      .ok ⟨"tickers", none, some "BTC-USDT", none⟩ := by cbv
  have hecho : Argument.EchoedBy ⟨"tickers", none, some "BTC-USDT", none⟩ tickersEcho := by
    decide +kernel
  have hid : textField? tickersEcho "instId" = some "BTC-USDT" := by decide +kernel
  obtain ⟨id, hechoed, halike⟩ := (symbols_agree " btcusdt").echoed (OkxCodec.start none)
    "tickers" [] _ tickersEcho hname hsent hecho
  rw [hid] at hechoed
  cases hechoed
  exact (halike []).key

end Okx

end ChannelMux
