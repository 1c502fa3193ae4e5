import ChannelMux.Text.Ascii
import ChannelMux.Text.Blank

/-!
Instrument names on OKX: a hyphen between base and quote currency, capital letters, and `-SWAP` at
the end of a perpetual swap.
-/
namespace ChannelMux.Okx

/-- Quote currencies in the order in which they are tried. -/
def quotes : List (List Char) :=
  [['U', 'S', 'D', 'T'], ['U', 'S', 'D', 'C'], ['B', 'T', 'C'], ['E', 'T', 'H'], ['E', 'U', 'R'],
    ['D', 'A', 'I']]

/-- The part before a suffix. -/
def beforeSuffix? (suffix s : List Char) : Option (List Char) :=
  if suffix.isSuffixOf s then some (s.take (s.length - suffix.length)) else none

/-- Puts a hyphen before the first quote currency that ends the symbol with something before it. -/
def hyphenate (s : List Char) : List Char :=
  match quotes.findSome? (fun quote =>
      match beforeSuffix? quote s with
      | some (c :: base) => some (c :: base ++ '-' :: quote)
      | _ => none) with
  | some hyphenated => hyphenated
  | none => s

def instrumentChars (symbol : List Char) : List Char :=
  let s := (Text.trimChars symbol).map Char.toUpper
  if '-' ∈ s then s else hyphenate s

/-- The spot instrument for a symbol in either spelling, `btcusdt` or `BTC-USDT`. A symbol without a
known quote currency is taken as it is. -/
def instrument (symbol : String) : String := String.ofList (instrumentChars symbol.toList)

def swapSuffix : List Char := ['-', 'S', 'W', 'A', 'P']

/-- The perpetual swap for a symbol in any spelling. -/
def swapInstrument (symbol : String) : String :=
  let s := instrumentChars symbol.toList
  String.ofList (if swapSuffix.isSuffixOf s then s else s ++ swapSuffix)

end ChannelMux.Okx
