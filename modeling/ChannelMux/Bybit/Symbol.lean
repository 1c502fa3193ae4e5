import ChannelMux.Text.Ascii
import ChannelMux.Text.Blank

/-!
Instrument names and product categories on Bybit.
-/
namespace ChannelMux.Bybit

def symbolChars (symbol : List Char) : List Char :=
  ((Text.trimChars symbol).filter (fun c => c ≠ '-' && c ≠ '/')).map Char.toUpper

/-- Capital letters without hyphens and slashes: `btc-usdt` becomes `BTCUSDT`. -/
def symbol (text : String) : String := String.ofList (symbolChars text.toList)

/-- The products a public stream can be about. -/
inductive Category where
  | spot
  | linear
  | inverse
  | option
deriving DecidableEq, Repr

namespace Category

def name : Category → String
  | spot => "spot"
  | linear => "linear"
  | inverse => "inverse"
  | option => "option"

def all : List Category := [spot, linear, inverse, option]

/-- Reads a name in any case of letters. -/
def parse? (text : String) : Option Category :=
  all.find? (fun category => category.name = Text.lowerAscii text)

end Category

end ChannelMux.Bybit
