import ChannelMux.Decimal.Reading
import ChannelMux.Market.Event

/-!
Reading market data out of JSON. Exchanges write numbers as strings or as JSON numbers, by field, so
both are taken everywhere.
-/
namespace ChannelMux.Market

open Json

def double? : Value → Option Binary64
  | .string s => Decimal.double? s
  | .number n => some n.toBinary64
  | _ => none

def nat? : Value → Option Nat
  | .string s => Decimal.nat64? s
  | .number n => n.nat?
  | _ => none

/-- A text or number under a key, as text. -/
def fieldText? (v : Value) (key : String) : Option String :=
  match v.get? key with
  | some (.string s) => some s
  | some (.number n) => some n.write
  | _ => none

/-- A price and a size at the head of an array. -/
def level? (v : Value) : Option Level :=
  match v with
  | .array (price :: size :: _) => do some ⟨← double? price, ← double? size⟩
  | _ => none

/-- The levels of one side of a book; what is no level is passed over. -/
def levels (v : Option Value) : List Level :=
  match v with
  | some (.array items) => items.filterMap level?
  | _ => []

end ChannelMux.Market
