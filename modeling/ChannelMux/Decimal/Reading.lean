import ChannelMux.Decimal.Binary64
import ChannelMux.Text.Ascii

/-!
Numbers written in plain text fields, as exchanges send them.
-/
namespace ChannelMux.Decimal

def valueOf (digits : List Char) : Nat := digits.foldl (fun n c => n * 10 + (c.toNat - 48)) 0

/-- Splits a sign off. -/
def signed : List Char → Bool × List Char
  | '-' :: rest => (true, rest)
  | '+' :: rest => (false, rest)
  | cs => (false, cs)

/-- An exponent that fills the rest of the text: nothing, or `e` and a signed whole number. -/
def exponent? : List Char → Option Int
  | [] => some 0
  | e :: rest =>
    if e = 'e' ∨ e = 'E' then
      let (negative, digits) := signed rest
      if digits ≠ [] ∧ digits.all Char.isDigit then
        some (if negative then -(valueOf digits : Int) else valueOf digits)
      else none
    else none

/-- Digits with at most one point among them and at least one digit, then an exponent. -/
def unsignedDouble? (negative : Bool) (cs : List Char) : Option Binary64 :=
  let whole := cs.takeWhile Char.isDigit
  let rest := cs.dropWhile Char.isDigit
  let (fraction, rest) := match rest with
    | '.' :: rest => (rest.takeWhile Char.isDigit, rest.dropWhile Char.isDigit)
    | rest => ([], rest)
  if whole ++ fraction = [] then none
  else (exponent? rest).map (fun e =>
    Binary64.ofDecimal negative (valueOf (whole ++ fraction)) (e - fraction.length))

/-- Reads a decimal, or a word for a number that is infinite or none, in any case of letters. -/
def double? (text : String) : Option Binary64 :=
  let (negative, cs) := signed text.toList
  match String.ofList (cs.map Char.toLower) with
  | "inf" | "infinity" => some (Binary64.infinity negative)
  | "nan" => some Binary64.nan
  | _ => unsignedDouble? negative cs

/-- Reads a whole number of at most 64 bits; a plus sign may stand before it. -/
def nat64? (text : String) : Option Nat :=
  let digits := match text.toList with
    | '+' :: rest => rest
    | cs => cs
  if digits ≠ [] ∧ digits.all Char.isDigit ∧ valueOf digits < twoTo 64 then some (valueOf digits)
  else none

end ChannelMux.Decimal
