import ChannelMux.Decimal.Shortest

/-!
How a double is written down: positionally or with an exponent. The digits are always the shortest
that read back; a `Style` fixes the rest.
-/
namespace ChannelMux.Decimal

/-- The decimal exponents from `low` to below `high`. -/
structure Window where
  low : Int
  high : Int

structure Style where
  /-- The exponents that are written positionally; without a window all are. -/
  positional : Option Window
  /-- A positive exponent carries a plus sign. -/
  exponentPlus : Bool
  /-- A whole number is written with a fraction `.0`. -/
  wholeFraction : Bool
  tie : Tie
  /-- What stands for an infinite number, behind its sign. -/
  infinite : String
  notANumber : String

/-- As in compact JSON text, which has no infinities. -/
def Style.json : Style := ⟨some ⟨-5, 16⟩, true, true, .toEven, "null", "null"⟩

/-- As in diagnostics. -/
def Style.diagnostic : Style := ⟨some ⟨-4, 16⟩, false, true, .away, "inf", "NaN"⟩

/-- Always positional, and no fraction where there is none. -/
def Style.plain : Style := ⟨none, false, false, .away, "inf", "NaN"⟩

/-- The digits with the point after the first `whole` of them, zeros filling what is missing. -/
def placed (style : Style) (digits : List Char) (whole : Int) : List Char :=
  if whole ≤ 0 then '0' :: '.' :: (List.replicate (-whole).toNat '0' ++ digits)
  else
    let n := whole.toNat
    if digits.length ≤ n then
      let fraction := if style.wholeFraction then ['.', '0'] else []
      digits ++ List.replicate (n - digits.length) '0' ++ fraction
    else digits.take n ++ '.' :: digits.drop n

def withExponent (style : Style) (digits : List Char) (exponent : Int) : List Char :=
  let mantissa := match digits with
    | d :: e :: rest => d :: '.' :: e :: rest
    | short => short
  let sign := if exponent < 0 then ['-'] else if style.exponentPlus then ['+'] else []
  mantissa ++ 'e' :: sign ++ Nat.toDigits 10 exponent.natAbs

def Style.write (style : Style) (x : Binary64) : String :=
  let sign := if x.isNegative then "-" else ""
  if x.isNaN then style.notANumber
  else if x.isInfinite then sign ++ style.infinite
  else if x.isZero then sign ++ (if style.wholeFraction then "0.0" else "0")
  else
    let (m, q) := x.parts
    let s := shortest style.tie m q
    let digits := Nat.toDigits 10 s.digits
    let exponent := s.exponent + digits.length - 1
    sign ++ String.ofList (
      if style.positional.all (fun window => window.low ≤ exponent && exponent < window.high) then
        placed style digits (exponent + 1)
      else withExponent style digits exponent)

/-- A number that may be missing, as in diagnostics. -/
def writeOption (x : Option Binary64) : String :=
  match x with
  | none => "None"
  | some x => "Some(" ++ Style.diagnostic.write x ++ ")"

end ChannelMux.Decimal
