import ChannelMux.Decimal.Power
import ChannelMux.Text.Hex

/-!
IPv4 addresses: up to four numbers between dots, of which the last fills the bytes that are left.
-/
namespace ChannelMux.Url.Ipv4

/-- The digits of a number without what tells its base: `0x` for sixteen, `0` for eight. -/
def based (part : List Char) : Nat × List Char :=
  match part with
  | '0' :: 'x' :: digits | '0' :: 'X' :: digits => (16, digits)
  | '0' :: digits => (8, digits)
  | digits => (10, digits)

/-- A part of an address. No digits at all, behind a base, are zero. -/
def part? (part : List Char) : Option Nat :=
  let (base, digits) := based part
  if part = [] then none
  else digits.foldl (fun acc c => do
    let n ← acc
    let d ← Text.hexValue? c
    if d < base then some (n * base + d) else none) (some 0)

/-- Whether the last label is a number, which makes the host an address. -/
def isMeant (labels : List (List Char)) : Bool :=
  let last := match labels.reverse with
    | [] :: next :: _ => next
    | part :: _ => part
    | [] => []
  last ≠ [] && (last.all Char.isDigit || (part? last).isSome)

/-- A dot may stand at the end. -/
def isValid (labels : List (List Char)) : Bool :=
  let parts := match labels.reverse with
    | [] :: rest => rest
    | parts => parts
  match parts.mapM part? with
  | some (last :: before) =>
    before.length ≤ 3 && before.all (· ≤ 255) && last < twoTo (8 * (4 - before.length))
  | _ => false

end ChannelMux.Url.Ipv4
