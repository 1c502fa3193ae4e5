import ChannelMux.Text.Hex
import ChannelMux.Text.Parts
import ChannelMux.Url.Ipv4

/-!
IPv6 addresses: eight groups of hexadecimal digits between colons. One gap may stand for groups of
zero, and an IPv4 address for the last two.
-/
namespace ChannelMux.Url.Ipv6

open Text (splitOn)

/-- One to four hexadecimal digits. -/
def isGroup (group : List Char) : Bool :=
  0 < group.length && group.length ≤ 4 && group.all (fun c => (Text.hexValue? c).isSome)

/-- Four decimal numbers. -/
def isDottedQuad (cs : List Char) : Bool :=
  let parts := splitOn '.' cs
  parts.length = 4 && Ipv4.isValid parts && parts.all (fun part =>
    part ≠ [] && part.all Char.isDigit && (part.length = 1 || part.head? ≠ some '0'))

/-- How many groups a text beside the gap stands for, where it may or may not end the address. -/
def groups? (endsAddress : Bool) (cs : List Char) : Option Nat :=
  match cs, (splitOn ':' cs).reverse with
  | [], _ | _, [] => some 0
  | _, last :: before =>
    if !before.all isGroup then none
    else if isGroup last then some (before.length + 1)
    else if endsAddress ∧ isDottedQuad last then some (before.length + 2)
    else none

/-- The text before and after the first `::`. -/
def splitGap? : List Char → Option (List Char × List Char)
  | ':' :: ':' :: rest => some ([], rest)
  | c :: rest => (splitGap? rest).map (fun (before, after) => (c :: before, after))
  | [] => none

/-- Eight groups, or fewer around one gap. -/
def isValid (cs : List Char) : Bool :=
  match splitGap? cs with
  | none => groups? true cs = some 8
  | some (before, after) =>
    match groups? false before, groups? true after with
    | some m, some n => m + n ≤ 7
    | _, _ => false

end ChannelMux.Url.Ipv6
