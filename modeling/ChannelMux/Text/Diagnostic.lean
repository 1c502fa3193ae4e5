import ChannelMux.Text.EscapeTable
import ChannelMux.Text.Hex

/-!
Values as they appear in diagnostics: quoted texts, options, lists and records.
-/
namespace ChannelMux.Text

/-- The fewest hexadecimal digits. -/
def shortHex (n : Nat) : List Char := Nat.toDigits 16 n

/-- A character inside quotes: quotes, backslashes and what has no form on a screen are escaped. -/
def quotedChar (c : Char) : List Char :=
  match c with
  | '\x00' => ['\\', '0']
  | '\t' => ['\\', 't']
  | '\n' => ['\\', 'n']
  | '\r' => ['\\', 'r']
  | '"' => ['\\', '"']
  | '\\' => ['\\', '\\']
  | c =>
    if isShown c then [c] else '\\' :: 'u' :: '\x7b' :: (shortHex c.toNat ++ ['\x7d'])

def quoted (s : String) : String :=
  String.ofList ('"' :: (s.toList.flatMap quotedChar ++ ['"']))

namespace Diagnostic

def option {α : Type} (write : α → String) : Option α → String
  | none => "None"
  | some a => "Some(" ++ write a ++ ")"

def flag (b : Bool) : String := if b then "true" else "false"

def list (items : List String) : String := "[" ++ String.intercalate ", " items ++ "]"

/-- Texts under names. -/
def textMap (entries : List (String × String)) : String :=
  let entry (e : String × String) : String := quoted e.1 ++ ": " ++ quoted e.2
  "\x7b" ++ String.intercalate ", " (entries.map entry) ++ "\x7d"

/-- A record with its fields in order. -/
def record (name : String) (fields : List (String × String)) : String :=
  name ++ " \x7b " ++ String.intercalate ", " (fields.map (fun (k, v) => k ++ ": " ++ v)) ++ " \x7d"

/-- A record that shows some of its fields only. -/
def partialRecord (name : String) (fields : List (String × String)) : String :=
  name ++ " \x7b " ++ String.join (fields.map (fun (k, v) => k ++ ": " ++ v ++ ", ")) ++ ".. \x7d"

end Diagnostic

end ChannelMux.Text
