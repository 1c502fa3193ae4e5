/-!
Bytes as pairs of lower-case hexadecimal digits, and bytes in the base-64 alphabet.
-/
namespace ChannelMux.Text

/-- The digit for a value below 16. -/
def hexDigit (n : Nat) : Char :=
  if n < 10 then Char.ofNat (48 + n) else Char.ofNat (87 + n)

/-- The value of a hexadecimal digit of either case. -/
def hexValue? (c : Char) : Option Nat :=
  if '0' ≤ c ∧ c ≤ '9' then some (c.toNat - 48)
  else if 'a' ≤ c ∧ c ≤ 'f' then some (c.toNat - 87)
  else if 'A' ≤ c ∧ c ≤ 'F' then some (c.toNat - 55)
  else none

/-- The lowest `width` hexadecimal digits of `n`. -/
def hexDigits : Nat → Nat → List Char
  | 0, _ => []
  | width + 1, n => hexDigits width (n / 16) ++ [hexDigit (n % 16)]

def hexOfBytes (bytes : List UInt8) : String :=
  String.ofList (bytes.flatMap (fun b => hexDigits 2 b.toNat))

/-- The value read from `digits`, most significant first. -/
def hexNumber? (digits : List Char) : Option Nat :=
  digits.foldl (fun acc c => do pure ((← acc) * 16 + (← hexValue? c))) (some 0)

def bytesOfHexChars? : List Char → Option (List UInt8)
  | [] => some []
  | [_] => none
  | a :: b :: rest => do
    let high ← hexValue? a
    let low ← hexValue? b
    let tail ← bytesOfHexChars? rest
    pure (UInt8.ofNat (high * 16 + low) :: tail)

def bytesOfHex? (s : String) : Option (List UInt8) := bytesOfHexChars? s.toList

/-- The character for a value below 64. -/
def base64Digit (n : Nat) : Char :=
  if n < 26 then Char.ofNat (65 + n)
  else if n < 52 then Char.ofNat (71 + n)
  else if n < 62 then Char.ofNat (n - 4)
  else if n = 62 then '+'
  else '/'

/-- Three bytes become four characters; a shorter last group is padded with `=`. -/
def base64Chars : List UInt8 → List Char
  | [] => []
  | [a] => [base64Digit (a.toNat / 4), base64Digit (a.toNat % 4 * 16), '=', '=']
  | [a, b] =>
    [base64Digit (a.toNat / 4), base64Digit (a.toNat % 4 * 16 + b.toNat / 16),
      base64Digit (b.toNat % 16 * 4), '=']
  | a :: b :: c :: rest =>
    base64Digit (a.toNat / 4) :: base64Digit (a.toNat % 4 * 16 + b.toNat / 16) ::
      base64Digit (b.toNat % 16 * 4 + c.toNat / 64) :: base64Digit (c.toNat % 64) ::
      base64Chars rest

def base64OfBytes (bytes : List UInt8) : String := String.ofList (base64Chars bytes)

end ChannelMux.Text
