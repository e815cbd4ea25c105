import SealedKeys.Bytes

/-!
Hexadecimal text.

`Hex.encode` writes two lower-case digits a byte. `Hex.decode` reads either case; it first asks
for an even number of bytes of text, and then names the first byte that is no digit.
`Hex.padded` writes a number behind `0x` at a fixed number of digits.
-/

namespace SealedKeys

namespace Hex

/-- Why a text is not the hexadecimal form of a byte string. -/
inductive Fault where
  /-- Each byte takes two digits, so the text must have an even number of bytes. -/
  | oddLength
  /-- The byte at this position is no hexadecimal digit. -/
  | badDigit (byte : UInt8) (position : Nat)
  deriving DecidableEq, Repr

/-- The lower-case digit of a number below sixteen. -/
def digit (value : Nat) : Char :=
  Nat.digitChar value

/-- The two digits of a byte, high half first. -/
def pair (byte : UInt8) : List Char :=
  [digit (byte.toNat / 16), digit (byte.toNat % 16)]

/-- A byte string as lower-case hexadecimal text. -/
def encode (bytes : Bytes) : String :=
  String.ofList (bytes.flatMap pair)

/-- The value of a hexadecimal digit given as a byte of text, in either case. -/
def value? (byte : UInt8) : Option UInt8 :=
  if 48 ≤ byte ∧ byte ≤ 57 then some (byte - 48)
  else if 97 ≤ byte ∧ byte ≤ 102 then some (byte - 87)
  else if 65 ≤ byte ∧ byte ≤ 70 then some (byte - 55)
  else none

/-- Reads pairs of digits; `position` is that of the first byte of the text at hand. -/
def decodePairs (position : Nat) : Bytes → Except Fault Bytes
  | high :: low :: rest =>
    match value? high, value? low with
    | none, _ => .error (.badDigit high position)
    | some _, none => .error (.badDigit low (position + 1))
    | some upper, some lower => do
      return (16 * upper + lower) :: (← decodePairs (position + 2) rest)
  | _ => .ok []

/-- The byte string a hexadecimal text stands for. -/
def decode (text : String) : Except Fault Bytes :=
  let bytes := Bytes.ofText text
  if bytes.length % 2 = 1 then .error .oddLength else decodePairs 0 bytes

/-- Digits of a number without anything in front, lower case. -/
def digits (value : Nat) : String :=
  String.ofList (Nat.toDigits 16 value)

/-- A number behind `0x`, filled up with zeros to `width` digits. -/
def padded (width value : Nat) : String :=
  let text := digits value
  "0x" ++ String.ofList (List.replicate (width - text.length) '0') ++ text

/-- A character of the Latin-1 range in quotes, as it is shown to a developer: characters that do
not print, the quote and the backslash are escaped. -/
def quoted (byte : UInt8) : String :=
  let code := byte.toNat
  let body :=
    if code = 0 then "\\0"
    else if code = 9 then "\\t"
    else if code = 10 then "\\n"
    else if code = 13 then "\\r"
    else if code = 39 then "\\'"
    else if code = 92 then "\\\\"
    else if code < 32 ∨ (127 ≤ code ∧ code ≤ 160) ∨ code = 173 then
      "\\u\x7b" ++ digits code ++ "\x7d"
    else (Char.ofNat code).toString
  "'" ++ body ++ "'"

/-- The wording of a decoding fault. -/
def Fault.message : Fault → String
  | .oddLength => "Odd number of digits"
  | .badDigit byte position =>
    "Invalid character " ++ quoted byte ++ " at position " ++ toString position

end Hex

end SealedKeys
