import SealedKeys.Bytes
import SealedKeys.Hex

/-!
Internet addresses: four or sixteen bytes.

`IpAddress.parse?` reads the usual texts: four decimal numbers parted by dots, or up to eight
hexadecimal groups parted by colons, of which one run of zero groups may be left out and the
last two may be given as four decimal numbers.
-/

namespace SealedKeys

/-- An internet address. -/
inductive IpAddress where
  | v4 (octets : Vector UInt8 4)
  | v6 (octets : Vector UInt8 16)
  deriving DecidableEq, Repr

namespace IpAddress

/-- The bytes of an address. -/
def bytes : IpAddress → Bytes
  | .v4 octets => octets.toList
  | .v6 octets => octets.toList

/-- The number below 256 that a text of one to three decimal digits stands for; only zero
begins with a zero. -/
def octet? (digits : List Char) : Option UInt8 :=
  let value := digits.foldl (fun value char => 10 * value + (char.toNat - 48)) 0
  if digits.isEmpty ∨ 3 < digits.length ∨ ¬ digits.all Char.isDigit then none
  else if digits.head? = some '0' ∧ digits.length ≠ 1 then none
  else if 255 < value then none
  else some (UInt8.ofNat value)

/-- The bytes of four decimal numbers parted by dots. -/
def quad? (text : List Char) : Option Bytes :=
  let parts := (String.ofList text).splitOn "."
  if parts.length = 4 then parts.mapM fun part => octet? part.toList else none

/-- The two bytes of a group of one to four hexadecimal digits. -/
def group? (digits : List Char) : Option Bytes :=
  let values := digits.filterMap fun char =>
    if char.toNat < 128 then Hex.value? (UInt8.ofNat char.toNat) else none
  if digits.isEmpty ∨ 4 < digits.length ∨ values.length ≠ digits.length then none
  else some (Bytes.ofNat 2 (values.foldl (fun value digit => 16 * value + digit.toNat) 0))

/-- The bytes of groups parted by colons; the last one may be four decimal numbers. -/
def groups? (text : List Char) : Option Bytes :=
  if text.isEmpty then some []
  else
    let parts := ((String.ofList text).splitOn ":").map String.toList
    let last := parts.getLastD []
    if last.contains '.' then do
      let front ← parts.dropLast.mapM group?
      let back ← quad? last
      return front.flatten ++ back
    else do
      let all ← parts.mapM group?
      return all.flatten

/-- The bytes of an address of sixteen bytes. -/
def long? (text : List Char) : Option Bytes :=
  match (String.ofList text).splitOn "::" with
  | [whole] => do
    let bytes ← groups? whole.toList
    if bytes.length = 16 then some bytes else none
  | [front, back] => do
    let front ← if front.contains '.' then none else groups? front.toList
    let back ← groups? back.toList
    let given := front.length + back.length
    if given ≤ 14 then some (front ++ List.replicate (16 - given) 0 ++ back) else none
  | _ => none

/-- The address that a text stands for. -/
def parse? (text : String) : Option IpAddress :=
  match quad? text.toList with
  | some bytes =>
    if size : bytes.toArray.size = 4 then some (.v4 ⟨bytes.toArray, size⟩) else none
  | none => do
    let bytes ← long? text.toList
    if size : bytes.toArray.size = 16 then some (.v6 ⟨bytes.toArray, size⟩) else none

end IpAddress

end SealedKeys
