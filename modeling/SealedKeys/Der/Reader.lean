import SealedKeys.Der.Element
import SealedKeys.Hex

/-!
Reading DER elements.

`Der.read` reads one element at the front of its input; `Der.decode` wants the input to be one
element and nothing more. Both accept each length in its shortest form only, so an element is
read from exactly one byte string. A fault names the position at which reading stopped.
-/

namespace SealedKeys

namespace Der

/-- Why bytes are no DER element. -/
inductive Fault where
  /-- The input ends at `actual` bytes, but `expected` were needed to go on at `position`. -/
  | incomplete (expected actual position : Nat)
  /-- Bytes are left over behind the element. -/
  | trailing (decoded remaining : Nat)
  | unknownTag (tag : Tag)
  /-- The number of the tag does not fit its byte. -/
  | invalidTagNumber
  | indefiniteLength
  /-- The length is not in its shortest form, or has too many bytes. -/
  | incorrectLength (tag : Tag)
  /-- The length exceeds what can be read. -/
  | overflow
  deriving DecidableEq, Repr

/-- The greatest length of an element. -/
def maxLength : Nat := 0xfffffff

/-- How the number of a tag is named, with its form. -/
def numberedTag (family : String) (tag : Tag) : String :=
  let form := if tag &&& 0x20 = 0 then "primitive" else "constructed"
  family ++ " [" ++ toString (tag &&& 0x1f).toNat ++ "] (" ++ form ++ ")"

/-- The name of a kind of element, for the tags that can be read. -/
def tagName? (tag : Tag) : Option String :=
  match tag.toNat with
  | 0x01 => some "BOOLEAN"
  | 0x02 => some "INTEGER"
  | 0x03 => some "BIT STRING"
  | 0x04 => some "OCTET STRING"
  | 0x05 => some "NULL"
  | 0x06 => some "OBJECT IDENTIFIER"
  | 0x09 => some "REAL"
  | 0x0a => some "ENUMERATED"
  | 0x0c => some "UTF8String"
  | 0x12 => some "NumericString"
  | 0x13 => some "PrintableString"
  | 0x14 => some "TeletexString"
  | 0x15 => some "VideotexString"
  | 0x16 => some "IA5String"
  | 0x17 => some "UTCTime"
  | 0x18 => some "GeneralizedTime"
  | 0x1a => some "VisibleString"
  | 0x1e => some "BMPString"
  | 0x30 => some "SEQUENCE"
  | 0x31 => some "SET"
  | number =>
    if 0x40 ≤ number ∧ number ≤ 0x7e then some (numberedTag "APPLICATION" tag)
    else if 0x80 ≤ number ∧ number ≤ 0xbe then some (numberedTag "CONTEXT-SPECIFIC" tag)
    else if 0xc0 ≤ number ∧ number ≤ 0xfe then some (numberedTag "PRIVATE" tag)
    else none

/-- The wording of a fault. -/
def Fault.message : Fault → String
  | .incomplete expected actual position =>
    "ASN.1 DER message is incomplete: expected " ++ toString expected ++ ", actual "
      ++ toString actual ++ " at DER byte " ++ toString position
  | .trailing decoded remaining =>
    "trailing data at end of DER message: decoded " ++ toString decoded ++ " bytes, "
      ++ toString remaining ++ " bytes remaining at DER byte " ++ toString decoded
  | .unknownTag tag => "unknown/unsupported ASN.1 DER tag: " ++ Hex.padded 2 tag.toNat
  | .invalidTagNumber => "invalid tag number"
  | .indefiniteLength => "indefinite length disallowed"
  | .incorrectLength tag => "incorrect length for " ++ (tagName? tag).getD ""
  | .overflow => "integer overflow"

/-- Reads a number of the given count of bytes at a position, byte by byte. -/
def readNumber (total : Nat) : (count position value : Nat) → Bytes →
    Except Fault (Nat × Nat × Bytes)
  | 0, position, value, rest => .ok (value, position, rest)
  | _ + 1, position, _, [] => .error (.incomplete (position + 1) total position)
  | count + 1, position, value, byte :: rest =>
    readNumber total count (position + 1) (256 * value + byte.toNat) rest

/-- Reads the length field of an element with the given tag. -/
def readLength (total position : Nat) (tag : Tag) (rest : Bytes) :
    Except Fault (Nat × Nat × Bytes) :=
  match rest with
  | [] => .error (.incomplete (position + 1) total position)
  | first :: rest =>
    if first < 128 then .ok (first.toNat, position + 1, rest)
    else if first = 128 then .error .indefiniteLength
    else if 132 < first then .error (.incorrectLength tag)
    else do
      let count := first.toNat - 128
      let (length, position, rest) ← readNumber total count (position + 1) 0 rest
      if maxLength < length then throw .overflow
      if length < 128 ∨ byteLength length ≠ count then throw (.incorrectLength tag)
      return (length, position, rest)

/-- Reads one element at the front of the input: its tag, its content and what follows. -/
def read (input : Bytes) : Except Fault (Tag × Bytes × Bytes) :=
  match input with
  | [] => .error (.incomplete 1 0 0)
  | tag :: rest =>
    if tag &&& 0x1f = 0x1f then .error .invalidTagNumber
    else if (tagName? tag).isNone then .error (.unknownTag tag)
    else do
      let (length, position, rest) ← readLength input.length 1 tag rest
      if maxLength < position + length then throw .overflow
      if rest.length < length then throw (.incomplete (position + length) input.length position)
      return (tag, rest.take length, rest.drop length)

/-- Reads an input that is one element and nothing more. -/
def decode (input : Bytes) : Except Fault (Tag × Bytes) := do
  let (tag, content, rest) ← read input
  if rest.isEmpty then return (tag, content)
  else throw (.trailing (input.length - rest.length) rest.length)

/-- The content of an element with the wanted tag at the front of the input, and what
follows. -/
def take? (wanted : Tag) (input : Bytes) : Option (Bytes × Bytes) :=
  match read input with
  | .ok (tag, content, rest) => if tag = wanted then some (content, rest) else none
  | .error _ => none

/-- The content of an input that is one element with the wanted tag. -/
def only? (wanted : Tag) (input : Bytes) : Option Bytes :=
  match take? wanted input with
  | some (content, []) => some content
  | _ => none

/-- The natural number an integer element's content stands for, in its shortest form. -/
def natural? (content : Bytes) : Option Nat :=
  let value := Bytes.toNat content
  if integerContent value = content then some value else none

end Der

end SealedKeys
