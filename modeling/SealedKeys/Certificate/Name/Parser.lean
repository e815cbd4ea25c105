import SealedKeys.Certificate.AttributeType
import SealedKeys.Certificate.Name
import SealedKeys.Der.Reader
import SealedKeys.OidName

/-!
Reading names from text.

Commas part relative names and plus signs part attributes, except behind a backslash that has no
backslash before it. An attribute is a type, an equals sign and a value. The value is the
hexadecimal form of a DER element behind `#`, or a text in which a backslash escapes a character
or stands before the two digits of a byte. Nothing is trimmed.
-/

namespace SealedKeys

namespace Name

/-- Why a text is no name. -/
inductive Fault where
  /-- An attribute without an equals sign, a wrong escape, or a wrong hexadecimal value. -/
  | malformed
  /-- A type that is neither known by name nor an object identifier. -/
  | unknownType
  /-- The same attribute twice in one relative name. -/
  | repeatedAttribute
  /-- A hexadecimal value that is no DER element. -/
  | value (fault : Der.Fault)
  deriving DecidableEq, Repr

/-- The wording of a fault. -/
def Fault.message : Fault → String
  | .malformed => "operation failed"
  | .unknownType => "malformed OID"
  | .repeatedAttribute => "SET OF contains duplicate"
  | .value fault => fault.message

/-- Splits a text at each separator that no backslash protects. `beforeLast` and `last` are the
two characters before the text at hand; a backslash behind a backslash protects nothing. -/
def splitFrom (separator : Char) (beforeLast last : Option Char) : List Char → List (List Char)
  | [] => [[]]
  | char :: rest =>
    let parts := splitFrom separator last (some char) rest
    if char = separator ∧ (last ≠ some '\\' ∨ beforeLast = some '\\') then [] :: parts
    else
      match parts with
      | [] => [[char]]
      | part :: others => (char :: part) :: others

/-- Splits a text at each separator that no backslash protects. -/
def split (separator : Char) (text : List Char) : List (List Char) :=
  splitFrom separator none none text

/-- The characters that a backslash stands before to mean themselves. -/
def escapable : List Char :=
  [' ', '"', '#', '=', '\\', '+', ',', ';', '<', '>']

/-- The value of a hexadecimal digit. -/
def digit? (char : Char) : Option UInt8 :=
  if char.toNat < 128 then Hex.value? (UInt8.ofNat char.toNat) else none

/-- The bytes of a value with its escapes undone. An escape that the text leaves unfinished is
dropped. -/
def unescape : List Char → Except Fault Bytes
  | [] => .ok []
  | '\\' :: [] => .ok []
  | '\\' :: next :: rest =>
    if escapable.contains next then do
      return Bytes.ofText next.toString ++ (← unescape rest)
    else
      match digit? next, rest with
      | none, _ => .error .malformed
      | some _, [] => .ok []
      | some high, low :: rest =>
        match digit? low with
        | none => .error .malformed
        | some low => do return (16 * high + low) :: (← unescape rest)
  | char :: rest => do return Bytes.ofText char.toString ++ (← unescape rest)

/-- The bytes of a hexadecimal value, two digits each. -/
def hexBytes : List Char → Except Fault Bytes
  | [] => .ok []
  | high :: low :: rest =>
    match digit? high, digit? low with
    | some high, some low => do return (16 * high + low) :: (← hexBytes rest)
    | _, _ => .error .malformed
  | [_] => .error .malformed

/-- The kind of string that holds the value of an attribute given as text. -/
def textTag (oid : Oid) : Der.Tag :=
  if oid = AttributeType.countryName ∨ oid = AttributeType.serialNumber then
    Der.Tag.printableString
  else if oid = AttributeType.domainComponent then Der.Tag.ia5String
  else Der.Tag.utf8String

/-- The type that stands before the equals sign of an attribute. -/
def typeOf (key : List Char) : Except Fault Oid :=
  match (Oid.ofName? key).orElse fun _ => Oid.parse? key with
  | some oid => .ok oid
  | none => .error .unknownType

/-- Reads an attribute. -/
def parseAttribute (text : List Char) : Except Fault NameAttribute :=
  let key := text.takeWhile (· ≠ '=')
  match text.dropWhile (· ≠ '=') with
  | [] => .error .malformed
  | _ :: value => do
    let oid ← typeOf key
    match value with
    | '#' :: digits =>
      let bytes ← hexBytes digits
      match Der.decode bytes with
      | .ok (tag, content) => return ⟨oid, tag, content⟩
      | .error fault => throw (.value fault)
    | _ => return ⟨oid, textTag oid, ← unescape value⟩

/-- Reads a relative name. -/
def parseRelative (text : List Char) : Except Fault RelativeName := do
  let attributes ← (split '+' text).mapM parseAttribute
  match RelativeName.ofAttributes? attributes with
  | some relative => return relative
  | none => throw .repeatedAttribute

/-- Reads a name. -/
def parse (text : String) : Except Fault Name := do
  let relatives ← (split ',' text.toList).mapM parseRelative
  return relatives.reverse

/-- The name that a common name alone is taken for: it is read as the value of the attribute. -/
def ofCommonName (commonName : String) : Except Fault Name :=
  parse ("CN=" ++ commonName)

end Name

end SealedKeys
