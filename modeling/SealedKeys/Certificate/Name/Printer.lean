import SealedKeys.Certificate.Name
import SealedKeys.Hex
import SealedKeys.OidName

/-!
Writing names as text.

The most significant relative name comes last. An attribute whose type has a name and whose
value is a text is written `NAME=text`, with what could be misread escaped; any other one is
written with the dotted form of its type and the hexadecimal form of its value behind `#`.
-/

namespace SealedKeys

namespace NameAttribute

/-- The bytes that a printable string may hold. -/
def isPrintable (byte : UInt8) : Bool :=
  let char := Char.ofNat byte.toNat
  decide (byte < 128) && (char.isAlphanum || " '()+,-./:=?".contains char)

/-- The text of a value, for the kinds of strings that hold text and if the value is one of its
kind. -/
def text? (entry : NameAttribute) : Option String :=
  let content := entry.content
  let decoded := String.fromUTF8? ⟨content.toArray⟩
  if entry.tag = Der.Tag.utf8String then decoded
  else if entry.tag = Der.Tag.printableString then
    if content.all isPrintable then decoded else none
  else if entry.tag = Der.Tag.ia5String ∨ entry.tag = Der.Tag.teletexString then
    if content.all (· < 128) then decoded else none
  else none

/-- Whether a character is escaped wherever it stands. -/
def isSpecial (char : Char) : Bool :=
  ['"', '+', ',', ';', '<', '>', '\\'].contains char

/-- A character of a value with its escape; `isFirst` and `isLast` say where it stands. -/
def escape (isFirst isLast : Bool) (char : Char) : List Char :=
  if isSpecial char || (char == '#' && isFirst) || (char == ' ' && (isFirst || isLast)) then
    ['\\', char]
  else if char.toNat < 32 ∨ char.toNat = 127 then
    '\\' :: Hex.pair (UInt8.ofNat char.toNat)
  else [char]

/-- The characters of a value with their escapes. -/
def escapeAll (isFirst : Bool) : List Char → List Char
  | [] => []
  | char :: rest => escape isFirst rest.isEmpty char ++ escapeAll false rest

/-- An attribute as text. -/
def text (entry : NameAttribute) : String :=
  match entry.oid.shortName?, entry.text? with
  | some name, some value =>
    name.toUpper ++ "=" ++ String.ofList (escapeAll true value.toList)
  | _, _ => entry.oid.text ++ "=#" ++ Hex.encode entry.value

end NameAttribute

/-- A relative name as text. -/
def RelativeName.text (relative : RelativeName) : String :=
  "+".intercalate (relative.map NameAttribute.text)

/-- A name as text. -/
def Name.text (name : Name) : String :=
  ",".intercalate (name.reverse.map RelativeName.text)

end SealedKeys
