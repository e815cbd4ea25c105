import SealedKeys.Der.Oid

/-!
Distinguished names.

A name is a sequence of relative names, and a relative name is a set of attributes, which DER
keeps in the order of their encodings and without repetition. The most significant relative
name, which comes last in text, comes first here.
-/

namespace SealedKeys

/-- An attribute of a name: its type, and its value as the tag and content of a DER element. -/
structure NameAttribute where
  oid : Oid
  tag : Der.Tag
  content : Bytes
  deriving DecidableEq, Repr

/-- The attributes of one level of a name. -/
abbrev RelativeName := List NameAttribute

/-- A distinguished name, the most significant relative name first. -/
abbrev Name := List RelativeName

/-- Whether a byte string comes before another, or is the same, in the order of dictionaries. -/
def Bytes.le : Bytes → Bytes → Bool
  | [], _ => true
  | _ :: _, [] => false
  | first :: rest, other :: others =>
    if first = other then le rest others else decide (first < other)

namespace NameAttribute

/-- The value of an attribute as an element. -/
def value (entry : NameAttribute) : Bytes :=
  Der.element entry.tag entry.content

/-- An attribute as an element. -/
def element (entry : NameAttribute) : Bytes :=
  Der.sequence [entry.oid.element, entry.value]

end NameAttribute

namespace RelativeName

/-- Puts an attribute in its place among attributes in order; none if it is already there. -/
def insert? (entry : NameAttribute) : RelativeName → Option RelativeName
  | [] => some [entry]
  | first :: rest =>
    if first.element = entry.element then none
    else if Bytes.le entry.element first.element then some (entry :: first :: rest)
    else (insert? entry rest).map (first :: ·)

/-- Attributes put in order; none if one is repeated. -/
def ofAttributes? (attributes : List NameAttribute) : Option RelativeName :=
  attributes.foldlM (fun ordered entry => insert? entry ordered) []

/-- A relative name as an element. -/
def element (relative : RelativeName) : Bytes :=
  Der.element Der.Tag.set (relative.flatMap NameAttribute.element)

end RelativeName

/-- A name as an element. -/
def Name.element (name : Name) : Bytes :=
  Der.element Der.Tag.sequence (List.flatMap RelativeName.element name)

end SealedKeys
