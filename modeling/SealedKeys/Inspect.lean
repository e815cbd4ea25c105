import SealedKeys.Bytes

/-!
How values are shown to a developer: a name followed by its fields or its content.

A record is written `Name { field: value, field: value }`, a wrapped value `Name(value)`, a
byte string as a list of decimal numbers. Secrets have their own forms, which show nothing.
-/

namespace SealedKeys

namespace Inspect

/-- A record with all its fields. -/
def record (name : String) (fields : List (String × String)) : String :=
  let written := fields.map fun (field, value) => field ++ ": " ++ value
  name ++ " \x7b " ++ ", ".intercalate written ++ " \x7d"

/-- A record of which only the given fields are shown. -/
def openRecord (name : String) (fields : List (String × String)) : String :=
  let written := fields.map fun (field, value) => field ++ ": " ++ value ++ ", "
  name ++ " \x7b " ++ String.join written ++ ".. \x7d"

/-- A value inside a constructor. -/
def wrapped (name content : String) : String :=
  name ++ "(" ++ content ++ ")"

/-- A truth value. -/
def truth (value : Bool) : String :=
  if value then "true" else "false"

/-- A byte string as decimal numbers in brackets. -/
def bytes (content : Bytes) : String :=
  "[" ++ ", ".intercalate (content.map fun byte => toString byte.toNat) ++ "]"

end Inspect

end SealedKeys
