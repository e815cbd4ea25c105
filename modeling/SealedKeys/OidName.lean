import SealedKeys.OidName.Algorithm
import SealedKeys.OidName.Certificate
import SealedKeys.OidName.Directory
import SealedKeys.OidName.Message
import SealedKeys.OidName.Person
import SealedKeys.OidName.Pilot
import SealedKeys.OidName.Policy
import SealedKeys.OidName.Printer
import SealedKeys.OidName.Service

/-!
The object identifier behind a name, and the name for an object identifier.

An identifier may have several names. `Oid.ofName?` finds it under any of them, whatever the case
of their letters; `Oid.shortName?` gives the shortest.
-/

namespace SealedKeys

namespace OidName

/-- All registered names. -/
def all : List OidName :=
  directoryNames ++ pilotNames ++ personNames ++ policyNames ++ printerNames ++ serviceNames
    ++ messageNames ++ certificateNames ++ algorithmNames

/-- A text with its ASCII letters in lower case. -/
def folded (text : List Char) : List Char :=
  text.map Char.toLower

/-- The shorter of two texts, and of equally long ones the first. -/
def shorter (first second : String) : String :=
  if second.length < first.length then second else first

end OidName

namespace Oid

/-- The identifier a text names, whatever the case of its letters. -/
def ofName? (text : List Char) : Option Oid :=
  (OidName.all.find? fun entry =>
    OidName.folded entry.text.toList == OidName.folded text).map (·.oid)

/-- The shortest name of an identifier. -/
def shortName? (oid : Oid) : Option String :=
  match OidName.all.filter fun entry => entry.oid == oid with
  | [] => none
  | first :: rest =>
    some (rest.foldl (fun best entry => OidName.shorter best entry.text) first.text)

end Oid

end SealedKeys
