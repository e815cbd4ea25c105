import SealedKeys.Der.Element

/-!
Object identifiers: numbers that name things, arc after arc.

An identifier is held as the content of its DER element, in which the first two arcs share a
byte. `Oid.ofArcs?` writes arcs into it, `Oid.arcs` reads them back, and `Oid.parse?` reads the
dotted form.

An arc is written to the base one hundred and twenty-eight. A leading digit of exactly one
hundred and twenty-eight is not split further: it fills the first byte, and the bytes that the
arc still has to itself are zero. Such an identifier reads back with other arcs than it was
written with, so what identifies is the content, and not the arcs.
-/

namespace SealedKeys

/-- An object identifier, as the content of its element. -/
structure Oid where
  content : Bytes
  deriving DecidableEq, Repr

namespace Oid

/-- The number of bytes of an arc behind its first one. -/
def followingBytes (arc : Nat) : Nat :=
  if arc < 0x80 then 0
  else if arc < 0x4000 then 1
  else if arc < 0x200000 then 2
  else if arc < 0x20000000 then 3
  else 4

/-- Writes an arc into one byte and `following` more; `mark` is set in the last of them, and the
top bit in those before. There is nothing to write if the arc does not fit. -/
def writeArc (mark : UInt8) : (following arc : Nat) → Option Bytes
  | following, arc =>
    if arc ≤ 128 then some ((UInt8.ofNat arc ||| mark) :: List.replicate following 0)
    else
      match following with
      | 0 => none
      | following + 1 => do
        let leading ← writeArc 128 following (arc / 128)
        return leading ++ [UInt8.ofNat (arc % 128) ||| mark]

/-- The bytes of an arc. -/
def arcBytes? (arc : Nat) : Option Bytes :=
  writeArc 0 (followingBytes arc) arc

/-- The greatest number of bytes in the content of an object identifier with given arcs. -/
def maxSize : Nat := 38

/-- The object identifier with given arcs: there are at least three, the first is at most two
and the second at most thirty-nine. -/
def ofArcs? : List Nat → Option Oid
  | first :: second :: third :: rest =>
    if first ≤ 2 ∧ second ≤ 39 then do
      let following ← (third :: rest).mapM arcBytes?
      let content := UInt8.ofNat (40 * first + second) :: following.flatten
      if content.length ≤ maxSize then return ⟨content⟩ else none
    else none
  | _ => none

/-- The object identifier with given arcs, for arcs that are known to make one. -/
def ofArcs (arcs : List Nat) : Oid :=
  (ofArcs? arcs).getD ⟨[]⟩

/-- Reads arcs from bytes; `arc` is what was read of an arc that has not ended. -/
def readArcBytes (arc : Nat) : Bytes → List Nat
  | [] => []
  | byte :: rest =>
    let arc := 128 * arc + (byte &&& 127).toNat
    if byte < 128 then arc :: readArcBytes 0 rest else readArcBytes arc rest

/-- The arcs that the content stands for. -/
def arcs (oid : Oid) : List Nat :=
  match oid.content with
  | [] => []
  | first :: rest => first.toNat / 40 :: first.toNat % 40 :: readArcBytes 0 rest

/-- An object identifier as an element. -/
def element (oid : Oid) : Bytes :=
  Der.element Der.Tag.objectIdentifier oid.content

/-- The dotted form. -/
def text (oid : Oid) : String :=
  ".".intercalate (oid.arcs.map toString)

/-- The number of arcs that a dotted text can tell apart. -/
def arcModulus : Nat := 0x100000000

/-- Reads arcs from a dotted text; `arc` is the value of the digits read since the last dot,
which counts modulo `arcModulus`. A dot must be followed by something, and an arc without digits
is zero. -/
def readArcs (arc : Nat) : List Char → Option (List Nat)
  | [] => some [arc % arcModulus]
  | '.' :: rest =>
    if rest.isEmpty then none else (readArcs 0 rest).map (arc % arcModulus :: ·)
  | char :: rest =>
    if char.isDigit then readArcs (10 * arc + (char.toNat - '0'.toNat)) rest else none

/-- The object identifier with a given dotted form, which starts with a digit. -/
def parse? (text : List Char) : Option Oid :=
  if (text.head?.map Char.isDigit).getD false then (readArcs 0 text).bind ofArcs? else none

end Oid

end SealedKeys
