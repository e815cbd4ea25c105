import SealedKeys.Der.Oid

/-!
Names registered for object identifiers.

Names are listed branch by branch: the arcs that a branch shares are written once, and each name
adds its last arc.
-/

namespace SealedKeys

/-- A name registered for an object identifier. -/
structure OidName where
  text : String
  oid : Oid
  deriving DecidableEq, Repr

namespace OidName

/-- The names under an arc, each with the last arc of its identifier. -/
def branch (arcs : List Nat) (names : List (String × Nat)) : List OidName :=
  names.map fun (text, last) => ⟨text, .ofArcs (arcs ++ [last])⟩

end OidName

end SealedKeys
