import SealedKeys.AuthValue
import SealedKeys.Handle
import SealedKeys.PublicArea
import SealedKeys.Rsa.Key

/-!
The objects of a module and the table that holds them by handle.

`get?_insert` and `get?_erase` say what a table tells after an object was put in or taken out.
-/

namespace SealedKeys

/-- What a module keeps of a key. Private material is kept for RSA alone, the one family that
signs. -/
inductive KeyMaterial where
  | rsa (key : Rsa.PrivateKey)
  | ecc (curve : Curve)
  | keyedHash
  deriving DecidableEq

/-- What kind of object this is, in words. -/
def KeyMaterial.describe : KeyMaterial → String
  | .rsa key => "a " ++ toString key.bits ++ "-bit RSA key"
  | .ecc curve => "an ECC " ++ curve.name ++ " key"
  | .keyedHash => "a keyed-hash object"

/-- An object of a module: its key, the secret that unlocks it, and its public area. -/
structure ModuleObject where
  material : KeyMaterial
  auth : AuthValue
  area : PublicArea
  deriving DecidableEq

/-- The objects of a module by handle. -/
structure ObjectTable where
  entries : List (Handle × ModuleObject)
  deriving DecidableEq

namespace ObjectTable

/-- The table without objects. -/
def empty : ObjectTable := ⟨[]⟩

/-- The object at a handle. -/
def get? (table : ObjectTable) (handle : Handle) : Option ModuleObject :=
  table.entries.lookup handle

/-- Whether there is an object at a handle. -/
def contains (table : ObjectTable) (handle : Handle) : Bool :=
  (table.get? handle).isSome

/-- The table without the object at a handle. -/
def erase (table : ObjectTable) (handle : Handle) : ObjectTable :=
  ⟨table.entries.filter fun entry => entry.1 != handle⟩

/-- The table with an object at a handle, in place of what was there. -/
def insert (table : ObjectTable) (handle : Handle) (object : ModuleObject) : ObjectTable :=
  ⟨(handle, object) :: (table.erase handle).entries⟩

/-- The number of objects. -/
def size (table : ObjectTable) : Nat :=
  table.entries.length

@[simp] theorem get?_empty (handle : Handle) : empty.get? handle = none := rfl

private theorem lookup_filter_bne (handle other : Handle) :
    ∀ entries : List (Handle × ModuleObject),
      (entries.filter fun entry => entry.1 != handle).lookup other =
        if other = handle then none else entries.lookup other := by
  intro entries
  induction entries with
  | nil => simp
  | cons entry rest ih =>
    obtain ⟨key, object⟩ := entry
    by_cases same : key = handle
    · subst same
      by_cases equal : other = key
      · subst equal
        simp [ih]
      · have apart : (other == key) = false := by simp [equal]
        simp [ih, equal, List.lookup_cons, apart]
    · by_cases equal : other = key
      · subst equal
        simp [same]
      · have apart : (other == key) = false := by simp [equal]
        simp [ih, same, List.lookup_cons, apart]

theorem get?_erase (table : ObjectTable) (handle other : Handle) :
    (table.erase handle).get? other = if other = handle then none else table.get? other :=
  lookup_filter_bne handle other table.entries

theorem get?_insert (table : ObjectTable) (handle other : Handle) (object : ModuleObject) :
    (table.insert handle object).get? other =
      if other = handle then some object else table.get? other := by
  by_cases same : other = handle
  · subst same
    simp [insert, get?]
  · have apart : (other == handle) = false := by simp [same]
    have kept := get?_erase table handle other
    simp only [get?] at kept
    simp [insert, get?, List.lookup_cons, same, apart, kept]

end ObjectTable

end SealedKeys
