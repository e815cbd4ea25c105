import SealedKeys.Bytes

/-!
Authorization values: the secrets that unlock objects of a secure module.

A value has at most sixty-four bytes, which the type guarantees. Two values match when they are
the same bytes. A value is never shown; its form for a developer is the same for all.
-/

namespace SealedKeys

/-- The greatest number of bytes in an authorization value. -/
def maxAuthLength : Nat := 64

/-- The secret an object asks for. The empty value stands for no secret. -/
structure AuthValue where
  bytes : Bytes
  length_le : bytes.length ≤ maxAuthLength
  deriving DecidableEq

/-- Why a byte string is no authorization value. -/
inductive AuthError where
  /-- The value has more bytes than are allowed. -/
  | tooLong (actual : Nat)
  deriving DecidableEq, Repr

namespace AuthValue

/-- The authorization value with the given bytes, unless there are too many. -/
def ofBytes? (bytes : Bytes) : Except AuthError AuthValue :=
  if length_le : bytes.length ≤ maxAuthLength then .ok ⟨bytes, length_le⟩
  else .error (.tooLong bytes.length)

/-- The authorization value made of the UTF-8 bytes of a text. -/
def ofText? (text : String) : Except AuthError AuthValue :=
  ofBytes? (Bytes.ofText text)

/-- The value of an object that carries no secret. -/
def empty : AuthValue := ⟨[], Nat.zero_le _⟩

/-- Whether the value is the empty one. -/
def isEmpty (auth : AuthValue) : Bool :=
  auth.bytes.isEmpty

/-- Whether two values are the same secret. -/
def isMatch (auth other : AuthValue) : Bool :=
  auth.bytes == other.bytes

/-- An authorization value as it is shown to a developer: nothing of it is told. -/
def inspect (_ : AuthValue) : String :=
  "AuthValue([REDACTED])"

end AuthValue

/-- The wording of an authorization value error. -/
def AuthError.message : AuthError → String
  | .tooLong actual =>
    "Authorization value must be at most " ++ toString maxAuthLength ++ " bytes, got "
      ++ toString actual

end SealedKeys
