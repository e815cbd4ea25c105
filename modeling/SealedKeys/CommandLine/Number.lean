/-!
Whole numbers on the command line.

A number is a row of decimal digits behind an optional sign. It is read as a signed word of
sixty-four bits first and compared with the range it is meant for afterwards, so a text can be
too large in two ways. Within a text, the first digit that makes it wrong decides the fault.
-/

namespace SealedKeys

namespace CommandLine

/-- Why a text is not a number of the wanted range. -/
inductive NumberFault where
  | empty
  | badDigit
  /-- The number exceeds a signed word. -/
  | tooLarge
  /-- The number lies below a signed word. -/
  | tooSmall
  /-- The number is outside the range from zero to `last`. -/
  | outOfRange (value : Int) (last : Nat)
  deriving DecidableEq, Repr

/-- The wording of a number fault. -/
def NumberFault.message : NumberFault → String
  | .empty => "cannot parse integer from empty string"
  | .badDigit => "invalid digit found in string"
  | .tooLarge => "number too large to fit in target type"
  | .tooSmall => "number too small to fit in target type"
  | .outOfRange value last => toString value ++ " is not in 0..=" ++ toString last

/-- Reads digits behind those that make up `value`, as long as the number stays within a
limit. -/
def readDigits (limit : Nat) (excess : NumberFault) (value : Nat) :
    List Char → Except NumberFault Nat
  | [] => .ok value
  | char :: rest =>
    let next := 10 * value + (char.toNat - '0'.toNat)
    if ¬ char.isDigit then .error .badDigit
    else if limit < next then .error excess
    else readDigits limit excess next rest

/-- The greatest signed word. -/
def maxInteger : Nat := 0x7fffffffffffffff

/-- The signed word that a text stands for. A sign alone is no number. -/
def readInteger (text : String) : Except NumberFault Int :=
  let positive := readDigits maxInteger .tooLarge 0
  let negative := readDigits (maxInteger + 1) .tooSmall 0
  match text.toList with
  | [] => .error .empty
  | ['+'] | ['-'] => .error .badDigit
  | '+' :: digits => (positive digits).map Int.ofNat
  | '-' :: digits => (negative digits).map fun value => -Int.ofNat value
  | digits => (positive digits).map Int.ofNat

/-- The number from zero to `last` that a text stands for. -/
def readUpTo (last : Nat) (text : String) : Except NumberFault Nat := do
  let value ← readInteger text
  if 0 ≤ value ∧ value ≤ last then return value.toNat
  else throw (.outOfRange value last)

end CommandLine

end SealedKeys
