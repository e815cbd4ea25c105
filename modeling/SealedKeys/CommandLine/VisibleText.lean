/-!
What a terminal shows of a text: the text without its control sequences.

A control sequence begins with an escape character and ends according to its kind. Left out are
the sequences, and the control characters that are not blanks. A blank shows even inside a
sequence of the short kinds, and the text behind it then counts as shown up to the next control
character, which takes up the sequence again.
-/

namespace SealedKeys

namespace CommandLine

/-- The part of a text, or of a control sequence, that a character stands in. -/
inductive TextPart where
  | plain
  /-- Behind an escape character. -/
  | escape
  /-- Behind an escape character and marks. -/
  | escapeMarks
  /-- A sequence that ends with a letter. -/
  | command
  /-- The head of a device string, and its parameters and marks. -/
  | deviceHead
  | deviceParameters
  | deviceMarks
  /-- A string that only a string end or a cancelling character ends. -/
  | string
  /-- A string for the operating system, which a bell ends. -/
  | systemString
  deriving DecidableEq, Repr

namespace TextPart

/-- Whether a character's code lies in a range. -/
def within (char : Char) (first last : Nat) : Bool :=
  decide (first ≤ char.toNat ∧ char.toNat ≤ last)

/-- Whether a character is a blank that a line of text may hold. -/
def isBlank (char : Char) : Bool :=
  char = '\t' ∨ char = '\n' ∨ char = '\x0c' ∨ char = '\r'

/-- Whether a string ends with a character: one of its bytes is the mark of a string end. -/
def endsString (char : Char) : Bool :=
  decide (128 ≤ char.toNat) && char.toString.toUTF8.data.contains 0x9c

/-- The part behind a character that follows an escape character. -/
def afterEscape (char : Char) : TextPart :=
  if within char 0x20 0x2f then escapeMarks
  else if char = '[' then command
  else if char = ']' then systemString
  else if char = 'P' then deviceHead
  else if char = 'X' ∨ char = '^' ∨ char = '_' then string
  else if within char 0x30 0x7e then plain
  else escape

/-- The part that follows a character. Two characters cancel whatever they stand in, and the
escape character begins anew. -/
def next (part : TextPart) (char : Char) : TextPart :=
  if char = '\x18' ∨ char = '\x1a' then plain
  else if char = '\x1b' then escape
  else
    match part with
    | plain => plain
    | escape => afterEscape char
    | escapeMarks => if within char 0x30 0x7e then plain else escapeMarks
    | command => if within char 0x40 0x7e then plain else command
    | deviceHead =>
      if within char 0x20 0x2f then deviceMarks
      else if within char 0x30 0x3f then deviceParameters
      else if within char 0x40 0x7e then string
      else deviceHead
    | deviceParameters =>
      if within char 0x20 0x2f then deviceMarks
      else if within char 0x3c 0x7e then string
      else deviceParameters
    | deviceMarks => if within char 0x30 0x7e then string else deviceMarks
    | string => if endsString char then plain else string
    | systemString => if char = '\x07' then plain else systemString

/-- Whether a character shows. -/
def shows (part : TextPart) (char : Char) : Bool :=
  match part with
  | plain => isBlank char || (decide (0x20 ≤ char.toNat) && char ≠ '\x7f')
  | escape | escapeMarks | command => isBlank char
  | _ => false

/-- What shows of the characters from a part on; `isShown` says whether the character before
showed. -/
def shown (isShown : Bool) (part : TextPart) : List Char → List Char
  | [] => []
  | char :: rest =>
    if (if isShown then plain else part).shows char then
      char :: shown true (if char.toNat < 128 then part else plain) rest
    else shown false (part.next char) rest

end TextPart

/-- What a terminal shows of a text. -/
def visibleText (text : String) : String :=
  String.ofList (TextPart.shown false .plain text.toList)

end CommandLine

end SealedKeys
