import SealedKeys.CommandLine.Settings
import SealedKeys.Scheme
import SealedKeys.SoftwareModule.State

/-!
Reading the words of a command line.

Words are read from the left. A switch that takes a value may have it behind an equals sign, and
then it is looked at once; or in the next word, and then it is looked at when the next switch is
met or the words end. A word that is neither a switch nor such a value names the subcommand, if
one can stand there. What follows a subcommand is read and checked before the rest of what
stands in front of it. Two dashes alone end the switches; nothing may follow them.
-/

namespace SealedKeys

namespace CommandLine

/-- A word of a command line by its dashes. -/
inductive Word where
  /-- A name behind two dashes, and what follows its first equals sign. -/
  | name (name : String) (value : Option String)
  /-- Letters behind one dash. -/
  | letters (letters : List Char)
  | plain (text : String)
  deriving DecidableEq, Repr

/-- Tells names, letters and plain words apart. A dash alone is a plain word. -/
def Word.ofText (text : String) : Word :=
  match text.toList with
  | '-' :: '-' :: body =>
    let value := match body.dropWhile (· ≠ '=') with
      | [] => none
      | _ :: value => some (String.ofList value)
    .name (String.ofList (body.takeWhile (· ≠ '='))) value
  | '-' :: first :: rest => .letters (first :: rest)
  | _ => .plain text

/-- How far the words of one scope have been read. -/
structure Reading where
  settings : Settings
  /-- A switch whose value has not been looked at, and the value, if it has been met. -/
  pending : Option (ValueSwitch × Option String)
  deriving DecidableEq, Repr

namespace Reading

/-- Nothing has been read. -/
def initial : Reading := ⟨.initial, none⟩

/-- Looks at the value that has been waiting. -/
def settle (reading : Reading) : Except Stop Settings :=
  match reading.pending with
  | none => .ok reading.settings
  | some (switch, none) => .error (.usage (.missingValue switch))
  | some (switch, some value) => (reading.settings.assign switch value).mapError .usage

/-- The switch that waits for its value, if there is one. -/
def awaiting? (reading : Reading) : Option ValueSwitch :=
  match reading.pending with
  | some (switch, none) => some switch
  | _ => none

/-- Takes a switch without value. -/
def takeBare (reading : Reading) (switch : BareSwitch) : Except Stop Reading := do
  let settings ← reading.settle
  return ⟨← settings.apply switch, none⟩

/-- Takes a switch with a value, which may still be missing. -/
def takeValued (reading : Reading) (switch : ValueSwitch) (value : Option String) :
    Except Stop Reading := do
  let settings ← reading.settle
  match value with
  | none => return ⟨settings, some (switch, none)⟩
  | some value => return ⟨← (settings.assign switch value).mapError .usage, none⟩

/-- Takes a switch by its name. -/
def takeName (scope : Scope) (reading : Reading) (name : String) (value : Option String) :
    Except Stop Reading :=
  match scope.named? name, value with
  | none, _ => .error (.usage (.unexpectedArgument ("--" ++ name)))
  | some (.bare switch), some value => .error (.usage (.unexpectedValue value switch))
  | some (.bare switch), none => reading.takeBare switch
  | some (.valued switch), value => reading.takeValued switch value

/-- Takes switches by their letters. -/
def takeLetters (scope : Scope) (reading : Reading) (letters : List Char) :
    Except Stop Reading :=
  letters.foldlM (fun reading letter =>
    match scope.lettered? letter with
    | some switch => reading.takeBare switch
    | none => .error (.usage (.unexpectedArgument ("-" ++ letter.toString)))) reading

/-- Takes a word that is no switch: the value that a switch waits for. Other words have no place
here. -/
def takePlain (scope : Scope) (reading : Reading) (word : String) : Except Stop Reading :=
  match reading.awaiting?, scope with
  | some switch, _ => .ok { reading with pending := some (switch, some word) }
  | none, .program => .error (.usage (.unrecognizedSubcommand word))
  | none, .behind _ => .error (.usage (.unexpectedArgument word))

/-- Takes a word that does not name a subcommand. -/
def take (scope : Scope) (reading : Reading) (word : String) : Except Stop Reading :=
  match Word.ofText word with
  | .name name value => takeName scope reading name value
  | .letters letters => takeLetters scope reading letters
  | .plain text => takePlain scope reading text

end Reading

/-- What is wrong with a word behind two dashes alone. -/
def misplaced (scope : Scope) (word : String) : UsageError :=
  match scope, scope.subcommand? word with
  | .program, none => .unrecognizedSubcommand word
  | _, _ => .unexpectedArgument word

/-- Reads the words of a scope, up to a subcommand and the words behind it. -/
def readWords (scope : Scope) (reading : Reading) :
    List String → Except Stop (Reading × Option (Subcommand × List String))
  | [] => .ok (reading, none)
  | word :: rest =>
    match reading.awaiting?, scope.subcommand? word with
    | none, some subcommand => .ok (reading, some (subcommand, rest))
    | _, _ =>
      if word = "--" then
        match rest with
        | [] => .ok (reading, none)
        | extra :: _ => .error (.usage (misplaced scope extra))
      else
        match reading.take scope word with
        | .ok reading => readWords scope reading rest
        | .error stop => .error stop

/-- What the program shall do. -/
inductive Task where
  | info (bits : Nat)
  | sign (hash : ModuleHash) (padding : Padding) (digest : String) (bits : Nat)
  | tlsDemo
  deriving DecidableEq, Repr

/-- What a command line asks for. -/
structure Request where
  verbose : Nat
  quiet : Nat
  maxAuthFailures : UInt32
  task : Task
  deriving DecidableEq, Repr

/-- The size of keys that is taken if none is given. -/
def defaultBits : Nat := 2048

/-- The task that a subcommand and its settings stand for. -/
def taskOf (subcommand : Subcommand) (settings : Settings) : Except Stop Task :=
  let bits := settings.bits.getD defaultBits
  match subcommand with
  | .info => .ok (.info bits)
  | .sign =>
    match settings.digest with
    | some digest =>
      .ok (.sign (settings.hash.getD .sha256) (if settings.pss then .pss else .pkcs1) digest bits)
    | none => .error (.usage (.missingSwitch .digest))
  | .tlsDemo => .ok .tlsDemo
  | .help => .error .help

/-- Reads the words behind a subcommand. -/
def readSubcommand (subcommand : Subcommand) (words : List String) :
    Except Stop (Settings × Task) := do
  let (reading, _) ← readWords (.behind subcommand) .initial words
  let settings ← reading.settle
  settings.ensureCompatible.mapError .usage
  return (settings, ← taskOf subcommand settings)

/-- What asking for help on a subcommand comes to: the subcommand must be one. -/
def helpOn (words : List String) : Stop :=
  match words with
  | [] => .help
  | topic :: rest =>
    match Subcommand.named? topic, rest with
    | none, _ => .usage (.unrecognizedSubcommand topic)
    | some _, [] => .help
    | some _, extra :: _ => .usage (.unrecognizedSubcommand extra)

/-- Reads a command line. -/
def Request.ofWords (words : List String) : Except Stop Request := do
  match ← readWords .program .initial words with
  | (reading, none) =>
    let settings ← reading.settle
    if settings.isInitial then throw .nothingAsked else throw (.usage .missingSubcommand)
  | (_, some (.help, topics)) => throw (helpOn topics)
  | (reading, some (subcommand, rest)) =>
    let (inner, task) ← readSubcommand subcommand rest
    let outer ← reading.settle
    outer.ensureCompatible.mapError .usage
    let settings := inner.filledFrom outer
    return {
      verbose := settings.verbose
      quiet := settings.quiet
      maxAuthFailures := settings.maxAuthFailures.getD SoftwareModule.defaultMaxAuthFailures
      task := task }

end CommandLine

end SealedKeys
