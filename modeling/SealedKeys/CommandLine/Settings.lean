import SealedKeys.CommandLine.UsageError
import SealedKeys.Digest.Algorithm

/-!
The settings that switches make.

Each switch changes the settings as it is met: those that count go up, the others are set, and
may be set once. `Settings.filledFrom` joins the settings made behind a subcommand with those made
before it.
-/

namespace SealedKeys

namespace CommandLine

/-- Why reading a command line ends without a request. -/
inductive Stop where
  /-- The user asks for help. -/
  | help
  /-- The user asks for the version. -/
  | version
  /-- The command line is empty of any demand. -/
  | nothingAsked
  | usage (error : UsageError)
  deriving DecidableEq, Repr

/-- What switches have said so far. -/
structure Settings where
  verbose : Nat
  quiet : Nat
  /-- Whether `quiet` went up after `verbose` last did. -/
  quietLast : Bool
  pss : Bool
  maxAuthFailures : Option UInt32
  bits : Option Nat
  hash : Option ModuleHash
  digest : Option String
  deriving DecidableEq, Repr

namespace Settings

/-- The settings before any switch. -/
def initial : Settings where
  verbose := 0
  quiet := 0
  quietLast := false
  pss := false
  maxAuthFailures := none
  bits := none
  hash := none
  digest := none

/-- A count raised by one, as far as a byte goes. -/
def raised (count : Nat) : Nat :=
  min 255 (count + 1)

/-- What a switch without value does. -/
def apply (settings : Settings) : BareSwitch → Except Stop Settings
  | .verbose => .ok { settings with verbose := raised settings.verbose, quietLast := false }
  | .quiet => .ok { settings with quiet := raised settings.quiet, quietLast := true }
  | .pss =>
    if settings.pss then .error (.usage (.repeated (.bare .pss)))
    else .ok { settings with pss := true }
  | .help => .error .help
  | .version => .error .version

/-- The hash that a word names. -/
def hashNamed? (word : String) : Option ModuleHash :=
  [("sha1", ModuleHash.sha1), ("sha256", .sha256), ("sha384", .sha384), ("sha512", .sha512)].lookup
    word

/-- The number that a switch is given. -/
def number (switch : ValueSwitch) (last : Nat) (value : String) : Except UsageError Nat :=
  (readUpTo last value).mapError (.invalidNumber value switch)

/-- The hash that a switch is given. An empty word counts as none. -/
def choice (value : String) : Except UsageError ModuleHash :=
  match hashNamed? value with
  | some hash => .ok hash
  | none =>
    if value.isEmpty then .error (.missingValue .hash) else .error (.invalidChoice value .hash)

/-- Whether a switch has been given its value already. -/
def has (settings : Settings) : ValueSwitch → Bool
  | .maxAuthFailures => settings.maxAuthFailures.isSome
  | .bits => settings.bits.isSome
  | .hash => settings.hash.isSome
  | .digest => settings.digest.isSome

/-- What a switch with its value does. That it is repeated is found before its value is looked
at. -/
def assign (settings : Settings) (switch : ValueSwitch) (value : String) :
    Except UsageError Settings := do
  if settings.has switch then throw (.repeated (.valued switch))
  match switch with
  | .maxAuthFailures =>
    return { settings with maxAuthFailures := some (.ofNat (← number switch 0xffffffff value)) }
  | .bits => return { settings with bits := some (← number switch 0xffff value) }
  | .hash => return { settings with hash := some (← choice value) }
  | .digest => return { settings with digest := some value }

/-- Whether no switch has been given. -/
def isInitial (settings : Settings) : Bool :=
  decide (settings = initial)

/-- Fails if switches exclude each other. The one given last is named second. -/
def ensureCompatible (settings : Settings) : Except UsageError Unit :=
  if 0 < settings.verbose ∧ 0 < settings.quiet then
    if settings.quietLast then .error (.conflict .verbose .quiet)
    else .error (.conflict .quiet .verbose)
  else .ok ()

/-- The settings made behind a subcommand, with those made before it where they say nothing. -/
def filledFrom (settings before : Settings) : Settings :=
  { settings with
    verbose := if settings.verbose = 0 then before.verbose else settings.verbose
    quiet := if settings.quiet = 0 then before.quiet else settings.quiet
    maxAuthFailures := settings.maxAuthFailures.orElse fun _ => before.maxAuthFailures }

end Settings

end CommandLine

end SealedKeys
