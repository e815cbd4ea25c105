/-!
The switches and subcommands of the program.

A switch is a word behind dashes: two for its name, one for its letter if it has one. Some
switches stand alone, others take a value. `Scope` says which of them may be given where.
-/

namespace SealedKeys

namespace CommandLine

/-- A switch that stands alone. -/
inductive BareSwitch where
  /-- Logs more, each time it is given. -/
  | verbose
  /-- Logs less, each time it is given. -/
  | quiet
  /-- Signs with PSS in place of PKCS#1 v1.5. -/
  | pss
  | help
  | version
  deriving DecidableEq, Repr

/-- A switch that takes a value. -/
inductive ValueSwitch where
  /-- The number of authorization failures in a row that lock the module. -/
  | maxAuthFailures
  /-- The size of the key. -/
  | bits
  /-- The hash the digest was computed with. -/
  | hash
  /-- The digest, in hexadecimal. -/
  | digest
  deriving DecidableEq, Repr

/-- A switch of either kind. -/
inductive Switch where
  | bare (switch : BareSwitch)
  | valued (switch : ValueSwitch)
  deriving DecidableEq, Repr

namespace BareSwitch

/-- The name behind two dashes. -/
def name : BareSwitch → String
  | .verbose => "verbose"
  | .quiet => "quiet"
  | .pss => "pss"
  | .help => "help"
  | .version => "version"

/-- The letter behind one dash. -/
def letter? : BareSwitch → Option Char
  | .verbose => some 'v'
  | .quiet => some 'q'
  | .pss => none
  | .help => some 'h'
  | .version => some 'V'

/-- How messages refer to the switch: dots stand behind one that counts. -/
def text (switch : BareSwitch) : String :=
  let dots := match switch with
    | .verbose | .quiet => "..."
    | .pss | .help | .version => ""
  "--" ++ switch.name ++ dots

end BareSwitch

namespace ValueSwitch

/-- The name behind two dashes. -/
def name : ValueSwitch → String
  | .maxAuthFailures => "max-auth-failures"
  | .bits => "bits"
  | .hash => "hash"
  | .digest => "digest"

/-- What stands for the value in messages. -/
def placeholder : ValueSwitch → String
  | .maxAuthFailures => "MAX_AUTH_FAILURES"
  | .bits => "BITS"
  | .hash => "HASH"
  | .digest => "DIGEST"

/-- How messages refer to the switch. -/
def text (switch : ValueSwitch) : String :=
  "--" ++ switch.name ++ " <" ++ switch.placeholder ++ ">"

end ValueSwitch

/-- How messages refer to a switch of either kind. -/
def Switch.text : Switch → String
  | .bare switch => switch.text
  | .valued switch => switch.text

/-- What the program is told to do. -/
inductive Subcommand where
  /-- Makes a key and prints its public area. -/
  | info
  /-- Signs a digest and checks the signature. -/
  | sign
  /-- Has two peers shake hands over TLS. -/
  | tlsDemo
  | help
  deriving DecidableEq, Repr

namespace Subcommand

/-- The word for the subcommand. -/
def name : Subcommand → String
  | .info => "info"
  | .sign => "sign"
  | .tlsDemo => "tls-demo"
  | .help => "help"

/-- All subcommands. -/
def all : List Subcommand :=
  [.info, .sign, .tlsDemo, .help]

/-- The subcommand that a word names. -/
def named? (word : String) : Option Subcommand :=
  all.find? fun subcommand => subcommand.name == word

end Subcommand

/-- Where on the command line a switch stands: before the subcommand, or behind it. -/
inductive Scope where
  | program
  | behind (subcommand : Subcommand)
  deriving DecidableEq, Repr

namespace Scope

/-- The switches without value that may be given here. -/
def bare : Scope → List BareSwitch
  | .program => [.verbose, .quiet, .help, .version]
  | .behind .sign => [.pss, .verbose, .quiet, .help]
  | .behind _ => [.verbose, .quiet, .help]

/-- The switches with a value that may be given here. -/
def valued : Scope → List ValueSwitch
  | .program => [.maxAuthFailures]
  | .behind .info => [.bits, .maxAuthFailures]
  | .behind .sign => [.hash, .digest, .bits, .maxAuthFailures]
  | .behind _ => [.maxAuthFailures]

/-- The switch of a given name. -/
def named? (scope : Scope) (name : String) : Option Switch :=
  match scope.bare.find? fun switch => switch.name == name with
  | some switch => some (.bare switch)
  | none => (scope.valued.find? fun switch => switch.name == name).map .valued

/-- The switch of a given letter. -/
def lettered? (scope : Scope) (letter : Char) : Option BareSwitch :=
  scope.bare.find? fun switch => switch.letter? == some letter

/-- The subcommand that a word stands for here. There are none behind another one. -/
def subcommand? : Scope → String → Option Subcommand
  | .program, word => Subcommand.named? word
  | .behind _, _ => none

end Scope

end CommandLine

end SealedKeys
