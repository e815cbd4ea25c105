import SealedKeys.CommandLine.Number
import SealedKeys.CommandLine.Switch
import SealedKeys.CommandLine.VisibleText

/-!
What can be wrong with a command line, and how it is said.
-/

namespace SealedKeys

namespace CommandLine

/-- Why a command line asks for nothing that can be done. -/
inductive UsageError where
  /-- A word that has no place where it stands, or a switch that is not known there. -/
  | unexpectedArgument (word : String)
  | unrecognizedSubcommand (word : String)
  /-- A value for a switch that stands alone. -/
  | unexpectedValue (value : String) (switch : BareSwitch)
  /-- A switch without its value. -/
  | missingValue (switch : ValueSwitch)
  | invalidNumber (value : String) (switch : ValueSwitch) (fault : NumberFault)
  /-- A value that is none of the possible ones. -/
  | invalidChoice (value : String) (switch : ValueSwitch)
  /-- A switch given twice that may be given once. -/
  | repeated (switch : Switch)
  /-- Two switches that exclude each other. -/
  | conflict (first second : BareSwitch)
  | missingSubcommand
  /-- A switch that has to be given. -/
  | missingSwitch (switch : ValueSwitch)
  deriving DecidableEq, Repr

/-- The name of the program, as it calls itself. -/
def programName : String := "tpmcred"

/-- The wording of a usage error, in which of a word or value only what shows is repeated. -/
def UsageError.message : UsageError → String
  | .unexpectedArgument word => "unexpected argument '" ++ visibleText word ++ "' found"
  | .unrecognizedSubcommand word => "unrecognized subcommand '" ++ visibleText word ++ "'"
  | .unexpectedValue value switch =>
    "unexpected value '" ++ visibleText value ++ "' for '" ++ switch.text
      ++ "' found; no more were expected"
  | .missingValue switch =>
    "a value is required for '" ++ switch.text ++ "' but none was supplied"
  | .invalidNumber value switch fault =>
    "invalid value '" ++ visibleText value ++ "' for '" ++ switch.text ++ "': " ++ fault.message
  | .invalidChoice value switch => "invalid value '" ++ visibleText value ++ "' for '" ++ switch.text ++ "'"
  | .repeated switch => "the argument '" ++ switch.text ++ "' cannot be used multiple times"
  | .conflict first second =>
    "the argument '" ++ first.text ++ "' cannot be used with '" ++ second.text ++ "'"
  | .missingSubcommand =>
    "'" ++ programName ++ "' requires a subcommand but one was not provided"
  | .missingSwitch switch =>
    "the following required arguments were not provided:\n  " ++ switch.text

end CommandLine

end SealedKeys
