import SealedKeys.CommandLine.Run

/-!
What the program prints and the code it ends with.

Log lines go to standard output, before the result. The code is zero after success, one after a
failure and two after a usage error.
-/

namespace SealedKeys

namespace CommandLine

/-- What is left of a run. -/
structure Report where
  exitCode : UInt32
  /-- The events that are logged. -/
  events : List Event
  output : List String
  errors : List String
  deriving DecidableEq, Repr

/-- What the program is for. -/
def purpose : String :=
  "Sign with RSA keys that never leave the secure module"

/-- How the program is used. -/
def helpLines : List String :=
  [purpose, "",
    "Usage: " ++ programName ++ " [OPTIONS] <COMMAND>", "",
    "Commands:",
    "  info      Provision a key and print its public area",
    "  sign      Sign a precomputed digest and verify the result",
    "  tls-demo  Run a mutual-TLS exchange where both peers sign inside the module",
    "  help      Print this message or the help of the given subcommand(s)", "",
    "Options:",
    "  -v, --verbose...                             Increase logging verbosity",
    "  -q, --quiet...                               Decrease logging verbosity",
    "      --max-auth-failures <MAX_AUTH_FAILURES>  Consecutive authorization failures before the "
      ++ "module locks out (0 disables) [default: 3]",
    "  -h, --help                                   Print help",
    "  -V, --version                                Print version"]

/-- The version of the program. -/
def versionLine : String :=
  programName ++ " 0.1.0"

/-- The report of a command line without a request. -/
def Stop.report : Stop → Report
  | .help => ⟨0, [], helpLines, []⟩
  | .version => ⟨0, [], [versionLine], []⟩
  | .nothingAsked => ⟨2, [], [], helpLines⟩
  | .usage error => ⟨2, [], [], ["error: " ++ error.message]⟩

/-- The greatest rank of a level that is logged: warnings and errors, if nothing is said. -/
def Request.threshold (request : Request) : Nat :=
  Level.warn.rank + request.verbose - request.quiet

/-- The report of a request. A failure is an event too, the last one. -/
def Request.report (request : Request) (keyDraws saltDraws : Draws) : Report :=
  let outcome := (request.task.work keyDraws saltDraws).run (.empty request.maxAuthFailures)
  let logged (events : List Event) : List Event :=
    events.filter fun event => event.level.rank ≤ request.threshold
  match outcome.answer with
  | .ok lines => ⟨0, logged outcome.events, lines, []⟩
  | .error failure =>
    ⟨1, logged (outcome.events ++ [.failed failure.summary]), [], failure.lines⟩

/-- The report of a command line. -/
def report (words : List String) (keyDraws saltDraws : Draws) : Report :=
  match Request.ofWords words with
  | .ok request => request.report keyDraws saltDraws
  | .error stop => stop.report

/-- An event as a line of the log. -/
def logLine (event : Event) : String :=
  event.level.name ++ " " ++ event.target ++ ": " ++ event.message

end CommandLine

end SealedKeys
