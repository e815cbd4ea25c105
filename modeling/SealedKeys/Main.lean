import SealedKeys.CommandLine.Report

/-!
The program: reads its words, draws a seed, prints its report.
-/

open SealedKeys

/-- Prints the log and the result to standard output and errors to standard error, and ends with
the code of the report. -/
def main (words : List String) : IO UInt32 := do
  let seed ← IO.getRandomBytes 64
  let keyDraws := Draws.ofSeed (seed.toList.take 32)
  let saltDraws := Draws.ofSeed (seed.toList.drop 32)
  let report := CommandLine.report words keyDraws saltDraws
  for event in report.events do
    IO.println (CommandLine.logLine event)
  for line in report.output do
    IO.println line
  for line in report.errors do
    IO.eprintln line
  return report.exitCode
