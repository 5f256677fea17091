import DeliveryFleet.Console.Respond

/-!
# The command line

Reads requests from standard input, one JSON object per line, and writes one answer line per
request (`DeliveryFleet.Console.respond`), flushed at once. Blank lines are skipped.
-/

namespace DeliveryFleet.Cli

/-- Whether a line holds blanks only. -/
def isBlankLine (s : String) : Bool :=
  s.all fun c => c == ' ' || c == '\t' || c == '\r' || c == '\n'

/-- Answers request lines until the input ends. -/
partial def serveLines (stdin stdout : IO.FS.Stream) : IO Unit := do
  let line ← stdin.getLine
  if line.isEmpty then return
  unless isBlankLine line do
    stdout.putStrLn (Console.respond line)
    stdout.flush
  serveLines stdin stdout

end DeliveryFleet.Cli

/-- Serves the console protocol on standard input and output. -/
def main : IO Unit := do
  DeliveryFleet.Cli.serveLines (← IO.getStdin) (← IO.getStdout)
