import SampleTap.CommandLine.Replay

/-!
# The program

Reads a recorded exchange from the standard input, runs the command line against it, and writes what
comes of it.
-/

namespace SampleTap

/-- The lines of a stream, to its end. -/
partial def readLines (input : IO.FS.Stream) (lines : List String) : IO (List String) := do
  let line ← input.getLine
  if line.isEmpty then return lines.reverse
  readLines input (line :: lines)

end SampleTap

open SampleTap
/-- Runs the command line. -/
def main (arguments : List String) : IO UInt32 := do
  let lines ← readLines (← IO.getStdin) []
  let outcome := CommandLine.run (CommandLine.Replay.ofLines lines).surroundings arguments
  if let some (path, data) := outcome.file? then
    IO.FS.writeBinFile path data.toByteArray
  let output ← IO.getStdout
  output.write outcome.output.toByteArray
  output.flush
  IO.eprint outcome.message
  return UInt32.ofNat outcome.status
