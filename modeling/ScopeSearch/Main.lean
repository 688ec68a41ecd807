import ScopeSearch.CommandLine.Execution

/-!
# ScopeSearch.Main — the program

Reads the standard input to its end, runs the program on it, and writes what it has to say: reports
to the standard output, everything else to the standard error.
-/

namespace ScopeSearch.CommandLine

/-- Everything that is left in a stream, after what has been read. -/
partial def readRest (stream : IO.FS.Stream) (read : ByteArray) : IO ByteArray := do
  let chunk ← stream.read 65536
  if chunk.isEmpty then return read
  readRest stream (read ++ chunk)

/-- A record as it stands in the log: its level, where it comes from, and its words. -/
def logText (e : Event) : String :=
  "[" ++ e.level.text ++ " " ++ e.origin.path ++ "] " ++ e.shownParagraph

/-- Runs the program between the streams and the environment of its process. -/
def runProgram (args : List String) : IO UInt32 := do
  let commandLine := ("scopegrep" :: args).map Text.utf8
  let searches := (parse commandLine).toOption.isSome
  let input ← if searches then readRest (← IO.getStdin) .empty else pure .empty
  let execution := execute commandLine input.toList (← IO.getEnv "RUST_LOG")
  for e in execution.log do
    IO.eprint (logText e)
  let output ← IO.getStdout
  output.write ⟨execution.output.toArray⟩
  output.flush
  for words in execution.failure do
    IO.eprintln words
  if execution.exitCode = 2 then
    IO.eprintln "error: wrong arguments; for more information, try '--help'."
  return execution.exitCode.toUInt32

end ScopeSearch.CommandLine

/-- The program. -/
def main (args : List String) : IO UInt32 :=
  ScopeSearch.CommandLine.runProgram args
