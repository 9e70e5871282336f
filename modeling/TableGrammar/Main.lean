import TableGrammar.Command.Perform

/-!
The program: reads its arguments and its input, and prints what the command leaves behind.
-/

/-- Reads a stream to its end. -/
partial def readInput (stream : IO.FS.Stream) (input : ByteArray) : IO ByteArray := do
  let chunk ← stream.read 65536
  if chunk.isEmpty then return input
  readInput stream (input ++ chunk)

open TableGrammar.Command in
/-- Runs the command line. Only the command that reads lines is given the input. -/
def main (arguments : List String) : IO UInt32 := do
  let input ← match readRequest 0 arguments with
    | some (.perform _ (.repl _)) => readInput (← IO.getStdin) ByteArray.empty
    | _ => pure ByteArray.empty
  let output := run arguments input.toList
  (← IO.getStderr).putStr output.complaints
  (← IO.getStdout).putStr output.printed
  return output.code.toUInt32
