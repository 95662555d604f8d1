import ChatDice.Console.Run
import ChatDice.Dice.Generator

/-!
# The console program

Reads standard input line by line and answers each line as soon as it is there.
-/

namespace ChatDice.Console

def Output.print (output : Output) : IO Unit := do
  unless output.err.isEmpty do IO.eprint output.err
  unless output.out.isEmpty do IO.print output.out
  (← IO.getStdout).flush

/-- The bytes up to the next line feed, that one included, or up to the end of the input. -/
partial def readLine (input : IO.FS.Stream) (earlier : List UInt8) : IO (List UInt8) := do
  let bytes ← input.read 1
  match bytes.toList with
  | [] => return earlier.reverse
  | byte :: _ =>
    if byte = 10 then return (byte :: earlier).reverse else readLine input (byte :: earlier)

/-- Answers line after line. -/
partial def converse (options : Options) (input : IO.FS.Stream) (source : Generator) : IO Unit := do
  match lines (← readLine input []) with
  | [] => return
  | line :: _ =>
    if let some text := text? line then
      let (output, source) := answer options text source
      (output ++ prompt).print
      converse options input source

/-- A generator with a seed from the system. -/
def seeded : IO Generator := do
  let bytes ← IO.getRandomBytes 8
  return ⟨bytes.toList.foldl (fun seed byte => seed * 256 + byte.toUInt64) 0⟩

end ChatDice.Console

open ChatDice.Console in
/-- Runs the console with the options of the command line. -/
def main (args : List String) : IO UInt32 := do
  match Options.ofArgs? args with
  | none =>
    IO.eprintln "usage: [--max-rolls N] [--max-len N] [--plain | --json] [--name NAME]"
    return 2
  | some options =>
    prompt.print
    converse options (← IO.getStdin) (← seeded)
    return 0
