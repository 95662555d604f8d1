import ChatDice.Chat.Reply
import ChatDice.Chat.Response
import ChatDice.Console.Options

/-!
# The console

The console reads one roll input from each line and prints the answer, with a prompt before the
first line and after each line. Blank lines are passed over. It ends at the end of its input, or at
the first line that is not valid UTF-8.
-/

namespace ChatDice.Console

/-! ## Lines -/

/-- A line without the carriage return at its end; the bytes come latest first. -/
def withoutReturn : List UInt8 → List UInt8
  | 13 :: earlier => earlier
  | bytes => bytes

/-- The lines of an input, without their ends, after the bytes `earlier` of the first line, latest
first. What follows the last line feed is a line only if it is not empty. -/
def linesAfter (earlier : List UInt8) : List UInt8 → List (List UInt8)
  | [] => if earlier.isEmpty then [] else [earlier.reverse]
  | byte :: rest =>
    if byte = 10 then (withoutReturn earlier).reverse :: linesAfter [] rest
    else linesAfter (byte :: earlier) rest

def lines (input : List UInt8) : List (List UInt8) := linesAfter [] input

/-- The text of a line, if it is valid UTF-8. -/
def text? (line : List UInt8) : Option String := String.fromUTF8? ⟨line.toArray⟩

/-! ## Answers -/

/-- What is printed. -/
structure Output where
  /-- What goes to the standard output. -/
  out : String := ""
  /-- What goes to the standard error output. -/
  err : String := ""
deriving DecidableEq

instance : Append Output where
  append a b := { out := a.out ++ b.out, err := a.err ++ b.err }

/-- What is printed before each line is read. -/
def prompt : Output := { out := "> " }

variable {σ : Type} [Roller σ]

/-- The plain answer to an input: the transcript or the manual, or the reason of a refusal on the
standard error output. -/
def plainAnswer (limits : Limits) (input : String) (source : σ) : Logged (Output × σ) := do
  let request ← Request.classify input
  match ← request.evaluate limits source with
  | (.ok (.rolled o), source) =>
    return ({ out := (← o.render .plain limits.maxLength) ++ "\n" }, source)
  | (.ok .help, source) => return ({ out := usage ++ "\n" }, source)
  | (.error why, source) => return ({ err := why.message ++ "\n" }, source)

/-- The reply to an input, as a chat would be told. The collector of the console does not fail. -/
def reply (options : Options) (input : String) (source : σ) : String × σ :=
  let told := (rollReply (fun _ => false) input options.name options.limits source).value
  (told.1, told.2.get (isSome_rollReply_of_never input options.name options.limits source))

def answer (options : Options) (line : String) (source : σ) : Output × σ :=
  if line.toList.all Text.isBlank then ({}, source)
  else
    match options.format with
    | .reply =>
      let (content, source) := reply options line source
      ({ out := content ++ "\n" }, source)
    | .json =>
      let (content, source) := reply options line source
      ({ out := (Response.message content).toJson.toPretty ++ "\n" }, source)
    | .plain => (plainAnswer options.limits line source).value

/-- The answers to a row of lines, each with a prompt after it. -/
def answers (options : Options) : List (List UInt8) → σ → Output × σ
  | [], source => ({}, source)
  | line :: rest, source =>
    match text? line with
    | none => ({}, source)
    | some line =>
      let (first, source) := answer options line source
      let (others, source) := answers options rest source
      (first ++ (prompt ++ others), source)

def run (options : Options) (input : List UInt8) (source : σ) : Output × σ :=
  let (output, source) := answers options (lines input) source
  (prompt ++ output, source)

end ChatDice.Console
