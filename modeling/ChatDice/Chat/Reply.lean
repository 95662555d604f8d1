import ChatDice.Request.Classify
import ChatDice.Play.Answer
import ChatDice.Transcript
import ChatDice.Usage

/-!
# Replies

What a chat is told after a roll input: the transcript under a header with the name of the player
and the title, the manual, or why the input is refused. The headers are tried from the longest to
none at all, until header and transcript fit into the limit. If a collector of events fails on the
way, the reply is an apology.
-/

namespace ChatDice

namespace Reply

/-- The reply to an input whose evaluation broke off. -/
def apology : String := "Sorry, something went wrong while rolling. Please try again."

def nameHeader (name : String) : String := name ++ " rolls:\n"

def titleHeader (name title : String) : String := name ++ " rolls for \"" ++ title ++ "\":\n"

/-- The headers that a reply can have, the longest first and none at all last. -/
def headers (o : Outcome) (name : String) : List String :=
  (o.title.map (titleHeader name)).toList ++ [nameHeader name, ""]

/-- The first reply that fits, out of those with the headers left to try. A header longer than the
limit is not tried; if no reply fits, the latest one stands, which is `latest` at the outset. -/
def fitWith (o : Outcome) (limit : Nat) (latest : String) : List String → Logged String
  | [] => return latest
  | header :: rest =>
    if limit < header.length then fitWith o limit latest rest
    else do
      let transcript ← o.render .markdown (limit - header.length)
      let reply := header ++ transcript
      if reply.length ≤ limit then return reply
      else
        Logged.emit (.shortened header.utf8ByteSize)
        fitWith o limit reply rest

def fit (o : Outcome) (name : String) (limit : Nat) : Logged String :=
  fitWith o limit "" (headers o name)

/-- The reply to an answer or a refusal. -/
def ofAnswer (name : String) (limit : Nat) : Except Refusal Answer → Logged String
  | .ok (.rolled o) => fit o name limit
  | .ok .help => return usage
  | .error why => do
    Logged.emit (.refused why)
    return why.message

variable {σ : Type} [Roller σ]

/-- The reply to an input, if nothing breaks off, and the source as the input leaves it. -/
def attempt (input name : String) (limits : Limits) (source : σ) :
    Logged (String × Option σ) := do
  let request ← Request.classify input
  let (answer, source) ← request.evaluate limits source
  let reply ← ofAnswer name limits.maxLength answer
  return (reply, some source)

/-- What follows when the evaluation of an input breaks off. How many dice were rolled by then, and
so where the source is, is not told. -/
def rescue (input : String) : Logged (String × Option σ) := do
  Logged.emit (.faulted input)
  return (apology, none)

end Reply

/-- The reply to an input, whatever happens: where the collector of events fails, the reply is the
apology. -/
def rollReply {σ : Type} [Roller σ] (fails : Event → Bool) (input name : String) (limits : Limits)
    (source : σ) : Logged (String × Option σ) :=
  Logged.guarded fails (Reply.rescue input) (Reply.attempt input name limits source)

variable {σ : Type} [Roller σ] (input name : String) (limits : Limits) (source : σ)

theorem rollReply_of_never :
    rollReply (fun _ => false) input name limits source = Reply.attempt input name limits source :=
  Logged.guarded_never _ _

/-- If the collector does not fail, the source comes back. -/
theorem isSome_rollReply_of_never :
    (rollReply (fun _ => false) input name limits source).value.2.isSome = true := by
  rw [rollReply_of_never, Reply.attempt]
  simp

end ChatDice
