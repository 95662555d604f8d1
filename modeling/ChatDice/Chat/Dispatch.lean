import ChatDice.Chat.Interaction
import ChatDice.Chat.Reply
import ChatDice.Chat.Response

/-!
# Answering interactions

A ping is answered with a pong, and the roll command, whatever the case of its name, with a message
that holds the reply to its input. Everything else is rejected.
-/

namespace ChatDice

def rollCommand : String := "roll"

/-- The option that holds the input of the roll command. -/
def rollOption : String := "input"

/-- Whether two names differ at most in the case of ASCII letters. -/
def sameName (a b : String) : Bool := a.toList.map Char.toLower == b.toList.map Char.toLower

namespace Interaction

variable {σ : Type} [Roller σ]

def answerCommand (fails : Event → Bool) (i : Interaction) (command : Command) (limits : Limits)
    (source : σ) : Logged (Except Rejection Response × Option σ) :=
  if sameName command.name rollCommand then do
    Logged.emit (.rollRequested command.name)
    let input := (command.optionText? rollOption).getD ""
    let (content, source) ← rollReply fails input i.displayName limits source
    return (.ok (.message content), source)
  else do
    Logged.emit (.unknownCommand command.name)
    return (.error (.unknownCommand command.name), some source)

/-- Answers an interaction, before a collector of events that may fail while a reply is made. The
source comes back unless it does. -/
def dispatch (fails : Event → Bool) (i : Interaction) (limits : Limits) (source : σ) :
    Logged (Except Rejection Response × Option σ) :=
  if i.kind = pingKind then do
    Logged.emit .pinged
    return (.ok .pong, some source)
  else if i.kind = commandKind then
    match i.command with
    | some command => i.answerCommand fails command limits source
    | none => return (.error .missingCommand, some source)
  else do
    Logged.emit (.unknownKind i.kind)
    return (.error (.unknownKind i.kind), some source)

end Interaction

end ChatDice
