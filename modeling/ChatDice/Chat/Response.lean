import ChatDice.Json.Writer
import ChatDice.Text.Quoted

/-!
# Responses

What an interaction is answered with: a pong, a message, or nothing at all with a reason.
-/

namespace ChatDice

/-- The answer to an interaction. -/
inductive Response
  | pong
  | message (content : String)
deriving DecidableEq

namespace Response

def kind : Response → Nat
  | pong => 1
  | message _ => 4

def content? : Response → Option String
  | pong => none
  | message content => some content

/-- The JSON value that is sent. -/
def toJson (r : Response) : Json :=
  .object ((some "type", .number (.ofNat r.kind)) ::
    (r.content?.map fun content =>
      (some "data", .object [(some "content", .text (some content))])).toList)

end Response

/-- Why an interaction is not answered. -/
inductive Rejection
  | unknownKind (kind : UInt8)
  | unknownCommand (name : String)
  /-- A command is announced and none is given. -/
  | missingCommand
deriving DecidableEq

def Rejection.message : Rejection → String
  | unknownKind kind => "unknown interaction type " ++ kind.toNat.repr
  | unknownCommand name => "unknown command " ++ Text.quoted name
  | missingCommand => "application command without data"

end ChatDice
