import ChatDice.Dice.Advantage
import ChatDice.Refusal
import ChatDice.Request.Token

/-!
# Log events

What the log says about a request on its way from the input to the reply. An event has a level, a
message and named values as texts.
-/

namespace ChatDice

/-- How much an event matters. -/
inductive Level
  | trace
  | debug
  | info
  | warn
  | error
deriving DecidableEq

def Level.name : Level → String
  | trace => "TRACE"
  | debug => "DEBUG"
  | info => "INFO"
  | warn => "WARN"
  | error => "ERROR"

/-- What can happen to a request. -/
inductive Event
  | classifiedToken (word : String) (token : Token)
  | ignoredToken (word : String)
  | classifiedInput
  /-- The dice of an expression are about to be rolled. -/
  | rolling (spec : Spec)
  | evaluated (total : Int64) (dice : Nat) (cursed : Bool) (mode : Advantage)
  /-- A transcript is longer than the limit. -/
  | summarized (length limit : Nat)
  /-- A reply with a header of so many bytes is too long. -/
  | shortened (headerBytes : Nat)
  | refused (why : Refusal)
  /-- The evaluation of an input broke off. -/
  | faulted (input : String)
  | pinged
  /-- The roll command came in, under this spelling of its name. -/
  | rollRequested (command : String)
  | unknownCommand (command : String)
  | unknownKind (kind : UInt8)
deriving DecidableEq

namespace Event

/-- How much the event matters. -/
def level : Event → Level
  | classifiedToken .. | ignoredToken _ | rolling _ => .trace
  | classifiedInput | evaluated .. | summarized .. | shortened _ => .debug
  | refused _ | pinged | rollRequested _ => .info
  | unknownCommand _ | unknownKind _ => .warn
  | faulted _ => .error

/-- The text of the event, which does not depend on its values. -/
def message : Event → String
  | classifiedToken .. => "classified token"
  | ignoredToken _ => "ignoring unrecognized token"
  | classifiedInput => "classified roll input"
  | rolling _ => "rolling"
  | evaluated .. => "roll evaluated"
  | summarized .. => "transcript too long, summarizing"
  | shortened _ => "reply header leaves no room, shortening"
  | refused _ => "rejected roll input"
  | faulted _ => "roll evaluation panicked"
  | pinged => "handling ping"
  | rollRequested _ => "handling roll request"
  | unknownCommand _ => "unknown command"
  | unknownKind _ => "unknown interaction type"

/-- The values of the event, by name. -/
def fields : Event → List (String × String)
  | classifiedToken word token => [("token", word), ("kind", token.kind)]
  | ignoredToken word => [("token", word)]
  | classifiedInput => []
  | rolling spec => [("spec", spec.text)]
  | evaluated total dice cursed mode =>
    [("total", Text.decimal total), ("dice", dice.repr),
      ("cursed", if cursed then "true" else "false"), ("adv", mode.tag)]
  | summarized length limit => [("len", length.repr), ("max_len", limit.repr)]
  | shortened headerBytes => [("header_len", headerBytes.repr)]
  | refused why => [("why", why.message)]
  | faulted input => [("input", input)]
  | pinged => []
  | rollRequested command => [("command", command)]
  | unknownCommand command => [("command", command)]
  | unknownKind kind => [("kind", kind.toNat.repr)]

end Event

end ChatDice
