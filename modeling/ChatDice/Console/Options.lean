import ChatDice.Limits
import ChatDice.Text.Decimal

/-!
# Options of the console

The console takes its limits, the name of the player and the form of its answers as options. An
option has its value after an equals sign or as the next argument. Each option is given once at
most.
-/

namespace ChatDice.Console

inductive Format
  /-- Replies as a chat shows them. -/
  | reply
  | json
  | plain
deriving DecidableEq

/-- The name that rolls are made under, if no other is given. -/
def usualName : String := "You"

structure Options where
  limits : Limits := {}
  /-- The name that rolls are made under. -/
  name : String := usualName
  format : Format := .reply
deriving DecidableEq

/-- The options that the arguments so far have given. -/
structure Given where
  maxRolls : Option Nat := none
  maxLength : Option Nat := none
  name : Option String := none
  json : Bool := false
  plain : Bool := false

/-- The number of 64 bits that an argument is; a plus sign may stand before it. -/
def count? (text : String) : Option Nat :=
  let digits := match text.toList with
    | '+' :: digits => digits
    | digits => digits
  (Text.nat? digits).filter (· ≤ maxCount)

/-- Whether an argument can be the value of the option before it. A single dash can. -/
def isValue (arg : String) : Bool :=
  match arg.toList with
  | '-' :: _ :: _ => false
  | _ => true

/-- An argument up to its first equals sign, and what follows that sign. -/
def splitArgument (arg : String) : String × Option String :=
  let cs := arg.toList
  match cs.dropWhile (· != '=') with
  | [] => (arg, none)
  | _ :: value => (String.ofList (cs.takeWhile (· != '=')), some (String.ofList value))

namespace Given

/-- Sets an option that takes a value, if there is such an option, it is not set already and the
value can be read. -/
def withValue? (g : Given) (option value : String) : Option Given :=
  match option with
  | "--max-rolls" =>
    if g.maxRolls.isSome then none else (count? value).map fun n => { g with maxRolls := n }
  | "--max-len" =>
    if g.maxLength.isSome then none else (count? value).map fun n => { g with maxLength := n }
  | "--name" => if g.name.isSome then none else some { g with name := value }
  | _ => none

/-- Sets an option that takes no value, if there is such an option and it is not set already. -/
def withFlag? (g : Given) (option : String) : Option Given :=
  match option with
  | "--json" => if g.json then none else some { g with json := true }
  | "--plain" => if g.plain then none else some { g with plain := true }
  | _ => none

def takesValue (option : String) : Bool :=
  option == "--max-rolls" || option == "--max-len" || option == "--name"

/-- Reads all arguments. Two dashes end the options; no argument may follow them. -/
def read? (g : Given) : List String → Option Given
  | [] => some g
  | arg :: rest =>
    if arg = "--" then
      if rest.isEmpty then some g else none
    else
      match splitArgument arg with
      | (option, some value) => do (← g.withValue? option value).read? rest
      | (option, none) =>
        if takesValue option then
          match rest with
          | [] => none
          | value :: rest =>
            if isValue value then do (← g.withValue? option value).read? rest else none
        else do (← g.withFlag? option).read? rest

/-- The options of a run, with the usual values for what is not given. The two forms that answers
can have exclude each other. -/
def options? (g : Given) : Option Options :=
  if g.json && g.plain then none
  else some {
    limits := {
      maxRolls := some (g.maxRolls.getD usualMaxRolls)
      maxLength := g.maxLength.getD usualMaxLength }
    name := g.name.getD usualName
    format := if g.json then .json else if g.plain then .plain else .reply }

end Given

/-- The options that a list of arguments gives; `none` if the arguments are not in order. -/
def Options.ofArgs? (args : List String) : Option Options :=
  (Given.read? {} args).bind Given.options?

end ChatDice.Console
