import ChatDice.Chat.Interaction
import ChatDice.Json.Reader

/-!
# Interactions from JSON

Each part of an interaction is a record. It is written as an object, in which fields of other names
count for nothing, or as an array of its fields in their order. A field that may be missing is
missing also where it is `null`, but for the options of a command, which are an array if they are
given.
-/

namespace ChatDice

namespace Json

/-- The fields of a record by their names. No field may be given twice, and the fields of an array
are those named in `names`, as many as there are items. -/
def record? (names : List String) : Json → Option (String → Option Json)
  | object members =>
    if members.all (fun m => m.1.isSome) ∧
        names.all (fun name => (members.filter fun m => m.1 = some name).length ≤ 1) then
      some fun name => members.lookup (some name)
    else none
  | array items =>
    if items.length ≤ names.length then some fun name => (names.zip items).lookup name
    else none
  | _ => none

def text? : Json → Option String
  | text content => content
  | _ => none

def items? : Json → Option (List Json)
  | array items => some items
  | _ => none

/-- The number below 256 that is written without sign, point and exponent. -/
def byte? : Json → Option UInt8
  | number n => n.nat?.bind fun k => if k < 256 then some (UInt8.ofNat k) else none
  | _ => none

/-- A field that may be missing or `null`; the outer `none` means that it is given and cannot be
read. -/
def optional? {α : Type} (read? : Json → Option α) : Option Json → Option (Option α)
  | none => some none
  | some null => some none
  | some v => (read? v).map some

end Json

def User.ofJson? (v : Json) : Option User := do
  let field ← v.record? ["username"]
  let username ← (field "username").bind Json.text?
  return { username }

def Member.ofJson? (v : Json) : Option Member := do
  let field ← v.record? ["nick", "user"]
  let nick ← Json.optional? Json.text? (field "nick")
  let user ← Json.optional? User.ofJson? (field "user")
  return { nick, user }

/-- Reads an option whose value is one of those that are taken. -/
def CommandOption.ofJson? (takes : Json → Bool) (v : Json) : Option CommandOption := do
  let field ← v.record? ["name", "value"]
  let name ← (field "name").bind Json.text?
  let value := (field "value").getD .null
  if takes value then return { name, text := value.text? } else none

def Command.ofJson? (takes : Json → Bool) (v : Json) : Option Command := do
  let field ← v.record? ["name", "options"]
  let name ← (field "name").bind Json.text?
  let options ← ((field "options").getD (.array [])).items?
  let options ← options.mapM (CommandOption.ofJson? takes)
  return { name, options }

namespace Interaction

/-- Reads an interaction in which the values of options are among those that are taken. -/
def ofJson? (takes : Json → Bool) (v : Json) : Option Interaction := do
  let field ← v.record? ["type", "data", "member", "user"]
  let kind ← (field "type").bind Json.byte?
  let command ← Json.optional? (Command.ofJson? takes) (field "data")
  let member ← Json.optional? Member.ofJson? (field "member")
  let user ← Json.optional? User.ofJson? (field "user")
  return { kind, command, member, user }

/-- How deep the value of an option may be nested in a text: 127 levels in all, of which four lie
around the value. -/
def maxValueDepth : Nat := 123

/-- Whether the value of an option is taken from a text. -/
def takesFromText (v : Json) : Bool := v.isSound && v.depth ≤ maxValueDepth

def ofText? (text : String) : Option Interaction :=
  (Json.parse? text).bind (ofJson? takesFromText)

end Interaction

end ChatDice
