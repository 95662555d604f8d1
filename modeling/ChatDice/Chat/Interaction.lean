/-!
# Interactions

What a chat sends: a ping, or a command with options, and who sent it.
-/

namespace ChatDice

/-- An account of the chat. -/
structure User where
  username : String
deriving DecidableEq

/-- An account as a member of a group. -/
structure Member where
  /-- The name that the member has in the group. -/
  nick : Option String
  user : Option User
deriving DecidableEq

/-- An option given to a command. -/
structure CommandOption where
  name : String
  /-- The text given for it; `none` if something else or nothing was given. -/
  text : Option String
deriving DecidableEq

/-- A command with its options. -/
structure Command where
  name : String
  options : List CommandOption
deriving DecidableEq

/-- What a chat sends. -/
structure Interaction where
  kind : UInt8
  /-- The command that is called, if one is. -/
  command : Option Command
  /-- The member who sent the interaction, in a group. -/
  member : Option Member
  /-- The account that sent the interaction, outside a group. -/
  user : Option User
deriving DecidableEq

/-- The text given for the first option with the name `name`. -/
def Command.optionText? (c : Command) (name : String) : Option String :=
  (c.options.find? fun o => o.name = name).bind CommandOption.text

namespace Interaction

def pingKind : UInt8 := 1

def commandKind : UInt8 := 2

/-- The name in replies to someone who has none. -/
def anonymous : String := "Someone"

/-- The name that a reply is given under: that of the member in the group, that of the member's
account, or that of the account. -/
def displayName (i : Interaction) : String :=
  ((i.member.bind Member.nick).or
    ((i.member.bind Member.user).or i.user |>.map User.username)).getD anonymous

end Interaction

end ChatDice
