import ChatDice.Json.Basic

/-!
# Writing JSON

A value is written on one line without blanks, or over several lines with two blanks for each level.
In a text only the quote, the backslash and the controls below the space are escaped; every other
character stands for itself.
-/

namespace ChatDice

namespace Json

/-- A character as it stands in a text in quotes. -/
def escape (c : Char) : List Char :=
  match c with
  | '"' => ['\\', '"']
  | '\\' => ['\\', '\\']
  | '\x08' => ['\\', 'b']
  | '\t' => ['\\', 't']
  | '\n' => ['\\', 'n']
  | '\x0c' => ['\\', 'f']
  | '\r' => ['\\', 'r']
  | c =>
    if c.toNat < 0x20 then
      ['\\', 'u', '0', '0', Nat.digitChar (c.toNat / 16), Nat.digitChar (c.toNat % 16)]
    else [c]

/-- A text in quotes. One with half a surrogate pair is written as such a half. -/
def quote : Option String → List Char
  | some content => '"' :: content.toList.flatMap escape ++ ['"']
  | none => "\"\\ud800\"".toList

/-- A line break and two blanks for each level. -/
def newline (level : Nat) : List Char := '\n' :: List.replicate (2 * level) ' '

mutual

def compact : Json → List Char
  | null => "null".toList
  | bool true => "true".toList
  | bool false => "false".toList
  | number n => n.text
  | text content => quote content
  | array items => '[' :: compactItems items ++ [']']
  | object members => '\x7b' :: compactMembers members ++ ['\x7d']

def compactItems : List Json → List Char
  | [] => []
  | [item] => item.compact
  | item :: rest => item.compact ++ ',' :: compactItems rest

def compactMembers : List (Option String × Json) → List Char
  | [] => []
  | [(key, value)] => quote key ++ ':' :: value.compact
  | (key, value) :: rest => quote key ++ ':' :: value.compact ++ ',' :: compactMembers rest

end

mutual

/-- The written form over several lines, inside so many levels. -/
def pretty (level : Nat) : Json → List Char
  | null => "null".toList
  | bool true => "true".toList
  | bool false => "false".toList
  | number n => n.text
  | text content => quote content
  | array [] => "[]".toList
  | object [] => "\x7b\x7d".toList
  | array (item :: rest) =>
    '[' :: prettyItems (level + 1) (item :: rest) ++ newline level ++ [']']
  | object (member :: rest) =>
    '\x7b' :: prettyMembers (level + 1) (member :: rest) ++ newline level ++ ['\x7d']

/-- The items, each on lines of its own, with commas between them. -/
def prettyItems (level : Nat) : List Json → List Char
  | [] => []
  | [item] => newline level ++ item.pretty level
  | item :: rest => newline level ++ item.pretty level ++ ',' :: prettyItems level rest

/-- The members, each on lines of its own, with commas between them. -/
def prettyMembers (level : Nat) : List (Option String × Json) → List Char
  | [] => []
  | [(key, value)] => newline level ++ quote key ++ ':' :: ' ' :: value.pretty level
  | (key, value) :: rest =>
    newline level ++ quote key ++ ':' :: ' ' :: value.pretty level ++
      ',' :: prettyMembers level rest

end

def toCompact (v : Json) : String := String.ofList v.compact

def toPretty (v : Json) : String := String.ofList (v.pretty 0)

end Json

end ChatDice
