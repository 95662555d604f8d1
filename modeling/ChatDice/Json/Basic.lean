import ChatDice.Json.Numeral

/-!
# JSON values

A JSON value keeps the members of an object in the order in which they are written, repeated keys
included. A text in quotes can spell one half of a surrogate pair without the other; no text of
characters has it as its content, so such a text is kept as `none`.
-/

namespace ChatDice

/-- A JSON value. -/
inductive Json
  | null
  | bool (b : Bool)
  | number (n : Numeral)
  /-- A text, or `none` for one with half a surrogate pair. -/
  | text (content : Option String)
  | array (items : List Json)
  /-- Keys with their values. -/
  | object (members : List (Option String × Json))

namespace Json

mutual

/-- How deep arrays and objects are nested in a value. -/
def depth : Json → Nat
  | array items => depthOfItems items + 1
  | object members => depthOfMembers members + 1
  | _ => 0

def depthOfItems : List Json → Nat
  | [] => 0
  | item :: rest => max item.depth (depthOfItems rest)

def depthOfMembers : List (Option String × Json) → Nat
  | [] => 0
  | (_, value) :: rest => max value.depth (depthOfMembers rest)

end

mutual

/-- Whether every text in the value, keys included, has characters only, and every number can be
held by a double. -/
def isSound : Json → Bool
  | number n => n.isFinite
  | text content => content.isSome
  | array items => itemsAreSound items
  | object members => membersAreSound members
  | _ => true

def itemsAreSound : List Json → Bool
  | [] => true
  | item :: rest => item.isSound && itemsAreSound rest

def membersAreSound : List (Option String × Json) → Bool
  | [] => true
  | (key, value) :: rest => key.isSome && value.isSound && membersAreSound rest

end

end Json

end ChatDice
