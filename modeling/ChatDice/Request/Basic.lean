import ChatDice.Request.Token

/-!
# Requests

A request gathers what all words of an input say. Flags and dice expressions add up, while of
several modifiers the first one counts, be it a number or not. Main statements: `merge_empty`,
`empty_merge`, `merge_assoc`, `foldl_addWord_eq_merge` — reading on after a request is merging with
what comes later.
-/

namespace ChatDice

/-- The modifier of a whole roll, as it was given. -/
inductive Modifier
  | value (n : Int64)
  /-- A word that starts with a sign and is no number in range. -/
  | malformed (word : String)
deriving DecidableEq

/-- Everything that an input asks for. -/
structure Request where
  cursed : Bool := false
  dice : List Spec := []
  /-- Whether the greater of two rolls is to count. -/
  advantage : Bool := false
  /-- Whether the smaller of two rolls is to count. -/
  disadvantage : Bool := false
  /-- The first modifier given. -/
  modifier : Option Modifier := none
  help : Bool := false
  title : Option String := none
deriving DecidableEq

namespace Request

/-- The number that the modifier is, if there is one and it is a number. -/
def modifierValue? (r : Request) : Option Int64 :=
  match r.modifier with
  | some (.value n) => some n
  | _ => none

/-- Keeps the first modifier. -/
def addModifier (r : Request) (m : Modifier) : Request :=
  { r with modifier := r.modifier.or (some m) }

def addToken (r : Request) : Token → Request
  | .dice spec => { r with dice := r.dice ++ [spec] }
  | .modifier n => r.addModifier (.value n)
  | .cursed => { r with cursed := true }
  | .advantage => { r with advantage := true }
  | .disadvantage => { r with disadvantage := true }
  | .help => { r with help := true }

/-- Whether a word is meant as a modifier: a sign and something after it. -/
def looksLikeModifier : List Char → Bool
  | sign :: _ :: _ => sign == '+' || sign == '-'
  | _ => false

/-- Adds what one word says. A word that is no token counts only if it is meant as a modifier. -/
def addWord (r : Request) (word : List Char) : Request :=
  match Token.read? word with
  | some token => r.addToken token
  | none =>
    if looksLikeModifier word then r.addModifier (.malformed (String.ofList word)) else r

/-- The request that stands in two inputs one after the other. -/
def merge (a b : Request) : Request where
  cursed := a.cursed || b.cursed
  dice := a.dice ++ b.dice
  advantage := a.advantage || b.advantage
  disadvantage := a.disadvantage || b.disadvantage
  modifier := a.modifier.or b.modifier
  help := a.help || b.help
  title := a.title.or b.title

@[simp] theorem merge_empty (a : Request) : a.merge {} = a := by
  simp [merge]

@[simp] theorem empty_merge (a : Request) : ({} : Request).merge a = a := by
  simp [merge]

theorem merge_assoc (a b c : Request) : (a.merge b).merge c = a.merge (b.merge c) := by
  simp [merge, Bool.or_assoc, Option.or_assoc]

/-- Adding a word is merging with what the word says by itself. -/
theorem addWord_eq_merge (r : Request) (word : List Char) :
    r.addWord word = r.merge (addWord {} word) := by
  unfold addWord
  split
  · next token _ => cases token <;> simp [addToken, addModifier, merge]
  · split <;> simp [addModifier, merge]

theorem foldl_addWord_eq_merge (r : Request) (words : List (List Char)) :
    words.foldl addWord r = r.merge (words.foldl addWord {}) := by
  induction words generalizing r with
  | nil => simp
  | cons word rest ih =>
    rw [List.foldl_cons, List.foldl_cons, ih, ih (addWord {} word), addWord_eq_merge r, merge_assoc]

end Request

end ChatDice
