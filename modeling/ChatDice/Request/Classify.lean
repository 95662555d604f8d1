import ChatDice.Log.Basic
import ChatDice.Request.Basic
import ChatDice.Request.Title
import ChatDice.Text.Lowercase

/-!
# Reading a request

The title clause is taken out of the input as it was given; what is left is split into words, and
each word is read by itself in lower case. Main statement: `value_classify` — the request is that of
the words, one after the other, with the title.
-/

namespace ChatDice

namespace Request

/-- What the log says about a word. A word that is meant as a modifier but is none goes without
mention. -/
def eventOfWord? (word : List Char) : Option Event :=
  match Token.read? word with
  | some token => some (.classifiedToken (String.ofList word) token)
  | none => if looksLikeModifier word then none else some (.ignoredToken (String.ofList word))

/-- Adds what each word says and reports on it. -/
def addWords (r : Request) : List (List Char) → Logged Request
  | [] => pure r
  | word :: rest => do
    if let some event := eventOfWord? word then Logged.emit event
    addWords (r.addWord word) rest

/-- The lower case words of a text. -/
def normalizedWords (cs : List Char) : List (List Char) := (Text.words cs).map Text.lower

def classify (input : String) : Logged Request := do
  let (title, rest) := extractTitle input.toList
  let r ← addWords { title } (normalizedWords rest)
  Logged.emit .classifiedInput
  return r

/-- Reads an input that was already split into words. -/
def classifyWords (words : List String) : Logged Request := classify (" ".intercalate words)

theorem value_addWords (r : Request) (words : List (List Char)) :
    (addWords r words).value = words.foldl addWord r := by
  induction words generalizing r with
  | nil => rfl
  | cons word rest ih =>
    rw [addWords]
    cases eventOfWord? word <;> simp [ih]

/-- The request that an input stands for: its title, and what its words say one after the other. -/
theorem value_classify (input : String) :
    (classify input).value =
      (normalizedWords (extractTitle input.toList).2).foldl addWord
        { title := (extractTitle input.toList).1 } := by
  simp [classify, value_addWords]

end Request

end ChatDice
