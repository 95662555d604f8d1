import ChatDice.Text.Alphanumeric
import ChatDice.Text.Blank

/-!
# The title clause

A request may hold one clause such as `for:"Perception check"`: the letters `for` in either case,
the rest of the word they stand in, a colon and a text in quotes that has no colon in it. The clause
is looked for in the text as it was given, blanks and all, and the leftmost one counts. Main
statement: `Clause.parts` — a clause that is found is a part of the text.
-/

namespace ChatDice

open Text (isWordChar)

/-- A title clause and what stands on either side of it. -/
structure Clause where
  before : List Char
  /-- The letters `for`, as they were given. -/
  keyword : List Char
  /-- The rest of the word that the keyword stands in. -/
  word : List Char
  text : List Char
  after : List Char
deriving DecidableEq

namespace Clause

/-- Whether `c` goes on with the text between the quotes. -/
def isTextChar (c : Char) : Bool := c != '"' && c != ':'

/-- Whether the three letters are `for`, in either case. -/
def isKeyword (f o r : Char) : Bool := f.toLower == 'f' && o.toLower == 'o' && r.toLower == 'r'

/-- The text between quotes that starts here and what stands after it. A colon before the closing
quote means that there is none. -/
def quotedAt? : List Char → Option (List Char × List Char)
  | ':' :: '"' :: rest =>
    match rest.dropWhile isTextChar with
    | '"' :: after => some (rest.takeWhile isTextChar, after)
    | _ => none
  | _ => none

/-- The clause that starts with the first character of a text. -/
def startingAt? : List Char → Option Clause
  | f :: o :: r :: rest =>
    if isKeyword f o r then
      (quotedAt? (rest.dropWhile isWordChar)).map fun (text, after) =>
        { before := [], keyword := [f, o, r], word := rest.takeWhile isWordChar, text, after }
    else none
  | _ => none

/-- The leftmost clause of a text. -/
def find? : List Char → Option Clause
  | [] => none
  | c :: rest =>
    match startingAt? (c :: rest) with
    | some clause => some clause
    | none => (find? rest).map fun clause => { clause with before := c :: clause.before }

/-- The title that a clause gives: its text without the blanks at the ends, unless it is empty. -/
def title? (clause : Clause) : Option String :=
  match Text.trim clause.text with
  | [] => none
  | title => some (String.ofList title)

/-- The text around a clause, with a space where the clause was. -/
def remainder (clause : Clause) : List Char := clause.before ++ ' ' :: clause.after

end Clause

/-- Takes the title clause out of a text: the title, and what is left of the text. -/
def extractTitle (cs : List Char) : Option String × List Char :=
  match Clause.find? cs with
  | some clause => (clause.title?, clause.remainder)
  | none => (none, cs)

namespace Clause

theorem parts_of_quotedAt? {cs text after : List Char} (h : quotedAt? cs = some (text, after)) :
    cs = ':' :: '"' :: text ++ '"' :: after := by
  unfold quotedAt? at h
  split at h
  · next rest =>
    split at h
    · next tail hd =>
      simp only [Option.some.injEq, Prod.mk.injEq] at h
      obtain ⟨rfl, rfl⟩ := h
      have := List.takeWhile_append_dropWhile (p := isTextChar) (l := rest)
      rw [hd] at this
      simp [this]
    · simp at h
  · simp at h

theorem parts_of_startingAt? {cs : List Char} {clause : Clause} (h : startingAt? cs = some clause) :
    clause.before = [] ∧
      cs = clause.keyword ++ clause.word ++ ':' :: '"' :: clause.text ++ '"' :: clause.after := by
  unfold startingAt? at h
  split at h
  · next f o r rest =>
    split at h
    · obtain ⟨⟨text, after⟩, hq, rfl⟩ := Option.map_eq_some_iff.1 h
      have := parts_of_quotedAt? hq
      have split := List.takeWhile_append_dropWhile (p := isWordChar) (l := rest)
      rw [this] at split
      exact ⟨rfl, by simpa using congrArg ([f, o, r] ++ ·) split.symm⟩
    · simp at h
  · simp at h

/-- The parts of a clause, put together again, are the text in which it was found. -/
theorem parts {cs : List Char} {clause : Clause} (h : find? cs = some clause) :
    cs = clause.before ++ clause.keyword ++ clause.word ++ ':' :: '"' :: clause.text ++
      '"' :: clause.after := by
  induction cs generalizing clause with
  | nil => simp [find?] at h
  | cons c rest ih =>
    rw [find?] at h
    split at h
    · next found hs =>
      simp only [Option.some.injEq] at h
      subst h
      obtain ⟨hb, hp⟩ := parts_of_startingAt? hs
      simpa [hb] using hp
    · obtain ⟨inner, hi, rfl⟩ := Option.map_eq_some_iff.1 h
      have := ih hi
      simpa using this

end Clause

end ChatDice
