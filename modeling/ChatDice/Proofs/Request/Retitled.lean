import ChatDice.Proofs.Play.Asked
import ChatDice.Proofs.Request.Clause
import ChatDice.Request.Classify

/-!
# Titles have no influence

A title may look like words of a request, or like a clause of its own. It is taken out of the input
before anything else is read.

**Theorem (`classify_retitled`).** If an input is given another title, the title clause is found at
the same place, and the request is the same but for its title. Played in the same session it is
refused alike, or answered with the manual alike, or rolled alike: the same dice are asked for and
the trials, totals and numbers of draws are the same.

That no clause starts before the place in either input is decided before the title
(`Clause.startingAt?_eq_none_of_append`), so the same words are left of both. What playing a request
does depends on its title in nothing but the title of the outcome.
-/

namespace ChatDice

/-! ## Requests with another title -/

namespace Request

def retitled (r : Request) (title : Option String) : Request := { r with title }

theorem addWord_retitled (r : Request) (title : Option String) (word : List Char) :
    (r.retitled title).addWord word = (r.addWord word).retitled title := by
  unfold addWord
  split
  · next token _ => cases token <;> rfl
  · split <;> rfl

theorem foldl_addWord_retitled (r : Request) (title : Option String) (words : List (List Char)) :
    words.foldl addWord (r.retitled title) = (words.foldl addWord r).retitled title := by
  induction words generalizing r with
  | nil => rfl
  | cons word rest ih => rw [List.foldl_cons, List.foldl_cons, addWord_retitled, ih]

end Request

/-- Two answers that differ at most in the title of a roll. -/
inductive SameRoll : Except Refusal Answer → Except Refusal Answer → Prop
  | refused (why : Refusal) : SameRoll (.error why) (.error why)
  | help : SameRoll (.ok .help) (.ok .help)
  | rolled {a b : Outcome} (advantage : a.advantage = b.advantage) (trials : a.trials = b.trials)
      (modifier : a.modifier = b.modifier) (rollTotal : a.rollTotal = b.rollTotal)
      (total : a.total = b.total) (drawCount : a.drawCount = b.drawCount) :
      SameRoll (.ok (.rolled a)) (.ok (.rolled b))

namespace Session

variable {σ : Type} [Roller σ]

/-- **Playing a request under another title.** -/
theorem play_retitled (s : Session σ) (r : Request) (title : Option String) :
    SameRoll (s.play r).value.1 (s.play (r.retitled title)).value.1 ∧
      (s.play r).value.2 = (s.play (r.retitled title)).value.2 :=
  s.play_congr rfl rfl rfl .refused .help (.rolled rfl rfl rfl rfl rfl rfl)

theorem asked_retitled (s : Session σ) (r : Request) (title : Option String) :
    s.asked r = s.asked (r.retitled title) := by
  rw [asked, asked, (s.recording.play_retitled r title).2]

end Session

/-! ## Inputs with another title -/

namespace Clause

/-- A text with a title clause in it. -/
def written (before keyword word text after : String) : String :=
  before ++ keyword ++ word ++ ":\"" ++ text ++ "\"" ++ after

theorem toList_written (p k w t s : String) :
    (written p k w t s).toList =
      p.toList ++ (k.toList ++ (w.toList ++ ':' :: '"' :: (t.toList ++ '"' :: s.toList))) := by
  have opening : ":\"".toList = [':', '"'] := rfl
  have closing : "\"".toList = ['"'] := rfl
  simp [written, opening, closing]

variable {p k w s t u : String}

/-- A clause before which no clause starts is the one that is found. -/
theorem find?_written (keyword : Keyword k.toList)
    (word : ∀ c ∈ w.toList, Text.isWordChar c = true) (quotable : Quotable t.toList)
    (first : ∀ b, b ≠ [] → b <:+ p.toList → startingAt? (b ++ (k.toList ++ (w.toList ++
      ':' :: '"' :: (t.toList ++ '"' :: s.toList)))) = none) :
    find? (written p k w t s).toList = some
      { before := p.toList, keyword := k.toList, word := w.toList, text := t.toList,
        after := s.toList } := by
  rw [toList_written, find?_append_of_forall first,
    find?_of_startingAt? (startingAt?_keyword keyword word quotable s.toList), Option.map_some,
    List.append_nil]

theorem value_classify_written (found : find? (written p k w t s).toList = some
      { before := p.toList, keyword := k.toList, word := w.toList, text := t.toList,
        after := s.toList }) :
    ∃ title, (Request.classify (written p k w t s)).value =
      ((Request.normalizedWords (p.toList ++ ' ' :: s.toList)).foldl Request.addWord {}).retitled
        title := by
  rw [Request.value_classify, extractTitle, found]
  exact ⟨_, Request.foldl_addWord_retitled {} _ _⟩

end Clause

namespace Request

variable {σ : Type} [Roller σ] {p k w s t u : String}

/-- **A title has no influence on the roll.** -/
theorem classify_retitled (session : Session σ) (keyword : Clause.Keyword k.toList)
    (word : ∀ c ∈ w.toList, Text.isWordChar c = true) (quotableT : Clause.Quotable t.toList)
    (quotableU : Clause.Quotable u.toList)
    (found : (Clause.find? (Clause.written p k w t s).toList).map Clause.before = some p.toList) :
    (Clause.find? (Clause.written p k w u s).toList).map Clause.before = some p.toList ∧
    let a := (classify (Clause.written p k w t s)).value
    let b := (classify (Clause.written p k w u s)).value
    b = { a with title := b.title } ∧
      SameRoll (session.play a).value.1 (session.play b).value.1 ∧
      (session.play a).value.2 = (session.play b).value.2 ∧
      session.asked a = session.asked b := by
  obtain ⟨clause, hc, place⟩ := Option.map_eq_some_iff.1 found
  rw [Clause.toList_written] at hc
  have first := Clause.startingAt?_eq_none_of_find? hc place
  have quoted : Clause.quotedAt? (':' :: '"' :: (t.toList ++ '"' :: s.toList)) ≠ none := by
    rw [Clause.quotedAt?_text quotableT]
    exact Option.some_ne_none _
  have foundT := Clause.find?_written (s := s) keyword word quotableT first
  have foundU := Clause.find?_written (s := s) keyword word quotableU fun b hb suffix =>
    Clause.startingAt?_eq_none_of_append hb keyword word quoted (first b hb suffix) _
  obtain ⟨titleT, readT⟩ := Clause.value_classify_written foundT
  obtain ⟨titleU, readU⟩ := Clause.value_classify_written foundU
  refine ⟨by rw [foundU]; rfl, ?_⟩
  intro a b
  have same : b = a.retitled b.title := by
    show (classify _).value = (classify _).value.retitled (classify _).value.title
    rw [readT, readU]
    rfl
  refine ⟨same, ?_⟩
  rw [same]
  exact ⟨(session.play_retitled a b.title).1, (session.play_retitled a b.title).2,
    session.asked_retitled a b.title⟩

/-- `forest:` starts no clause, and the words and the keyword in the second title say nothing. -/
theorem classify_retitled_words :
    let p := "2d6 forest:for: "
    let a := (classify (Clause.written p "FoR" "_7" "Luck" " dis")).value
    let b := (classify (Clause.written p "FoR" "_7" "adv 9d9 +5 for" " dis")).value
    let session : Session Steps := .start (some 10) (.startingAt 1 1)
    (Clause.find? (Clause.written p "FoR" "_7" "Luck" " dis").toList).map Clause.before =
        some p.toList ∧
      a.title ≠ b.title ∧ b = { a with title := b.title } ∧
      SameRoll (session.play a).value.1 (session.play b).value.1 ∧
      session.asked a = session.asked b := by
  intro p a b session
  have found : (Clause.find? (Clause.written p "FoR" "_7" "Luck" " dis").toList).map Clause.before =
      some p.toList := by
    decide +kernel
  have different : a.title ≠ b.title := by decide +kernel
  have word : "_7".toList.all Text.isWordChar = true := by decide +kernel
  obtain ⟨-, same, alike, -, asked⟩ := classify_retitled (u := "adv 9d9 +5 for") session
    (by decide) (List.all_eq_true.1 word) (by decide) (by decide) found
  exact ⟨found, different, same, alike, asked⟩

end Request

end ChatDice
