import ChatDice.Proofs.Play.Asked
import ChatDice.Proofs.Reply.Length

/-!
# A conflict shows

Advantage before a text and disadvantage after it, with anything at all in between.

**Theorem (`conflict_shows`).** Whatever stands between the words `adv` and `dis`, both are read,
the request is refused for asking for both, no die is asked for, and the reply says why.

A title clause could hide a word by starting before it and ending after it. None starts in a text
without `f` (`extractTitle_append`), and none ends in a text without a quote
(`exists_extractTitle_append`). So the clause that is taken out, if there is one, lies between the
two words, and the spaces beside them keep them apart from what is left there. What is read in
between takes nothing back.
-/

namespace ChatDice

/-- **A text without a quote stays at the end.** What is taken out of an input ends with a quote. -/
theorem exists_extractTitle_append (x : List Char) {y : List Char} (h : '"' ∉ y) :
    ∃ z, (extractTitle (x ++ y)).2 = z ++ y := by
  rw [extractTitle]
  cases hc : Clause.find? (x ++ y) with
  | none => exact ⟨x, rfl⟩
  | some clause =>
    have whole : y <:+ '"' :: clause.after := by
      have after : '"' :: clause.after <:+ x ++ y := ⟨_, (Clause.parts hc).symm⟩
      refine (List.suffix_or_suffix_of_suffix (List.suffix_append x y) after).resolve_right ?_
      exact fun inside => h (inside.subset List.mem_cons_self)
    rcases List.suffix_cons_iff.1 whole with rfl | ⟨z, hz⟩
    · exact absurd List.mem_cons_self h
    · refine ⟨clause.before ++ ' ' :: z, ?_⟩
      simp [Clause.remainder, ← hz]

/-! ## Words at both ends -/

namespace Request

open Text

theorem exists_value_classify {input : String} {first x last : List Char} (hf : Plain first)
    (hl : Plain last) (parts : input.toList = first ++ ' ' :: (x ++ ' ' :: last)) :
    ∃ title words, (classify input).value =
      (first :: (words ++ [last])).foldl addWord { title } := by
  have noQuote : '"' ∉ ' ' :: last := by
    intro quote
    rcases List.mem_cons.1 quote with space | quote
    · cases space
    · exact absurd (hl.isPlain _ quote) (by decide)
  -- A clause ends with a quote, so the last word is left whatever is taken out.
  obtain ⟨z, hz⟩ := exists_extractTitle_append x noQuote
  refine ⟨(extractTitle (x ++ ' ' :: last)).1, (words z).map lower, ?_⟩
  rw [value_classify, parts, extractTitle_append hf.toLower_ne, extractTitle_space, hz,
    normalizedWords, words_append_blank _ (by decide), words_append_blank _ (by decide), hf.words,
    hl.words]
  simp [hf.lower, hl.lower]

/-- **Both flags are read.** What stands between the words is merged with the first one, and the
last one with that; merging keeps what is set. -/
theorem flags_of_between (x : String) :
    (classify ("adv " ++ x ++ " dis")).value.advantage = true ∧
      (classify ("adv " ++ x ++ " dis")).value.disadvantage = true := by
  have first : Token.read? "adv".toList = some .advantage :=
    Token.read?_of_mem_spellings (show "adv" ∈ Token.advantage.spellings by decide)
  have last : Token.read? "dis".toList = some .disadvantage :=
    Token.read?_of_mem_spellings (show "dis" ∈ Token.disadvantage.spellings by decide)
  have parts : ("adv " ++ x ++ " dis").toList =
      "adv".toList ++ ' ' :: (x.toList ++ ' ' :: "dis".toList) := by
    have front : "adv ".toList = "adv".toList ++ [' '] := rfl
    have back : " dis".toList = ' ' :: "dis".toList := rfl
    rw [String.toList_append, String.toList_append, front, back]
    simp
  obtain ⟨title, words, read⟩ := exists_value_classify (by decide) (by decide) parts
  rw [read, List.foldl_cons, List.foldl_append, foldl_addWord_eq_merge (addWord _ _),
    List.foldl_cons, List.foldl_nil, addWord, addWord, first, last]
  exact ⟨rfl, rfl⟩

theorem objection?_of_flags {r : Request} (ha : r.advantage = true) (hd : r.disadvantage = true) :
    r.objection? = some .conflictingAdvantage := by
  simp [objection?, ha, hd]

end Request

/-! ## The answer and the reply -/

/-- **A conflict is never hidden.** -/
theorem conflict_shows {σ : Type} [Roller σ] (x : String) :
    let input := "adv " ++ x ++ " dis"
    let r := (Request.classify input).value
    r.advantage = true ∧ r.disadvantage = true ∧
      (∀ s : Session σ, (s.play r).value.1 = .error .conflictingAdvantage ∧
        (s.play r).value.2.source = s.source ∧ s.asked r = []) ∧
      ∀ (name : String) (limits : Limits) (source : σ),
        (rollReply (fun _ => false) input name limits source).value.1 =
          Refusal.conflictingAdvantage.message := by
  intro input r
  obtain ⟨ha, hd⟩ := Request.flags_of_between x
  have refused : r.objection? = some .conflictingAdvantage := Request.objection?_of_flags ha hd
  refine ⟨ha, hd, fun s => ?_, fun name limits source => ?_⟩
  · rw [Session.asked, Session.play_of_objection _ refused, Session.play_of_objection _ refused]
    exact ⟨rfl, rfl, rfl⟩
  · have whole : (Reply.attempt input name limits source).events.any (fun _ => false) = false := by
      simp
    rw [Reply.value_rollReply, whole, if_neg Bool.false_ne_true,
      Session.play_of_objection _ refused]
    rfl

end ChatDice
