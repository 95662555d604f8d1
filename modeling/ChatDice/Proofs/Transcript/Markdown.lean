import ChatDice.Proofs.Reply.Limit
import Mathlib.Data.List.Forall2

/-!
# Marks

In the style of chats, values stand between marks. No other character is added or left out.

**Theorem (`transcript_unmarked`).** Without its marks, a transcript for a chat is the plain
transcript, and so for the summary. So the plain transcript is never longer, and where a limit lets
the chat see the transcript it lets the console see it too.

Every line is put together from words and numbers. One text decorates another if it is the same but
for marks and if the other one has letters, digits, blanks and punctuation alone. Putting texts
together keeps that, and marks around the first of them change nothing.
-/

namespace ChatDice

/-! ## Marks -/

/-- The characters that set off values. -/
def marks : List Char := "`*".toList

/-- A text without its marks. -/
def unmarked (text : String) : String :=
  String.ofList (text.toList.filter fun c => !marks.contains c)

theorem unmarked_append (a b : String) : unmarked (a ++ b) = unmarked a ++ unmarked b := by
  simp only [unmarked, String.toList_append, List.filter_append, String.ofList_append]

theorem length_unmarked_le (text : String) : (unmarked text).length ≤ text.length := by
  rw [unmarked, String.length_ofList, ← String.length_toList]
  exact List.length_filter_le _ _

/-- A character that can stand in a plain transcript: a letter, a digit, a blank or a punctuation
mark of the lines. -/
def isPrinted (c : Char) : Bool := c.isAlphanum || " !',.:+-".toList.contains c

/-- A text in which every character can stand in a plain transcript. -/
def Printed (text : String) : Prop := ∀ c ∈ text.toList, isPrinted c = true

theorem Printed.append {a b : String} (ha : Printed a) (hb : Printed b) : Printed (a ++ b) := by
  intro c hc
  rw [String.toList_append] at hc
  exact (List.mem_append.1 hc).elim (ha c) (hb c)

theorem printed_words {cs : List Char} (h : cs.all isPrinted = true) :
    Printed (String.ofList cs) := by
  intro c hc
  rw [String.toList_ofList] at hc
  exact List.all_eq_true.1 h c hc

theorem printed_empty : Printed "" := by simp [Printed]

theorem isPrinted_of_isDigit {c : Char} (h : c.isDigit = true) : isPrinted c = true := by
  show (c.isAlpha || c.isDigit || " !',.:+-".toList.contains c) = true
  rw [h, Bool.or_true, Bool.true_or]

theorem printed_repr (n : Nat) : Printed n.repr := by
  intro c hc
  rw [Nat.toList_repr] at hc
  exact isPrinted_of_isDigit (Text.isDigit_of_mem_toDigits hc)

theorem printed_signed (n : Int64) : Printed (Text.signed n) := by
  have minus : Printed "-" := printed_words rfl
  have plus : Printed "+" := printed_words rfl
  unfold Text.signed
  split
  · exact minus.append (printed_repr _)
  · exact plus.append (printed_repr _)

theorem printed_decimal (n : Int64) : Printed (Text.decimal n) := by
  have minus : Printed "-" := printed_words rfl
  unfold Text.decimal
  split
  · exact minus.append (printed_repr _)
  · exact printed_repr _

theorem contains_marks_of_isPrinted {c : Char} (h : isPrinted c = true) :
    marks.contains c = false := by
  rw [Bool.eq_false_iff]
  intro hc
  have alone : marks.all fun d => !isPrinted d := by decide
  have := List.all_eq_true.1 alone c (by simpa using hc)
  simp [h] at this

theorem Printed.unmarked_eq {text : String} (h : Printed text) : unmarked text = text := by
  rw [unmarked, List.filter_eq_self.2 fun c hc => ?_, String.ofList_toList]
  rw [contains_marks_of_isPrinted (h c hc)]
  rfl

/-! ## Decorated texts -/

/-- A text is the same as a plain one but for marks. -/
structure Decorates (text plain : String) : Prop where
  unmarked_eq : unmarked text = plain
  printed : Printed plain

namespace Decorates

theorem of_printed {text : String} (h : Printed text) : Decorates text text := ⟨h.unmarked_eq, h⟩

theorem words {cs : List Char} (h : cs.all isPrinted = true) :
    Decorates (String.ofList cs) (String.ofList cs) :=
  of_printed (printed_words h)

variable {a b a' b' : String}

theorem append (ha : Decorates a a') (hb : Decorates b b') : Decorates (a ++ b) (a' ++ b') where
  unmarked_eq := by rw [unmarked_append, ha.unmarked_eq, hb.unmarked_eq]
  printed := ha.printed.append hb.printed

theorem codeSpan (h : Decorates a a') : Decorates (Style.codeSpan a) a' := by
  have tick : unmarked "`" = "" := rfl
  refine ⟨?_, h.printed⟩
  rw [Style.codeSpan, unmarked_append, unmarked_append, tick, h.unmarked_eq]
  simp

theorem bold (h : Decorates a a') : Decorates (Style.bold a) a' := by
  have stars : unmarked "**" = "" := rfl
  refine ⟨?_, h.printed⟩
  rw [Style.bold, unmarked_append, unmarked_append, stars, h.unmarked_eq]
  simp

theorem mark {text : String} (h : Printed text) :
    Decorates (Style.markdown.mark text) (Style.plain.mark text) :=
  (of_printed h).codeSpan

theorem markDraw (die : Die) (value : UInt32) :
    Decorates (Style.markdown.markDraw die value) (Style.plain.markDraw die value) := by
  have number := (of_printed (printed_repr value.toNat)).codeSpan
  show Decorates (if _ then _ else _) value.toNat.repr
  split
  · exact number.bold
  · exact number

theorem intercalate {lines others : List String} (h : List.Forall₂ Decorates lines others) :
    unmarked ("\n".intercalate lines) = "\n".intercalate others := by
  have newline : unmarked "\n" = "\n" := rfl
  induction h with
  | nil => rfl
  | cons first rest ih =>
    cases rest with
    | nil => simpa using first.unmarked_eq
    | cons =>
      rw [String.intercalate_cons_cons, String.intercalate_cons_cons, unmarked_append,
        unmarked_append, first.unmarked_eq, newline, ih]

theorem printed_of_mem {lines others : List String} (h : List.Forall₂ Decorates lines others) :
    ∀ line ∈ others, Printed line := by
  induction h with
  | nil => simp
  | cons first _ ih => exact List.forall_mem_cons.2 ⟨first.printed, ih⟩

end Decorates

/-! ## Lines -/

open Decorates

theorem printed_name (die : Die) : Printed die.name := by
  have letter : Printed "d" := printed_words rfl
  exact letter.append (printed_repr _)

namespace Throw

theorem decorates_drawLine (die : Die) (value : UInt32) :
    Decorates (drawLine .markdown die value) (drawLine .plain die value) :=
  (((words rfl).append (mark (printed_name die))).append (words rfl)).append
    (markDraw die value) |>.append (words rfl)

theorem decorates_sumLine (t : Throw) : Decorates (t.sumLine .markdown) (t.sumLine .plain) :=
  ((words rfl).append (mark (printed_decimal _))).append (words rfl)

theorem decorates_modifierLine (t : Throw) (m : Int64) :
    Decorates (t.modifierLine .markdown m) (t.modifierLine .plain m) :=
  (((words rfl).append (mark (printed_signed m))).append (words rfl)).append
    (mark (printed_decimal _)) |>.append (words rfl)

theorem decorates_lines (t : Throw) :
    List.Forall₂ Decorates (t.lines .markdown) (t.lines .plain) := by
  unfold lines
  refine List.rel_append ?_ (List.rel_append ?_ ?_)
  · rw [List.forall₂_map_left_iff, List.forall₂_map_right_iff, List.forall₂_same]
    exact fun value _ => decorates_drawLine t.spec.die value
  · split
    · exact .cons t.decorates_sumLine .nil
    · exact .nil
  · cases t.spec.modifier with
    | none => exact .nil
    | some m => exact .cons (t.decorates_modifierLine m) .nil

end Throw

namespace Trial

theorem decorates_cursedLine (value : UInt32) (again : Bool) :
    Decorates (cursedLine .markdown value again) (cursedLine .plain value again) := by
  have which : Printed (if again then "another" else "a") := by
    cases again
    · exact printed_words rfl
    · exact printed_words rfl
  exact (((words rfl).append (of_printed which)).append (words rfl)).append
    (mark (printed_repr _)) |>.append (words rfl)

theorem decorates_allLine (t : Trial) : Decorates (t.allLine .markdown) (t.allLine .plain) :=
  ((words rfl).append (mark (printed_decimal _))).append (words rfl)

theorem decorates_lines (t : Trial) (again : Bool) :
    List.Forall₂ Decorates (t.lines .markdown again) (t.lines .plain again) := by
  cases t with
  | cursed value => exact .cons (decorates_cursedLine value again) .nil
  | dice throws =>
    unfold lines
    refine List.rel_append ?_ (List.rel_append ?_ ?_)
    · split
      · exact .cons (words rfl) .nil
      · exact .nil
    · exact List.rel_flatMap (List.forall₂_same.2 fun _ _ => rfl) fun t _ h => h ▸ t.decorates_lines
    · split
      · exact .cons (decorates_allLine _) .nil
      · exact .nil

end Trial

namespace Outcome

theorem decorates_pickLine (o : Outcome) :
    Decorates (o.pickLine .markdown) (o.pickLine .plain) := by
  have caption : Printed o.advantage.caption := by
    cases o.advantage
    · exact printed_empty
    · exact printed_words rfl
    · exact printed_words rfl
  exact ((of_printed caption).append (words rfl)).append (mark (printed_decimal _))

theorem decorates_totalLine (o : Outcome) :
    Decorates (o.totalLine .markdown) (o.totalLine .plain) := by
  have label : Printed (if o.modifier.isSome then "With modifier" else "Total") := by
    split
    · exact printed_words rfl
    · exact printed_words rfl
  exact ((of_printed label).append (words rfl)).append (mark (printed_decimal _))

theorem decorates_lines (o : Outcome) :
    List.Forall₂ Decorates (o.lines .markdown) (o.lines .plain) := by
  unfold lines
  refine List.rel_append (o.first.decorates_lines false)
    (List.rel_append ?_ (.cons o.decorates_totalLine .nil))
  cases o.replay with
  | none => exact .nil
  | some replay =>
    exact List.rel_append (replay.decorates_lines true) (.cons o.decorates_pickLine .nil)

theorem decorates_summary (o : Outcome) :
    Decorates (o.summary .markdown) (o.summary .plain) := by
  refine (((((words rfl).append (of_printed ?_)).append (words rfl)).append (of_printed ?_)).append
    (words rfl)).append (mark (printed_decimal _))
  · cases o.advantage
    · exact printed_empty
    · exact printed_words rfl
    · exact printed_words rfl
  · split
    · exact printed_words rfl
    · exact printed_empty

/-- A limit that shows the transcript has room for it: a summary is no transcript. -/
theorem length_le_of_render {o : Outcome} {limit : Nat}
    (h : (o.render .markdown limit).value = o.transcript .markdown) :
    (o.transcript .markdown).length ≤ limit := by
  rw [value_render] at h
  by_contra long
  -- Beyond the limit the summary is shown, which has no transcript at its end.
  rw [if_pos (by omega)] at h
  exact o.not_endsIn_transcript "" ⟨"", by rw [h]⟩

/-- **Marks are all that the style of chats adds.** -/
theorem transcript_unmarked (o : Outcome) :
    unmarked (o.transcript .markdown) = o.transcript .plain ∧
    unmarked (o.summary .markdown) = o.summary .plain ∧
    (o.transcript .plain).length ≤ (o.transcript .markdown).length ∧
    (o.summary .plain).length ≤ (o.summary .markdown).length ∧
    ∀ limit, (o.render .markdown limit).value = o.transcript .markdown →
      (o.render .plain limit).value = o.transcript .plain := by
  have transcript : unmarked (o.transcript .markdown) = o.transcript .plain :=
    intercalate o.decorates_lines
  have summary := o.decorates_summary.unmarked_eq
  have shorter : (o.transcript .plain).length ≤ (o.transcript .markdown).length := by
    rw [← transcript]
    exact length_unmarked_le _
  refine ⟨transcript, summary, shorter, ?_, fun limit shown => ?_⟩
  · rw [← summary]
    exact length_unmarked_le _
  · have room := length_le_of_render shown
    rw [value_render, if_neg (by omega)]

/-- An outcome that no request has: two draws for three dice, a draw from the cursed die as the
replay, and a third trial. -/
theorem transcript_unmarked_odd :
    let o : Outcome :=
      { title := none, advantage := .disadvantage, modifier := none
        first := .dice [⟨⟨3, .d6, some (-2)⟩, [1, 5]⟩], later := [.cursed 3, .dice []] }
    o.lines .markdown = ["Rolling a `d6`... **`1`**!", "Rolling a `d6`... `5`!", "That's `6`!",
      "With `-2` that's `4`!", "Rolling another CURSED d6... `3`!", "Disadvantage: `3`",
      "Total: `3`"] ∧
    unmarked (o.transcript .markdown) = o.transcript .plain ∧
    (o.render .markdown 150).value = o.transcript .markdown ∧
    (o.render .plain 150).value = o.transcript .plain := by
  intro o
  have shown : (o.render .markdown 150).value = o.transcript .markdown := by decide +kernel
  obtain ⟨transcript, -, -, -, kept⟩ := transcript_unmarked o
  exact ⟨by decide +kernel, transcript, shown, kept 150 shown⟩

end Outcome

end ChatDice
