import ChatDice.Proofs.Play.Asked
import ChatDice.Proofs.Request.Extension
import ChatDice.Proofs.Request.Spelling

/-!
# One more modifier

A modifier that is written behind an input without one changes the total and nothing else.

**Theorem (`classify_modified`).** The request is the same but for the modifier, whatever number it
is. Played in the same session it is refused alike, or answered with the manual alike, or the same
dice show the same values; and the total is that of the input alone with the number added once, as
far as the range goes.

A number with its sign has no quote in it, so no title clause reaches into it, be there one in the
input, or the beginning of one (`Clause.extractTitle_append_of_noQuote`). It is the last word, and a
request reads its modifier nowhere but in the sum (`Session.play_modified`).
-/

namespace ChatDice

namespace Request

def modified (r : Request) (n : Int64) : Request := { r with modifier := some (.value n) }

/-- A number for a modifier is no fault, just as no modifier is none. -/
theorem objection?_modified {r : Request} (noModifier : r.modifier = none) (n : Int64) :
    (r.modified n).objection? = r.objection? := by
  rw [objection?, objection?, noModifier]
  rfl

end Request

/-- Two answers that differ at most in the modifier of a roll, which adds `n` to the total. -/
inductive ShiftedBy (n : Int64) : Except Refusal Answer → Except Refusal Answer → Prop
  | refused (why : Refusal) : ShiftedBy n (.error why) (.error why)
  | help : ShiftedBy n (.ok .help) (.ok .help)
  | rolled {a b : Outcome} (title : a.title = b.title) (advantage : a.advantage = b.advantage)
      (trials : a.trials = b.trials) (rollTotal : a.rollTotal = b.rollTotal)
      (total : b.total = clamp (a.total.toInt + n.toInt)) (drawCount : a.drawCount = b.drawCount) :
      ShiftedBy n (.ok (.rolled a)) (.ok (.rolled b))

theorem Outcome.total_modified {o : Outcome} (noModifier : o.modifier = none) (n : Int64) :
    { o with modifier := some n }.total = clamp (o.total.toInt + n.toInt) := by
  have alone : o.total = o.rollTotal := by rw [total, noModifier, Option.getD_none, addClamped_zero]
  rw [alone]
  rfl

namespace Session

variable {σ : Type} [Roller σ]

/-- **Playing a request with a modifier.** -/
theorem play_modified (s : Session σ) {r : Request} (noModifier : r.modifier = none) (n : Int64) :
    ShiftedBy n (s.play r).value.1 (s.play (r.modified n)).value.1 ∧
      (s.play r).value.2 = (s.play (r.modified n)).value.2 := by
  have without : (r.outcomeFrom s.source).modifier = none := by
    show r.modifierValue? = none
    rw [Request.modifierValue?, noModifier]
  exact s.play_congr (Request.objection?_modified noModifier n).symm rfl rfl .refused .help
    (.rolled rfl rfl rfl rfl (Outcome.total_modified without n) rfl)

theorem asked_modified (s : Session σ) {r : Request} (noModifier : r.modifier = none) (n : Int64) :
    s.asked r = s.asked (r.modified n) := by
  rw [asked, asked, (s.recording.play_modified noModifier n).2]

end Session

/-! ## Inputs with a modifier behind them -/

/-- The input, a space and a number with its sign. -/
def withModifier (input : String) (n : Int64) : String := input ++ " " ++ Text.signed n

theorem toList_withModifier (input : String) (n : Int64) :
    (withModifier input n).toList = input.toList ++ ' ' :: (Text.signed n).toList := by
  have space : " ".toList = [' '] := rfl
  simp [withModifier, space]

theorem Text.isPlain_quote : isPlain '"' = false := rfl

/-- A number with its sign cannot end a text in quotes. -/
theorem extractTitle_withModifier (input : String) (n : Int64) :
    extractTitle (withModifier input n).toList =
      ((extractTitle input.toList).1,
        (extractTitle input.toList).2 ++ ' ' :: (Text.signed n).toList) := by
  have noQuote : '"' ∉ ' ' :: (Text.signed n).toList := by
    rintro (_ | ⟨_, h⟩)
    have plain := (Text.plain_signed n).isPlain '"' h
    rw [Text.isPlain_quote] at plain
    cases plain
  rw [toList_withModifier, Clause.extractTitle_append_of_noQuote _ noQuote]

namespace Request

/-- A number that is the last word is added as the modifier, unless there is one before it. -/
theorem value_classify_withModifier (input : String) (n : Int64) :
    (classify (withModifier input n)).value = (classify input).value.addModifier (.value n) := by
  have last : normalizedWords ((extractTitle input.toList).2 ++ ' ' :: (Text.signed n).toList) =
      normalizedWords (extractTitle input.toList).2 ++ [(Text.signed n).toList] := by
    simp only [normalizedWords, Text.words_append_blank _ (show Text.isBlank ' ' = true by decide),
      (Text.plain_signed n).words, List.map_append, List.map_singleton, (Text.plain_signed n).lower]
  rw [value_classify, value_classify, extractTitle_withModifier]
  simp only [last, List.foldl_append, List.foldl_cons, List.foldl_nil]
  rw [addWord, Token.read?_modifier]
  rfl

variable {σ : Type} [Roller σ]

/-- **A modifier behind an input shifts the total.** -/
theorem classify_modified (session : Session σ) {input : String}
    (noModifier : (classify input).value.modifier = none) (n : Int64) :
    let r := (classify input).value
    let r' := (classify (withModifier input n)).value
    r' = { r with modifier := some (.value n) } ∧
      ShiftedBy n (session.play r).value.1 (session.play r').value.1 ∧
      (session.play r).value.2 = (session.play r').value.2 ∧
      session.asked r = session.asked r' := by
  intro r r'
  have read : r' = r.modified n := by
    show (classify (withModifier input n)).value = _
    rw [value_classify_withModifier, addModifier, noModifier]
    rfl
  rw [read]
  exact ⟨rfl, (session.play_modified noModifier n).1, (session.play_modified noModifier n).2,
    session.asked_modified noModifier n⟩

/-- The input ends within a text in quotes, and the total leaves the range. -/
theorem classify_modified_unterminated :
    let input := "adv d6-9223372036854775807 for:\"Luck\" for:\"+1"
    let r := (classify input).value
    let r' := (classify (withModifier input Int64.minValue)).value
    let session : Session Steps := .start (some 2) (.startingAt 5 1)
    r.modifier = none ∧ r' = { r with modifier := some (.value Int64.minValue) } ∧
      ShiftedBy Int64.minValue (session.play r).value.1 (session.play r').value.1 ∧
      (session.play r).value.2 = (session.play r').value.2 ∧
      session.asked r = session.asked r' ∧
      ∃ outcome : Outcome, (session.play r').value.1 = .ok (.rolled outcome) ∧
        outcome.total = Int64.minValue := by
  intro input r r' session
  have read : r = { dice := [⟨1, .d6, some (-9223372036854775807)⟩], advantage := true,
                    title := some "Luck" } := by
    decide +kernel
  have noModifier : r.modifier = none := by rw [read]
  obtain ⟨same, shifted, left, asked⟩ := classify_modified session noModifier Int64.minValue
  have rolled : ∃ outcome : Outcome, (session.play r').value.1 = .ok (.rolled outcome) ∧
      outcome.total = Int64.minValue := by
    rw [show r' = { r with modifier := some (.value Int64.minValue) } from same, read]
    exact ⟨_, rfl, by decide +kernel⟩
  exact ⟨noModifier, same, shifted, left, asked, rolled⟩

end Request

end ChatDice
