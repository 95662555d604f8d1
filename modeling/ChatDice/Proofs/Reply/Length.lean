import ChatDice.Chat.Reply
import ChatDice.Proofs.Play.Course
import ChatDice.Proofs.Request.Spelling
import Mathlib.Algebra.GroupWithZero.Nat
import Mathlib.Algebra.Order.BigOperators.Group.List
import Mathlib.Algebra.Order.Group.Nat

/-!
# The length of replies

The reply to an input is one of five texts: the apology, the message of a refusal, the manual, a
transcript under a header, or a summary under a header. The texts that are fixed but for numbers are
all shorter than the usual limit, and a transcript is only sent where it fits. One message repeats a
word of the input, however long that is: the one about a modifier that is no number.

**Theorem (`length_rollReply_le_iff`).** Under a limit that is at least the usual one, a reply is
never empty, and it keeps to the limit unless the request is refused for a modifier that is too long
to be repeated (`Request.Overruns`).

The proof goes through the ways in which an input can end. The headers are tried by recursion, and
what carries the induction is that the last of them is empty: under it even a transcript that is too
long gives way to a summary, which has less than 120 characters.
-/

namespace ChatDice

/-! ## Numbers and lines -/

namespace Text

/-- A number of 64 bits has at most nineteen digits and a sign. -/
theorem length_decimal_le (n : Int64) : (decimal n).length ≤ 20 := by
  have digits : n.toInt.natAbs.repr.length ≤ 19 := by
    refine (Nat.length_repr_le_iff (by decide)).2 ?_
    have := Int64.minValue_le_toInt n
    have := Int64.toInt_le n
    have least : Int64.minValue.toInt = -9223372036854775808 := by decide
    have greatest : Int64.maxValue.toInt = 9223372036854775807 := by decide
    omega
  have sign : "-".length = 1 := String.length_ofList
  rw [decimal]
  split
  · rw [String.length_append]
    omega
  · omega

theorem length_intercalate (sep : String) {lines : List String} (h : lines ≠ []) :
    (sep.intercalate lines).length + sep.length =
      (lines.map String.length).sum + lines.length * sep.length := by
  induction lines with
  | nil => contradiction
  | cons line rest ih =>
    by_cases hr : rest = []
    · subst hr
      rw [String.intercalate_singleton, List.map_singleton, List.sum_singleton,
        List.length_singleton, Nat.one_mul]
    · have := ih hr
      rw [String.intercalate_cons_of_ne_nil hr, String.length_append, String.length_append,
        List.map_cons, List.sum_cons, List.length_cons, Nat.succ_mul]
      omega

theorem length_le_intercalate (sep : String) {line : String} {lines : List String}
    (h : line ∈ lines) : line.length ≤ (sep.intercalate lines).length := by
  have whole := length_intercalate sep (List.ne_nil_of_mem h)
  have part := List.le_sum_of_mem (List.mem_map_of_mem (f := String.length) h)
  have seps := Nat.le_mul_of_pos_left sep.length (List.length_pos_of_mem h)
  omega

end Text

/-! ## Texts that are fixed but for numbers -/

theorem length_usageLines : usageLines.map String.length =
    [10, 7, 0, 56, 50, 78, 71, 74, 68, 59, 60, 71, 81, 81, 50, 50, 71, 41, 78, 54, 75, 70, 24, 29,
      28, 35, 50, 7] := by
  -- A literal is the text of a list of characters, so its length is that of the list. Evaluating
  -- `String.length` would decode every literal first.
  simp only [usageLines, List.map_cons, List.map_nil, List.cons.injEq]
  and_intros <;> first | exact String.length_ofList | exact String.length_empty | trivial

theorem length_usage : usage.length = 1455 := by
  have sep : "\n".length = 1 := String.length_ofList
  have whole := Text.length_intercalate "\n" (show usageLines ≠ [] from List.cons_ne_nil _ _)
  rw [length_usageLines, sep, show usageLines.length = 28 from rfl] at whole
  simp only [List.sum_cons, List.sum_nil] at whole
  rw [usage]
  omega

theorem length_apology : Reply.apology.length = 60 := String.length_ofList

namespace Refusal

theorem length_message_conflictingAdvantage : conflictingAdvantage.message.length = 44 :=
  show "Input Error: Can't have both 'adv' and 'dis'".length = 44 from String.length_ofList

theorem length_message_missingRoll : missingRoll.message.length = 61 :=
  show "Input Error: Couldn't find a roll. Include `cursed` or `#d#`.".length = 61 from
    String.length_ofList

theorem length_message_invalidModifier (text : String) :
    (invalidModifier text).message.length = 54 + text.length := by
  have opening : "Input Error: Expected modifier to be a number. Got '".length = 52 :=
    String.length_ofList
  have closing : "'.".length = 2 := String.length_ofList
  show ("Input Error: Expected modifier to be a number. Got '" ++ text ++ "'.").length = _
  simp only [String.length_append, opening, closing]
  omega

theorem length_message_tooManyRolls {limit : Nat} (h : limit < maxCount) :
    0 < (tooManyRolls limit).message.length ∧ (tooManyRolls limit).message.length ≤ 79 := by
  have opening : "Input Error: Too many dice; at most ".length = 36 := String.length_ofList
  have closing : " can be rolled at once.".length = 23 := String.length_ofList
  have number : limit.repr.length ≤ 20 := by
    refine (Nat.length_repr_le_iff (by decide)).2 ?_
    have : maxCount = 18446744073709551615 := rfl
    omega
  show 0 < ("Input Error: Too many dice; at most " ++ limit.repr ++
    " can be rolled at once.").length ∧ ("Input Error: Too many dice; at most " ++ limit.repr ++
    " can be rolled at once.").length ≤ 79
  simp only [String.length_append, opening, closing]
  omega

end Refusal

/-! ## Transcripts and summaries -/

namespace Outcome

theorem length_codeSpan (text : String) : (Style.codeSpan text).length = text.length + 2 := by
  have tick : "`".length = 1 := String.length_ofList
  rw [Style.codeSpan, String.length_append, String.length_append, tick]
  omega

/-- A summary for a chat is short, whatever the total. -/
theorem length_summary_le (o : Outcome) : (o.summary .markdown).length ≤ 118 := by
  have opening : "There's too much text to fit into one message, but ".length = 51 :=
    String.length_ofList
  have advantage : "with advantage ".length = 15 := String.length_ofList
  have disadvantage : "with disadvantage ".length = 18 := String.length_ofList
  have total : "the total ".length = 10 := String.length_ofList
  have modifier : "with modifier ".length = 14 := String.length_ofList
  have verb : "is ".length = 3 := String.length_ofList
  have number : (Style.markdown.mark (Text.decimal o.total)).length ≤ 22 := by
    rw [show Style.markdown.mark = Style.codeSpan from rfl, length_codeSpan]
    exact Nat.add_le_add_right (Text.length_decimal_le o.total) 2
  unfold summary
  cases o.advantage <;> by_cases hm : o.modifier.isSome = true <;>
    simp only [hm, if_true, Bool.false_eq_true, if_false, String.length_append,
      String.length_empty, opening, advantage, disadvantage, total, modifier, verb] <;> omega

theorem length_summary_pos (o : Outcome) : 0 < (o.summary .markdown).length := by
  have verb : "is ".length = 3 := String.length_ofList
  unfold summary
  simp only [String.length_append, verb]
  omega

theorem length_transcript_pos (style : Style) (o : Outcome) : 0 < (o.transcript style).length := by
  have colon : ": ".length = 2 := String.length_ofList
  have last : 0 < (o.totalLine style).length := by
    unfold totalLine
    simp only [String.length_append, colon]
    omega
  exact last.trans_le (Text.length_le_intercalate _ (by simp [lines]))

theorem length_render_pos (o : Outcome) (limit : Nat) :
    0 < (o.render .markdown limit).value.length := by
  rw [value_render]
  split
  · exact o.length_summary_pos
  · exact o.length_transcript_pos _

/-- What is rendered fits as soon as the summary does. -/
theorem length_render_le {style : Style} {o : Outcome} {limit : Nat}
    (h : (o.summary style).length ≤ limit) : (o.render style limit).value.length ≤ limit := by
  rw [value_render]
  split
  · exact h
  · next fits => exact Nat.le_of_not_lt fits

end Outcome

/-! ## Headers -/

namespace Reply

/-- A reply to a finished roll under one header. -/
def under (o : Outcome) (limit : Nat) (header : String) : String :=
  header ++ (o.render .markdown (limit - header.length)).value

/-- The reply under the first header left is sent if it fits. If not, the other headers are tried.
-/
theorem value_fitWith_cons (o : Outcome) (limit : Nat) (latest header : String)
    (rest : List String) :
    (fitWith o limit latest (header :: rest)).value =
      if limit < header.length then (fitWith o limit latest rest).value
      else if (under o limit header).length ≤ limit then under o limit header
      else (fitWith o limit (under o limit header) rest).value := by
  rw [fitWith]
  by_cases long : limit < header.length
  · rw [if_pos long, if_pos long]
  · rw [if_neg long, if_neg long, Logged.value_bind]
    show (if (under o limit header).length ≤ limit then _ else _ : Logged String).value = _
    split <;> rfl

theorem length_under_pos (o : Outcome) (limit : Nat) (header : String) :
    0 < (under o limit header).length := by
  rw [under, String.length_append]
  exact Nat.add_pos_right _ (o.length_render_pos _)

theorem length_under_none {o : Outcome} {limit : Nat} (h : (o.summary .markdown).length ≤ limit) :
    (under o limit "").length ≤ limit := by
  rw [under, String.length_append, String.length_empty, Nat.zero_add, Nat.sub_zero]
  exact Outcome.length_render_le h

/-- **A reply to a finished roll fits.** No header at all is among the headers left to try, and
without a header the reply fits. -/
theorem fitWith_fits {o : Outcome} {limit : Nat} {latest : String} {headers : List String}
    (none : "" ∈ headers) (h : (o.summary .markdown).length ≤ limit) :
    0 < (fitWith o limit latest headers).value.length ∧
      (fitWith o limit latest headers).value.length ≤ limit := by
  induction headers generalizing latest with
  | nil => cases none
  | cons header rest ih =>
    rw [value_fitWith_cons]
    by_cases long : limit < header.length
    · rw [if_pos long]
      -- The empty header is never too long, so it is still to come.
      refine ih ((List.mem_cons.1 none).resolve_left ?_)
      rintro rfl
      exact Nat.not_lt_zero _ long
    · rw [if_neg long]
      by_cases fits : (under o limit header).length ≤ limit
      · rw [if_pos fits]
        exact ⟨length_under_pos o limit header, fits⟩
      · rw [if_neg fits]
        refine ih ((List.mem_cons.1 none).resolve_left ?_)
        rintro rfl
        exact fits (length_under_none h)

theorem fit_fits (o : Outcome) (name : String) {limit : Nat} (h : usualMaxLength ≤ limit) :
    0 < (fit o name limit).value.length ∧ (fit o name limit).value.length ≤ limit := by
  refine fitWith_fits (List.mem_append_right _ ?_) ?_
  · exact List.mem_cons_of_mem _ (List.mem_singleton_self _)
  · have : usualMaxLength = 2000 := rfl
    have := o.length_summary_le
    omega

end Reply

/-! ## Refusals -/

namespace Request

/-- Whether a request is refused for a modifier that is no number and too long to be repeated. The
message about it has 54 characters and the word without its sign. -/
def Overruns (r : Request) (limit : Nat) : Prop :=
  ¬(r.advantage = true ∧ r.disadvantage = true) ∧ (r.cursed = true ∨ r.dice ≠ []) ∧
    ∃ word, r.modifier = some (.malformed word) ∧ limit < 54 + (afterSign word).length

theorem overruns_iff {r : Request} {limit : Nat} :
    r.Overruns limit ↔
      ∃ text, r.objection? = some (.invalidModifier text) ∧ limit < 54 + text.length := by
  simp only [objection?_eq_invalidModifier_iff, Overruns]
  constructor
  · rintro ⟨single, some, word, hm, long⟩
    exact ⟨_, ⟨single, some, word, hm, rfl⟩, long⟩
  · rintro ⟨_, ⟨single, some, word, hm, rfl⟩, long⟩
    exact ⟨single, some, word, hm, long⟩

end Request

/-! ## Replies -/

namespace Reply

variable {σ : Type} [Roller σ]

/-- What is replied: the apology if something breaks off, and else what follows from the answer. -/
theorem value_rollReply (fails : Event → Bool) (input name : String) (limits : Limits)
    (source : σ) :
    (rollReply fails input name limits source).value.1 =
      if (attempt input name limits source).events.any fails then apology
      else (ofAnswer name limits.maxLength ((Session.start limits.maxRolls source).play
        (Request.classify input).value).value.1).value := by
  rw [rollReply, Logged.value_guarded]
  split
  · rfl
  · simp only [attempt, Request.evaluate, Logged.value_bind, Logged.value_pure]

theorem value_ofAnswer_error (name : String) (limit : Nat) (why : Refusal) :
    (ofAnswer name limit (.error why)).value = why.message := rfl

/-- What follows from the answer to a request fits unless a modifier is too long to be repeated. -/
theorem ofAnswer_fits_iff (s : Session σ) (r : Request) (name : String) {limit : Nat}
    (h : usualMaxLength ≤ limit) :
    0 < (ofAnswer name limit (s.play r).value.1).value.length ∧
      ((ofAnswer name limit (s.play r).value.1).value.length ≤ limit ↔ ¬r.Overruns limit) := by
  have usual : usualMaxLength = 2000 := rfl
  rw [Request.overruns_iff]
  rcases ha : (s.play r).value.1 with why | answer
  · rw [value_ofAnswer_error]
    rcases Session.refused_of_play ha with hr | ⟨hr, n, hn, rfl⟩
    · rw [hr]
      -- Of these refusals only the one for a modifier has a message of any length.
      rcases Request.objection?_cases hr with rfl | rfl | ⟨text, rfl⟩
      · rw [Refusal.length_message_conflictingAdvantage]
        exact ⟨by omega, iff_of_true (by omega) nofun⟩
      · rw [Refusal.length_message_missingRoll]
        exact ⟨by omega, iff_of_true (by omega) nofun⟩
      · rw [Refusal.length_message_invalidModifier]
        refine ⟨by omega, fun fits => ?_, fun short => ?_⟩
        · rintro ⟨_, ⟨⟩, long⟩
          omega
        · exact Nat.le_of_not_lt fun long => short ⟨text, rfl, long⟩
    · rw [hr]
      have short := Refusal.length_message_tooManyRolls hn
      exact ⟨short.1, iff_of_true (by omega) nofun⟩
  · rw [Session.objection?_of_play ha]
    cases answer with
    | help =>
      show 0 < usage.length ∧ (usage.length ≤ limit ↔ _)
      rw [length_usage]
      exact ⟨by omega, iff_of_true (by omega) nofun⟩
    | rolled o =>
      obtain ⟨some, fits⟩ := fit_fits o name h
      exact ⟨some, iff_of_true fits nofun⟩

end Reply

/-! ## A modifier of letters -/

namespace Request

/-- An input with a modifier of `n` letters. -/
def lettered (n : Nat) : String := "d20 +" ++ String.ofList (List.replicate n 'x')

theorem addWord_lettered (r : Request) (n : Nat) :
    r.addWord ('+' :: List.replicate (n + 1) 'x') =
      r.addModifier (.malformed (String.ofList ('+' :: List.replicate (n + 1) 'x'))) := by
  have noToken : Token.read? ('+' :: List.replicate (n + 1) 'x') = none := by
    simp only [Token.read?, Token.lookup_keywords_eq_none (.inr (.inl rfl)),
      Spec.read?_sign (.inl rfl)]
    rfl
  rw [addWord, noToken]
  exact if_pos rfl

theorem value_classify_lettered (n : Nat) :
    (classify (lettered (n + 1))).value =
      { dice := [⟨1, ⟨20, by decide⟩, none⟩]
        modifier := some (.malformed (String.ofList ('+' :: List.replicate (n + 1) 'x'))) } := by
  have first : Text.Plain "d20".toList := by decide
  have second : Text.Plain ('+' :: List.replicate (n + 1) 'x') := by
    refine ⟨List.cons_ne_nil _ _, fun c hc => ?_⟩
    rcases List.mem_cons.1 hc with rfl | hc
    · rfl
    · rw [List.eq_of_mem_replicate hc]
      rfl
  have chars : (lettered (n + 1)).toList =
      "d20".toList ++ ' ' :: '+' :: List.replicate (n + 1) 'x' := by
    rw [lettered, String.toList_append]
    exact congrArg ("d20 +".toList ++ ·) String.toList_ofList
  rw [value_classify, chars, extractTitle_append first.toLower_ne, extractTitle_space,
    extractTitle_of_noTitle second.toLower_ne, normalizedWords,
    Text.words_append_blank _ (by decide), first.words, second.words, List.map_append,
    List.map_singleton, List.map_singleton, first.lower, second.lower, List.singleton_append,
    List.foldl_cons, List.foldl_cons, List.foldl_nil, addWord_lettered]
  rfl

theorem objection?_lettered (n : Nat) : (classify (lettered (n + 1))).value.objection? =
    some (.invalidModifier (String.ofList (List.replicate (n + 1) 'x'))) := by
  have sign : afterSign (String.ofList ('+' :: List.replicate (n + 1) 'x')) =
      String.ofList (List.replicate (n + 1) 'x') := by
    rw [afterSign, String.toList_ofList]
    rfl
  rw [value_classify_lettered, objection?_eq_invalidModifier_iff]
  exact ⟨nofun, .inr (List.cons_ne_nil _ _), _, rfl, sign⟩

end Request

/-- The reply to a modifier of letters is longer than the modifier, whatever the limits. -/
theorem length_rollReply_lettered {σ : Type} [Roller σ] (n : Nat) (name : String) (limits : Limits)
    (source : σ) :
    (rollReply (fun _ => false) (Request.lettered (n + 1)) name limits source).value.1.length =
      55 + n := by
  have whole : (Reply.attempt (Request.lettered (n + 1)) name limits source).events.any
      (fun _ => false) = false := by simp
  rw [Reply.value_rollReply, whole, if_neg Bool.false_ne_true,
    Session.play_of_objection _ (Request.objection?_lettered n), Logged.value_pure,
    Reply.value_ofAnswer_error, Refusal.length_message_invalidModifier, String.length_ofList,
    List.length_replicate]
  omega

/-! ## The limit -/

/-- **The length of a reply.** Under a limit that is at least the usual one, a reply is never empty,
and it keeps to the limit unless nothing breaks off and the request is refused for a modifier that
is too long to be repeated. -/
theorem length_rollReply_le_iff {σ : Type} [Roller σ] (fails : Event → Bool) (input name : String)
    (limits : Limits) (source : σ) (h : usualMaxLength ≤ limits.maxLength) :
    (rollReply fails input name limits source).value.1 ≠ "" ∧
      ((rollReply fails input name limits source).value.1.length ≤ limits.maxLength ↔
        ¬((Reply.attempt input name limits source).events.any fails = false ∧
          (Request.classify input).value.Overruns limits.maxLength)) := by
  rw [Ne, ← String.length_eq_zero_iff, ← Ne, ← Nat.pos_iff_ne_zero, Reply.value_rollReply]
  have usual : usualMaxLength = 2000 := rfl
  by_cases broken : (Reply.attempt input name limits source).events.any fails = true
  · rw [if_pos broken, length_apology]
    refine ⟨by omega, iff_of_true (by omega) fun whole => ?_⟩
    exact Bool.noConfusion (whole.1.symm.trans broken)
  · rw [if_neg broken, Bool.not_eq_true] at *
    rw [broken, and_iff_right rfl]
    exact Reply.ofAnswer_fits_iff _ _ _ h

/-- A modifier of 2000 letters makes a reply of 2054 characters where 2000 is the limit. -/
theorem usualMaxLength_lt_length_rollReply :
    let reply := (rollReply (fun _ => false) (Request.lettered 2000) "will" {}
      (Steps.startingAt 1 1)).value.1
    reply.length = 2054 ∧ ({} : Limits).maxLength < reply.length := by
  intro reply
  have length : reply.length = 2054 := length_rollReply_lettered 1999 "will" {} _
  have limit : ({} : Limits).maxLength = 2000 := rfl
  refine ⟨length, ?_⟩
  omega

/-- A modifier of one letter is repeated. -/
theorem length_rollReply_le_iff_lettered :
    let reply := (rollReply (fun _ => false) (Request.lettered 1) "will" {}
      (Steps.startingAt 1 1)).value.1
    usualMaxLength ≤ ({} : Limits).maxLength ∧ reply ≠ "" ∧ reply.length ≤ 2000 := by
  intro reply
  have usual : usualMaxLength ≤ ({} : Limits).maxLength := by decide
  obtain ⟨some, fits⟩ := length_rollReply_le_iff (fun _ => false) (Request.lettered 1) "will" {}
    (Steps.startingAt 1 1) usual
  refine ⟨usual, some, fits.2 ?_⟩
  rintro ⟨-, overruns⟩
  obtain ⟨text, hr, long⟩ := Request.overruns_iff.1 overruns
  rw [Request.objection?_lettered 0] at hr
  cases hr
  exact absurd long (by decide)

end ChatDice
