import ChatDice.Proofs.Reply.Header

/-!
# Replies under a greater limit

A reply that shows the transcript can lose it when the limit is raised. A header for which there was
no room comes back, and with it the summary if the transcript does not fit under it.

**Theorem (`transcript_kept_iff`).** If the reply ends in the transcript, it does so under a greater
limit just if every header that leaves room for the summary leaves room for the transcript too. That
is always so if the transcript is not longer than the summary, or if it fits under the longest
header.

The headers get shorter from one to the next, so of those that leave room the first leaves the
least, and what fits under it fits under the others.
-/

namespace ChatDice

/-- A text has another one at its end. -/
def EndsIn (whole part : String) : Prop := ∃ front, whole = front ++ part

/-! ## The ends of transcripts and summaries -/

namespace Outcome

theorem endsIn_intercalate (sep : String) (lines : List String) (last : String) :
    EndsIn (sep.intercalate (lines ++ [last])) last := by
  cases lines with
  | nil => exact ⟨"", by simp⟩
  | cons line rest =>
    refine ⟨sep.intercalate (line :: rest) ++ sep, ?_⟩
    rw [String.intercalate_append_of_ne_nil (List.cons_ne_nil _ _) (List.cons_ne_nil _ _),
      String.intercalate_singleton]

theorem transcript_endsIn (o : Outcome) :
    EndsIn (o.transcript .markdown) (": " ++ Style.markdown.mark (Text.decimal o.total)) := by
  have last : ∃ before, o.lines .markdown = before ++ [o.totalLine .markdown] :=
    ⟨_, (List.append_assoc _ _ _).symm⟩
  obtain ⟨before, hl⟩ := last
  obtain ⟨front, hf⟩ := endsIn_intercalate "\n" before (o.totalLine .markdown)
  refine ⟨front ++ if o.modifier.isSome then "With modifier" else "Total", ?_⟩
  rw [transcript, hl, hf, totalLine]
  simp only [String.append_assoc]

theorem summary_endsIn (o : Outcome) :
    EndsIn (o.summary .markdown) ("is " ++ Style.markdown.mark (Text.decimal o.total)) :=
  ⟨_, String.append_assoc⟩

theorem not_endsIn_transcript (o : Outcome) (front : String) :
    ¬EndsIn (front ++ o.summary .markdown) (o.transcript .markdown) := by
  rintro ⟨front', same⟩
  obtain ⟨a, ha⟩ := o.transcript_endsIn
  obtain ⟨b, hb⟩ := o.summary_endsIn
  rw [ha, hb] at same
  have chars := congrArg String.toList same
  simp only [String.toList_append, ← List.append_assoc, List.append_cancel_right_eq] at chars
  have colon : ": ".toList = [':', ' '] := rfl
  have verb : "is ".toList = ['i'] ++ ['s', ' '] := rfl
  rw [colon, verb, ← List.append_assoc] at chars
  have ends := (List.append_inj' chars rfl).2
  exact absurd ends (by decide)

end Outcome

/-! ## The reply to a finished roll -/

namespace Reply

variable {o : Outcome} {name : String} {limit : Nat}

/-- What is shown under a header is the transcript just if there is room for it. -/
theorem endsIn_shown_iff {header : String} :
    EndsIn (header ++ shown o limit header) (o.transcript .markdown) ↔
      header.length + (o.transcript .markdown).length ≤ limit := by
  unfold shown
  split
  · next fits => exact ⟨fun _ => fits, fun _ => ⟨header, rfl⟩⟩
  · next fits => exact ⟨fun h => absurd h (o.not_endsIn_transcript header), fun h => absurd h fits⟩

theorem headers_pairwise (o : Outcome) (name : String) :
    (headers o name).Pairwise fun a b => b.length ≤ a.length := by
  unfold headers
  cases o.title with
  | none => simp
  | some title =>
    have named : (nameHeader name).length ≤ (titleHeader name title).length := by
      have short : " rolls:\n".length = 8 := String.length_ofList
      have opening : " rolls for \"".length = 12 := String.length_ofList
      simp only [nameHeader, titleHeader, String.length_append, short, opening]
      omega
    simp [named]

/-- The reply has the first header that leaves room, if any does. -/
theorem value_fit_cases (o : Outcome) (name : String) (limit : Nat) :
    ((∀ header ∈ headers o name, ¬LeavesRoom o limit header) ∧
      (fit o name limit).value = o.summary .markdown) ∨
    ∃ before header after, headers o name = before ++ header :: after ∧
      (∀ g ∈ before, ¬LeavesRoom o limit g) ∧ LeavesRoom o limit header ∧
      (fit o name limit).value = header ++ shown o limit header := by
  classical
  cases hf : (headers o name).find? fun g => decide (LeavesRoom o limit g) with
  | none =>
    have noRoom : ∀ g ∈ headers o name, ¬LeavesRoom o limit g := by
      simpa using List.find?_eq_none.1 hf
    exact .inl ⟨noRoom, value_fit_of_forall noRoom⟩
  | some header =>
    obtain ⟨room, before, after, parts, passed⟩ := List.find?_eq_some_iff_append.1 hf
    have noRoom : ∀ g ∈ before, ¬LeavesRoom o limit g := by simpa using passed
    have room : LeavesRoom o limit header := by simpa using room
    exact .inr ⟨before, header, after, parts, noRoom, room,
      value_fit_of_leavesRoom parts noRoom room⟩

/-- **A reply ends in the transcript** just if the transcript fits, and fits under every header that
leaves room for the summary. -/
theorem endsIn_fit_iff :
    EndsIn (fit o name limit).value (o.transcript .markdown) ↔
      (o.transcript .markdown).length ≤ limit ∧
      ∀ header ∈ headers o name, header.length + (o.summary .markdown).length ≤ limit →
        header.length + (o.transcript .markdown).length ≤ limit := by
  rcases value_fit_cases o name limit with
    ⟨noRoom, value⟩ | ⟨before, header, after, parts, passed, room, value⟩
  · have none := noRoom "" (by simp [headers])
    rw [LeavesRoom, String.length_empty] at none
    rw [value]
    constructor
    · intro shows
      exact absurd shows (by simpa using o.not_endsIn_transcript "")
    · rintro ⟨fits, -⟩
      omega
  · have sorted := headers_pairwise o name
    rw [parts, List.pairwise_append, List.pairwise_cons] at sorted
    rw [value, endsIn_shown_iff]
    constructor
    · intro fits
      refine ⟨by omega, fun g hg summarized => ?_⟩
      rw [parts, List.mem_append, List.mem_cons] at hg
      -- A header before the one that is kept has no room even for the shorter text, and a header
      -- after it is no longer than it is.
      rcases hg with hg | rfl | hg
      · refine absurd ?_ (passed g hg)
        rw [LeavesRoom]
        omega
      · exact fits
      · have shorter := sorted.2.1.1 g hg
        omega
    · rintro ⟨-, all⟩
      have enough := all header (parts ▸ List.mem_append_right _ List.mem_cons_self)
      rw [LeavesRoom] at room
      omega

/-! ## A greater limit -/

/-- **The transcript under a greater limit.** -/
theorem transcript_kept_iff (o : Outcome) (name : String) {limit greater : Nat}
    (le : limit ≤ greater) (shows : EndsIn (fit o name limit).value (o.transcript .markdown)) :
    let candidates :=
      (o.title.map fun title => name ++ " rolls for \"" ++ title ++ "\":\n").toList ++
        [name ++ " rolls:\n", ""]
    let transcript := o.transcript .markdown
    let summary := o.summary .markdown
    (EndsIn (fit o name greater).value transcript ↔
      ∀ header ∈ candidates, header.length + summary.length ≤ greater →
        header.length + transcript.length ≤ greater) ∧
    (transcript.length ≤ summary.length → EndsIn (fit o name greater).value transcript) ∧
    ∀ longest ∈ candidates.head?, longest.length + transcript.length ≤ greater →
      EndsIn (fit o name greater).value transcript := by
  intro candidates transcript summary
  have fits : transcript.length ≤ greater := (endsIn_fit_iff.1 shows).1.trans le
  have kept : EndsIn (fit o name greater).value transcript ↔
      ∀ header ∈ candidates, header.length + summary.length ≤ greater →
        header.length + transcript.length ≤ greater :=
    endsIn_fit_iff.trans (and_iff_right fits)
  refine ⟨kept, fun short => ?_, fun longest hl enough => ?_⟩
  · rw [kept]
    intro header _ summarized
    omega
  · obtain ⟨rest, parts⟩ := List.head?_eq_some_iff.1 hl
    have sorted : (longest :: rest).Pairwise fun a b => b.length ≤ a.length :=
      parts ▸ headers_pairwise o name
    rw [kept, parts]
    intro header hh _
    rcases List.mem_cons.1 hh with rfl | hh
    · exact enough
    · have shorter := (List.pairwise_cons.1 sorted).1 header hh
      omega

/-! ## Two dice with one side -/

/-- The outcome of two dice with one side. -/
def ones : Outcome :=
  { title := none, advantage := .straight, first := .dice [⟨⟨2, ⟨1, by decide⟩, none⟩, [1, 1]⟩],
    later := [], modifier := none }

/-- The transcript has 76 characters, the summary 67 and the header with the name twelve. -/
theorem endsIn_fit_ones_iff : EndsIn (fit ones "will" limit).value (ones.transcript .markdown) ↔
    76 ≤ limit ∧ limit < 79 ∨ 88 ≤ limit := by
  have transcript : (ones.transcript .markdown).length = 76 := by decide +kernel
  have summary : (ones.summary .markdown).length = 67 := by decide +kernel
  have named : (nameHeader "will").length = 12 := by decide +kernel
  have candidates : headers ones "will" = [nameHeader "will", ""] := rfl
  rw [endsIn_fit_iff, candidates, transcript, summary]
  simp only [List.mem_cons, List.not_mem_nil, or_false, forall_eq_or_imp, forall_eq, named,
    String.length_empty]
  omega

/-- At 88 characters the transcript fits under the name. -/
theorem transcript_kept_ones : 78 ≤ 88 ∧
    EndsIn (fit ones "will" 78).value (ones.transcript .markdown) ∧
    EndsIn (fit ones "will" 88).value (ones.transcript .markdown) := by
  have shows : EndsIn (fit ones "will" 78).value (ones.transcript .markdown) :=
    endsIn_fit_ones_iff.2 (by omega)
  have enough : ("will" ++ " rolls:\n").length + (ones.transcript .markdown).length ≤ 88 := by
    decide +kernel
  exact ⟨by omega, shows, (transcript_kept_iff ones "will" (by omega) shows).2.2 _ rfl enough⟩

/-- **A greater limit can lose the transcript.** At 78 characters there is no room for the name, and
the transcript is sent. At 79 there is room for the name and the summary. -/
theorem transcript_lost :
    let source := Steps.startingAt 1 1
    (rollReply (fun _ => false) "2d1" "will" { maxLength := 78 } source).value.1 =
      ones.transcript .markdown ∧
    (rollReply (fun _ => false) "2d1" "will" { maxLength := 79 } source).value.1 =
      "will rolls:\n" ++ ones.summary .markdown ∧
    ¬∀ (o : Outcome) (name : String) (limit greater : Nat), limit ≤ greater →
      EndsIn (fit o name limit).value (o.transcript .markdown) →
      EndsIn (fit o name greater).value (o.transcript .markdown) := by
  intro source
  have rolled : ((Session.start (some usualMaxRolls) source).play
      (Request.classify "2d1").value).value.1 = .ok (.rolled ones) := by decide +kernel
  have replied (maxLength : Nat) :
      (rollReply (fun _ => false) "2d1" "will" { maxLength } source).value.1 =
        (fit ones "will" maxLength).value := by
    have limits : (Limits.maxRolls { maxLength }) = some usualMaxRolls := rfl
    rw [← limits] at rolled
    exact value_rollReply_of_rolled rolled "will"
  refine ⟨?_, ?_, fun kept => ?_⟩
  · rw [replied]
    decide +kernel
  · rw [replied]
    decide +kernel
  · have lost := kept ones "will" 78 79 (by omega) (endsIn_fit_ones_iff.2 (by omega))
    rw [endsIn_fit_ones_iff] at lost
    omega

end Reply

end ChatDice
