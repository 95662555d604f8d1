import ChatDice.Console.Run

/-!
# Inputs of the console put together

What the console prints for an input is made up line by line.

**Theorem (`run_append`).** If the first of two inputs is empty or ends with a line feed and all its
lines are valid UTF-8, the console prints for both together what it prints for the first and then
what it prints for the second from the place where the source is by then, but for the prompt at the
start. If a line of the first is not valid, the second is not read. In any case each line that is
read is answered as if it stood alone at the place of the source, and one prompt follows it.

Two facts carry this. A line feed cuts an input into lines that do not depend on each other
(`linesAfter_append`), and the answers to lines in a row are those to the first of them followed by
those to the others (`answers_append`). What is read of the lines are their texts up to the first
that is none (`readable`), and the answers depend on nothing else (`answers_eq`).
-/

namespace ChatDice.Console

/-! ## Lines -/

/-- A line feed ends a line, whatever follows. -/
theorem linesAfter_append (earlier a b : List UInt8) :
    linesAfter earlier (a ++ 10 :: b) = linesAfter earlier (a ++ [10]) ++ lines b := by
  induction a generalizing earlier with
  | nil => rfl
  | cons byte a ih =>
    rw [List.cons_append, List.cons_append, linesAfter, linesAfter]
    split
    · rw [ih, List.cons_append]
    · exact ih _

/-- The lines of an input that is empty or ends with a line feed are complete. -/
theorem lines_append {a : List UInt8} (ended : a = [] ∨ a.getLast? = some 10) (b : List UInt8) :
    lines (a ++ b) = lines a ++ lines b := by
  rcases ended with rfl | last
  · rfl
  · obtain ⟨start, rfl⟩ := List.getLast?_eq_some_iff.1 last
    rw [List.append_assoc, List.singleton_append]
    exact linesAfter_append [] start b

/-- The texts of the lines that are read, which are those before the first that is not valid UTF-8.
-/
def readable : List (List UInt8) → List String
  | [] => []
  | line :: rest =>
    match text? line with
    | none => []
    | some text => text :: readable rest

theorem readable_append_of_forall {a : List (List UInt8)}
    (valid : ∀ line ∈ a, (text? line).isSome = true) (b : List (List UInt8)) :
    readable (a ++ b) = readable a ++ readable b := by
  induction a with
  | nil => rfl
  | cons line a ih =>
    obtain ⟨text, ht⟩ := Option.isSome_iff_exists.1 (valid line List.mem_cons_self)
    have rest := ih fun line h => valid line (List.mem_cons_of_mem _ h)
    simp only [List.cons_append, readable, ht, rest]

theorem readable_append_of_exists {a : List (List UInt8)} (invalid : ∃ line ∈ a, text? line = none)
    (b : List (List UInt8)) : readable (a ++ b) = readable a := by
  induction a with
  | nil =>
    obtain ⟨line, hl, -⟩ := invalid
    cases hl
  | cons line a ih =>
    rw [List.cons_append, readable, readable]
    cases ht : text? line with
    | none => rfl
    | some text =>
      obtain ⟨other, ho, none⟩ := invalid
      rcases List.mem_cons.1 ho with rfl | ho
      · rw [ht] at none
        cases none
      · exact congrArg (text :: ·) (ih ⟨other, ho, none⟩)

/-! ## What is printed -/

namespace Output

@[simp] theorem out_append (a b : Output) : (a ++ b).out = a.out ++ b.out := rfl

@[simp] theorem err_append (a b : Output) : (a ++ b).err = a.err ++ b.err := rfl

theorem append_assoc (a b c : Output) : a ++ b ++ c = a ++ (b ++ c) := by
  show Output.mk _ _ = Output.mk _ _
  simp [String.append_assoc]

theorem nothing_append (a : Output) : ({} : Output) ++ a = a := by
  show Output.mk _ _ = _
  simp

/-- Outputs printed one after the other. -/
def join : List Output → Output
  | [] => {}
  | first :: others => first ++ join others

theorem join_append (a b : List Output) : join (a ++ b) = join a ++ join b := by
  induction a with
  | nil => exact (nothing_append _).symm
  | cons first a ih => rw [List.cons_append, join, join, ih, append_assoc]

end Output

/-! ## Answers -/

variable {σ : Type} [Roller σ]

/-- The answers to texts in a row, one for each, and the source after them. -/
def exchange (options : Options) : List String → σ → List Output × σ
  | [], source => ([], source)
  | line :: rest, source =>
    let (first, source) := answer options line source
    let (others, source) := exchange options rest source
    (first :: others, source)

theorem length_exchange (options : Options) (texts : List String) (source : σ) :
    (exchange options texts source).1.length = texts.length := by
  induction texts generalizing source with
  | nil => rfl
  | cons line rest ih => exact congrArg (· + 1) (ih _)

theorem exchange_append (options : Options) (a b : List String) (source : σ) :
    let earlier := exchange options a source
    let later := exchange options b earlier.2
    exchange options (a ++ b) source = (earlier.1 ++ later.1, later.2) := by
  induction a generalizing source with
  | nil => rfl
  | cons line a ih =>
    simp only [List.cons_append, exchange]
    rw [ih]

/-- A text is answered as if it stood alone where the texts before it leave the source. -/
theorem getElem?_exchange (options : Options) {texts : List String} {line : String} {i : Nat}
    (h : texts[i]? = some line) (source : σ) :
    (exchange options texts source).1[i]? =
      some (answer options line (exchange options (texts.take i) source).2).1 := by
  induction texts generalizing i source with
  | nil => cases h
  | cons first rest ih =>
    cases i with
    | zero =>
      cases h
      rfl
    | succ i => exact ih h _

theorem answers_eq (options : Options) (ls : List (List UInt8)) (source : σ) :
    let said := exchange options (readable ls) source
    answers options ls source = (Output.join (said.1.map (· ++ prompt)), said.2) := by
  induction ls generalizing source with
  | nil => rfl
  | cons line rest ih =>
    rw [answers, readable]
    cases text? line with
    | none => rfl
    | some text =>
      simp only [exchange, ih, List.map_cons, Output.join, Output.append_assoc]

/-- What is printed in a run: a prompt, and the answers to what is read, each followed by a prompt.
-/
theorem run_eq (options : Options) (input : List UInt8) (source : σ) :
    let said := exchange options (readable (lines input)) source
    run options input source = (prompt ++ Output.join (said.1.map (· ++ prompt)), said.2) := by
  simp only [run, answers_eq]

/-! ## Two inputs -/

section

variable {options : Options} {a : List UInt8} (ended : a = [] ∨ a.getLast? = some 10)

include ended

theorem run_append_of_forall (valid : ∀ line ∈ lines a, (text? line).isSome = true)
    (b : List UInt8) (source : σ) :
    let first := run options a source
    let second := run options b first.2
    ∃ rest, second.1 = prompt ++ rest ∧
      run options (a ++ b) source = (first.1 ++ rest, second.2) := by
  refine ⟨_, congrArg Prod.fst (run_eq options b _), ?_⟩
  simp only [run_eq, lines_append ended, readable_append_of_forall valid, exchange_append,
    List.map_append, Output.join_append, Output.append_assoc]

theorem run_append_of_exists (invalid : ∃ line ∈ lines a, text? line = none) (b : List UInt8)
    (source : σ) : run options (a ++ b) source = run options a source := by
  simp only [run_eq, lines_append ended, readable_append_of_exists invalid]

end

/-- **What the console prints for two inputs put together.** -/
theorem run_append (options : Options) (a b : List UInt8) (source : σ)
    (ended : a = [] ∨ a.getLast? = some 10) :
    let first := run options a source
    let second := run options b first.2
    let whole := run options (a ++ b) source
    ((∀ line ∈ lines a, (text? line).isSome = true) →
      (∃ rest, second.1.out = "> " ++ rest ∧ whole.1.out = first.1.out ++ rest) ∧
        whole.1.err = first.1.err ++ second.1.err ∧ whole.2 = second.2) ∧
    ((∃ line ∈ lines a, text? line = none) → whole = first) ∧
    ∀ input : List UInt8,
      let texts := readable (lines input)
      let said := (exchange options texts source).1
      (run options input source).1 = prompt ++ Output.join (said.map (· ++ prompt)) ∧
        said.length = texts.length ∧
        ∀ i line, texts[i]? = some line →
          said[i]? = some (answer options line (exchange options (texts.take i) source).2).1 := by
  intro first second whole
  refine ⟨fun valid => ?_, fun invalid => run_append_of_exists ended invalid b source,
    fun input => ⟨?_, length_exchange options _ source, fun i line h => ?_⟩⟩
  · obtain ⟨rest, tail, together⟩ := run_append_of_forall ended valid b source
    have printed : whole = (first.1 ++ rest, second.2) := together
    have noPrompt : second.1.err = rest.err :=
      (congrArg Output.err tail).trans (String.empty_append (s := rest.err))
    rw [printed, noPrompt]
    exact ⟨⟨rest.out, congrArg Output.out tail, rfl⟩, rfl, rfl⟩
  · exact congrArg Prod.fst (run_eq options input source)
  · exact getElem?_exchange options h source

/-- A line that is refused leaves a message on the standard error output and a prompt, and the next
line is answered; behind a line that is not valid nothing is read. -/
theorem run_append_after_refusal :
    let options : Options := { format := .plain }
    let source := Steps.startingAt 4 1
    let refused := "adv dis\n".toUTF8.toList
    let invalid : List UInt8 := [0xFF, 10]
    let d6 := "d6".toUTF8.toList
    (∀ line ∈ lines refused, (text? line).isSome = true) ∧
      (∃ rest, (run options d6 (run options refused source).2).1.out = "> " ++ rest ∧
        (run options (refused ++ d6) source).1.out = "> > " ++ rest) ∧
      (run options (refused ++ d6) source).1.err =
        "Input Error: Can't have both 'adv' and 'dis'\n" ∧
      (∃ line ∈ lines invalid, text? line = none) ∧
      run options (invalid ++ d6) source = run options invalid source := by
  intro options source refused invalid d6
  have valid : ∀ line ∈ lines refused, (text? line).isSome = true := by decide +kernel
  have broken : ∃ line ∈ lines invalid, text? line = none := by decide +kernel
  obtain ⟨⟨rest, second, whole⟩, messages, -⟩ :=
    (run_append options refused d6 source (.inr (by decide +kernel))).1 valid
  have unread := (run_append options invalid d6 source (.inr (by decide +kernel))).2.1 broken
  have first : (run options refused source).1 =
      { out := "> > ", err := "Input Error: Can't have both 'adv' and 'dis'\n" } := by
    decide +kernel
  have quiet : (run options d6 (run options refused source).2).1.err = "" := by decide +kernel
  rw [first] at whole messages
  rw [quiet] at messages
  exact ⟨valid, ⟨rest, second, whole⟩, messages, broken, unread⟩

end ChatDice.Console
