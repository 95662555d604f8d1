import ChatDice.Proofs.Play.Shape
import ChatDice.Proofs.Transcript.Markdown

/-!
# Transcripts read back

A transcript shows each draw on a line of its own. Two readers take such lines apart again, one for
common dice and one for the cursed die, and pass over all other lines.

**Theorem (`transcript_faithful`).** The lines of a plain transcript are one for each draw, one for
each sum and one for each of what is said between and after the trials. Those about draws read back
as the draws of the outcome, in order, and the last one is about the total. So a request has no two
outcomes with the same transcript.

No line has a newline in it, because every character of a line is printed, so the lines are those
that were put together. A sum, a value that counts and a total do not start like a draw, and the
other lines with the same first letter differ from one within the first eleven characters.
-/

namespace ChatDice

/-! ## Lines of a text -/

namespace Text

def splitLines (text : String) : List String := (text.toList.splitOn '\n').map String.ofList

theorem splitLines_intercalate {lines : List String} (h : ∀ line ∈ lines, '\n' ∉ line.toList)
    (some : lines ≠ []) : splitLines ("\n".intercalate lines) = lines := by
  have newline : "\n".toList = ['\n'] := rfl
  have chars : ∀ cs ∈ lines.map String.toList, '\n' ∉ cs := by
    intro cs hc
    obtain ⟨line, hl, rfl⟩ := List.mem_map.1 hc
    exact h line hl
  rw [splitLines, String.toList_intercalate, newline,
    List.splitOn_intercalate '\n' chars (by simpa using some), List.map_map]
  exact List.map_id'' (fun _ => String.ofList_toList) lines

/-- The number in digits at the start of a text, and what follows it. -/
def number? (text : List Char) : Option (Nat × List Char) :=
  (nat? (text.takeWhile Char.isDigit)).map fun n => (n, text.dropWhile Char.isDigit)

theorem number?_toDigits (n : Nat) {rest : List Char} (h : ∀ c ∈ rest.head?, c.isDigit = false) :
    number? (Nat.toDigits 10 n ++ rest) = some (n, rest) := by
  obtain ⟨digits, after⟩ := takeWhile_digits (fun _ hc => isDigit_of_mem_toDigits (n := n) hc) h
  rw [number?, digits, after, nat?_toDigits]
  rfl

end Text

theorem Printed.newline_not_mem {text : String} (h : Printed text) : '\n' ∉ text.toList := by
  intro hc
  exact absurd (h '\n' hc) (by decide)

/-! ## Readers -/

/-- Reads a line that shows a draw: the number of sides and the value. -/
def readDraw? (line : String) : Option (Nat × Nat) := do
  let rest ← "Rolling a d".toList.isPrefixOf? line.toList
  let (sides, rest) ← Text.number? rest
  let rest ← "... ".toList.isPrefixOf? rest
  let (value, rest) ← Text.number? rest
  if rest = ['!'] then some (sides, value) else none

/-- Reads a line that shows a draw from the cursed die: its value. -/
def readCursed? (line : String) : Option Nat := do
  let rest ← ("Rolling a CURSED d6... ".toList.isPrefixOf? line.toList).or
    ("Rolling another CURSED d6... ".toList.isPrefixOf? line.toList)
  let (value, rest) ← Text.number? rest
  if rest = ['!'] then some value else none

/-- The lines about draws read as `draws`, and those about the cursed die as `values`. -/
structure Reads (lines : List String) (draws : List (Nat × Nat)) (values : List Nat) : Prop where
  draws : lines.filterMap readDraw? = draws
  values : lines.filterMap readCursed? = values

namespace Reads

variable {a b : List String} {draws draws' : List (Nat × Nat)} {values values' : List Nat}

theorem nil : Reads [] [] [] := ⟨rfl, rfl⟩

theorem append (ha : Reads a draws values) (hb : Reads b draws' values') :
    Reads (a ++ b) (draws ++ draws') (values ++ values') where
  draws := by rw [List.filterMap_append, ha.draws, hb.draws]
  values := by rw [List.filterMap_append, ha.values, hb.values]

theorem append_other (ha : Reads a draws values) (hb : Reads b [] []) :
    Reads (a ++ b) draws values := by
  have both := ha.append hb
  rwa [List.append_nil, List.append_nil] at both

theorem line {text : String} {draw : Option (Nat × Nat)} {value : Option Nat}
    (hd : readDraw? text = draw) (hv : readCursed? text = value) :
    Reads [text] draw.toList value.toList where
  draws := by
    rw [List.filterMap_cons, hd]
    cases draw <;> rfl
  values := by
    rw [List.filterMap_cons, hv]
    cases value <;> rfl

theorem other {c : Char} {cs : List Char} {rest : String} (h : c ≠ 'R') :
    Reads [String.ofList (c :: cs) ++ rest] [] [] := by
  have head : ∀ text : List Char, ('R' :: text).isPrefixOf? (c :: (cs ++ rest.toList)) = none := by
    intro text
    simp [List.isPrefixOf?, h.symm]
  have chars : (String.ofList (c :: cs) ++ rest).toList = c :: (cs ++ rest.toList) := by
    rw [String.toList_append, String.toList_ofList, List.cons_append]
  have noDraw : readDraw? (String.ofList (c :: cs) ++ rest) = none := by
    rw [readDraw?, chars, show "Rolling a d".toList = 'R' :: _ from rfl, head]
    rfl
  have noCursed : readCursed? (String.ofList (c :: cs) ++ rest) = none := by
    rw [readCursed?, chars, show "Rolling a CURSED d6... ".toList = 'R' :: _ from rfl, head,
      show "Rolling another CURSED d6... ".toList = 'R' :: _ from rfl, head]
    rfl
  exact line noDraw noCursed

end Reads

/-! ## Lines about draws -/

theorem isPrefixOf?_append (front rest : List Char) :
    front.isPrefixOf? (front ++ rest) = some rest :=
  List.isPrefixOf?_eq_some_iff_append_eq.2 rfl

theorem number?_last (n : Nat) : Text.number? (Nat.toDigits 10 n ++ ['!']) = some (n, ['!']) :=
  Text.number?_toDigits n (by rintro _ ⟨⟩; rfl)

namespace Throw

theorem toList_drawLine (die : Die) (value : UInt32) :
    (drawLine .plain die value).toList = "Rolling a d".toList ++ (Nat.toDigits 10 die.sides.toNat ++
      ("... ".toList ++ (Nat.toDigits 10 value.toNat ++ ['!']))) := by
  show ("Rolling a " ++ ("d" ++ die.sides.toNat.repr) ++ "... " ++
    value.toNat.repr ++ "!").toList = _
  simp only [String.toList_append, Nat.toList_repr, List.append_assoc]
  -- The letter of the die belongs to the opening words on the right.
  rfl

theorem reads_drawLine (die : Die) (value : UInt32) :
    Reads [drawLine .plain die value] [(die.sides.toNat, value.toNat)] [] := by
  have sides : Text.number? (Nat.toDigits 10 die.sides.toNat ++
      ("... ".toList ++ (Nat.toDigits 10 value.toNat ++ ['!']))) = some (die.sides.toNat, _) :=
    Text.number?_toDigits _ (by rintro _ ⟨⟩; rfl)
  have draw : readDraw? (drawLine .plain die value) = some (die.sides.toNat, value.toNat) := by
    simp only [readDraw?, toList_drawLine, isPrefixOf?_append, sides, number?_last,
      Option.bind_eq_bind, Option.bind_some, if_true]
  have noCursed : readCursed? (drawLine .plain die value) = none := by
    rw [readCursed?, toList_drawLine]
    rfl
  exact .line draw noCursed

/-- The draws of a throw with the sides of their die. -/
def shown (t : Throw) : List (Nat × Nat) :=
  t.draws.map fun value => (t.spec.die.sides.toNat, value.toNat)

theorem reads_drawLines (die : Die) (values : List UInt32) :
    Reads (values.map (drawLine .plain die))
      (values.map fun value => (die.sides.toNat, value.toNat)) [] := by
  induction values with
  | nil => exact .nil
  | cons value rest ih => exact (reads_drawLine die value).append ih

theorem reads_sumLine (t : Throw) : Reads [t.sumLine .plain] [] [] := by
  unfold sumLine
  rw [String.append_assoc]
  exact .other (by decide)

theorem reads_modifierLine (t : Throw) (m : Int64) : Reads [t.modifierLine .plain m] [] [] := by
  unfold modifierLine
  rw [String.append_assoc, String.append_assoc, String.append_assoc]
  exact .other (by decide)

theorem reads_lines (t : Throw) : Reads (t.lines .plain) t.shown [] := by
  refine (reads_drawLines t.spec.die t.draws).append_other (.append_other ?_ ?_)
  · split
    · exact t.reads_sumLine
    · exact .nil
  · cases t.spec.modifier with
    | none => exact .nil
    | some m => exact t.reads_modifierLine m

/-- A throw has a line for each draw, one for the sum of several dice and one for its modifier. -/
theorem length_lines (style : Style) (t : Throw) : (t.lines style).length =
    t.draws.length + (if 1 < t.spec.count then 1 else 0) +
      (if t.spec.modifier.isSome then 1 else 0) := by
  have sums : (if 1 < t.spec.count then [t.sumLine style] else []).length =
      if 1 < t.spec.count then 1 else 0 := by
    split <;> rfl
  have modifiers : (t.spec.modifier.map (t.modifierLine style)).toList.length =
      if t.spec.modifier.isSome then 1 else 0 := by
    cases t.spec.modifier <;> rfl
  rw [lines, List.length_append, List.length_append, List.length_map, sums, modifiers]
  omega

end Throw

namespace Trial

theorem toList_cursedLine (value : UInt32) (again : Bool) :
    (cursedLine .plain value again).toList =
      (if again then "Rolling another CURSED d6... ".toList
        else "Rolling a CURSED d6... ".toList) ++ (Nat.toDigits 10 value.toNat ++ ['!']) := by
  show ("Rolling " ++ (if again then "another" else "a") ++ " CURSED d6... " ++
    value.toNat.repr ++ "!").toList = _
  simp only [String.toList_append, Nat.toList_repr, List.append_assoc]
  cases again <;> rfl

theorem reads_cursedLine (value : UInt32) (again : Bool) :
    Reads [cursedLine .plain value again] [] [value.toNat] := by
  have opening : ("Rolling a CURSED d6... ".toList.isPrefixOf?
      (cursedLine .plain value again).toList).or ("Rolling another CURSED d6... ".toList.isPrefixOf?
        (cursedLine .plain value again).toList) = some (Nat.toDigits 10 value.toNat ++ ['!']) := by
    rw [toList_cursedLine]
    cases again <;> rfl
  have noDraw : readDraw? (cursedLine .plain value again) = none := by
    rw [readDraw?, toList_cursedLine]
    cases again <;> rfl
  have cursed : readCursed? (cursedLine .plain value again) = some value.toNat := by
    simp only [readCursed?, opening, number?_last, Option.bind_eq_bind, Option.bind_some, if_true]
  exact .line noDraw cursed

/-- The draws of common dice in a trial with the sides of their dice. -/
def shown : Trial → List (Nat × Nat)
  | cursed _ => []
  | dice throws => throws.flatMap Throw.shown

/-- The draws of the cursed die in a trial. -/
def shownCursed : Trial → List Nat
  | cursed value => [value.toNat]
  | dice _ => []

/-- How many lines a trial has beside those about its draws: one for the sum of several dice of one
expression, one for each modifier and one for the sum of several expressions. -/
def sums : Trial → Nat
  | cursed _ => 0
  | dice throws => throws.countP (fun t => 1 < t.spec.count) +
      throws.countP (fun t => t.spec.modifier.isSome) + if 1 < throws.length then 1 else 0

theorem reads_allLine (t : Trial) : Reads [t.allLine .plain] [] [] := by
  unfold allLine
  rw [String.append_assoc]
  exact .other (by decide)

theorem reads_throws (throws : List Throw) :
    Reads (throws.flatMap (Throw.lines .plain)) (throws.flatMap Throw.shown) [] := by
  induction throws with
  | nil => exact .nil
  | cons t throws ih =>
    rw [List.flatMap_cons, List.flatMap_cons]
    exact t.reads_lines.append ih

theorem reads_lines (t : Trial) (again : Bool) :
    Reads (t.lines .plain again) t.shown t.shownCursed := by
  cases t with
  | cursed value => exact reads_cursedLine value again
  | dice throws =>
    have opening :
        Reads (if again && 0 < (dice throws).drawCount then [againLine] else []) [] [] := by
      split
      · exact ⟨rfl, rfl⟩
      · exact .nil
    refine opening.append ((reads_throws throws).append_other ?_)
    split
    · exact reads_allLine _
    · exact .nil

theorem length_throws (style : Style) (throws : List Throw) :
    (throws.flatMap (Throw.lines style)).length = (throws.flatMap Throw.draws).length +
      throws.countP (fun t => 1 < t.spec.count) +
      throws.countP (fun t => t.spec.modifier.isSome) := by
  induction throws with
  | nil => rfl
  | cons t throws ih =>
    rw [List.flatMap_cons, List.flatMap_cons, List.length_append, List.length_append,
      List.countP_cons, List.countP_cons, ih, Throw.length_lines]
    simp only [decide_eq_true_eq]
    omega

theorem length_lines (style : Style) (t : Trial) (again : Bool) : (t.lines style again).length =
    t.drawCount + t.sums + if again && !t.isCursed && 0 < t.drawCount then 1 else 0 := by
  cases t with
  | cursed value => cases again <;> rfl
  | dice throws =>
    have opening : (if again && 0 < (dice throws).drawCount then [againLine] else []).length =
        if again && !(dice throws).isCursed && 0 < (dice throws).drawCount then 1 else 0 := by
      rw [isCursed, Bool.not_false, Bool.and_true]
      split <;> rfl
    have closing : (if 1 < throws.length then [(dice throws).allLine style] else []).length =
        if 1 < throws.length then 1 else 0 := by
      split <;> rfl
    rw [lines, List.length_append, List.length_append, opening, length_throws, closing, sums,
      drawCount, draws]
    omega

end Trial

namespace Outcome

theorem reads_pickLine (o : Outcome) : Reads [o.pickLine .plain] [] [] := by
  unfold pickLine
  rw [String.append_assoc]
  cases o.advantage with
  | straight =>
    show Reads ["" ++ _] [] []
    rw [String.empty_append]
    exact .other (by decide)
  | advantage => exact .other (by decide)
  | disadvantage => exact .other (by decide)

theorem reads_totalLine (o : Outcome) : Reads [o.totalLine .plain] [] [] := by
  unfold totalLine
  rw [String.append_assoc]
  split
  · exact .other (by decide)
  · exact .other (by decide)

/-- The trials that a transcript shows: the first and its replay. -/
def shown (o : Outcome) : List Trial := o.first :: o.replay.toList

theorem reads_lines (o : Outcome) :
    Reads (o.lines .plain) (o.shown.flatMap Trial.shown) (o.shown.flatMap Trial.shownCursed) := by
  unfold lines shown
  rw [List.flatMap_cons, List.flatMap_cons]
  refine (o.first.reads_lines false).append (.append_other ?_ o.reads_totalLine)
  cases o.replay with
  | none => exact .nil
  | some replay =>
    rw [Option.toList_some, List.flatMap_singleton, List.flatMap_singleton]
    exact (replay.reads_lines true).append_other o.reads_pickLine

theorem length_lines (style : Style) (o : Outcome) : (o.lines style).length =
    (o.shown.flatMap Trial.draws).length + (o.shown.map Trial.sums).sum +
      (if o.replay.any fun t => !t.isCursed && 0 < t.drawCount then 1 else 0) +
      (if o.replay.isSome then 1 else 0) + 1 := by
  unfold lines shown
  rw [List.length_append, List.length_append, List.length_singleton, Trial.length_lines]
  cases o.replay with
  | none => simp [Trial.drawCount]
  | some replay =>
    simp [Trial.length_lines, Trial.drawCount]
    omega

theorem getLast?_lines (o : Outcome) : (o.lines .plain).getLast? = some
    ((if o.modifier.isSome then "With modifier: " else "Total: ") ++ Text.decimal o.total) := by
  have last : o.totalLine .plain =
      (if o.modifier.isSome then "With modifier: " else "Total: ") ++ Text.decimal o.total := by
    unfold totalLine
    split <;> rfl
  unfold lines
  rw [← List.append_assoc, List.getLast?_append, List.getLast?_singleton, Option.some_or, last]

theorem splitLines_transcript (o : Outcome) :
    Text.splitLines (o.transcript .plain) = o.lines .plain := by
  have printed := Decorates.printed_of_mem o.decorates_lines
  exact Text.splitLines_intercalate (fun line hl => (printed line hl).newline_not_mem)
    (by simp [lines])

end Outcome

/-! ## Outcomes of one request -/

namespace Throw

theorem eq_of_shown {as bs : List Throw} (specs : as.map spec = bs.map spec)
    (counts : ∀ t ∈ as, t.draws.length = t.spec.count.toNat)
    (counts' : ∀ t ∈ bs, t.draws.length = t.spec.count.toNat)
    (h : as.flatMap shown = bs.flatMap shown) : as = bs := by
  induction as generalizing bs with
  | nil =>
    cases bs with
    | nil => rfl
    | cons u bs => cases specs
  | cons t as ih =>
    cases bs with
    | nil => cases specs
    | cons u bs =>
      obtain ⟨spec, others⟩ := List.cons.inj specs
      obtain ⟨count, counts⟩ := List.forall_mem_cons.1 counts
      obtain ⟨count', counts'⟩ := List.forall_mem_cons.1 counts'
      -- Throws for one expression show as many draws, so both rows can be cut behind the first.
      have lengths : t.shown.length = u.shown.length := by
        rw [shown, shown, List.length_map, List.length_map, count, count', spec]
      obtain ⟨first, rest⟩ := List.append_inj h lengths
      have pairs : Function.Injective fun value : UInt32 => (u.spec.die.sides.toNat, value.toNat) :=
        fun a b same => UInt32.toNat_inj.1 (Prod.mk.inj same).2
      have draws : t.draws = u.draws := by
        rw [shown, shown, spec] at first
        exact List.map_injective_iff.2 pairs first
      have same : t = u := by
        obtain ⟨⟩ := t
        obtain ⟨⟩ := u
        exact (Throw.mk.injEq ..).mpr ⟨spec, draws⟩
      rw [same, ih others counts counts' rest]

theorem length_flatMap_shown {throws : List Throw}
    (counts : ∀ t ∈ throws, t.draws.length = t.spec.count.toNat) :
    (throws.flatMap shown).length =
      ((throws.map spec).map fun spec => spec.count.toNat).sum := by
  rw [List.length_flatMap, List.map_map]
  refine congrArg List.sum (List.map_congr_left fun t ht => ?_)
  rw [shown, List.length_map]
  exact counts t ht

end Throw

namespace Trial

variable {r : Request} {t u : Trial}

/-- Both trials are cursed, or both have throws for the same expressions with as many draws as asked
for. Such trials have as many draws as each other, so that rows of them are cut at the same
places. -/
inductive Alike : Trial → Trial → Prop
  | cursed (a b : UInt32) : Alike (.cursed a) (.cursed b)
  | dice {as bs : List Throw} : as.map Throw.spec = bs.map Throw.spec →
      (∀ t ∈ as, t.draws.length = t.spec.count.toNat) →
      (∀ t ∈ bs, t.draws.length = t.spec.count.toNat) → Alike (.dice as) (.dice bs)

theorem Fits.alike (ht : t.Fits r) (hu : u.Fits r) : t.Alike u := by
  cases t with
  | cursed a =>
    have cursed : r.cursed = true := ht
    cases u with
    | cursed b => exact .cursed a b
    | dice bs => exact Bool.noConfusion (cursed.symm.trans hu.1)
  | dice as =>
    cases u with
    | cursed b =>
      have cursed : r.cursed = true := hu
      exact Bool.noConfusion (cursed.symm.trans ht.1)
    | dice bs => exact .dice (ht.2.1.trans hu.2.1.symm) ht.2.2 hu.2.2

namespace Alike

theorem length_shown (h : t.Alike u) :
    t.shown.length = u.shown.length ∧ t.shownCursed.length = u.shownCursed.length := by
  cases h with
  | cursed => exact ⟨rfl, rfl⟩
  | dice specs counts counts' =>
    refine ⟨?_, rfl⟩
    rw [shown, shown, Throw.length_flatMap_shown counts, Throw.length_flatMap_shown counts', specs]

theorem eq_of_shown (h : t.Alike u) (draws : t.shown = u.shown)
    (values : t.shownCursed = u.shownCursed) : t = u := by
  cases h with
  | cursed => rw [UInt32.toNat_inj.1 (List.singleton_inj.1 values)]
  | dice specs counts counts' => rw [Throw.eq_of_shown specs counts counts' draws]

end Alike

theorem eq_of_flatMap_shown {ts us : List Trial} (length : ts.length = us.length)
    (fits : ∀ t ∈ ts, t.Fits r) (fits' : ∀ u ∈ us, u.Fits r)
    (draws : ts.flatMap shown = us.flatMap shown)
    (values : ts.flatMap shownCursed = us.flatMap shownCursed) : ts = us := by
  induction ts generalizing us with
  | nil => exact (List.eq_nil_of_length_eq_zero length.symm).symm
  | cons t ts ih =>
    cases us with
    | nil => cases length
    | cons u us =>
      obtain ⟨ht, fits⟩ := List.forall_mem_cons.1 fits
      obtain ⟨hu, fits'⟩ := List.forall_mem_cons.1 fits'
      have alike := ht.alike hu
      obtain ⟨first, rest⟩ := List.append_inj draws alike.length_shown.1
      obtain ⟨first', rest'⟩ := List.append_inj values alike.length_shown.2
      rw [alike.eq_of_shown first first', ih (Nat.succ.inj length) fits fits' rest rest']

end Trial

namespace Request

variable {σ τ : Type} [Roller σ] [Roller τ]

/-- A transcript shows all trials of a finished roll. -/
theorem shown_outcomeFrom (r : Request) (s : σ) :
    (r.outcomeFrom s).shown = (r.outcomeFrom s).trials := by
  show _ :: (r.laterFrom _).head?.toList = _ :: r.laterFrom _
  rw [laterFrom]
  split <;> rfl

/-- **A request has no two outcomes with the same transcript.** -/
theorem outcomeFrom_eq_of_transcript {r : Request} {s : σ} {t : τ}
    (same : (r.outcomeFrom s).transcript .plain = (r.outcomeFrom t).transcript .plain) :
    r.outcomeFrom s = r.outcomeFrom t := by
  have reads := (r.outcomeFrom s).reads_lines
  have reads' := (r.outcomeFrom t).reads_lines
  rw [← Outcome.splitLines_transcript, shown_outcomeFrom] at reads reads'
  rw [same] at reads
  have length : (r.outcomeFrom s).trials.length = (r.outcomeFrom t).trials.length := by
    show (r.laterFrom _).length + 1 = (r.laterFrom _).length + 1
    rw [laterFrom, laterFrom]
    split <;> rfl
  have trials := Trial.eq_of_flatMap_shown length (r.fits_outcomeFrom s) (r.fits_outcomeFrom t)
    (reads.draws.symm.trans reads'.draws) (reads.values.symm.trans reads'.values)
  obtain ⟨first, later⟩ := List.cons.inj trials
  show r.outcomeOf _ _ = r.outcomeOf _ _
  exact congrArg₂ r.outcomeOf first later

end Request

/-- **A transcript is a faithful record.** -/
theorem transcript_faithful {σ τ : Type} [Roller σ] [Roller τ] {s : Session σ} {r : Request}
    {o : Outcome} (h : (s.play r).value.1 = .ok (.rolled o)) (t : Session τ) :
    let lines := Text.splitLines (o.transcript .plain)
    lines.filterMap readDraw? = o.trials.flatMap Trial.shown ∧
    lines.filterMap readCursed? = o.trials.flatMap Trial.shownCursed ∧
    lines.length = o.drawCount + (o.trials.map Trial.sums).sum +
      (if o.replay.any fun t => !t.isCursed && 0 < t.drawCount then 1 else 0) +
      (if o.replay.isSome then 1 else 0) + 1 ∧
    lines.getLast? = some
      ((if o.modifier.isSome then "With modifier: " else "Total: ") ++ Text.decimal o.total) ∧
    ∀ p, (t.play r).value.1 = .ok (.rolled p) → p.transcript .plain = o.transcript .plain →
      p = o := by
  intro lines
  obtain ⟨rfl, -⟩ := Session.outcome_of_play h
  have shown := r.shown_outcomeFrom s.source
  have reads := (r.outcomeFrom s.source).reads_lines
  have length := (r.outcomeFrom s.source).length_lines .plain
  rw [shown] at reads length
  have split : lines = (r.outcomeFrom s.source).lines .plain := Outcome.splitLines_transcript _
  rw [split]
  refine ⟨reads.draws, reads.values, length, Outcome.getLast?_lines _, fun p hp same => ?_⟩
  obtain ⟨rfl, -⟩ := Session.outcome_of_play hp
  exact Request.outcomeFrom_eq_of_transcript same

/-- `2d6 d20-1 dis +4` with a counter: six draws on fifteen lines. A row of the same values has the
same outcome. -/
theorem transcript_faithful_with_disadvantage :
    let s : Session Steps := .start (some 10) (.startingAt 5 1)
    let t : Session Cycle := .start none ⟨[5, 6, 7, 2, 3, 10]⟩
    let pair : Spec := ⟨2, .d6, none⟩
    let single : Spec := ⟨1, { sides := 20 }, some (-1)⟩
    let r : Request :=
      { dice := [pair, single], disadvantage := true, modifier := some (.value 4) }
    let o : Outcome :=
      { title := none, advantage := .disadvantage, modifier := some 4,
        first := .dice [⟨pair, [5, 6]⟩, ⟨single, [7]⟩],
        later := [.dice [⟨pair, [2, 3]⟩, ⟨single, [10]⟩]] }
    let lines := Text.splitLines (o.transcript .plain)
    (s.play r).value.1 = .ok (.rolled o) ∧
      lines.filterMap readDraw? = [(6, 5), (6, 6), (20, 7), (6, 2), (6, 3), (20, 10)] ∧
      lines.filterMap readCursed? = [] ∧ lines.length = 15 ∧
      lines.getLast? = some "With modifier: 18" ∧
      ∃ p, (t.play r).value.1 = .ok (.rolled p) ∧ p.transcript .plain = o.transcript .plain ∧
        p = o := by
  intro s t pair single r o lines
  have rolled : (s.play r).value.1 = .ok (.rolled o) := by decide +kernel
  have again : (t.play r).value.1 = .ok (.rolled o) := by decide +kernel
  obtain ⟨draws, values, length, last, same⟩ := transcript_faithful rolled t
  have total : (if o.modifier.isSome then "With modifier: " else "Total: ") ++
      Text.decimal o.total = "With modifier: 18" := by decide +kernel
  rw [total] at last
  exact ⟨rolled, draws, values, length, last, o, again, rfl, same o again rfl⟩

end ChatDice
