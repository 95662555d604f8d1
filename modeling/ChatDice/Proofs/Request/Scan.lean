import ChatDice.Proofs.Request.Clause
import ChatDice.Proofs.Text.Bytes

/-!
# Looking for a clause by its bytes

A text is stored as bytes, and a scanner tries one byte after the other: where three bytes read
`for`, in either case, it cuts the text behind them and goes on with characters. Every cut can fail,
for the place may lie inside a character.

**Theorem (`cutOut_eq`).** No cut fails, whatever the text is. What the scanner finds is the clause
that `Clause.find?` finds, at the bytes where it stands, and what it cuts out and leaves is what
`extractTitle` gives.

No byte of a character beyond ASCII can be a letter of the keyword, so the scanner tries nothing
inside a character (`reads_eq_false`), and where the keyword is read there are three characters of
one byte each (`reads_iff`). All other places at which it cuts are sizes of parts of the text.
-/

namespace ChatDice

open Text (isWordChar bytes byteSize OffBoundary upTo startingFrom placeOf?)

namespace Scan

/-! ## The scanner -/

/-- The small letter of an ASCII capital letter; every other byte stays as it is. -/
def lowerByte (b : UInt8) : UInt8 := if 65 ≤ b.toNat ∧ b.toNat ≤ 90 then b + 32 else b

/-- Whether bytes start with the keyword, in either case. -/
def reads (bs : List UInt8) : Bool := (bs.take 3).map lowerByte == bytes ['f', 'o', 'r']

/-- A clause, with the bytes that it takes. -/
structure Located where
  /-- The place of its first byte. -/
  start : Nat
  /-- The place behind its last byte. -/
  stop : Nat
  text : List Char
deriving DecidableEq

/-- The clause that starts at a place where the keyword is read, if there is one. -/
def clauseAt (input : List Char) (start : Nat) : Except OffBoundary (Option Located) := do
  let behind := start + 3
  let rest ← startingFrom behind input
  let pos := behind + (placeOf? (!isWordChar ·) rest).getD (byteSize rest)
  match ← startingFrom pos input with
  | ':' :: '"' :: rest =>
    match placeOf? (!Clause.isTextChar ·) rest with
    | none => return none
    | some close =>
      match ← startingFrom close rest with
      | '"' :: _ =>
        let text ← upTo close rest
        return some { start, stop := pos + 2 + close + 1, text }
      | _ => return none
  | _ => return none

/-- The first clause that starts at one of several places. -/
def firstAt (input : List Char) : List Nat → Except OffBoundary (Option Located)
  | [] => return none
  | place :: others => do
    if reads ((bytes input).drop place) then
      match ← clauseAt input place with
      | some clause => return some clause
      | none => firstAt input others
    else firstAt input others

/-- The first clause of a text. -/
def find (input : List Char) : Except OffBoundary (Option Located) :=
  firstAt input (List.range (byteSize input))

/-- Takes the clause out of a text: the title, and what is left of the text. -/
def cutOut (input : List Char) : Except OffBoundary (Option String × List Char) := do
  match ← find input with
  | none => return (none, input)
  | some clause =>
    let title := match Text.trim clause.text with
      | [] => none
      | title => some (String.ofList title)
    let before ← upTo clause.start input
    let after ← startingFrom clause.stop input
    return (title, before ++ ' ' :: after)

/-! ## Where the keyword is read -/

theorem lowerByte_of_le {b : UInt8} (h : 128 ≤ b.toNat) : lowerByte b = b :=
  if_neg (by omega)

/-- The keyword starts with no byte of a character beyond ASCII. -/
theorem reads_eq_false {b : UInt8} (h : 128 ≤ b.toNat) (bs : List UInt8) :
    reads (b :: bs) = false := by
  rw [reads, List.take_succ_cons, List.map_cons, lowerByte_of_le h, beq_eq_false_iff_ne]
  intro same
  obtain ⟨rfl, -⟩ := List.cons.inj same
  exact absurd h (by decide)

theorem lowerByte_ofNat_toNat {c : Char} (h : c.toNat < 128) :
    lowerByte (UInt8.ofNat c.toNat) = UInt8.ofNat c.toLower.toNat ∧ c.toLower.toNat < 128 := by
  have all : ∀ n < 128,
      lowerByte (UInt8.ofNat n) = UInt8.ofNat (Char.ofNat n).toLower.toNat ∧
        (Char.ofNat n).toLower.toNat < 128 := by
    decide +kernel
  simpa using all c.toNat h

theorem toNat_lt_of_toLower {c : Char} (h : c.toLower.toNat < 128) : c.toNat < 128 := by
  unfold Char.toLower at h
  split at h
  · next capital => exact Nat.lt_of_le_of_lt (UInt32.le_iff_toNat_le.1 capital.2) (by decide)
  · exact h

/-- A byte that is a letter in either case is a character. -/
theorem exists_cons_of_lowerByte {cs : List Char} {b : UInt8} {bs : List UInt8} {letter : Char}
    (small : letter.toNat < 128) (hcs : bytes cs = b :: bs)
    (hb : lowerByte b = UInt8.ofNat letter.toNat) :
    ∃ c rest, cs = c :: rest ∧ c.toLower = letter ∧ bytes rest = bs := by
  cases cs with
  | nil => cases hcs
  | cons c rest =>
    rw [Text.bytes_cons] at hcs
    by_cases hc : c.toNat < 128
    · rw [Text.utf8EncodeChar_of_ascii hc] at hcs
      obtain ⟨rfl, hbs⟩ := List.cons.inj hcs
      obtain ⟨lower, inRange⟩ := lowerByte_ofNat_toNat hc
      have same := congrArg UInt8.toNat (lower.symm.trans hb)
      rw [UInt8.toNat_ofNat', UInt8.toNat_ofNat', Nat.mod_eq_of_lt (by omega),
        Nat.mod_eq_of_lt (by omega)] at same
      exact ⟨c, rest, rfl, Char.toNat_inj.1 same, hbs⟩
    -- The bytes of any other character are too large for a letter.
    · have part : b ∈ String.utf8EncodeChar c := by
        obtain ⟨d, ds, hd⟩ := List.exists_cons_of_ne_nil (String.utf8EncodeChar_ne_nil (c := c))
        rw [hd] at hcs ⊢
        exact (List.cons.inj hcs).1 ▸ List.mem_cons_self
      have large := Text.le_of_mem_utf8EncodeChar (Nat.le_of_not_lt hc) part
      have same := congrArg UInt8.toNat ((lowerByte_of_le large).symm.trans hb)
      rw [UInt8.toNat_ofNat', Nat.mod_eq_of_lt (by omega)] at same
      omega

theorem bytes_cons_of_toLower {c letter : Char} (h : c.toLower = letter)
    (small : letter.toNat < 128) (rest : List Char) :
    ∃ b, bytes (c :: rest) = b :: bytes rest ∧ lowerByte b = UInt8.ofNat letter.toNat ∧
      c.utf8Size = 1 := by
  have hc : c.toNat < 128 := toNat_lt_of_toLower (h ▸ small)
  refine ⟨UInt8.ofNat c.toNat, ?_, ?_, Text.utf8Size_of_ascii hc⟩
  · rw [Text.bytes_cons, Text.utf8EncodeChar_of_ascii hc]
    rfl
  · rw [(lowerByte_ofNat_toNat hc).1, h]

theorem isKeyword_iff {f o r : Char} :
    Clause.isKeyword f o r = true ↔ f.toLower = 'f' ∧ o.toLower = 'o' ∧ r.toLower = 'r' := by
  simp [Clause.isKeyword, and_assoc]

/-- **The keyword is read where it stands.** -/
theorem reads_iff (cs : List Char) :
    reads (bytes cs) = true ↔
      ∃ f o r rest, cs = f :: o :: r :: rest ∧ Clause.isKeyword f o r = true := by
  have keyword : bytes ['f', 'o', 'r'] =
      [UInt8.ofNat 'f'.toNat, UInt8.ofNat 'o'.toNat, UInt8.ofNat 'r'.toNat] := by decide
  rw [reads, beq_iff_eq, keyword]
  constructor
  · intro h
    obtain ⟨b₀, bs, hb, h₀, h⟩ := List.map_eq_cons_iff.1 h
    obtain ⟨b₁, bs₁, rfl, h₁, h⟩ := List.map_eq_cons_iff.1 h
    obtain ⟨b₂, bs₂, rfl, h₂, h⟩ := List.map_eq_cons_iff.1 h
    obtain rfl : bs₂ = [] := List.map_eq_nil_iff.1 h
    -- The three bytes are whole characters, one after the other.
    have whole := List.take_append_drop 3 (bytes cs)
    rw [hb] at whole
    obtain ⟨f, cs₁, rfl, hf, hcs₁⟩ := exists_cons_of_lowerByte (by decide) whole.symm h₀
    obtain ⟨o, cs₂, rfl, ho, hcs₂⟩ := exists_cons_of_lowerByte (by decide) hcs₁ h₁
    obtain ⟨r, rest, rfl, hr, -⟩ := exists_cons_of_lowerByte (by decide) hcs₂ h₂
    exact ⟨f, o, r, rest, rfl, isKeyword_iff.2 ⟨hf, ho, hr⟩⟩
  · rintro ⟨f, o, r, rest, rfl, h⟩
    obtain ⟨hf, ho, hr⟩ := isKeyword_iff.1 h
    obtain ⟨b₀, first, h₀, -⟩ := bytes_cons_of_toLower hf (by decide) (o :: r :: rest)
    obtain ⟨b₁, second, h₁, -⟩ := bytes_cons_of_toLower ho (by decide) (r :: rest)
    obtain ⟨b₂, third, h₂, -⟩ := bytes_cons_of_toLower hr (by decide) rest
    rw [first, second, third, ← h₀, ← h₁, ← h₂]
    rfl

/-! ## One place -/

/-- A clause with the bytes that it takes. -/
def located (clause : Clause) : Located where
  start := byteSize clause.before
  stop := byteSize (clause.before ++ clause.keyword ++ clause.word ++ ':' :: '"' :: clause.text ++
    ['"'])
  text := clause.text

theorem getD_placeOf? (p : Char → Bool) (cs : List Char) :
    (placeOf? (!p ·) cs).getD (byteSize cs) = byteSize (cs.takeWhile p) := by
  have parts := List.takeWhile_append_dropWhile (p := p) (l := cs)
  simp only [Text.placeOf?_eq, Bool.not_not]
  split
  · next none =>
    rw [none, List.append_nil] at parts
    rw [parts]
    rfl
  · rfl

/-- **Where the keyword is read, every cut is on a boundary.** -/
theorem clauseAt_eq (p : List Char) {f o r : Char} (keyword : Clause.isKeyword f o r = true)
    (rest : List Char) :
    clauseAt (p ++ f :: o :: r :: rest) (byteSize p) =
      .ok ((Clause.startingAt? (f :: o :: r :: rest)).map fun clause =>
        located { clause with before := p }) := by
  obtain ⟨hf, ho, hr⟩ := isKeyword_iff.1 keyword
  obtain ⟨-, -, -, sizeF⟩ := bytes_cons_of_toLower hf (by decide) []
  obtain ⟨-, -, -, sizeO⟩ := bytes_cons_of_toLower ho (by decide) []
  obtain ⟨-, -, -, sizeR⟩ := bytes_cons_of_toLower hr (by decide) []
  have size : byteSize [f, o, r] = 3 := by simp [sizeF, sizeO, sizeR]
  -- The two cuts that are made in any case: behind the keyword, and behind its word.
  have behind : startingFrom (byteSize p + 3) (p ++ f :: o :: r :: rest) = .ok rest := by
    have cut := Text.startingFrom_byteSize (p ++ [f, o, r]) rest
    rwa [Text.byteSize_append, size, List.append_assoc] at cut
  have wordEnd : startingFrom (byteSize p + 3 + byteSize (rest.takeWhile isWordChar))
      (p ++ f :: o :: r :: rest) = .ok (rest.dropWhile isWordChar) := by
    have cut := Text.startingFrom_byteSize (p ++ ([f, o, r] ++ rest.takeWhile isWordChar))
      (rest.dropWhile isWordChar)
    rwa [Text.byteSize_append, Text.byteSize_append, size, ← Nat.add_assoc, List.append_assoc,
      List.append_assoc, List.takeWhile_append_dropWhile] at cut
  rw [clauseAt, Clause.startingAt?, if_pos keyword]
  simp only [behind, getD_placeOf?, wordEnd, bind, Except.bind]
  generalize rest.dropWhile isWordChar = tail
  split
  case h_2 other =>
    have none : Clause.quotedAt? tail = none := by
      unfold Clause.quotedAt?
      split
      · next rest => exact (other rest rfl).elim
      · rfl
    rw [none]
    rfl
  case h_1 quoted =>
    have parts := List.takeWhile_append_dropWhile (p := Clause.isTextChar) (l := quoted)
    simp only [Text.placeOf?_eq, Bool.not_not]
    cases hd : quoted.dropWhile Clause.isTextChar with
    | nil =>
      have none : Clause.quotedAt? (':' :: '"' :: quoted) = none :=
        (Clause.quotedAt?_eq_none_iff quoted).2 (by simp [hd])
      rw [none]
      rfl
    | cons c after =>
      rw [hd] at parts
      -- The cuts at the end of the text in quotes are made only if something stands there.
      have front := Text.upTo_byteSize (quoted.takeWhile Clause.isTextChar) (c :: after)
      have back := Text.startingFrom_byteSize (quoted.takeWhile Clause.isTextChar) (c :: after)
      rw [parts] at front back
      simp only [back, front, reduceCtorEq, if_false]
      by_cases hc : c = '"'
      · subst hc
        have found : Clause.quotedAt? (':' :: '"' :: quoted) =
            some (quoted.takeWhile Clause.isTextChar, after) := by
          simp only [Clause.quotedAt?, hd]
        have stop : byteSize (p ++ [f, o, r] ++ rest.takeWhile isWordChar ++
            ':' :: '"' :: quoted.takeWhile Clause.isTextChar ++ ['"']) =
            byteSize p + 3 + byteSize (rest.takeWhile isWordChar) + 2 +
              byteSize (quoted.takeWhile Clause.isTextChar) + 1 := by
          simp only [Text.byteSize_append, Text.byteSize_cons, Text.byteSize_nil, size,
            show ':'.utf8Size = 1 from rfl, show '"'.utf8Size = 1 from rfl]
          omega
        simp only [found, located, Option.map_some, stop]
        rfl
      · have none : Clause.quotedAt? (':' :: '"' :: quoted) = none :=
          (Clause.quotedAt?_eq_none_iff quoted).2 (by simpa [hd] using hc)
        rw [none]
        split
        · next same => exact absurd (List.cons.inj same).1 hc
        · rfl

/-! ## All places -/

theorem firstAt_of_forall {input : List Char} {places : List Nat}
    (h : ∀ place ∈ places, reads ((bytes input).drop place) = false) (others : List Nat) :
    firstAt input (places ++ others) = firstAt input others := by
  induction places with
  | nil => rfl
  | cons place places ih =>
    rw [List.cons_append, firstAt, h place List.mem_cons_self, if_neg Bool.false_ne_true,
      ih fun place hp => h place (List.mem_cons_of_mem _ hp)]

theorem startingAt?_of_not_reads {cs : List Char} (h : ¬reads (bytes cs) = true) :
    Clause.startingAt? cs = none := by
  unfold Clause.startingAt?
  split
  · next f o r rest =>
    rw [if_neg]
    exact fun keyword => h ((reads_iff _).2 ⟨f, o, r, rest, rfl, keyword⟩)
  · rfl

theorem reads_inside (p : List Char) (c : Char) (x : List Char) :
    ∀ place ∈ List.range' (byteSize p + 1) (c.utf8Size - 1),
      reads ((bytes (p ++ c :: x)).drop place) = false := by
  intro place hplace
  obtain ⟨i, hi, rfl⟩ := List.mem_range'.1 hplace
  have inside : i + 1 < (String.utf8EncodeChar c).length := by
    rw [String.length_utf8EncodeChar]
    omega
  -- A character of one byte has no inside.
  have wide : 128 ≤ c.toNat := by
    refine Nat.le_of_not_lt fun ascii => ?_
    rw [Text.utf8Size_of_ascii ascii] at hi
    exact Nat.not_lt_zero i hi
  have split : (bytes (p ++ c :: x)).drop (byteSize p + 1 + 1 * i) =
      (String.utf8EncodeChar c)[i + 1] ::
        ((String.utf8EncodeChar c).drop (i + 1 + 1) ++ bytes x) := by
    rw [Text.bytes_append, show byteSize p + 1 + 1 * i = (bytes p).length + (i + 1) by
      rw [byteSize]; omega, List.drop_length_add_append, Text.bytes_cons,
      List.drop_append_of_le_length (Nat.le_of_lt inside), List.drop_eq_getElem_cons inside]
    rfl
  rw [split]
  exact reads_eq_false (Text.le_of_mem_utf8EncodeChar wide (List.getElem_mem inside)) _

/-- **The places of a text are tried as its characters are.** -/
theorem firstAt_range' (x p : List Char) :
    firstAt (p ++ x) (List.range' (byteSize p) (byteSize x)) =
      .ok ((Clause.find? x).map fun clause =>
        located { clause with before := p ++ clause.before }) := by
  induction x generalizing p with
  | nil => rfl
  | cons c x ih =>
    -- The place of a character, those inside it, and those of the characters after it.
    have places : List.range' (byteSize p) (byteSize (c :: x)) =
        byteSize p :: (List.range' (byteSize p + 1) (c.utf8Size - 1) ++
          List.range' (byteSize (p ++ [c])) (byteSize x)) := by
      have size : byteSize (c :: x) = (c.utf8Size - 1) + byteSize x + 1 := by
        have := c.utf8Size_pos
        rw [Text.byteSize_cons]
        omega
      have next : byteSize (p ++ [c]) = byteSize p + 1 + 1 * (c.utf8Size - 1) := by
        have := c.utf8Size_pos
        rw [Text.byteSize_append, Text.byteSize_cons, Text.byteSize_nil]
        omega
      rw [size, List.range'_succ, next, List.range'_append]
    have start : (bytes (p ++ c :: x)).drop (byteSize p) = bytes (c :: x) := by
      rw [Text.bytes_append]
      exact List.drop_left
    have later : firstAt (p ++ c :: x) (List.range' (byteSize p + 1) (c.utf8Size - 1) ++
        List.range' (byteSize (p ++ [c])) (byteSize x)) =
        .ok ((Clause.find? x).map fun clause =>
          located { clause with before := p ++ c :: clause.before }) := by
      rw [firstAt_of_forall (reads_inside p c x)]
      have rest := ih (p ++ [c])
      simpa only [List.append_assoc, List.singleton_append] using rest
    rw [places, firstAt, start, later]
    by_cases read : reads (bytes (c :: x)) = true
    · rw [if_pos read]
      obtain ⟨f, o, r, rest, same, keyword⟩ := (reads_iff _).1 read
      rw [same, clauseAt_eq p keyword, ← same, Clause.find?]
      cases hs : Clause.startingAt? (c :: x) with
      | none =>
        rw [Option.map_map]
        rfl
      | some clause =>
        obtain ⟨here, -⟩ := Clause.parts_of_startingAt? hs
        simp only [Option.map_some, here, List.append_nil]
        rfl
    · rw [if_neg read, Clause.find?, startingAt?_of_not_reads read, Option.map_map]
      rfl

/-! ## The whole text -/

theorem find_eq (input : List Char) : find input = .ok ((Clause.find? input).map located) := by
  have whole := firstAt_range' input []
  rwa [List.nil_append, Text.byteSize_nil, ← List.range_eq_range'] at whole

/-- **No cut fails, and the clause is the one of the text.** -/
theorem cutOut_eq (input : List Char) : cutOut input = .ok (extractTitle input) := by
  rw [cutOut, find_eq, extractTitle]
  cases hc : Clause.find? input with
  | none => rfl
  | some clause =>
    have parts := Clause.parts hc
    have before : upTo (located clause).start input = .ok clause.before := by
      rw [parts, List.append_assoc, List.append_assoc, List.append_assoc]
      exact Text.upTo_byteSize _ _
    have after : startingFrom (located clause).stop input = .ok clause.after := by
      have cut := Text.startingFrom_byteSize (clause.before ++ clause.keyword ++ clause.word ++
        ':' :: '"' :: clause.text ++ ['"']) clause.after
      rwa [List.append_assoc _ ['"'], List.singleton_append, ← parts] at cut
    simp only [Option.map_some, before, after, bind, Except.bind]
    rfl

end Scan

end ChatDice
