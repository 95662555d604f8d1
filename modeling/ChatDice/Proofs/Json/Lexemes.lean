import ChatDice.Json.Lexeme
import ChatDice.Json.Writer

/-!
# Lexemes read back

A JSON text is a row of lexemes in their written forms, with blanks wherever one likes.

**Theorem (`Lexeme.ofText?_of_laidOut`).** However lexemes are laid out, they are read from the
text. A text in quotes is written with escapes that give back each of its characters
(`scan_escape`), and a number is written with the digits with which it was read
(`Numeral.read?_text`).

The induction is on the layout. Where a lexeme ends is plain for the marks of punctuation and for
texts in quotes. A bare word goes on as long as it can, so that what stands behind it has to end it.
-/

namespace ChatDice

/-! ## Numbers -/

namespace Numeral

/-- The digits are decimal digits, some stand before the point and, if there is a point, behind it,
and only a zero by itself starts with a zero. -/
structure WellFormed (n : Numeral) : Prop where
  isWhole : isWhole n.whole = true
  whole : ∀ c ∈ n.whole, c.isDigit = true
  fraction : ∀ digits ∈ n.fraction, digits ≠ [] ∧ ∀ c ∈ digits, c.isDigit = true

theorem wellFormed_ofNat (n : Nat) : (ofNat n).WellFormed where
  isWhole := by
    rcases Nat.eq_zero_or_pos n with rfl | h
    · rfl
    · obtain ⟨c, rest, digits, hc⟩ := Text.toDigits_eq_cons h
      rw [ofNat, digits]
      unfold Numeral.isWhole
      split
      · contradiction
      · next heq => exact absurd (List.cons.inj heq).1 hc
      · rfl
  whole _ := Nat.isDigit_of_mem_toDigits (by decide) (by decide)
  fraction := nofun

/-- The written form of the point and the digits behind it. -/
def fractionText (n : Numeral) : List Char :=
  match n.fraction with
  | some digits => '.' :: digits
  | none => []

/-- The written form of the exponent. -/
def exponentText (n : Numeral) : List Char :=
  match n.exponent with
  | some e => 'e' :: ((if e < 0 then ['-'] else []) ++ Nat.toDigits 10 e.natAbs)
  | none => []

theorem text_eq (n : Numeral) :
    n.text =
      (if n.negative then ['-'] else []) ++ (n.whole ++ (n.fractionText ++ n.exponentText)) := by
  unfold text fractionText exponentText
  cases n.exponent <;> cases n.fraction <;> simp

theorem readExponent?_minus (digits : List Char) :
    readExponent? ('e' :: '-' :: digits) =
      (Text.nat? digits).map fun n : Nat => some (-(n : Int)) := by
  rw [readExponent?, if_pos (Or.inl rfl)]
  cases Text.nat? digits <;> rfl

/-- Without a sign at its start, an exponent is read as the digits that it is. -/
theorem readExponent?_digits {digits : List Char} (h : ∀ c ∈ digits, c.isDigit = true) :
    readExponent? ('e' :: digits) = (Text.nat? digits).map fun n : Nat => some (n : Int) := by
  rw [readExponent?.eq_def]
  simp only [true_or, if_true]
  split
  · exact absurd (h '-' List.mem_cons_self) (by decide)
  · exact absurd (h '+' List.mem_cons_self) (by decide)
  · cases Text.nat? digits <;> rfl

theorem readExponent?_exponentText (n : Numeral) :
    readExponent? n.exponentText = some n.exponent := by
  unfold exponentText
  cases n.exponent with
  | none => rfl
  | some e =>
    show readExponent? ('e' :: ((if e < 0 then ['-'] else []) ++ _)) = some (some e)
    by_cases he : e < 0
    · rw [if_pos he, List.singleton_append, readExponent?_minus, Text.nat?_toDigits,
        Option.map_some, show (-(e.natAbs : Int)) = e by omega]
    · have digits : ∀ c ∈ Nat.toDigits 10 e.natAbs, c.isDigit = true :=
        fun _ => Nat.isDigit_of_mem_toDigits (by decide) (by decide)
      rw [if_neg he, List.nil_append, readExponent?_digits digits, Text.nat?_toDigits,
        Option.map_some, show ((e.natAbs : Int)) = e by omega]

theorem isDigit_head?_exponentText (n : Numeral) :
    ∀ c ∈ n.exponentText.head?, c.isDigit = false := by
  unfold exponentText
  cases n.exponent with
  | none => exact nofun
  | some e =>
    rintro _ ⟨⟩
    decide

theorem isDigit_head?_fractionText (n : Numeral) :
    ∀ c ∈ (n.fractionText ++ n.exponentText).head?, c.isDigit = false := by
  have none := n.isDigit_head?_exponentText
  unfold fractionText
  cases n.fraction with
  | none => exact none
  | some digits =>
    rintro _ ⟨⟩
    decide

namespace WellFormed

variable {n : Numeral} (h : n.WellFormed)

include h

theorem readFraction?_fractionText :
    readFraction? (n.fractionText ++ n.exponentText) = some (n.fraction, n.exponentText) := by
  have none := n.isDigit_head?_exponentText
  have fraction := h.fraction
  unfold fractionText
  cases hf : n.fraction with
  | none =>
    unfold exponentText
    cases n.exponent <;> rfl
  | some digits =>
    obtain ⟨some, digit⟩ := fraction digits hf
    obtain ⟨taken, left⟩ := Text.takeWhile_digits digit none
    show readFraction? ('.' :: (digits ++ n.exponentText)) = _
    rw [readFraction?.eq_def]
    simp only [taken, left]

theorem readUnsigned?_text (negative : Bool) :
    readUnsigned? negative (n.whole ++ (n.fractionText ++ n.exponentText)) =
      some { n with negative } := by
  obtain ⟨taken, left⟩ := Text.takeWhile_digits h.whole n.isDigit_head?_fractionText
  simp only [readUnsigned?, taken, left, h.readFraction?_fractionText, readExponent?_exponentText,
    h.isWhole, Option.bind_eq_bind, Option.bind_some, if_true]
  rfl

theorem exists_whole_eq : ∃ c rest, n.whole = c :: rest ∧ c.isDigit = true := by
  have isWhole := h.isWhole
  have digit := h.whole
  cases hw : n.whole with
  | nil =>
    rw [hw] at isWhole
    cases isWhole
  | cons c rest => exact ⟨c, rest, rfl, digit c (by simp [hw])⟩

/-- **A number reads back.** A number without a sign starts with a digit, so no sign is read. -/
theorem read?_text : read? n.text = some n := by
  have read := h.readUnsigned?_text n.negative
  rw [text_eq]
  cases hn : n.negative with
  | true =>
    rw [hn] at read
    exact read.trans (by rw [← hn])
  | false =>
    obtain ⟨c, rest, hw, hc⟩ := h.exists_whole_eq
    rw [hn] at read
    have unsigned : c ≠ '-' := by
      rintro rfl
      cases hc
    show read? (n.whole ++ _) = some n
    rw [read?.eq_def]
    split
    · next heq =>
      rw [hw] at heq
      cases heq
      contradiction
    · rw [read, ← hn]

end WellFormed

end Numeral

/-! ## Characters of a lexeme -/

namespace Scanner

open Lexeme

theorem mem_of_endsWord {c : Char} (h : endsWord c = true) :
    c ∈ [' ', '\t', '\n', '\r', '"', '[', ']', '\x7b', '\x7d', ',', ':'] := by
  unfold endsWord isSpace punctuation? at h
  split at h <;> simp_all [or_assoc]

theorem endsWord_of_isDigit {c : Char} (h : c.isDigit = true) : endsWord c = false := by
  rw [← Bool.not_eq_true]
  intro ends
  have none : ([' ', '\t', '\n', '\r', '"', '[', ']', '\x7b', '\x7d', ',', ':'].all
      fun d => !d.isDigit) = true := by decide
  have other := List.all_eq_true.1 none c (mem_of_endsWord ends)
  rw [h] at other
  cases other

theorem endsWord_of_all {w : List Char} (h : (w.all fun d => !endsWord d) = true) :
    ∀ d ∈ w, endsWord d = false := by
  simpa using h

/-- The lexemes of a text behind what the scanner has seen. -/
def lexemes? (s : Scanner) (cs : List Char) : Option (List Lexeme) := (s.scan cs).bind finish?

theorem lexemes?_append (s : Scanner) (a b : List Char) :
    s.lexemes? (a ++ b) = (s.scan a).bind fun t => t.lexemes? b := by
  rw [lexemes?, scan_append, Option.bind_assoc]
  rfl

theorem scan_cons (s : Scanner) (c : Char) (cs : List Char) :
    s.scan (c :: cs) = (s.step c).bind fun t => t.scan cs := rfl

theorem lexemes?_cons (s : Scanner) (c : Char) (cs : List Char) :
    s.lexemes? (c :: cs) = (s.step c).bind fun t => t.lexemes? cs := by
  rw [lexemes?, scan_cons, Option.bind_assoc]
  rfl

/-! ## Marks of punctuation and blanks -/

theorem lexemes?_punctuation {c : Char} {lexeme : Lexeme} (h : punctuation? c = some lexeme)
    (done : List Lexeme) (cs : List Char) :
    lexemes? { done } (c :: cs) = lexemes? { done := lexeme :: done } cs := by
  rw [lexemes?_cons]
  show lexemes? (enter done c) cs = _
  rw [enter, h]

theorem punctuation?_of_isSpace {c : Char} (h : isSpace c = true) : punctuation? c = none := by
  simp only [isSpace, Bool.or_eq_true, beq_iff_eq] at h
  rcases h with ((rfl | rfl) | rfl) | rfl <;> rfl

theorem lexemes?_space {c : Char} (h : isSpace c = true) (done : List Lexeme) (cs : List Char) :
    lexemes? { done } (c :: cs) = lexemes? { done } cs := by
  rw [lexemes?_cons]
  show lexemes? (enter done c) cs = _
  rw [enter, punctuation?_of_isSpace h]
  simp only [h, if_true]

/-! ## Bare words -/

theorem scan_word {w : List Char} (h : ∀ c ∈ w, endsWord c = false) (done : List Lexeme)
    (seen : List Char) :
    scan { done, place := .word seen } w = some { done, place := .word (w.reverse ++ seen) } := by
  induction w generalizing seen with
  | nil => rfl
  | cons c w ih =>
    have on := h c List.mem_cons_self
    rw [scan_cons, step]
    simp only [on, Bool.false_eq_true, if_false, Option.bind_some]
    rw [ih fun d hd => h d (List.mem_cons_of_mem _ hd)]
    simp

/-- A bare word is read where something behind it ends it, or nothing is behind it. -/
theorem lexemes?_word {c : Char} {w : List Char} {lexeme : Lexeme}
    (h : ofWord? (c :: w) = some lexeme) (on : ∀ d ∈ c :: w, endsWord d = false)
    {cs : List Char} (ends : ∀ d ∈ cs.head?, endsWord d = true) (done : List Lexeme) :
    lexemes? { done } (c :: w ++ cs) = lexemes? { done := lexeme :: done } cs := by
  have entered : enter done c = { done, place := .word [c] } := by
    have first := on c List.mem_cons_self
    simp only [endsWord, Bool.or_eq_false_iff, Option.isSome_eq_false_iff,
      Option.isNone_iff_eq_none, beq_eq_false_iff_ne, ne_eq] at first
    obtain ⟨⟨space, quote⟩, mark⟩ := first
    simp only [enter, mark, space, quote, Bool.false_eq_true, if_false]
  rw [List.cons_append, lexemes?_cons]
  show lexemes? (enter done c) (w ++ cs) = _
  rw [entered, lexemes?_append, scan_word fun d hd => on d (List.mem_cons_of_mem _ hd)]
  -- The word ends with the text, or at a character that is then read between lexemes.
  cases cs with
  | nil => simp [lexemes?, scan, finish?, h]
  | cons d cs =>
    have stop := ends d rfl
    rw [Option.bind_some, lexemes?_cons, step]
    simp only [stop, if_true]
    rw [List.reverse_append, List.reverse_reverse]
    show ((ofWord? (c :: w)).map _).bind _ = _
    rw [h]
    rfl

/-! ## Texts in quotes -/

theorem hexDigit?_digitChar {k : Nat} (h : k < 16) : hexDigit? (Nat.digitChar k) = some k := by
  have all : ∀ k < 16, hexDigit? (Nat.digitChar k) = some k := by decide
  exact all k h

theorem step_code_succ {c : Char} {digit : Nat} (h : hexDigit? c = some digit)
    (done : List Lexeme) (seen : List Piece) (missing value : Nat) :
    step { done, place := .code seen (missing + 1) value } c =
      some { done, place := .code seen missing (value * 16 + digit) } := by
  show (hexDigit? c).map _ = _
  rw [h]
  rfl

theorem step_code_zero {c : Char} {digit : Nat} (h : hexDigit? c = some digit)
    (done : List Lexeme) (seen : List Piece) (value : Nat) :
    step { done, place := .code seen 0 value } c =
      some { done, place := .quoted (Piece.onto (.ofCode (value * 16 + digit)) seen) } := by
  show (hexDigit? c).map _ = _
  rw [h]
  rfl

theorem scan_code {c : Char} (h : c.toNat < 0x20) (done : List Lexeme) (seen : List Piece) :
    scan { done, place := .code seen 1 0 }
        [Nat.digitChar (c.toNat / 16), Nat.digitChar (c.toNat % 16)] =
      some { done, place := .quoted (.char c :: seen) } := by
  have high : hexDigit? (Nat.digitChar (c.toNat / 16)) = some (c.toNat / 16) :=
    hexDigit?_digitChar (by omega)
  have low : hexDigit? (Nat.digitChar (c.toNat % 16)) = some (c.toNat % 16) :=
    hexDigit?_digitChar (by omega)
  have code : (0 * 16 + c.toNat / 16) * 16 + c.toNat % 16 = c.toNat := by omega
  rw [scan_cons, step_code_succ high, Option.bind_some, scan_cons, step_code_zero low,
    Option.bind_some, code, Piece.ofCode, if_neg (by omega), Char.ofNat_toNat]
  rfl

/-- **What is written for a character gives it back.** -/
theorem scan_escape (c : Char) (done : List Lexeme) (seen : List Piece) :
    scan { done, place := .quoted seen } (Json.escape c) =
      some { done, place := .quoted (.char c :: seen) } := by
  unfold Json.escape
  split
  iterate 7 rfl
  next quote backslash _ _ _ _ _ =>
    split
    · next control => exact scan_code control done seen
    · next control =>
      rw [scan_cons, step]
      simp only [if_neg quote, if_neg backslash, if_neg control]
      rfl

theorem scan_flatMap_escape (cs : List Char) (done : List Lexeme) (seen : List Piece) :
    scan { done, place := .quoted seen } (cs.flatMap Json.escape) =
      some { done, place := .quoted ((cs.map Piece.char).reverse ++ seen) } := by
  induction cs generalizing seen with
  | nil => rfl
  | cons c cs ih =>
    rw [List.flatMap_cons, scan_append, scan_escape, Option.bind_some, ih]
    simp

theorem content?_chars (cs : List Char) :
    Piece.content? (cs.map Piece.char).reverse = some (String.ofList cs) := by
  have all : ∀ tail, (cs.map Piece.char).reverse.foldlM Piece.before tail = some (cs ++ tail) := by
    induction cs with
    | nil => exact fun _ => rfl
    | cons c cs ih =>
      intro tail
      rw [List.map_cons, List.reverse_cons, List.foldlM_append, ih]
      rfl
  rw [Piece.content?, all, List.append_nil, Option.map_some]

theorem step_openQuote (done : List Lexeme) :
    step { done } '"' = some { done, place := .quoted [] } := rfl

theorem step_closeQuote (done : List Lexeme) (seen : List Piece) :
    step { done, place := .quoted seen } '"' =
      some { done := .text (Piece.content? seen) :: done } := rfl

/-- A text in quotes ends by itself, where its second quote stands. -/
theorem scan_quote (content : Option String) (done : List Lexeme) :
    scan { done } (Json.quote content) = some { done := .text content :: done } := by
  cases content with
  | none =>
    have written : Json.quote none = ['"', '\\', 'u', 'd', '8', '0', '0', '"'] := by decide
    rw [written]
    rfl
  | some content =>
    have inside := scan_flatMap_escape content.toList done []
    have closed := step_closeQuote done (content.toList.map Piece.char).reverse
    rw [content?_chars, String.ofList_toList] at closed
    rw [List.append_nil] at inside
    show scan _ ('"' :: (_ ++ ['"'])) = _
    rw [scan_cons, step_openQuote, Option.bind_some, scan_append, inside, Option.bind_some,
      scan_cons, closed, Option.bind_some]
    rfl

/-- **A text in quotes reads back**, whatever is behind it. -/
theorem lexemes?_quote (content : Option String) (done : List Lexeme) (cs : List Char) :
    lexemes? { done } (Json.quote content ++ cs) =
      lexemes? { done := .text content :: done } cs := by
  rw [lexemes?_append, scan_quote, Option.bind_some]

end Scanner

/-! ## Layouts -/

open Lexeme

/-- The text is the lexemes in their written forms, one after the other, with blanks in between. -/
inductive LaidOut : List Lexeme → List Char → Prop
  | nil : LaidOut [] []
  | space {c : Char} {ls : List Lexeme} {cs : List Char} (h : isSpace c = true) :
    LaidOut ls cs → LaidOut ls (c :: cs)
  | punctuation {c : Char} {lexeme : Lexeme} {ls : List Lexeme} {cs : List Char}
    (h : punctuation? c = some lexeme) : LaidOut ls cs → LaidOut (lexeme :: ls) (c :: cs)
  | quoted (content : Option String) {ls : List Lexeme} {cs : List Char} :
    LaidOut ls cs → LaidOut (.text content :: ls) (Json.quote content ++ cs)
  | word {c : Char} {w : List Char} {lexeme : Lexeme} {ls : List Lexeme} {cs : List Char}
    (h : ofWord? (c :: w) = some lexeme) (on : ∀ d ∈ c :: w, Scanner.endsWord d = false)
    (ends : ∀ d ∈ cs.head?, Scanner.endsWord d = true) :
    LaidOut ls cs → LaidOut (lexeme :: ls) (c :: w ++ cs)

/-- **However lexemes are laid out, they are read.** -/
theorem Lexeme.ofText?_of_laidOut {ls : List Lexeme} {cs : List Char} (h : LaidOut ls cs) :
    ofText? cs = some ls := by
  have from_ : ∀ done, Scanner.lexemes? { done } cs = some (done.reverse ++ ls) := by
    induction h with
    | nil => intro done; simp [Scanner.lexemes?, Scanner.scan, Scanner.finish?]
    | space h _ ih => intro done; rw [Scanner.lexemes?_space h, ih]
    | punctuation h _ ih => intro done; rw [Scanner.lexemes?_punctuation h, ih]; simp
    | quoted content _ ih => intro done; rw [Scanner.lexemes?_quote, ih]; simp
    | word h on ends _ ih => intro done; rw [Scanner.lexemes?_word h on ends, ih]; simp
  exact from_ []

end ChatDice
