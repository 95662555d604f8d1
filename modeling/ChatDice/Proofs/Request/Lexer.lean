import ChatDice.Proofs.Request.Grammar
import Mathlib.Computability.RegularExpressions

/-!
# Tokens by the longest match

A lexer is given by rules, each a pattern and what it makes of the text that the pattern matches.
It takes the longest text at the front that any pattern matches. A word is a token if the first
lexeme is no error and leaves nothing.

**Theorem (`longest_match_reads`).** With the rules for tokens, every lexer that takes the
longest match reads a word as the token that the grammar says, or as none.

A text that is matched as a whole is its own longest match, so only what the one rule makes of it
counts. In any other text the lexeme leaves something, or it is an error. The action for dice
expressions looks for the letter `d` and the sign again; the pattern has made sure that it looks in
the right places.
-/

namespace ChatDice.Lexer

open RegularExpression

/-! ## Patterns -/

def oneOf (cs : List Char) : RegularExpression Char := (cs.map char).sum

def many1 (p : RegularExpression Char) : RegularExpression Char := p * p.star

def perhaps (p : RegularExpression Char) : RegularExpression Char := p + 1

def literal (cs : List Char) : RegularExpression Char := (cs.map char).prod

def digit : RegularExpression Char := oneOf "0123456789".toList

def sign : RegularExpression Char := oneOf "+-".toList

/-- A sign and digits. -/
def modifierPattern : RegularExpression Char := sign * many1 digit

/-- Digits on either side of a `d`, the first of which can be left out, and perhaps a modifier. -/
def dicePattern : RegularExpression Char :=
  perhaps (many1 digit) * char 'd' * many1 digit * perhaps modifierPattern

/-! ## Actions -/

/-- The number of 32 bits that digits stand for, with a plus or without. -/
def parseWord? : List Char → Option UInt32
  | '+' :: digits => wordNat? digits
  | digits => wordNat? digits

/-- The number of 64 bits that digits stand for, with a sign or without. -/
def parseInt64? : List Char → Option Int64
  | '+' :: digits => Text.signed? ('+' :: digits)
  | '-' :: digits => Text.signed? ('-' :: digits)
  | digits => Text.signed? ('+' :: digits)

/-- Whether `c` is the sign of a number. -/
def isSign (c : Char) : Bool := c == '+' || c == '-'

/-- The number of dice that a text says: one if it is empty. -/
def countOf? (text : List Char) : Option UInt32 := if text = [] then some 1 else parseWord? text

/-- The modifier that a text is, if there is any. -/
def modifierOf? : List Char → Option (Option Int64)
  | [] => some none
  | c :: rest => (parseInt64? (c :: rest)).map some

/-- The dice expression that a text is, cut at the first `d` and at the first sign behind it. -/
def diceOf? (text : List Char) : Option Spec :=
  match text.dropWhile (· != 'd') with
  | 'd' :: rest => do
    let count ← countOf? (text.takeWhile (· != 'd'))
    let modifier ← modifierOf? (rest.dropWhile (!isSign ·))
    let sides ← parseWord? (rest.takeWhile (!isSign ·))
    let die ← Die.ofSides? sides
    return ⟨count, die, modifier⟩
  | _ => none

/-! ## Rules -/

/-- What a lexer makes of the front of a text. -/
inductive Lexeme
  | token (token : Token)
  | error
deriving DecidableEq

/-- A rule of a lexer. -/
structure Rule where
  /-- The texts that the rule is for. -/
  pattern : RegularExpression Char
  /-- The token that such a text is, if it is one. -/
  action : List Char → Option Token

/-- What a rule makes of a text. -/
def Rule.lex (rule : Rule) (text : List Char) : Lexeme :=
  match rule.action text with
  | some token => .token token
  | none => .error

/-- The rules for tokens. -/
def rules : List Rule :=
  ⟨dicePattern, fun text => (diceOf? text).map .dice⟩ ::
  ⟨modifierPattern, fun text => (parseInt64? text).map .modifier⟩ ::
  Token.keywords.map fun (word, token) => ⟨literal word, fun _ => some token⟩

/-- Some rule is for a text. -/
def Accepted (text : List Char) : Prop := ∃ rule ∈ rules, text ∈ rule.pattern.matches'

/-- What a lexer does that takes the longest match: `next` gives the first lexeme of a text and what
is left of the text. -/
structure LongestMatch (next : List Char → Option (Lexeme × List Char)) : Prop where
  /-- There is nothing in an empty text. -/
  done : next [] = none
  /-- The longest text at the front that a rule is for is taken, and goes to such a rule. -/
  longest : ∀ text rest : List Char, text ≠ [] → Accepted text →
    (∀ longer, longer <+: text ++ rest → Accepted longer → longer.length ≤ text.length) →
    ∃ rule ∈ rules, text ∈ rule.pattern.matches' ∧ next (text ++ rest) = some (rule.lex text, rest)
  error : ∀ text : List Char, text ≠ [] →
    (∀ front, front <+: text → front ≠ [] → ¬Accepted front) →
    ∃ rest, next text = some (.error, rest)

/-- The only lexeme of a word, unless that is an error. -/
def ofWord? (next : List Char → Option (Lexeme × List Char)) (word : List Char) : Option Lexeme :=
  match next word with
  | none => none
  | some (lexeme, rest) => if lexeme = .error ∨ (next rest).isSome then none else some lexeme

/-! ## What the patterns match -/

/-- A non-empty row of digits. -/
def IsRow (cs : List Char) : Prop := cs ≠ [] ∧ ∀ c ∈ cs, c.isDigit = true

/-- A sign and a row of digits. -/
def IsSignedRow (cs : List Char) : Prop :=
  ∃ sign row, cs = sign :: row ∧ (sign = '+' ∨ sign = '-') ∧ IsRow row

variable {cs text : List Char} {p : RegularExpression Char}

theorem mem_oneOf : text ∈ (oneOf cs).matches' ↔ ∃ c ∈ cs, text = [c] := by
  induction cs with
  | nil => simp [oneOf, Language.notMem_zero]
  | cons c cs ih =>
    have parts : oneOf (c :: cs) = char c + oneOf cs := rfl
    have first : text ∈ (char c).matches' ↔ text = [c] := Iff.rfl
    rw [parts, matches'_add, Language.mem_add, ih, first]
    simp

theorem mem_char_mul {c : Char} :
    text ∈ (char c * p).matches' ↔ ∃ rest, text = c :: rest ∧ rest ∈ p.matches' := by
  rw [matches'_mul, Language.mem_mul]
  constructor
  · rintro ⟨_, rfl, rest, hr, rfl⟩
    exact ⟨rest, rfl, hr⟩
  · rintro ⟨rest, rfl, hr⟩
    exact ⟨[c], rfl, rest, hr, rfl⟩

theorem mem_literal : text ∈ (literal cs).matches' ↔ text = cs := by
  induction cs generalizing text with
  | nil => exact Language.mem_one text
  | cons c cs ih =>
    have parts : literal (c :: cs) = char c * literal cs := rfl
    rw [parts, mem_char_mul]
    simp [ih]

theorem mem_perhaps : text ∈ (perhaps p).matches' ↔ text ∈ p.matches' ∨ text = [] := by
  rw [perhaps, matches'_add, Language.mem_add, matches'_epsilon, Language.mem_one]

theorem isDigit_iff {c : Char} : c.isDigit = true ↔ c ∈ "0123456789".toList := by
  constructor
  · intro h
    obtain ⟨lower, upper⟩ := Char.isDigit_iff_toNat.1 h
    have all : ∀ k ≤ 57, 48 ≤ k → Char.ofNat k ∈ "0123456789".toList := by decide
    have this := all c.toNat upper lower
    rwa [Char.ofNat_toNat] at this
  · have all : "0123456789".toList.all Char.isDigit = true := by decide
    exact List.all_eq_true.1 all c

theorem mem_digit : text ∈ digit.matches' ↔ ∃ c, c.isDigit = true ∧ text = [c] := by
  simp only [digit, mem_oneOf, isDigit_iff]

theorem mem_sign : text ∈ sign.matches' ↔ ∃ c, (c = '+' ∨ c = '-') ∧ text = [c] := by
  have signs : "+-".toList = ['+', '-'] := rfl
  simp only [sign, mem_oneOf, signs, List.mem_cons, List.not_mem_nil, or_false]

theorem mem_star_digit : text ∈ digit.star.matches' ↔ ∀ c ∈ text, c.isDigit = true := by
  rw [matches'_star, Language.mem_kstar]
  constructor
  · rintro ⟨parts, rfl, hp⟩ c hc
    obtain ⟨part, mem, hc⟩ := List.mem_flatten.1 hc
    obtain ⟨d, hd, rfl⟩ := mem_digit.1 (hp part mem)
    rwa [List.mem_singleton.1 hc]
  · intro h
    refine ⟨text.map ([·]), ?_, ?_⟩
    · rw [← List.flatMap_def, List.flatMap_singleton']
    · intro part hp
      obtain ⟨c, hc, rfl⟩ := List.mem_map.1 hp
      exact mem_digit.2 ⟨c, h c hc, rfl⟩

theorem mem_many1_digit : text ∈ (many1 digit).matches' ↔ IsRow text := by
  rw [many1, matches'_mul, Language.mem_mul]
  constructor
  · rintro ⟨first, hf, rest, hr, rfl⟩
    obtain ⟨d, hd, rfl⟩ := mem_digit.1 hf
    refine ⟨List.cons_ne_nil _ _, fun c hc => ?_⟩
    rcases List.mem_cons.1 hc with rfl | hc
    · exact hd
    · exact mem_star_digit.1 hr c hc
  · rintro ⟨some, digits⟩
    obtain ⟨d, rest, rfl⟩ := List.exists_cons_of_ne_nil some
    exact ⟨[d], mem_digit.2 ⟨d, digits d List.mem_cons_self, rfl⟩, rest,
      mem_star_digit.2 fun c hc => digits c (List.mem_cons_of_mem d hc), rfl⟩

theorem mem_modifierPattern : text ∈ modifierPattern.matches' ↔ IsSignedRow text := by
  rw [modifierPattern, matches'_mul, Language.mem_mul]
  constructor
  · rintro ⟨first, hf, row, hr, rfl⟩
    obtain ⟨sign, hs, rfl⟩ := mem_sign.1 hf
    exact ⟨sign, row, rfl, hs, mem_many1_digit.1 hr⟩
  · rintro ⟨sign, row, rfl, hs, hr⟩
    exact ⟨[sign], mem_sign.2 ⟨sign, hs, rfl⟩, row, mem_many1_digit.2 hr, rfl⟩

theorem mem_dicePattern : text ∈ dicePattern.matches' ↔
    ∃ count sides modifier, text = count ++ 'd' :: (sides ++ modifier) ∧
      (IsRow count ∨ count = []) ∧ IsRow sides ∧ (IsSignedRow modifier ∨ modifier = []) := by
  simp only [dicePattern, matches'_mul, Language.mem_mul, mem_perhaps, mem_many1_digit,
    mem_modifierPattern]
  constructor
  · rintro ⟨_, ⟨_, ⟨count, hc, _, rfl, rfl⟩, sides, hs, rfl⟩, modifier, hm, rfl⟩
    exact ⟨count, sides, modifier, by simp, hc, hs, hm⟩
  · rintro ⟨count, sides, modifier, rfl, hc, hs, hm⟩
    exact ⟨_, ⟨_, ⟨count, hc, ['d'], rfl, rfl⟩, sides, hs, rfl⟩, modifier, hm, by simp⟩

/-! ## What the actions make of it -/

theorem isRow_of_isNumber {n : Nat} (h : IsNumber cs n) : IsRow cs := ⟨h.ne_nil, h.isDigit⟩

theorem isSignedRow_of_isSigned {n : Int64} (h : IsSigned cs n) : IsSignedRow cs := by
  cases h with
  | plus h => exact ⟨'+', _, rfl, .inl rfl, isRow_of_isNumber h⟩
  | minus h => exact ⟨'-', _, rfl, .inr rfl, isRow_of_isNumber h⟩

theorem isRow_of_isCount {n : UInt32} (h : IsCount cs n) : IsRow cs ∨ cs = [] := by
  cases h with
  | absent => exact .inr rfl
  | digits h => exact .inl (isRow_of_isNumber h)

theorem isSignedRow_of_isModifier {modifier : Option Int64} (h : IsModifier cs modifier) :
    IsSignedRow cs ∨ cs = [] := by
  cases h with
  | absent => exact .inr rfl
  | signed h => exact .inl (isSignedRow_of_isSigned h)

theorem parseWord?_eq (h : ∀ c ∈ cs, c.isDigit = true) : parseWord? cs = wordNat? cs := by
  unfold parseWord?
  split
  · exact absurd (h '+' List.mem_cons_self) (by decide)
  · rfl

theorem countOf?_eq (h : ∀ c ∈ cs, c.isDigit = true) : countOf? cs = Spec.readCount? cs := by
  rw [countOf?, parseWord?_eq h, Spec.readCount?]

theorem parseInt64?_eq (h : IsSignedRow cs) : parseInt64? cs = Text.signed? cs := by
  obtain ⟨sign, row, rfl, rfl | rfl, -⟩ := h <;> rfl

theorem modifierOf?_eq (h : IsSignedRow cs ∨ cs = []) : modifierOf? cs = Spec.readModifier? cs := by
  rcases h with h | rfl
  · have number := parseInt64?_eq h
    obtain ⟨sign, row, rfl, -⟩ := h
    exact congrArg (Option.map some) number
  · rfl

theorem head_sign {c : Char} (h : IsSignedRow cs ∨ cs = []) (hc : c ∈ cs.head?) :
    isSign c = true := by
  rcases h with ⟨sign, row, rfl, hs, -⟩ | rfl
  · cases hc
    rcases hs with rfl | rfl <;> rfl
  · cases hc

theorem isSign_of_isDigit {c : Char} (h : c.isDigit = true) : isSign c = false := by
  cases hs : isSign c with
  | false => rfl
  | true =>
    rw [isSign, Bool.or_eq_true, beq_iff_eq, beq_iff_eq] at hs
    rcases hs with rfl | rfl <;> cases h

theorem isDigit_of_isSign {c : Char} (h : isSign c = true) : c.isDigit = false := by
  cases hd : c.isDigit with
  | false => rfl
  | true =>
    rw [isSign_of_isDigit hd] at h
    cases h

/-- A text with the shape of a dice expression is cut where its parts meet. -/
theorem diceOf?_parts {count sides modifier : List Char} (hc : ∀ c ∈ count, c.isDigit = true)
    (hs : ∀ c ∈ sides, c.isDigit = true) (hm : ∀ c ∈ modifier.head?, isSign c = true) :
    diceOf? (count ++ 'd' :: (sides ++ modifier)) = do
      let count ← countOf? count
      let modifier ← modifierOf? modifier
      let sides ← parseWord? sides
      let die ← Die.ofSides? sides
      return ⟨count, die, modifier⟩ := by
  have noLetter : ∀ c ∈ count, (c != 'd') = true := by
    intro c h
    rw [bne_iff_ne]
    rintro rfl
    cases hc 'd' h
  have letter : ∀ c ∈ ('d' :: (sides ++ modifier)).head?, (c != 'd') = false := by
    rintro _ ⟨⟩
    rfl
  have noSign : ∀ c ∈ sides, (!isSign c) = true := by
    intro c h
    rw [isSign_of_isDigit (hs c h)]
    rfl
  have sign : ∀ c ∈ modifier.head?, (!isSign c) = false := by
    intro c h
    rw [hm c h]
    rfl
  -- The first `d` ends the count, and the first sign ends the sides.
  obtain ⟨front, behind⟩ := Text.takeWhile_front noLetter letter
  obtain ⟨row, back⟩ := Text.takeWhile_front noSign sign
  unfold diceOf?
  rw [front, behind]
  simp only [row, back]

theorem diceOf?_eq_read? (h : text ∈ dicePattern.matches') : diceOf? text = Spec.read? text := by
  obtain ⟨count, sides, modifier, rfl, hc, ⟨some, hs⟩, hm⟩ := mem_dicePattern.1 h
  have digits : ∀ c ∈ count, c.isDigit = true := by
    rcases hc with hc | rfl
    · exact hc.2
    · exact nofun
  rw [diceOf?_parts digits hs fun c => head_sign hm,
    Spec.read?_parts digits hs fun c hc => isDigit_of_isSign (head_sign hm hc),
    countOf?_eq digits, parseWord?_eq hs, modifierOf?_eq hm]
  -- The numbers are read in another order, which does not matter as nothing else happens.
  cases Spec.readModifier? modifier with
  | some => rfl
  | none =>
    cases Spec.readCount? count with
    | none => rfl
    | some =>
      cases wordNat? sides with
      | none => rfl
      | some sides => cases hd : Die.ofSides? sides <;> simp [hd]

/-! ## What the rules are for -/

theorem accepted_iff : Accepted text ↔
    text ∈ dicePattern.matches' ∨ text ∈ modifierPattern.matches' ∨
      ∃ entry ∈ Token.keywords, text = entry.1 := by
  simp [Accepted, rules, mem_literal]

theorem Accepted.ne_nil (h : Accepted text) : text ≠ [] := by
  rcases accepted_iff.1 h with h | h | ⟨entry, he, rfl⟩
  · obtain ⟨count, sides, modifier, rfl, -⟩ := mem_dicePattern.1 h
    simp
  · obtain ⟨sign, row, rfl, -⟩ := mem_modifierPattern.1 h
    exact List.cons_ne_nil _ _
  · have all : ∀ entry ∈ Token.keywords, entry.1 ≠ [] := by decide
    exact all entry he

theorem accepted_of_reads {token : Token} (h : Token.Reads text token) : Accepted text := by
  rw [accepted_iff]
  cases h with
  | dice hc hs hm =>
    exact .inl (mem_dicePattern.2 ⟨_, _, _, rfl, isRow_of_isCount hc, isRow_of_isNumber hs,
      isSignedRow_of_isModifier hm⟩)
  | modifier h => exact .inr (.inl (mem_modifierPattern.2 (isSignedRow_of_isSigned h)))
  | cursed | adv | advantage | dis | disadvantage | help | man =>
    exact .inr (.inr (by decide))

theorem read?_of_dicePattern (h : text ∈ dicePattern.matches') :
    Token.read? text = (Spec.read? text).map .dice := by
  obtain ⟨count, sides, modifier, rfl, hc, ⟨some, hs⟩, -⟩ := mem_dicePattern.1 h
  obtain ⟨d, row, rfl⟩ := List.exists_cons_of_ne_nil some
  have noKeyword : Token.keywords.lookup (count ++ 'd' :: (d :: row ++ modifier)) = none :=
    Token.lookup_keywords_of_digit (c := d) (by simp) (hs d List.mem_cons_self)
  -- It starts with a digit or with the `d`, not with a sign.
  have noModifier : Text.signed? (count ++ 'd' :: (d :: row ++ modifier)) = none := by
    rcases hc with ⟨-, hc⟩ | rfl
    · cases count with
      | nil => rfl
      | cons c count =>
        have noSign := isSign_of_isDigit (hc c List.mem_cons_self)
        rw [isSign, Bool.or_eq_false_iff, beq_eq_false_iff_ne, beq_eq_false_iff_ne] at noSign
        exact Text.signed?_of_ne noSign.1 noSign.2
    · rfl
  rw [Token.read?, noKeyword, noModifier]
  cases Spec.read? _ <;> rfl

theorem read?_of_modifierPattern (h : text ∈ modifierPattern.matches') :
    Token.read? text = (Text.signed? text).map .modifier := by
  obtain ⟨sign, row, rfl, hs, -⟩ := mem_modifierPattern.1 h
  exact Token.read?_sign hs row

/-- **What a rule makes of a text** that it is for is what the text reads as. -/
theorem Rule.action_eq_read? {rule : Rule} (hr : rule ∈ rules) (h : text ∈ rule.pattern.matches') :
    rule.action text = Token.read? text := by
  rw [rules, List.mem_cons, List.mem_cons, List.mem_map] at hr
  rcases hr with rfl | rfl | ⟨entry, he, rfl⟩
  · rw [read?_of_dicePattern h, ← diceOf?_eq_read? h]
  · rw [read?_of_modifierPattern h, ← parseInt64?_eq (mem_modifierPattern.1 h)]
  · obtain rfl := mem_literal.1 h
    exact (Token.read?_eq_some_iff.2 (Token.reads_of_mem_keywords entry he)).symm

/-! ## The longest match -/

instance : DecidablePred Accepted := fun text =>
  decidable_of_iff (∃ rule ∈ rules, rule.pattern.rmatch text = true) (by
    simp only [rmatch_iff_matches', Accepted])

/-- The length of the longest text at the front that a rule is for. -/
def longestLength (text : List Char) : Nat :=
  Nat.findGreatest (fun n => Accepted (text.take n)) text.length

/-- The lexer that tries the texts at the front from the longest on. -/
def longest : List Char → Option (Lexeme × List Char)
  | [] => none
  | c :: rest =>
    let n := longestLength (c :: rest)
    match rules.find? fun rule => rule.pattern.rmatch ((c :: rest).take n) with
    | some rule => some (rule.lex ((c :: rest).take n), (c :: rest).drop n)
    | none => some (.error, rest)

theorem length_le_longestLength {front : List Char} (h : front <+: text) (ha : Accepted front) :
    front.length ≤ longestLength text := by
  refine Nat.le_findGreatest h.length_le ?_
  rwa [← List.prefix_iff_eq_take.1 h]

/-- At the front of a text there is a longest text that a rule is for, or none at all. -/
theorem exists_longest (text : List Char) :
    (∀ front, front <+: text → ¬Accepted front) ∨
    ∃ front rest, text = front ++ rest ∧ Accepted front ∧
      ∀ longer, longer <+: text → Accepted longer → longer.length ≤ front.length := by
  by_cases hn : longestLength text = 0
  · refine .inl fun front hf ha => ha.ne_nil ?_
    have le := length_le_longestLength hf ha
    rw [hn] at le
    exact List.length_eq_zero_iff.1 (Nat.le_zero.1 le)
  · have le : longestLength text ≤ text.length := Nat.findGreatest_le _
    refine .inr ⟨text.take (longestLength text), text.drop (longestLength text),
      (List.take_append_drop _ _).symm, Nat.findGreatest_of_ne_zero rfl hn, ?_⟩
    intro longer hl ha
    rw [List.length_take_of_le le]
    exact length_le_longestLength hl ha

theorem exists_rule (h : Accepted text) : ∃ rule ∈ rules, text ∈ rule.pattern.matches' ∧
    rules.find? (fun rule => rule.pattern.rmatch text) = some rule := by
  have found : (rules.find? fun rule => rule.pattern.rmatch text).isSome := by
    rw [List.find?_isSome]
    obtain ⟨rule, hr, hm⟩ := h
    exact ⟨rule, hr, (rmatch_iff_matches' _ _).2 hm⟩
  obtain ⟨rule, hf⟩ := Option.isSome_iff_exists.1 found
  have matched : rule.pattern.rmatch text = true :=
    List.find?_some (p := fun rule : Rule => rule.pattern.rmatch text) hf
  exact ⟨rule, List.mem_of_find?_eq_some hf, (rmatch_iff_matches' _ _).1 matched, hf⟩

/-- There is a lexer that takes the longest match. -/
theorem longestMatch_longest : LongestMatch longest where
  done := rfl
  longest text rest some ha greatest := by
    have le : longestLength (text ++ rest) ≤ (text ++ rest).length := Nat.findGreatest_le _
    have length : longestLength (text ++ rest) = text.length := by
      -- The longest front that is accepted is one of those than which this one is no shorter.
      refine Nat.le_antisymm ?_ (length_le_longestLength (List.prefix_append _ _) ha)
      by_cases hn : longestLength (text ++ rest) = 0
      · omega
      · rw [← List.length_take_of_le le]
        exact greatest _ (List.take_prefix _ _) (Nat.findGreatest_of_ne_zero rfl hn)
    obtain ⟨c, cs, hc⟩ := List.exists_cons_of_ne_nil (List.append_ne_nil_of_left_ne_nil some rest)
    obtain ⟨rule, hr, hm, found⟩ := exists_rule ha
    refine ⟨rule, hr, hm, ?_⟩
    rw [hc, longest, ← hc]
    simp only [length, List.take_left, List.drop_left, found]
  error text some none := by
    obtain ⟨c, cs, rfl⟩ := List.exists_cons_of_ne_nil some
    refine ⟨cs, ?_⟩
    have noRule : rules.find? (fun rule =>
        rule.pattern.rmatch ((c :: cs).take (longestLength (c :: cs)))) = Option.none := by
      rw [List.find?_eq_none]
      intro rule hr hm
      have accepted : Accepted ((c :: cs).take (longestLength (c :: cs))) :=
        ⟨rule, hr, (rmatch_iff_matches' _ _).1 hm⟩
      exact none _ (List.take_prefix _ _) accepted.ne_nil accepted
    rw [longest]
    simp only [noRule]

/-! ## Words -/

section

variable {next : List Char → Option (Lexeme × List Char)}

theorem LongestMatch.exists_next (h : LongestMatch next) (some : text ≠ []) :
    ∃ lexeme rest, next text = Option.some (lexeme, rest) := by
  rcases exists_longest text with none | ⟨front, rest, rfl, ha, greatest⟩
  · obtain ⟨rest, hn⟩ := h.error _ some fun front hf _ => none front hf
    exact ⟨_, rest, hn⟩
  · obtain ⟨rule, -, -, hn⟩ := h.longest _ _ ha.ne_nil ha greatest
    exact ⟨_, rest, hn⟩

/-- **A text that a rule is for** is the token that it reads as, if it is one. -/
theorem LongestMatch.ofWord?_of_accepted (h : LongestMatch next) (ha : Accepted text) :
    ofWord? next text = (Token.read? text).map .token := by
  obtain ⟨rule, hr, hm, hn⟩ := h.longest text [] ha.ne_nil ha fun longer hl _ => by
    rw [List.append_nil] at hl
    exact hl.length_le
  rw [List.append_nil] at hn
  rw [ofWord?, hn, Rule.lex, rule.action_eq_read? hr hm]
  cases Token.read? text with
  | none => simp
  | some token => simp [h.done]

/-- **Any other text** is no token. -/
theorem LongestMatch.ofWord?_of_not_accepted (h : LongestMatch next) (ha : ¬Accepted text) :
    ofWord? next text = none := by
  by_cases some : text = []
  · rw [some, ofWord?, h.done]
  rcases exists_longest text with none | ⟨front, rest, rfl, hf, greatest⟩
  · obtain ⟨rest, hn⟩ := h.error _ some fun front hf _ => none front hf
    simp [ofWord?, hn]
  · obtain ⟨rule, -, -, hn⟩ := h.longest _ _ hf.ne_nil hf greatest
    have left : rest ≠ [] := by
      rintro rfl
      rw [List.append_nil] at ha
      exact ha hf
    obtain ⟨lexeme, rest', hl⟩ := h.exists_next left
    simp [ofWord?, hn, hl]

theorem LongestMatch.ofWord?_eq (h : LongestMatch next) (word : List Char) :
    ofWord? next word = (Token.read? word).map .token := by
  by_cases ha : Accepted word
  · exact h.ofWord?_of_accepted ha
  · have noToken : Token.read? word = none := by
      cases hr : Token.read? word with
      | none => rfl
      | some token => exact absurd (accepted_of_reads (Token.read?_eq_some_iff.1 hr)) ha
    rw [h.ofWord?_of_not_accepted ha, noToken]
    rfl

end

/-- **The longest match reads the grammar of tokens.** -/
theorem longest_match_reads {next : List Char → Option (Lexeme × List Char)}
    (h : LongestMatch next) (word : List Char) :
    (∀ token, ofWord? next word = some (.token token) ↔ Token.Reads word token) ∧
    (ofWord? next word = none ↔ ∀ token, ¬Token.Reads word token) ∧
    ofWord? next word ≠ some .error ∧
    ofWord? next word = (Token.read? word).map .token ∧
    ∀ front digit back zeros, word = front ++ digit :: back → digit.isDigit = true →
      Opens front →
      ofWord? next (front ++ (List.replicate zeros '0' ++ digit :: back)) = ofWord? next word := by
  have eq := h.ofWord?_eq
  refine ⟨fun token => ?_, ?_, ?_, eq word, ?_⟩
  · rw [eq, ← Token.read?_eq_some_iff, Option.map_eq_some_iff]
    simp
  · rw [eq, Option.map_eq_none_iff, Option.eq_none_iff_forall_not_mem]
    exact forall_congr' fun token => not_congr Token.read?_eq_some_iff
  · rw [eq]
    simp
  · rintro front digit back zeros rfl hd ho
    rw [eq, eq, Token.read?_zeros ho hd]

/-- A dice expression is read, and zeros in its count or its modifier do not count. -/
theorem longest_match_reads_zeros : LongestMatch longest ∧
    ofWord? longest "7d20-3".toList = some (.token (.dice ⟨7, ⟨20, by decide⟩, some (-3)⟩)) ∧
    ofWord? longest "007d20-3".toList = ofWord? longest "7d20-3".toList ∧
    ofWord? longest "7d20-0003".toList = ofWord? longest "7d20-3".toList := by
  obtain ⟨-, -, -, read, zeros⟩ := longest_match_reads longestMatch_longest "7d20-3".toList
  have value : Token.read? "7d20-3".toList = some (.dice ⟨7, ⟨20, by decide⟩, some (-3)⟩) := by
    decide +kernel
  refine ⟨longestMatch_longest, ?_, zeros [] '7' "d20-3".toList 2 rfl rfl nofun,
    zeros "7d20-".toList '3' [] 3 rfl rfl ?_⟩
  · rw [read, value]
    rfl
  · rintro _ ⟨⟩
    rfl

end ChatDice.Lexer
