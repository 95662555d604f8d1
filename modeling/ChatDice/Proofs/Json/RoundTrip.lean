import ChatDice.Json.Reader
import ChatDice.Proofs.Json.Lexemes

/-!
# Written values read back

**Theorem (`Json.parse?_toCompact`, `Json.parse?_toPretty`).** A value whose numbers are written as
numbers may be reads back from both of its written forms.

Both forms spell the same row of lexemes (`Json.lexemes`). From this row the reader gets the value,
whatever is open around it (`Json.read_lexemes`). All three proofs go by recursion on the value, its
items and its members together.
-/

namespace ChatDice

open Lexeme

/-! ## Spellings -/

/-- Behind nothing but blanks, `w` is a layout of the lexemes, as long as what follows ends a word.
-/
def Spells (ls : List Lexeme) (w : List Char) : Prop :=
  ∀ (ms : List Lexeme) (cs : List Char), LaidOut ms cs →
    (∀ d ∈ cs.head?, Scanner.endsWord d = true) → LaidOut (ls ++ ms) (w ++ cs)

namespace Spells

theorem nil : Spells [] [] := fun _ _ rest _ => rest

theorem mark {c : Char} {lexeme : Lexeme} {ls : List Lexeme} {w : List Char}
    (h : punctuation? c = some lexeme) (tail : Spells ls w) : Spells (lexeme :: ls) (c :: w) :=
  fun ms cs rest ends => .punctuation h (tail ms cs rest ends)

theorem space {c : Char} {ls : List Lexeme} {w : List Char} (h : isSpace c = true)
    (tail : Spells ls w) : Spells ls (c :: w) :=
  fun ms cs rest ends => .space h (tail ms cs rest ends)

theorem newline (level : Nat) {ls : List Lexeme} {w : List Char} (tail : Spells ls w) :
    Spells ls (Json.newline level ++ w) := by
  have blanks : ∀ n, Spells ls (List.replicate n ' ' ++ w) := by
    intro n
    induction n with
    | zero => exact tail
    | succ n ih => exact space (by decide) ih
  exact space (by decide) (blanks _)

theorem quote (content : Option String) : Spells [.text content] (Json.quote content) :=
  fun _ _ rest _ => .quoted content rest

theorem append {ls ms : List Lexeme} {w u : List Char} (first : Spells ls w) (next : Spells ms u)
    (ends : ∀ d ∈ u.head?, Scanner.endsWord d = true) : Spells (ls ++ ms) (w ++ u) := by
  intro ks cs rest last
  rw [List.append_assoc, List.append_assoc]
  refine first _ _ (next ks cs rest last) fun d hd => ?_
  cases u with
  | nil => exact last d hd
  | cons c u => exact ends d hd

theorem append_mark {c : Char} {lexeme : Lexeme} {ls ms : List Lexeme} {w u : List Char}
    (first : Spells ls w) (h : punctuation? c = some lexeme) (next : Spells ms u) :
    Spells (ls ++ lexeme :: ms) (w ++ c :: u) := by
  refine first.append (next.mark h) ?_
  rintro _ ⟨⟩
  simp [Scanner.endsWord, h]

theorem append_newline {ls : List Lexeme} {w : List Char} (first : Spells ls w) (level : Nat) :
    Spells ls (w ++ Json.newline level) := by
  have last : Spells [] (Json.newline level ++ []) := newline level nil
  rw [List.append_nil] at last
  rw [← List.append_nil ls]
  refine first.append last ?_
  rintro _ ⟨⟩
  rfl

theorem member (key : Option String) {ls : List Lexeme} {w : List Char} (value : Spells ls w) :
    Spells (.text key :: .colon :: ls) (Json.quote key ++ ':' :: w) :=
  append_mark (quote key) rfl value

end Spells

/-! ## Numbers as words -/

namespace Numeral

/-- The characters of which numbers are written. -/
def isMark (c : Char) : Bool := c.isDigit || c == '-' || c == '.' || c == 'e'

theorem endsWord_of_isMark {c : Char} (h : isMark c = true) : Scanner.endsWord c = false := by
  simp only [isMark, Bool.or_eq_true, beq_iff_eq] at h
  obtain ((digit | rfl) | rfl) | rfl := h
  · exact Scanner.endsWord_of_isDigit digit
  all_goals rfl

theorem isMark_exponentText (n : Numeral) : ∀ c ∈ n.exponentText, isMark c = true := by
  unfold exponentText
  cases n.exponent with
  | none => exact nofun
  | some e =>
    intro c hc
    obtain rfl | sign | digit : c = 'e' ∨ c ∈ (if e < 0 then ['-'] else []) ∨
        c ∈ Nat.toDigits 10 e.natAbs := by
      simpa only [List.mem_cons, List.mem_append] using hc
    · rfl
    · split at sign
      · obtain rfl := List.mem_singleton.mp sign
        rfl
      · cases sign
    · simp [isMark, Nat.isDigit_of_mem_toDigits (by decide) (by decide) digit]

namespace WellFormed

variable {n : Numeral} (h : n.WellFormed)

include h

theorem isMark_fractionText : ∀ c ∈ n.fractionText, isMark c = true := by
  have fraction := h.fraction
  unfold fractionText
  cases hf : n.fraction with
  | none => exact nofun
  | some digits =>
    intro c hc
    obtain rfl | digit := List.mem_cons.mp hc
    · rfl
    · simp [isMark, (fraction digits hf).2 c digit]

theorem isMark_text : ∀ c ∈ n.text, isMark c = true := by
  intro c hc
  rw [text_eq] at hc
  obtain sign | whole | fraction | exponent : c ∈ (if n.negative then ['-'] else []) ∨
      c ∈ n.whole ∨ c ∈ n.fractionText ∨ c ∈ n.exponentText := by
    simpa only [List.mem_append] using hc
  · split at sign
    · obtain rfl := List.mem_singleton.mp sign
      rfl
    · cases sign
  · simp [isMark, h.whole c whole]
  · exact h.isMark_fractionText c fraction
  · exact n.isMark_exponentText c exponent

/-- A number is none of the other words, for these have a letter that no number has. -/
theorem ofWord?_text : ofWord? n.text = some (.number n) := by
  have others : ∀ word : List Char, (∃ c ∈ word, isMark c = false) → n.text ≠ word := by
    rintro _ ⟨c, hc, mark⟩ rfl
    rw [h.isMark_text c hc] at mark
    cases mark
  rw [ofWord?, if_neg (others _ ⟨'n', by decide, rfl⟩), if_neg (others _ ⟨'t', by decide, rfl⟩),
    if_neg (others _ ⟨'f', by decide, rfl⟩), h.read?_text]
  rfl

end WellFormed

end Numeral

theorem Spells.word {w : List Char} {lexeme : Lexeme} (h : ofWord? w = some lexeme)
    (on : ∀ d ∈ w, Scanner.endsWord d = false) : Spells [lexeme] w := by
  intro ms cs rest ends
  cases w with
  | nil => cases h
  | cons c w => exact .word h on ends rest

theorem Spells.number {n : Numeral} (h : n.WellFormed) : Spells [.number n] n.text :=
  word h.ofWord?_text fun c hc => Numeral.endsWord_of_isMark (h.isMark_text c hc)

namespace Json

/-! ## The lexemes of a value -/

mutual

def lexemes : Json → List Lexeme
  | null => [.null]
  | bool b => [.bool b]
  | number n => [.number n]
  | text content => [.text content]
  | array items => .beginArray :: (lexemesOfItems items ++ [.endArray])
  | object members => .beginObject :: (lexemesOfMembers members ++ [.endObject])

/-- The lexemes of the items, with commas between them. -/
def lexemesOfItems : List Json → List Lexeme
  | [] => []
  | [item] => item.lexemes
  | item :: rest => item.lexemes ++ .comma :: lexemesOfItems rest

/-- The lexemes of the members, with commas between them. -/
def lexemesOfMembers : List (Option String × Json) → List Lexeme
  | [] => []
  | [(key, value)] => .text key :: .colon :: value.lexemes
  | (key, value) :: rest =>
    .text key :: .colon :: (value.lexemes ++ .comma :: lexemesOfMembers rest)

end

theorem lexemesOfItems_cons_cons (item next : Json) (rest : List Json) :
    lexemesOfItems (item :: next :: rest) =
      item.lexemes ++ .comma :: lexemesOfItems (next :: rest) := rfl

theorem lexemesOfMembers_cons_cons (key : Option String) (value : Json)
    (next : Option String × Json) (rest : List (Option String × Json)) :
    lexemesOfMembers ((key, value) :: next :: rest) =
      .text key :: .colon :: (value.lexemes ++ .comma :: lexemesOfMembers (next :: rest)) := rfl

mutual

/-- Every number in the value is written as numbers may be. -/
def IsWritable : Json → Prop
  | number n => n.WellFormed
  | array items => ItemsAreWritable items
  | object members => MembersAreWritable members
  | _ => True

def ItemsAreWritable : List Json → Prop
  | [] => True
  | item :: rest => item.IsWritable ∧ ItemsAreWritable rest

def MembersAreWritable : List (Option String × Json) → Prop
  | [] => True
  | (_, value) :: rest => value.IsWritable ∧ MembersAreWritable rest

end

/-! ## Both written forms spell the lexemes -/

theorem spells_true : Spells [.bool true] "true".toList :=
  .word rfl (Scanner.endsWord_of_all (by decide))

theorem spells_false : Spells [.bool false] "false".toList :=
  .word rfl (Scanner.endsWord_of_all (by decide))

theorem spells_null : Spells [.null] "null".toList :=
  .word rfl (Scanner.endsWord_of_all (by decide))

mutual

theorem spells_compact : ∀ v : Json, v.IsWritable → Spells v.lexemes v.compact
  | null, _ => spells_null
  | bool true, _ => spells_true
  | bool false, _ => spells_false
  | number _, h => .number h
  | text content, _ => .quote content
  | array items, h => by
    have inside := spells_compactItems items h
    exact (inside.mark rfl).append_mark rfl .nil
  | object members, h => by
    have inside := spells_compactMembers members h
    exact (inside.mark rfl).append_mark rfl .nil

theorem spells_compactItems : ∀ items : List Json, ItemsAreWritable items →
    Spells (lexemesOfItems items) (compactItems items)
  | [], _ => .nil
  | [item], h => spells_compact item h.1
  | item :: next :: rest, h =>
    (spells_compact item h.1).append_mark rfl (spells_compactItems (next :: rest) h.2)

theorem spells_compactMembers : ∀ members : List (Option String × Json),
    MembersAreWritable members → Spells (lexemesOfMembers members) (compactMembers members)
  | [], _ => .nil
  | [(key, value)], h => .member key (spells_compact value h.1)
  | (key, value) :: next :: rest, h =>
    (Spells.member key (spells_compact value h.1)).append_mark rfl
      (spells_compactMembers (next :: rest) h.2)

end

mutual

theorem spells_pretty (level : Nat) : ∀ v : Json, v.IsWritable →
    Spells v.lexemes (v.pretty level)
  | null, _ => spells_null
  | bool true, _ => spells_true
  | bool false, _ => spells_false
  | number _, h => .number h
  | text content, _ => .quote content
  | array [], _ => .mark rfl (.mark rfl .nil)
  | object [], _ => .mark rfl (.mark rfl .nil)
  | array (item :: rest), h => by
    have inside := spells_prettyItems (level + 1) (item :: rest) h
    exact (inside.mark rfl).append_newline level |>.append_mark rfl .nil
  | object (member :: rest), h => by
    have inside := spells_prettyMembers (level + 1) (member :: rest) h
    exact (inside.mark rfl).append_newline level |>.append_mark rfl .nil

theorem spells_prettyItems (level : Nat) : ∀ items : List Json, ItemsAreWritable items →
    Spells (lexemesOfItems items) (prettyItems level items)
  | [], _ => .nil
  | [item], h => .newline level (spells_pretty level item h.1)
  | item :: next :: rest, h =>
    ((spells_pretty level item h.1).newline level).append_mark rfl
      (spells_prettyItems level (next :: rest) h.2)

theorem spells_prettyMembers (level : Nat) : ∀ members : List (Option String × Json),
    MembersAreWritable members → Spells (lexemesOfMembers members) (prettyMembers level members)
  | [], _ => .nil
  | [(key, value)], h =>
    ((Spells.quote key).newline level).append_mark rfl ((spells_pretty level value h.1).space rfl)
  | (key, value) :: next :: rest, h =>
    (((Spells.quote key).newline level).append_mark rfl
      ((spells_pretty level value h.1).space rfl)).append_mark rfl
      (spells_prettyMembers level (next :: rest) h.2)

end

/-! ## The reader gets the value -/

end Json

namespace Reader

/-- Items are read where the first one may stand as they are read where one must. -/
theorem read_firstItem (frames : List Frame) (item : Json) (rest : List Json) (ls : List Lexeme) :
    (firstItem frames).read (Json.lexemesOfItems (item :: rest) ++ ls) =
      (value (.array [] :: frames)).read (Json.lexemesOfItems (item :: rest) ++ ls) := by
  -- Of all lexemes only the end of an array makes a difference, and no value starts with that.
  have first : ∀ ls, (firstItem frames).read (item.lexemes ++ ls) =
      (value (.array [] :: frames)).read (item.lexemes ++ ls) := by
    intro ls
    cases item <;> rw [Json.lexemes] <;> rfl
  cases rest with
  | nil => exact first ls
  | cons next rest =>
    rw [Json.lexemesOfItems_cons_cons, List.append_assoc]
    exact first _

theorem read_firstKey (frames : List Frame) (member : Option String × Json)
    (rest : List (Option String × Json)) (ls : List Lexeme) :
    (firstKey frames).read (Json.lexemesOfMembers (member :: rest) ++ ls) =
      (key [] frames).read (Json.lexemesOfMembers (member :: rest) ++ ls) := by
  cases rest <;> rfl

mutual

/-- **The reader gets a value from its lexemes**, whatever is open around it. -/
theorem read_lexemes : ∀ (v : Json) (frames : List Frame) (ls : List Lexeme),
    (value frames).read (v.lexemes ++ ls) = (after v frames).read ls
  | .null, _, _ => rfl
  | .bool _, _, _ => rfl
  | .number _, _, _ => rfl
  | .text _, _, _ => rfl
  | .array [], _, _ => rfl
  | .object [], _, _ => rfl
  | .array (item :: rest), frames, ls => by
    have items := read_lexemesOfItems (item :: rest) (by simp) [] frames ls
    rw [← read_firstItem] at items
    rw [Json.lexemes, List.cons_append, List.append_assoc]
    exact items
  | .object (member :: rest), frames, ls => by
    have members := read_lexemesOfMembers (member :: rest) (by simp) [] frames ls
    rw [← read_firstKey] at members
    rw [Json.lexemes, List.cons_append, List.append_assoc]
    exact members

/-- From the first item that is missing on, the reader gets all items of an array. -/
theorem read_lexemesOfItems : ∀ (items : List Json) (_ : items ≠ []) (seen : List Json)
    (frames : List Frame) (ls : List Lexeme),
    (value (.array seen :: frames)).read (Json.lexemesOfItems items ++ .endArray :: ls) =
      (after (.array (seen.reverse ++ items)) frames).read ls
  | [], h, _, _, _ => absurd rfl h
  | [item], _, seen, frames, ls => by
    rw [Json.lexemesOfItems, read_lexemes item]
    show (after (.array (item :: seen).reverse) frames).read ls = _
    rw [List.reverse_cons]
  | item :: next :: rest, _, seen, frames, ls => by
    have others := read_lexemesOfItems (next :: rest) (by simp) (item :: seen) frames ls
    rw [List.reverse_cons, List.append_assoc] at others
    rw [Json.lexemesOfItems_cons_cons, List.append_assoc, read_lexemes item]
    exact others

/-- From the first key that is missing on, the reader gets all members of an object. -/
theorem read_lexemesOfMembers : ∀ (members : List (Option String × Json)) (_ : members ≠ [])
    (seen : List (Option String × Json)) (frames : List Frame) (ls : List Lexeme),
    (key seen frames).read (Json.lexemesOfMembers members ++ .endObject :: ls) =
      (after (.object (seen.reverse ++ members)) frames).read ls
  | [], h, _, _, _ => absurd rfl h
  | [(k, v)], _, seen, frames, ls => by
    have first := read_lexemes v (.object seen k :: frames) (.endObject :: ls)
    rw [← List.reverse_cons]
    exact first
  | (k, v) :: next :: rest, _, seen, frames, ls => by
    have first := read_lexemes v (.object seen k :: frames)
      (.comma :: (Json.lexemesOfMembers (next :: rest) ++ .endObject :: ls))
    have others := read_lexemesOfMembers (next :: rest) (by simp) ((k, v) :: seen) frames ls
    rw [List.reverse_cons, List.append_assoc] at others
    rw [Json.lexemesOfMembers_cons_cons, List.cons_append, List.cons_append, List.append_assoc]
    exact first.trans others

end

end Reader

namespace Json

/-! ## Both written forms read back -/

/-- Whatever spells the lexemes of a value is read as the value. -/
theorem parse?_of_spells {v : Json} {text : String} (h : Spells v.lexemes text.toList) :
    parse? text = some v := by
  have layout := h [] [] .nil nofun
  rw [List.append_nil, List.append_nil] at layout
  have value := Reader.read_lexemes v [] []
  rw [List.append_nil] at value
  rw [parse?, Lexeme.ofText?_of_laidOut layout, Option.bind_some, ofLexemes?, value]
  rfl

/-- **A value reads back** from its written form on one line. -/
theorem parse?_toCompact {v : Json} (h : v.IsWritable) : parse? v.toCompact = some v := by
  refine parse?_of_spells ?_
  rw [toCompact, String.toList_ofList]
  exact spells_compact v h

/-- **A value reads back** from its written form over several lines. -/
theorem parse?_toPretty {v : Json} (h : v.IsWritable) : parse? v.toPretty = some v := by
  refine parse?_of_spells ?_
  rw [toPretty, String.toList_ofList]
  exact spells_pretty 0 v h

end Json

end ChatDice
