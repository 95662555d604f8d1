import ChatDice.Proofs.Request.Spelling

/-!
# Written requests

A request can be written as its tokens, each in one of its spellings, and its title clause. The
order does not matter, except that the dice expressions stay in theirs, and the pieces may have any
number of spaces between them.

**Theorem (`classify_arranged`).** However a request is written, it is read back, as long as its
modifier is a number and its title can stand in a clause.

The proof is an induction over the pieces (`Spaced.title_and_words`): words have no `f` in them, so
the first clause of the text is the one that was written, and with a space in its place the words
that are left are those of the pieces. The request that they add up to depends on their order in the
dice expressions alone (`foldl_addToken`).
-/

namespace ChatDice

open Text

/-! ## Titles that can be written -/

/-- A title that can stand in a clause and has no blanks at its ends. -/
structure Titular (text : String) : Prop where
  ne_empty : text ≠ ""
  first : text.toList.head?.any isBlank = false
  last : text.toList.getLast?.any isBlank = false
  noQuote : '"' ∉ text.toList
  noColon : ':' ∉ text.toList

theorem Text.trim_eq_self {cs : List Char} (first : cs.head?.any isBlank = false)
    (last : cs.getLast?.any isBlank = false) : trim cs = cs := by
  have keep : ∀ ds : List Char, ds.head?.any isBlank = false → ds.dropWhile isBlank = ds := by
    intro ds h
    cases ds with
    | nil => rfl
    | cons c ds => exact List.dropWhile_cons_of_neg (Bool.not_eq_true _ ▸ h)
  rw [trim, keep cs first, keep cs.reverse (by rwa [List.head?_reverse]), List.reverse_reverse]

namespace Titular

variable {text : String}

theorem quotable (h : Titular text) : Clause.Quotable text.toList := ⟨h.noQuote, h.noColon⟩

/-- The clause with the title, at the start of a text. -/
def clause (text : String) (after : List Char) : Clause where
  before := []
  keyword := ['f', 'o', 'r']
  word := []
  text := text.toList
  after := after

theorem find?_clause (h : Titular text) (after : List Char) :
    Clause.find? ("for:\"".toList ++ text.toList ++ '"' :: after) = some (clause text after) := by
  have start := Clause.startingAt?_keyword (k := ['f', 'o', 'r']) (w := []) (by decide) nofun
    h.quotable after
  rw [List.append_assoc]
  exact Clause.find?_of_startingAt? start

theorem title?_clause (h : Titular text) (after : List Char) :
    (clause text after).title? = some text := by
  rw [Clause.title?, clause, trim_eq_self h.first h.last]
  cases hc : text.toList with
  | nil => exact absurd (String.toList_eq_nil_iff.1 hc) h.ne_empty
  | cons c cs =>
    show some (String.ofList (c :: cs)) = _
    rw [← hc, String.ofList_toList]

/-- A clause is taken out where it starts, and a space is left in its place. -/
theorem extractTitle_clause (h : Titular text) (after : List Char) :
    extractTitle ("for:\"".toList ++ text.toList ++ '"' :: after) = (some text, ' ' :: after) := by
  rw [extractTitle, h.find?_clause]
  exact Prod.ext (h.title?_clause after) rfl

end Titular

namespace Request

/-! ## Pieces -/

/-- A piece of a written request. -/
inductive Piece
  /-- A token in one of its spellings. -/
  | word (token : Token) (spelling : String) (spelled : spelling ∈ token.spellings)
  | title (text : String)

namespace Piece

/-- The written form of a piece. -/
def text : Piece → List Char
  | word _ spelling _ => spelling.toList
  | title text => "for:\"".toList ++ text.toList ++ ['"']

theorem text_word {token : Token} {spelling : String} (spelled : spelling ∈ token.spellings) :
    (word token spelling spelled).text = spelling.toList := rfl

theorem text_title (t : String) : (title t).text = "for:\"".toList ++ t.toList ++ ['"'] := rfl

/-- The token that is written. -/
def token? : Piece → Option Token
  | word token _ _ => some token
  | title _ => none

/-- The title that is written. -/
def title? : Piece → Option String
  | word .. => none
  | title text => some text

/-- The word that is written. -/
def word? : Piece → Option (List Char)
  | word _ spelling _ => some spelling.toList
  | title _ => none

end Piece

/-- A text that consists of pieces in this order and spaces between them. There may be more than one
space between two pieces, and spaces before the first and after the last. -/
inductive Spaced : List Piece → List Char → Prop
  | nil : Spaced [] []
  | space {pieces cs} : Spaced pieces cs → Spaced pieces (' ' :: cs)
  | last (piece) : Spaced [piece] piece.text
  | cons (piece) {pieces cs} : Spaced pieces cs → Spaced (piece :: pieces) (piece.text ++ ' ' :: cs)

namespace Spaced

theorem words_of_noTitle {pieces : List Piece} {cs : List Char} (h : Spaced pieces cs)
    (noTitle : pieces.filterMap Piece.title? = []) :
    words cs = pieces.filterMap Piece.word? := by
  induction h with
  | nil => rfl
  | space h ih =>
    rw [words_cons_blank (by decide), ih noTitle]
  | last piece =>
    cases piece with
    | word token spelling spelled => exact (Token.plain_of_mem_spellings spelled).words
    | title text => cases noTitle
  | @cons piece pieces cs h ih =>
    cases piece with
    | word token spelling spelled =>
      rw [Piece.text_word, words_append_blank _ (by decide),
        (Token.plain_of_mem_spellings spelled).words, ih noTitle]
      rfl
    | title text => cases noTitle

/-- **The title and the words of a written text** are those of its pieces. -/
theorem title_and_words {pieces : List Piece} {cs : List Char} (h : Spaced pieces cs)
    {title : Option String} (ht : pieces.filterMap Piece.title? = title.toList)
    (titular : ∀ text ∈ title, Titular text) :
    (extractTitle cs).1 = title ∧ words (extractTitle cs).2 = pieces.filterMap Piece.word? := by
  induction h with
  | nil =>
    obtain rfl : title = none := Option.toList_eq_nil_iff.1 ht.symm
    exact ⟨rfl, rfl⟩
  | @space pieces cs h ih =>
    rw [extractTitle_space, words_cons_blank (by decide)]
    exact ih ht
  | last piece =>
    cases piece with
    | word token spelling spelled =>
      have plain := Token.plain_of_mem_spellings spelled
      obtain rfl : title = none := Option.toList_eq_nil_iff.1 ht.symm
      rw [Piece.text_word, extractTitle_of_noTitle plain.toLower_ne]
      exact ⟨rfl, plain.words⟩
    | title text =>
      obtain rfl : title = some text := Option.toList_eq_singleton_iff.1 ht.symm
      rw [Piece.text_title, (titular text rfl).extractTitle_clause]
      exact ⟨rfl, rfl⟩
  | @cons piece pieces cs h ih =>
    cases piece with
    | word token spelling spelled =>
      -- A word has no clause in it, and none starts in it that ends behind the space.
      have plain := Token.plain_of_mem_spellings spelled
      obtain ⟨taken, words⟩ := ih ht
      rw [Piece.text_word, extractTitle_append plain.toLower_ne, extractTitle_space,
        words_append_blank _ (by decide), plain.words, words]
      exact ⟨taken, rfl⟩
    | title text =>
      -- There is one title, so no clause is among the other pieces.
      obtain ⟨rfl, noTitle⟩ : title = some text ∧ pieces.filterMap Piece.title? = [] := by
        cases title with
        | none => cases ht
        | some t =>
          obtain ⟨same, rest⟩ := List.cons.inj ht
          exact ⟨congrArg some same.symm, rest⟩
      rw [Piece.text_title, List.append_assoc, List.singleton_append,
        (titular text rfl).extractTitle_clause, words_cons_blank (by decide),
        words_cons_blank (by decide), h.words_of_noTitle noTitle]
      exact ⟨rfl, rfl⟩

end Spaced

end Request

/-! ## What tokens add up to -/

namespace Token

/-- The dice expression that a token is. -/
def dice? : Token → Option Spec
  | dice spec => some spec
  | _ => none

/-- The modifier that a token is. -/
def modifier? : Token → Option Int64
  | modifier n => some n
  | _ => none

end Token

namespace Request

/-- The request of tokens: the flags that are among them, all dice expressions and the first
modifier. -/
theorem foldl_addToken (r : Request) (tokens : List Token) :
    tokens.foldl addToken r =
      { cursed := r.cursed || decide (.cursed ∈ tokens)
        dice := r.dice ++ tokens.filterMap Token.dice?
        advantage := r.advantage || decide (.advantage ∈ tokens)
        disadvantage := r.disadvantage || decide (.disadvantage ∈ tokens)
        modifier := r.modifier.or ((tokens.findSome? Token.modifier?).map .value)
        help := r.help || decide (.help ∈ tokens)
        title := r.title } := by
  induction tokens generalizing r with
  | nil => simp
  | cons token tokens ih =>
    rw [List.foldl_cons, ih]
    cases token <;> simp [addToken, addModifier, List.filterMap_cons, List.findSome?_cons,
      Token.dice?, Token.modifier?]

theorem foldl_addWord (r : Request) (pieces : List Piece) :
    (pieces.filterMap Piece.word?).foldl addWord r =
      (pieces.filterMap Piece.token?).foldl addToken r := by
  induction pieces generalizing r with
  | nil => rfl
  | cons piece pieces ih =>
    cases piece with
    | word token spelling spelled =>
      have step : r.addWord spelling.toList = r.addToken token := by
        rw [addWord, Token.read?_of_mem_spellings spelled]
      show (pieces.filterMap Piece.word?).foldl addWord (r.addWord spelling.toList) = _
      rw [step, ih]
      rfl
    | title text => exact ih r

theorem map_lower_word? (pieces : List Piece) :
    (pieces.filterMap Piece.word?).map Text.lower = pieces.filterMap Piece.word? := by
  induction pieces with
  | nil => rfl
  | cons piece pieces ih =>
    cases piece with
    | word token spelling spelled =>
      show Text.lower spelling.toList :: (pieces.filterMap Piece.word?).map Text.lower = _
      rw [(Token.plain_of_mem_spellings spelled).lower, ih]
      rfl
    | title text => exact ih

/-! ## Written requests -/

/-- The tokens of a request that has no malformed modifier. -/
def tokens (r : Request) : List Token :=
  r.dice.map .dice ++ (r.modifierValue?.map Token.modifier).toList ++
    ((if r.cursed then [.cursed] else []) ++ (if r.advantage then [.advantage] else []) ++
      (if r.disadvantage then [.disadvantage] else []) ++ if r.help then [.help] else [])

/-- A request that can be written. -/
structure Writable (r : Request) : Prop where
  wellFormed : ∀ word, r.modifier ≠ some (.malformed word)
  titular : ∀ text ∈ r.title, Titular text

/-- The pieces are those of a request: every token of it and its title, once each, in an order that
is that of the request for the dice expressions. -/
structure Arranged (r : Request) (pieces : List Piece) : Prop where
  tokens : (pieces.filterMap Piece.token?).Perm r.tokens
  dice : (pieces.filterMap Piece.token?).filterMap Token.dice? = r.dice
  title : pieces.filterMap Piece.title? = r.title.toList

theorem filterMap_modifier?_tokens (r : Request) :
    r.tokens.filterMap Token.modifier? = r.modifierValue?.toList := by
  have dice : (r.dice.map Token.dice).filterMap Token.modifier? = [] := by
    rw [List.filterMap_map]
    exact List.filterMap_eq_nil_iff.2 fun _ _ => rfl
  unfold tokens
  rw [List.filterMap_append, List.filterMap_append, dice]
  cases r.modifierValue? <;> cases r.cursed <;> cases r.advantage <;> cases r.disadvantage <;>
    cases r.help <;> rfl

/-- The modifier of a request is the only one among its pieces. -/
theorem Arranged.findSome?_modifier? {r : Request} {pieces : List Piece} (h : r.Arranged pieces) :
    (pieces.filterMap Piece.token?).findSome? Token.modifier? = r.modifierValue? := by
  have perm := h.tokens.filterMap Token.modifier?
  rw [filterMap_modifier?_tokens] at perm
  rw [← List.head?_filterMap]
  cases hm : r.modifierValue? with
  | none =>
    rw [hm] at perm
    rw [perm.eq_nil]
    rfl
  | some n =>
    rw [hm] at perm
    rw [perm.eq_singleton]
    rfl

theorem Writable.map_modifierValue? {r : Request} (h : r.Writable) :
    r.modifierValue?.map .value = r.modifier := by
  unfold modifierValue?
  rcases hm : r.modifier with _ | ⟨n | word⟩
  · rfl
  · rfl
  · exact absurd hm (h.wellFormed word)

/-- **Reading undoes writing.** -/
theorem classify_arranged {r : Request} {pieces : List Piece} {text : String}
    (writable : r.Writable) (arranged : r.Arranged pieces) (spaced : Spaced pieces text.toList) :
    (classify text).value = r := by
  obtain ⟨title, words⟩ := spaced.title_and_words arranged.title writable.titular
  have flag : ∀ token, token ∈ pieces.filterMap Piece.token? ↔ token ∈ r.tokens := fun _ =>
    arranged.tokens.mem_iff
  rw [value_classify, title, normalizedWords, words, map_lower_word?, foldl_addWord, foldl_addToken,
    arranged.dice, arranged.findSome?_modifier?, writable.map_modifierValue?]
  simp only [flag]
  simp [tokens]

/-- The keyword `for` in a title opens no clause of its own, and the numbers in it are no dice. -/
theorem classify_arranged_titled :
    (classify "dis 2d6+3  for:\"For 2d6 friends\" -9223372036854775808 1d4294967295").value =
      { dice := [⟨2, .d6, some 3⟩, ⟨1, ⟨4294967295, by decide⟩, none⟩]
        disadvantage := true
        modifier := some (.value Int64.minValue)
        title := some "For 2d6 friends" } := by
  have spaced : Spaced
      [.word .disadvantage "dis" (by decide), .word (.dice ⟨2, .d6, some 3⟩) "2d6+3" (by decide),
        .title "For 2d6 friends",
        .word (.modifier Int64.minValue) "-9223372036854775808" (by decide),
        .word (.dice ⟨1, ⟨4294967295, by decide⟩, none⟩) "1d4294967295" (by decide)]
      "dis 2d6+3  for:\"For 2d6 friends\" -9223372036854775808 1d4294967295".toList :=
    .cons _ (.cons _ (.space (.cons _ (.cons _ (.last _)))))
  refine classify_arranged ⟨nofun, ?_⟩ ⟨by decide, rfl, rfl⟩ spaced
  rintro _ ⟨⟩
  exact ⟨by decide, by decide, by decide, by decide, by decide⟩

end Request

end ChatDice
