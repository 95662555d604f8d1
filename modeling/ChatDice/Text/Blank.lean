import ChatDice.Text.Range

/-!
# Blanks, words and trimming

A blank is a character that has the Unicode property White_Space. The words of a text are its
longest stretches without a blank. Main statement: `words_append_blank` — the words of two texts
with a blank between them are those of the one, then those of the other.
-/

namespace ChatDice.Text

/-- The code points of the blanks. -/
def blankRanges : Ranges where
  ranges := [
    (0x9, 0xD), (0x20, 0x20), (0x85, 0x85), (0xA0, 0xA0), (0x1680, 0x1680), (0x2000, 0x200A),
    (0x2028, 0x2029), (0x202F, 0x202F), (0x205F, 0x205F), (0x3000, 0x3000)]
  ascending := by decide

def isBlank (c : Char) : Bool := blankRanges.contains c

/-- Whether a word cannot go on in what follows. -/
def endsWord : List Char → Bool
  | [] => true
  | c :: _ => isBlank c

/-- Puts `c` in front of the first word. -/
def extendFirst (c : Char) : List (List Char) → List (List Char)
  | [] => [[c]]
  | word :: others => (c :: word) :: others

def words : List Char → List (List Char)
  | [] => []
  | c :: rest =>
    if isBlank c then words rest
    else if endsWord rest then [c] :: words rest
    else extendFirst c (words rest)

/-- A text without the blanks at its ends. -/
def trim (cs : List Char) : List Char :=
  ((cs.dropWhile isBlank).reverse.dropWhile isBlank).reverse

@[simp] theorem words_nil : words [] = [] := rfl

theorem words_cons_blank {c : Char} (h : isBlank c = true) (rest : List Char) :
    words (c :: rest) = words rest := by
  simp [words, h]

theorem words_cons_of_endsWord {c : Char} (h : isBlank c = false) {rest : List Char}
    (hr : endsWord rest = true) : words (c :: rest) = [c] :: words rest := by
  simp [words, h, hr]

theorem words_cons_of_not_endsWord {c : Char} (h : isBlank c = false) {rest : List Char}
    (hr : endsWord rest = false) : words (c :: rest) = extendFirst c (words rest) := by
  simp [words, h, hr]

theorem words_ne_nil {c : Char} (h : isBlank c = false) (rest : List Char) :
    words (c :: rest) ≠ [] := by
  by_cases hr : endsWord rest = true
  · simp [words_cons_of_endsWord h hr]
  · rw [words_cons_of_not_endsWord h (by simpa using hr)]
    cases words rest <;> simp [extendFirst]

theorem extendFirst_append {c : Char} {ws : List (List Char)} (h : ws ≠ [])
    (vs : List (List Char)) : extendFirst c (ws ++ vs) = extendFirst c ws ++ vs := by
  cases ws with
  | nil => contradiction
  | cons w ws => rfl

/-- A blank between two texts keeps their words apart. -/
theorem words_append_blank (a : List Char) {c : Char} (h : isBlank c = true) (b : List Char) :
    words (a ++ c :: b) = words a ++ words b := by
  induction a with
  | nil => simp [words_cons_blank h]
  | cons d a ih =>
    by_cases hd : isBlank d = true
    · simp [words_cons_blank hd, ih]
    · have hd : isBlank d = false := by simpa using hd
      -- Whether a word ends behind `d` depends on the next character alone.
      cases a with
      | nil =>
        rw [List.cons_append, List.nil_append,
          words_cons_of_endsWord hd (show endsWord (c :: b) = true from h),
          words_cons_of_endsWord hd (show endsWord [] = true from rfl),
          words_cons_blank h, words_nil]
        rfl
      | cons e a =>
        rw [List.cons_append]
        by_cases he : isBlank e = true
        · rw [words_cons_of_endsWord hd (show endsWord (e :: a ++ c :: b) = true from he),
            words_cons_of_endsWord hd (show endsWord (e :: a) = true from he), ih]
          rfl
        · have he : isBlank e = false := by simpa using he
          rw [words_cons_of_not_endsWord hd (show endsWord (e :: a ++ c :: b) = false from he),
            words_cons_of_not_endsWord hd (show endsWord (e :: a) = false from he),
            ih, extendFirst_append (words_ne_nil he a)]

end ChatDice.Text
