/-!
# Texts as bytes

A text is stored in UTF-8, in which a character takes between one and four bytes. A place in the
text is given by the number of bytes before it. Between two characters and at both ends a text can
be cut; a place inside a character, or beyond the end, is no boundary, and a cut there fails.

**Theorem (`cutAt?_byteSize`).** The place behind a part of a text is a boundary, and a cut there
gives that part and the rest.

A byte below 128 is a character of its own, and no such byte is a part of another character
(`utf8EncodeChar_of_ascii`, `le_of_mem_utf8EncodeChar`). So what starts with such a byte starts on a
boundary.
-/

namespace ChatDice.Text

/-! ## Cutting a text -/

def bytes (cs : List Char) : List UInt8 := cs.flatMap String.utf8EncodeChar

def byteSize (cs : List Char) : Nat := (bytes cs).length

/-- The two parts of a text at a place. There are none at a place that is no boundary. -/
def cutAt? : Nat → List Char → Option (List Char × List Char)
  | 0, cs => some ([], cs)
  | _ + 1, [] => none
  | n + 1, c :: cs =>
    if c.utf8Size ≤ n + 1 then
      (cutAt? (n + 1 - c.utf8Size) cs).map fun (front, back) => (c :: front, back)
    else none

/-- A cut was tried at a place that is no boundary. -/
structure OffBoundary where
  place : Nat
deriving DecidableEq

def upTo (place : Nat) (cs : List Char) : Except OffBoundary (List Char) :=
  match cutAt? place cs with
  | some (front, _) => .ok front
  | none => .error ⟨place⟩

def startingFrom (place : Nat) (cs : List Char) : Except OffBoundary (List Char) :=
  match cutAt? place cs with
  | some (_, back) => .ok back
  | none => .error ⟨place⟩

/-- The place of the first character that has a property. -/
def placeOf? (p : Char → Bool) : List Char → Option Nat
  | [] => none
  | c :: cs => if p c then some 0 else (placeOf? p cs).map (c.utf8Size + ·)

theorem bytes_append (a b : List Char) : bytes (a ++ b) = bytes a ++ bytes b :=
  List.flatMap_append

theorem bytes_cons (c : Char) (cs : List Char) :
    bytes (c :: cs) = String.utf8EncodeChar c ++ bytes cs := rfl

@[simp] theorem byteSize_nil : byteSize [] = 0 := rfl

@[simp] theorem byteSize_append (a b : List Char) :
    byteSize (a ++ b) = byteSize a + byteSize b := by
  rw [byteSize, bytes_append, List.length_append]
  rfl

@[simp] theorem byteSize_cons (c : Char) (cs : List Char) :
    byteSize (c :: cs) = c.utf8Size + byteSize cs := by
  rw [byteSize, bytes_cons, List.length_append, String.length_utf8EncodeChar]
  rfl

/-- **The place behind a part of a text is a boundary.** -/
theorem cutAt?_byteSize (a b : List Char) : cutAt? (byteSize a) (a ++ b) = some (a, b) := by
  induction a with
  | nil => rw [byteSize_nil, cutAt?, List.nil_append]
  | cons c a ih =>
    have size := c.utf8Size_pos
    obtain ⟨n, hn⟩ : ∃ n, byteSize (c :: a) = n + 1 := ⟨c.utf8Size + byteSize a - 1, by simp; omega⟩
    have left : n + 1 - c.utf8Size = byteSize a := by rw [← hn]; simp
    have fits : c.utf8Size ≤ n + 1 := by rw [← hn]; simp
    rw [hn, List.cons_append, cutAt?, if_pos fits, left, ih]
    rfl

theorem upTo_byteSize (a b : List Char) : upTo (byteSize a) (a ++ b) = .ok a := by
  rw [upTo, cutAt?_byteSize]

theorem startingFrom_byteSize (a b : List Char) : startingFrom (byteSize a) (a ++ b) = .ok b := by
  rw [startingFrom, cutAt?_byteSize]

/-- The characters before the first one that has a property are all bytes before its place. -/
theorem placeOf?_eq (p : Char → Bool) (cs : List Char) :
    placeOf? p cs =
      if cs.dropWhile (!p ·) = [] then none else some (byteSize (cs.takeWhile (!p ·))) := by
  induction cs with
  | nil => rfl
  | cons c cs ih =>
    by_cases hc : p c = true
    · simp [placeOf?, hc]
    · rw [placeOf?, if_neg hc, ih, List.dropWhile_cons_of_pos (by simpa using hc),
        List.takeWhile_cons_of_pos (by simpa using hc)]
      split
      · rfl
      · simp

/-! ## Bytes of characters -/

theorem utf8Size_of_ascii {c : Char} (h : c.toNat < 128) : c.utf8Size = 1 := by
  rw [Char.utf8Size_eq_one_iff, UInt32.le_iff_toNat_le]
  exact Nat.le_of_lt_succ h

theorem utf8EncodeChar_of_ascii {c : Char} (h : c.toNat < 128) :
    String.utf8EncodeChar c = [UInt8.ofNat c.toNat] := by
  have small : c.val.toNat ≤ 127 := Nat.le_of_lt_succ h
  simp only [String.utf8EncodeChar, if_pos small]
  rfl

/-- The bytes of every other character are beyond those. -/
theorem le_of_mem_utf8EncodeChar {c : Char} (h : 128 ≤ c.toNat) {b : UInt8}
    (hb : b ∈ String.utf8EncodeChar c) : 128 ≤ b.toNat := by
  have large : ¬c.val.toNat ≤ 127 := Nat.not_le_of_lt h
  simp only [String.utf8EncodeChar, if_neg large] at hb
  split at hb
  · simp only [List.mem_cons, List.not_mem_nil, or_false] at hb
    rcases hb with rfl | rfl <;> simp only [UInt8.toNat_ofNat'] <;> omega
  · split at hb
    · simp only [List.mem_cons, List.not_mem_nil, or_false] at hb
      rcases hb with rfl | rfl | rfl <;> simp only [UInt8.toNat_ofNat'] <;> omega
    · simp only [List.mem_cons, List.not_mem_nil, or_false] at hb
      rcases hb with rfl | rfl | rfl | rfl <;> simp only [UInt8.toNat_ofNat'] <;> omega

end ChatDice.Text
