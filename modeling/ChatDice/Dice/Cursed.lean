import ChatDice.Dice.Source

/-!
# The cursed die

A common die picks one of six faces, most of them low. Main statement: `cursedFace_mem` — whatever
the source gives, the value is one of the faces.
-/

namespace ChatDice

def cursedFaces : List UInt32 := [0, 1, 1, 1, 2, 3]

/-- The cursed face that a value rolled on a common die picks. Values beyond the die come round
again, and zero picks the first face. -/
def cursedFace (value : UInt32) : UInt32 :=
  cursedFaces.getD ((value.toNat - 1) % cursedFaces.length) 0

def rollCursed {σ : Type} [Roller σ] (s : σ) : UInt32 × σ :=
  let (value, s) := Roller.roll Die.d6 s
  (cursedFace value, s)

theorem cursedFace_mem (value : UInt32) : cursedFace value ∈ cursedFaces := by
  have h : (value.toNat - 1) % cursedFaces.length < cursedFaces.length :=
    Nat.mod_lt _ (by decide)
  rw [cursedFace, List.getD_eq_getElem?_getD, List.getElem?_eq_getElem h]
  exact List.getElem_mem h

end ChatDice
