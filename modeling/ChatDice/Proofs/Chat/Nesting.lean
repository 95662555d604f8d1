import ChatDice.Proofs.Chat.Records

/-!
# How deep the values of options are nested

In a text the values of options may be nested only so deep. **Theorem (`Interaction.ofJson?_eq`).**
An interaction whose options are restricted to some values is read as one without the restriction,
if the values of all its options are taken, and cannot be read if one is not.

The restriction is a test of the values of the options alone (`Interaction.optionValues`). Each part
hands the test on to the part inside it: an interaction to its command, and that to its options.
-/

namespace ChatDice

/-- The value is sound and nested at most `n` levels deep. -/
def Json.Within (n : Nat) (v : Json) : Prop := v.isSound = true ∧ v.depth ≤ n

/-! ## The values of options -/

/-- The value that a field of a part has. -/
def Record.field? (p : Record) (name : String) (v : Json) : Option Json :=
  (v.record? p.names).bind fun field => field name

/-- The value of an option, `null` where it has none. -/
def CommandOption.value (v : Json) : Json := (Record.option.field? "value" v).getD .null

def Command.optionValues (v : Json) : List Json :=
  (((Record.command.field? "options" v).bind Json.items?).getD []).map CommandOption.value

/-- The values of the options of an interaction. -/
def Interaction.optionValues (v : Json) : List Json :=
  ((Record.interaction.field? "data" v).map Command.optionValues).getD []

/-! ## The test is handed on -/

section

variable {α β : Type} {read? other? : Json → Option α} {passes : Json → Bool}

/-- What is behind a step that does not depend on the test. -/
theorem bind_eq_ite {x : Option α} {f g : α → Option β} {c : Bool}
    (h : ∀ a, x = some a → f a = if c then g a else none) :
    x.bind f = if c then x.bind g else none := by
  cases x with
  | none => cases c <;> rfl
  | some a => exact h a rfl

theorem Json.mapM_eq (h : ∀ v, read? v = if passes v then other? v else none)
    (items : List Json) :
    items.mapM read? = if items.all passes then items.mapM other? else none := by
  induction items with
  | nil => rfl
  | cons v rest ih =>
    rw [List.mapM_cons, List.mapM_cons, h v, ih, List.all_cons]
    cases passes v with
    | false => rfl
    | true => exact bind_eq_ite fun a _ => by cases rest.all passes <;> rfl

/-- A field that is missing or `null` passes. -/
theorem Json.optional?_eq (h : ∀ v, read? v = if passes v then other? v else none)
    (null : passes .null = true) (a : Option Json) :
    optional? read? a = if (a.map passes).getD true then optional? other? a else none := by
  cases a with
  | none => rfl
  | some v =>
    cases v with
    | null => simp [optional?, null]
    | _ =>
      simp only [optional?, Option.map_some, Option.getD_some, h]
      split <;> rfl

end

variable (takes : Json → Bool) (v : Json)

theorem CommandOption.ofJson?_eq :
    ofJson? takes v = if takes (value v) then ofJson? (fun _ => true) v else none := by
  refine bind_eq_ite fun field record => bind_eq_ite fun name _ => ?_
  have here : value v = (field "value").getD .null := by
    rw [value, Record.field?, show v.record? Record.option.names = some field from record]
    rfl
  rw [here]
  rfl

theorem Command.ofJson?_eq :
    ofJson? takes v = if (optionValues v).all takes then ofJson? (fun _ => true) v else none := by
  refine bind_eq_ite fun field record => bind_eq_ite fun name _ => bind_eq_ite fun items given => ?_
  have here : optionValues v = items.map CommandOption.value := by
    rw [optionValues, Record.field?, show v.record? Record.command.names = some field from record,
      Option.bind_some]
    cases hf : field "options" with
    | none =>
      rw [hf] at given
      cases given
      rfl
    | some x =>
      rw [hf, Option.getD_some] at given
      rw [Option.bind_some, given, Option.getD_some]
  rw [here, List.all_map, Json.mapM_eq (CommandOption.ofJson?_eq takes) items]
  show _ = if items.all (fun item => takes (CommandOption.value item)) then _ else none
  split <;> rfl

theorem Interaction.ofJson?_eq :
    ofJson? takes v = if (optionValues v).all takes then ofJson? (fun _ => true) v else none := by
  refine bind_eq_ite fun field record => bind_eq_ite fun kind _ => ?_
  have here : (optionValues v).all takes =
      ((field "data").map fun w => (Command.optionValues w).all takes).getD true := by
    rw [optionValues, Record.field?,
      show v.record? Record.interaction.names = some field from record, Option.bind_some]
    cases field "data" <;> rfl
  rw [here, Json.optional?_eq (Command.ofJson?_eq takes) rfl (field "data")]
  split <;> rfl

theorem Interaction.all_takesFromText_iff (values : List Json) :
    values.all takesFromText = true ↔ ∀ x ∈ values, x.Within maxValueDepth := by
  simp [takesFromText, Json.Within]

end ChatDice
