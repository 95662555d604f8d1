import ChatDice.Chat.Decode

/-!
# The parts of an interaction

An interaction is made of records of five kinds, the parts. Each has fields of its own, which it
reads in one of three ways: a field is required, is missing also where it is `null`, or has a
default where it is missing.

**Theorem (`Record.ofJson?_congr`).** A part is read from its fields alone: two values whose fields
agree are read as the same part, or both cannot be read.

The second half of the file says which fields an object and an array give a part. An object is
described by the values that it gives for each name (`Json.given`).
-/

namespace ChatDice

/-- The kinds of records that make up an interaction. -/
inductive Record
  | interaction
  | command
  | option
  | member
  | user
deriving DecidableEq

namespace Record

/-- What is due as the value of a field. -/
inductive Shape
  /-- A value without parts. -/
  | plain
  | one (part : Record)
  | row (part : Record)
deriving DecidableEq

/-- Whether a field may be missing. -/
inductive Need
  /-- The field may not be missing. -/
  | required
  /-- The field may be missing, and is so where it is `null`. -/
  | nullable
  /-- The field may be missing and may not be `null`. -/
  | defaulted
deriving DecidableEq

/-- A field of a part. -/
structure Field where
  name : String
  shape : Shape
  need : Need
deriving DecidableEq

/-- The fields of a part, in their order. -/
def fields : Record → List Field
  | interaction =>
    [⟨"type", .plain, .required⟩, ⟨"data", .one command, .nullable⟩,
      ⟨"member", .one member, .nullable⟩, ⟨"user", .one user, .nullable⟩]
  | command => [⟨"name", .plain, .required⟩, ⟨"options", .row option, .defaulted⟩]
  | option => [⟨"name", .plain, .required⟩, ⟨"value", .plain, .nullable⟩]
  | member => [⟨"nick", .plain, .nullable⟩, ⟨"user", .one user, .nullable⟩]
  | user => [⟨"username", .plain, .required⟩]

def names (p : Record) : List String := p.fields.map Field.name

theorem nodup_names (p : Record) : p.names.Nodup := by
  cases p <;> decide

theorem field_eq_of_name_eq {p : Record} {a b : Field} (ha : a ∈ p.fields) (hb : b ∈ p.fields)
    (h : a.name = b.name) : a = b := by
  have all : ∀ a ∈ p.fields, ∀ b ∈ p.fields, a.name = b.name → a = b := by
    cases p <;> decide
  exact all a ha b hb h

/-- What a part is read as. -/
abbrev Content : Record → Type
  | interaction => Interaction
  | command => Command
  | option => CommandOption
  | member => Member
  | user => User

variable (takes : Json → Bool)

def ofJson? : (p : Record) → Json → Option p.Content
  | interaction => Interaction.ofJson? takes
  | command => Command.ofJson? takes
  | option => CommandOption.ofJson? takes
  | member => Member.ofJson?
  | user => User.ofJson?

def row? (p : Record) (v : Json) : Option (List p.Content) :=
  v.items?.bind fun items => items.mapM (p.ofJson? takes)

/-! ## Values and fields that agree -/

/-- Two values are read alike where a value of the shape is due, and none of them alone is `null`.
-/
def Alike : Shape → Json → Json → Prop
  | .plain, v, w => v = w
  | .one p, v, w =>
    Json.optional? (p.ofJson? takes) (some v) = Json.optional? (p.ofJson? takes) (some w)
  | .row p, v, w => row? takes p v = row? takes p w

namespace Alike

variable {takes}

theorem refl (shape : Shape) (v : Json) : Alike takes shape v v := by
  cases shape <;> rfl

theorem symm {shape : Shape} {v w : Json} (h : Alike takes shape v w) : Alike takes shape w v := by
  cases shape <;> exact Eq.symm h

theorem trans {shape : Shape} {u v w : Json} (h : Alike takes shape u v)
    (k : Alike takes shape v w) : Alike takes shape u w := by
  cases shape <;> exact Eq.trans h k

end Alike

/-- The values of a field agree: they are read alike, or both are missing, the second perhaps by
being `null`. -/
inductive Field.Agree (field : Field) : Option Json → Option Json → Prop
  | missing : Agree field none none
  | given {v w : Json} (h : Alike takes field.shape v w) : Agree field (some v) (some w)
  | null (h : field.need = .nullable) : Agree field none (some .null)

namespace Field.Agree

variable {takes} {field : Field} {a b : Option Json} (h : field.Agree takes a b)

theorem refl (field : Field) (a : Option Json) : field.Agree takes a a := by
  cases a with
  | none => exact .missing
  | some v => exact .given (Alike.refl _ v)

include h

theorem eq_of_plain (plain : field.shape = .plain) (need : field.need ≠ .nullable) : a = b := by
  cases h with
  | missing => rfl
  | given h =>
    rw [plain] at h
    exact congrArg some h
  | null h => contradiction

theorem getD_eq_of_plain (plain : field.shape = .plain) : a.getD .null = b.getD .null := by
  cases h with
  | missing => rfl
  | given h =>
    rw [plain] at h
    exact h
  | null => rfl

theorem optional?_eq_of_plain {α : Type} (read? : Json → Option α)
    (plain : field.shape = .plain) : Json.optional? read? a = Json.optional? read? b := by
  cases h with
  | missing => rfl
  | given h =>
    rw [plain] at h
    rw [show _ = _ from h]
  | null => rfl

theorem optional?_eq {q : Record} (one : field.shape = .one q) :
    Json.optional? (q.ofJson? takes) a = Json.optional? (q.ofJson? takes) b := by
  cases h with
  | missing => rfl
  | given h =>
    rw [one] at h
    exact h
  | null => rfl

theorem row?_eq {q : Record} (row : field.shape = .row q) (need : field.need ≠ .nullable) :
    row? takes q (a.getD (.array [])) = row? takes q (b.getD (.array [])) := by
  cases h with
  | missing => rfl
  | given h =>
    rw [row] at h
    exact h
  | null h => contradiction

end Field.Agree

/-- The fields of two values agree, or neither of them is a record at all. -/
def Agree (p : Record) (v w : Json) : Prop :=
  (v.record? p.names = none ∧ w.record? p.names = none) ∨
    ∃ f g, v.record? p.names = some f ∧ w.record? p.names = some g ∧
      ∀ field ∈ p.fields, field.Agree takes (f field.name) (g field.name)

variable {takes}

/-- What is no record is no part: each part is read from its fields. -/
theorem ofJson?_of_record?_eq_none {p : Record} {v : Json} (h : v.record? p.names = none) :
    p.ofJson? takes v = none := by
  cases p <;> exact congrArg (Option.bind · _) h

/-- **A part is read from its fields alone.** -/
theorem ofJson?_congr {p : Record} {v w : Json} (h : p.Agree takes v w) :
    p.ofJson? takes v = p.ofJson? takes w := by
  obtain ⟨hv, hw⟩ | ⟨f, g, hv, hw, agree⟩ := h
  · rw [ofJson?_of_record?_eq_none hv, ofJson?_of_record?_eq_none hw]
  -- The fields that a part reads are those of the table, so the agreement of each is at hand.
  cases p with
  | interaction =>
    have kind : f "type" = g "type" :=
      (agree ⟨"type", .plain, .required⟩ (by decide)).eq_of_plain rfl (by decide)
    have data : Json.optional? (Command.ofJson? takes) (f "data") =
        Json.optional? (Command.ofJson? takes) (g "data") :=
      (agree ⟨"data", .one command, .nullable⟩ (by decide)).optional?_eq rfl
    have member : Json.optional? Member.ofJson? (f "member") =
        Json.optional? Member.ofJson? (g "member") :=
      (agree ⟨"member", .one member, .nullable⟩ (by decide)).optional?_eq rfl
    have user : Json.optional? User.ofJson? (f "user") =
        Json.optional? User.ofJson? (g "user") :=
      (agree ⟨"user", .one user, .nullable⟩ (by decide)).optional?_eq rfl
    show Interaction.ofJson? takes v = Interaction.ofJson? takes w
    rw [Interaction.ofJson?, Interaction.ofJson?,
      show v.record? ["type", "data", "member", "user"] = some f from hv,
      show w.record? ["type", "data", "member", "user"] = some g from hw]
    simp only [Option.bind_eq_bind, Option.bind_some, kind, data, member, user]
  | command =>
    have name : f "name" = g "name" :=
      (agree ⟨"name", .plain, .required⟩ (by decide)).eq_of_plain rfl (by decide)
    have options : row? takes option ((f "options").getD (.array [])) =
        row? takes option ((g "options").getD (.array [])) :=
      (agree ⟨"options", .row option, .defaulted⟩ (by decide)).row?_eq rfl (by decide)
    show Command.ofJson? takes v = Command.ofJson? takes w
    rw [Command.ofJson?, Command.ofJson?, show v.record? ["name", "options"] = some f from hv,
      show w.record? ["name", "options"] = some g from hw]
    simp only [row?, ofJson?] at options
    simp only [Option.bind_eq_bind, Option.bind_some, name, ← Option.bind_assoc, options]
  | option =>
    have name : f "name" = g "name" :=
      (agree ⟨"name", .plain, .required⟩ (by decide)).eq_of_plain rfl (by decide)
    have value : (f "value").getD .null = (g "value").getD .null :=
      (agree ⟨"value", .plain, .nullable⟩ (by decide)).getD_eq_of_plain rfl
    show CommandOption.ofJson? takes v = CommandOption.ofJson? takes w
    rw [CommandOption.ofJson?, CommandOption.ofJson?,
      show v.record? ["name", "value"] = some f from hv,
      show w.record? ["name", "value"] = some g from hw]
    simp only [Option.bind_eq_bind, Option.bind_some, name, value]
  | member =>
    have nick : Json.optional? Json.text? (f "nick") = Json.optional? Json.text? (g "nick") :=
      (agree ⟨"nick", .plain, .nullable⟩ (by decide)).optional?_eq_of_plain Json.text? rfl
    have user : Json.optional? User.ofJson? (f "user") =
        Json.optional? User.ofJson? (g "user") :=
      (agree ⟨"user", .one user, .nullable⟩ (by decide)).optional?_eq rfl
    show Member.ofJson? v = Member.ofJson? w
    rw [Member.ofJson?, Member.ofJson?, show v.record? ["nick", "user"] = some f from hv,
      show w.record? ["nick", "user"] = some g from hw]
    simp only [Option.bind_eq_bind, Option.bind_some, nick, user]
  | user =>
    have username : f "username" = g "username" :=
      (agree ⟨"username", .plain, .required⟩ (by decide)).eq_of_plain rfl (by decide)
    show User.ofJson? v = User.ofJson? w
    rw [User.ofJson?, User.ofJson?, show v.record? ["username"] = some f from hv,
      show w.record? ["username"] = some g from hw]
    simp only [Option.bind_eq_bind, Option.bind_some, username]

theorem optional?_of_ne_null {α : Type} (read? : Json → Option α) {v : Json} (h : v ≠ .null) :
    Json.optional? read? (some v) = (read? v).map some := by
  unfold Json.optional?
  split <;> simp_all

/-- Records with fields that agree are alike where the part is due. -/
theorem alike_of_agree {p : Record} {v w : Json} (hv : v ≠ .null) (hw : w ≠ .null)
    (h : p.Agree takes v w) : Alike takes (.one p) v w := by
  show Json.optional? _ (some v) = Json.optional? _ (some w)
  rw [optional?_of_ne_null _ hv, optional?_of_ne_null _ hw, ofJson?_congr h]

theorem join_optional? {α : Type} {read? : Json → Option α} (null : read? .null = none)
    (v : Json) : (Json.optional? read? (some v)).join = read? v := by
  by_cases hv : v = .null
  · rw [hv, null]
    rfl
  · rw [optional?_of_ne_null _ hv]
    cases read? v <;> rfl

theorem ofJson?_eq_of_alike {p : Record} {v w : Json} (h : Alike takes (.one p) v w) :
    p.ofJson? takes v = p.ofJson? takes w := by
  have same : Json.optional? (p.ofJson? takes) (some v) =
    Json.optional? (p.ofJson? takes) (some w) := h
  have null : p.ofJson? takes .null = none := ofJson?_of_record?_eq_none rfl
  rw [← join_optional? null v, same, join_optional? null w]

end Record

/-! ## The fields of an object -/

namespace Json

/-- The values that the members give for a name. -/
def given (members : List (Option String × Json)) (name : String) : List Json :=
  (members.filter fun m => m.1 = some name).map Prod.snd

section

variable (members others : List (Option String × Json)) (name : String)

theorem given_append :
    given (members ++ others) name = given members name ++ given others name := by
  simp [given]

theorem given_cons_self (v : Json) :
    given ((some name, v) :: members) name = v :: given members name := by
  simp [given]

theorem given_cons_of_ne {key : Option String} (h : key ≠ some name) (v : Json) :
    given ((key, v) :: members) name = given members name := by
  simp [given, h]

theorem lookup_eq_head?_given : members.lookup (some name) = (given members name).head? := by
  induction members with
  | nil => rfl
  | cons m rest ih =>
    obtain ⟨key, v⟩ := m
    by_cases h : key = some name
    · subst h
      rw [given_cons_self, List.lookup_cons_self, List.head?_cons]
    · rw [given_cons_of_ne rest name h, ← ih, List.lookup_cons, beq_false_of_ne (Ne.symm h)]

end

theorem given_perm {members others : List (Option String × Json)} (h : members.Perm others)
    (name : String) : (given members name).Perm (given others name) :=
  (h.filter _).map _

theorem record?_object (names : List String) (members : List (Option String × Json)) :
    (object members).record? names =
      if (∀ m ∈ members, m.1.isSome = true) ∧ ∀ name ∈ names, (given members name).length ≤ 1 then
        some fun name => (given members name).head?
      else none := by
  simp only [record?, lookup_eq_head?_given, given, List.all_eq_true, List.length_map,
    decide_eq_true_eq]

end Json

namespace Record

variable {takes : Json → Bool}

/-- The values that two objects give for a field agree: both objects give one at most, and these
agree, or both give more. -/
def Field.AgreeOnce (takes : Json → Bool) (field : Field) (a b : List Json) : Prop :=
  (a.length ≤ 1 ↔ b.length ≤ 1) ∧ (a.length ≤ 1 → field.Agree takes a.head? b.head?)

theorem Field.AgreeOnce.refl (field : Field) (a : List Json) : field.AgreeOnce takes a a :=
  ⟨Iff.rfl, fun _ => .refl field _⟩

theorem agree_objects {p : Record} {ms ns : List (Option String × Json)}
    (keys : (∀ m ∈ ms, m.1.isSome = true) ↔ ∀ n ∈ ns, n.1.isSome = true)
    (given : ∀ field ∈ p.fields,
      field.AgreeOnce takes (Json.given ms field.name) (Json.given ns field.name)) :
    p.Agree takes (.object ms) (.object ns) := by
  -- Whether a name is given twice depends on the lengths alone.
  have once : (∀ name ∈ p.names, (Json.given ms name).length ≤ 1) ↔
      ∀ name ∈ p.names, (Json.given ns name).length ≤ 1 := by
    simp only [names, List.mem_map, forall_exists_index, and_imp, forall_apply_eq_imp_iff₂]
    exact forall₂_congr fun field hf => (given field hf).1
  rw [Agree, Json.record?_object, Json.record?_object]
  by_cases record : (∀ m ∈ ms, m.1.isSome = true) ∧
      ∀ name ∈ p.names, (Json.given ms name).length ≤ 1
  · have other := record
    rw [keys, once] at other
    rw [if_pos record, if_pos other]
    refine .inr ⟨_, _, rfl, rfl, fun field hf => (given field hf).2 ?_⟩
    exact record.2 _ (List.mem_map_of_mem hf)
  · have other := record
    rw [keys, once] at other
    rw [if_neg record, if_neg other]
    exact .inl ⟨rfl, rfl⟩

end Record

end ChatDice
