import ChatDice.Chat.Dispatch
import ChatDice.Proofs.Chat.Nesting
import ChatDice.Proofs.Chat.Records
import ChatDice.Proofs.Json.RoundTrip

/-!
# The spelling of an interaction

**Theorem (`Interaction.respelled_answered_alike`).** How an interaction is spelled in JSON makes no
difference: either no spelling of it can be read, or all of them are answered alike. This is so
among JSON values and among texts. A value and a text are told apart just if an option has a value
that is taken as it is and nested too deep for a text.

A spelling is changed by reordering the members of a part, by members of unknown names, by `null`
for a field that may be missing, and by writing a part as the array of its fields (`Respelled`). The
proof goes by induction on the changes: each of them leaves the fields of the part it is made in as
they are or makes them agree, and a part is read from its fields alone. A change inside a part
changes one field of it, to a value that is read alike.
-/

namespace ChatDice

namespace Record

/-- The array that stands for an object: the values of the fields in their order, with `null` where
a field is missing that may be `null`. It ends where another field is missing. -/
def listing (members : List (Option String × Json)) : List Field → List Json
  | [] => []
  | field :: rest =>
    match members.lookup (some field.name), field.need with
    | some v, _ => v :: listing members rest
    | none, .nullable => .null :: listing members rest
    | none, _ => []

/-- The members of an object are fields of the part, each given once at most and the required ones
once. -/
structure IsTidy (p : Record) (members : List (Option String × Json)) : Prop where
  known : ∀ m ∈ members, ∃ name ∈ p.names, m.1 = some name
  once : (members.map Prod.fst).Nodup
  required : ∀ field ∈ p.fields, field.need = .required → some field.name ∈ members.map Prod.fst

/-- A value can be written for another one where a value of the shape is due. -/
inductive Respelled : Shape → Json → Json → Prop
  | refl (shape : Shape) (v : Json) : Respelled shape v v
  | symm {shape : Shape} {v w : Json} : Respelled shape v w → Respelled shape w v
  | trans {shape : Shape} {u v w : Json} :
    Respelled shape u v → Respelled shape v w → Respelled shape u w
  | permuted {p : Record} {ms ns : List (Option String × Json)} (h : ms.Perm ns) :
    Respelled (.one p) (.object ms) (.object ns)
  /-- A part gets a member of an unknown name, whatever its value. -/
  | inserted {p : Record} {name : String} (h : name ∉ p.names)
    (before after : List (Option String × Json)) (v : Json) :
    Respelled (.one p) (.object (before ++ after)) (.object (before ++ (some name, v) :: after))
  /-- A part gets `null` for a field that may be `null` and is missing. -/
  | nullAdded {p : Record} {field : Field} (h : field ∈ p.fields)
    (nullable : field.need = .nullable) (before after : List (Option String × Json))
    (missing : ∀ m ∈ before ++ after, m.1 ≠ some field.name) :
    Respelled (.one p) (.object (before ++ after))
      (.object (before ++ (some field.name, .null) :: after))
  /-- A part is written as the array of its fields. -/
  | listed {p : Record} {ms : List (Option String × Json)} (h : p.IsTidy ms) :
    Respelled (.one p) (.object ms) (.array (listing ms p.fields))
  /-- The value of a field is changed, in an object. -/
  | inMember {p : Record} {field : Field} (h : field ∈ p.fields)
    (before after : List (Option String × Json)) {v w : Json} :
    Respelled field.shape v w →
    Respelled (.one p) (.object (before ++ (some field.name, v) :: after))
      (.object (before ++ (some field.name, w) :: after))
  /-- The value of a field is changed, in an array. -/
  | inItem {p : Record} {field : Field} (before after : List Json)
    (h : p.fields[before.length]? = some field) {v w : Json} :
    Respelled field.shape v w →
    Respelled (.one p) (.array (before ++ v :: after)) (.array (before ++ w :: after))
  | inRow {p : Record} (before after : List Json) {v w : Json} :
    Respelled (.one p) v w →
    Respelled (.row p) (.array (before ++ v :: after)) (.array (before ++ w :: after))

variable {takes : Json → Bool} {p : Record}

/-! ## Changes in an object -/

theorem agreeOnce_of_perm (field : Field) {a b : List Json} (h : a.Perm b) :
    field.AgreeOnce takes a b := by
  refine ⟨by rw [h.length_eq], fun short => ?_⟩
  have same : a = b := by
    match a, short with
    | [], _ => exact h.nil_eq
    | [v], _ => exact (List.perm_singleton.1 h.symm).symm
  rw [same]
  exact .refl field _

theorem agree_permuted {ms ns : List (Option String × Json)} (h : ms.Perm ns) :
    p.Agree takes (.object ms) (.object ns) :=
  agree_objects ⟨fun keys n hn => keys n (h.mem_iff.2 hn), fun keys m hm => keys m (h.mem_iff.1 hm)⟩
    fun field _ => agreeOnce_of_perm field (Json.given_perm h field.name)

/-- Another member with a text as its key leaves the keys texts. -/
theorem isSome_keys_insert (before after : List (Option String × Json)) (name : String)
    (v : Json) : (∀ m ∈ before ++ after, m.1.isSome = true) ↔
      ∀ m ∈ before ++ (some name, v) :: after, m.1.isSome = true := by
  simp [or_imp, forall_and]

theorem given_insert_of_ne (before after : List (Option String × Json)) {name other : String}
    (h : name ≠ other) (v : Json) :
    Json.given (before ++ (some name, v) :: after) other = Json.given (before ++ after) other := by
  rw [Json.given_append, Json.given_append, Json.given_cons_of_ne _ _ (by simpa using h)]

theorem agree_inserted {name : String} (h : name ∉ p.names)
    (before after : List (Option String × Json)) (v : Json) :
    p.Agree takes (.object (before ++ after)) (.object (before ++ (some name, v) :: after)) := by
  refine agree_objects (isSome_keys_insert before after name v) fun field hf => ?_
  have other : name ≠ field.name := by
    rintro rfl
    exact h (List.mem_map_of_mem hf)
  rw [given_insert_of_ne before after other]
  exact .refl field _

theorem given_eq_nil {ms : List (Option String × Json)} {name : String}
    (h : ∀ m ∈ ms, m.1 ≠ some name) : Json.given ms name = [] := by
  simpa [Json.given] using h

theorem agree_nullAdded {field : Field} (h : field ∈ p.fields) (nullable : field.need = .nullable)
    (before after : List (Option String × Json))
    (missing : ∀ m ∈ before ++ after, m.1 ≠ some field.name) :
    p.Agree takes (.object (before ++ after))
      (.object (before ++ (some field.name, .null) :: after)) := by
  refine agree_objects (isSome_keys_insert before after _ _) fun other hother => ?_
  by_cases same : field.name = other.name
  · obtain rfl := field_eq_of_name_eq h hother same
    have none := given_eq_nil missing
    rw [Json.given_append, List.append_eq_nil_iff] at none
    rw [Json.given_append, Json.given_append, Json.given_cons_self, none.1, none.2]
    exact ⟨by decide, fun _ => .null nullable⟩
  · rw [given_insert_of_ne before after same]
    exact .refl other _

theorem agree_inMember {field : Field} (h : field ∈ p.fields)
    (before after : List (Option String × Json)) {v w : Json}
    (alike : Alike takes field.shape v w) :
    p.Agree takes (.object (before ++ (some field.name, v) :: after))
      (.object (before ++ (some field.name, w) :: after)) := by
  refine agree_objects ?_ fun other hother => ?_
  · rw [← isSome_keys_insert, ← isSome_keys_insert]
  by_cases same : field.name = other.name
  · obtain rfl := field_eq_of_name_eq h hother same
    simp only [Json.given_append, Json.given_cons_self]
    refine ⟨by simp, fun once => ?_⟩
    -- The changed value is the only one that is given for its name.
    have first : Json.given before field.name = [] := by
      rw [← List.length_eq_zero_iff]
      rw [List.length_append, List.length_cons] at once
      omega
    rw [first]
    exact .given alike
  · rw [given_insert_of_ne before after same, given_insert_of_ne before after same]
    exact .refl other _

/-! ## Arrays -/

theorem record?_array (names : List String) (items : List Json) :
    (Json.array items).record? names =
      if items.length ≤ names.length then some fun name => (names.zip items).lookup name
      else none := rfl

/-- The value that an array gives for a name. -/
def itemAt (fields : List Field) (items : List Json) (name : String) : Option Json :=
  ((fields.map Field.name).zip items).lookup name

theorem itemAt_nil (fields : List Field) (name : String) : itemAt fields [] name = none := by
  rw [itemAt, List.zip_nil_right]
  rfl

/-- The first item is the value of the first field, and the others are those of the other fields. -/
theorem itemAt_cons_cases {first other : Field} {rest : List Field}
    (absent : first.name ∉ rest.map Field.name) (h : other ∈ first :: rest) :
    (other = first ∧ ∀ v items, itemAt (first :: rest) (v :: items) other.name = some v) ∨
      (other ∈ rest ∧ ∀ v items,
        itemAt (first :: rest) (v :: items) other.name = itemAt rest items other.name) := by
  rcases List.mem_cons.1 h with rfl | hrest
  · exact .inl ⟨rfl, fun v items => by simp [itemAt]⟩
  · have differ : other.name ≠ first.name := fun same => absent (same ▸ List.mem_map_of_mem hrest)
    exact .inr ⟨hrest, fun v items => by simp [itemAt, List.lookup_cons, beq_false_of_ne differ]⟩

/-- A changed item is the value of the field in its place, and no other field changes. -/
theorem agree_itemAt {field : Field} {v w : Json} (alike : Alike takes field.shape v w)
    (after before : List Json) (fields : List Field) (nodup : (fields.map Field.name).Nodup)
    (place : fields[before.length]? = some field) :
    ∀ other ∈ fields, other.Agree takes (itemAt fields (before ++ v :: after) other.name)
      (itemAt fields (before ++ w :: after) other.name) := by
  intro other hother
  induction fields generalizing before with
  | nil => cases hother
  | cons first rest ih =>
    obtain ⟨absent, nodup⟩ := List.nodup_cons.1 nodup
    obtain ⟨rfl, here⟩ | ⟨hrest, there⟩ := itemAt_cons_cases absent hother
    · cases before with
      | nil =>
        obtain rfl := Option.some.inj place
        rw [List.nil_append, List.nil_append, here, here]
        exact .given alike
      | cons item before =>
        rw [List.cons_append, List.cons_append, here, here]
        exact .refl other _
    · cases before with
      | nil =>
        rw [List.nil_append, List.nil_append, there, there]
        exact .refl other _
      | cons item before =>
        rw [List.cons_append, List.cons_append, there, there]
        exact ih before nodup place hrest

theorem agree_inItem {field : Field} (before after : List Json)
    (h : p.fields[before.length]? = some field) {v w : Json}
    (alike : Alike takes field.shape v w) :
    p.Agree takes (.array (before ++ v :: after)) (.array (before ++ w :: after)) := by
  have same : (before ++ v :: after).length = (before ++ w :: after).length := by simp
  rw [Agree, record?_array, record?_array, same]
  split
  · exact .inr ⟨_, _, rfl, rfl, agree_itemAt alike after before p.fields p.nodup_names h⟩
  · exact .inl ⟨rfl, rfl⟩

/-! ## A part as an array -/

theorem length_listing_le (ms : List (Option String × Json)) (fields : List Field) :
    (listing ms fields).length ≤ fields.length := by
  induction fields with
  | nil => exact Nat.le_refl 0
  | cons field rest ih =>
    rw [listing]
    split <;> simp [ih]

/-- No field behind one with a default. -/
theorem need_ne_defaulted_of_mem_dropLast (p : Record) :
    ∀ field ∈ p.fields.dropLast, field.need ≠ .defaulted := by
  cases p <;> decide

/-- The array gives each field the value that the object gives it, or `null`. -/
theorem agree_listing {ms : List (Option String × Json)} (fields : List Field)
    (nodup : (fields.map Field.name).Nodup)
    (last : ∀ field ∈ fields.dropLast, field.need ≠ .defaulted)
    (required : ∀ field ∈ fields, field.need = .required →
      ms.lookup (some field.name) ≠ none) :
    ∀ field ∈ fields, field.Agree takes (ms.lookup (some field.name))
      (itemAt fields (listing ms fields) field.name) := by
  intro field hfield
  induction fields with
  | nil => cases hfield
  | cons first rest ih =>
    obtain ⟨absent, nodup⟩ := List.nodup_cons.1 nodup
    have others : field ∈ rest → field.Agree takes (ms.lookup (some field.name))
        (itemAt rest (listing ms rest) field.name) := by
      refine ih nodup (fun f hf => last f ?_) fun f hf => required f (List.mem_cons_of_mem _ hf)
      cases rest with
      | nil => cases hf
      | cons second rest => exact List.mem_cons_of_mem _ hf
    have onward : ∀ v, first.Agree takes (ms.lookup (some first.name)) (some v) →
        field.Agree takes (ms.lookup (some field.name))
          (itemAt (first :: rest) (v :: listing ms rest) field.name) := by
      intro v agree
      obtain ⟨rfl, here⟩ | ⟨hrest, there⟩ := itemAt_cons_cases absent hfield
      · rw [here]
        exact agree
      · rw [there]
        exact others hrest
    cases value : ms.lookup (some first.name) with
    | some v =>
      rw [value] at onward
      simp only [listing, value]
      exact onward v (.refl first _)
    | none =>
      rw [value] at onward
      cases need : first.need with
      | required => exact absurd value (required first List.mem_cons_self need)
      | nullable =>
        simp only [listing, value, need]
        exact onward .null (.null need)
      | defaulted =>
        -- Such a field is the last one, and the array ends before it.
        have none : rest = [] := by
          cases rest with
          | nil => rfl
          | cons second rest => exact absurd need (last first List.mem_cons_self)
        obtain rfl := none
        obtain rfl := List.mem_singleton.1 hfield
        simp only [listing, value, need, itemAt_nil]
        exact .missing

theorem length_given_le_one {ms : List (Option String × Json)} (h : (ms.map Prod.fst).Nodup)
    (name : String) : (Json.given ms name).length ≤ 1 := by
  induction ms with
  | nil => exact Nat.zero_le 1
  | cons m rest ih =>
    obtain ⟨key, v⟩ := m
    obtain ⟨absent, nodup⟩ := List.nodup_cons.1 h
    by_cases same : key = some name
    · subst same
      have none : Json.given rest name = [] :=
        given_eq_nil fun m hm same => absent (List.mem_map.2 ⟨m, hm, same⟩)
      rw [Json.given_cons_self, none]
      exact Nat.le_refl 1
    · rw [Json.given_cons_of_ne rest name same]
      exact ih nodup

theorem agree_listed {ms : List (Option String × Json)} (h : p.IsTidy ms) :
    p.Agree takes (.object ms) (.array (listing ms p.fields)) := by
  have texts : ∀ m ∈ ms, m.1.isSome = true := by
    intro m hm
    obtain ⟨name, -, key⟩ := h.known m hm
    rw [key]
    rfl
  have short : (listing ms p.fields).length ≤ p.names.length := by
    rw [names, List.length_map]
    exact length_listing_le ms p.fields
  rw [Agree, Json.record?_object, record?_array, if_pos short,
    if_pos ⟨texts, fun name _ => length_given_le_one h.once name⟩]
  refine .inr ⟨_, _, rfl, rfl, fun field hf => ?_⟩
  rw [← Json.lookup_eq_head?_given]
  refine agree_listing p.fields p.nodup_names p.need_ne_defaulted_of_mem_dropLast ?_ field hf
  intro required hrequired need missing
  obtain ⟨m, hm, key⟩ := List.mem_map.1 (h.required required hrequired need)
  have other := List.lookup_eq_none_iff.1 missing m hm
  simp [key] at other

/-! ## All changes -/

theorem alike_inRow (before after : List Json) {v w : Json} (h : Alike takes (.one p) v w) :
    Alike takes (.row p) (.array (before ++ v :: after)) (.array (before ++ w :: after)) := by
  show List.mapM _ _ = List.mapM _ _
  rw [List.mapM_append, List.mapM_append, List.mapM_cons, List.mapM_cons, ofJson?_eq_of_alike h]

/-- **Each spelling is read like the others.** -/
theorem Respelled.alike {shape : Shape} {v w : Json} (h : Respelled shape v w)
    (takes : Json → Bool) : Alike takes shape v w := by
  induction h with
  | refl shape v => exact .refl shape v
  | symm _ ih => exact ih.symm
  | trans _ _ first second => exact first.trans second
  | permuted h => exact alike_of_agree nofun nofun (agree_permuted h)
  | inserted h before after v => exact alike_of_agree nofun nofun (agree_inserted h before after v)
  | nullAdded h nullable before after missing =>
    exact alike_of_agree nofun nofun (agree_nullAdded h nullable before after missing)
  | listed h => exact alike_of_agree nofun nofun (agree_listed h)
  | inMember h before after _ ih =>
    exact alike_of_agree nofun nofun (agree_inMember h before after ih)
  | inItem before after h _ ih => exact alike_of_agree nofun nofun (agree_inItem before after h ih)
  | inRow before after _ ih => exact alike_inRow before after ih

end Record

namespace Interaction

open Record (Respelled)

/-- Neither interaction can be read, or both can, have the same name on them and are answered alike
whatever the limits, the source and the collector of events. -/
def AnsweredAlike (a b : Option Interaction) : Prop :=
  (a = none ∧ b = none) ∨
    ∃ i j, a = some i ∧ b = some j ∧ i.displayName = j.displayName ∧
      ∀ {σ : Type} [Roller σ] (fails : Event → Bool) (limits : Limits) (source : σ),
        i.dispatch fails limits source = j.dispatch fails limits source

theorem AnsweredAlike.refl (a : Option Interaction) : AnsweredAlike a a := by
  cases a with
  | none => exact .inl ⟨rfl, rfl⟩
  | some i => exact .inr ⟨i, i, rfl, rfl, rfl, fun _ _ _ => rfl⟩

theorem ofJson?_eq_of_respelled {v w : Json} (h : Respelled (.one .interaction) v w)
    (takes : Json → Bool) : ofJson? takes v = ofJson? takes w :=
  Record.ofJson?_eq_of_alike (h.alike takes)

theorem answeredAlike_none_iff {a : Option Interaction} : AnsweredAlike a none ↔ a = none := by
  constructor
  · rintro (⟨rfl, -⟩ | ⟨i, j, -, other, -⟩)
    · rfl
    · cases other
  · rintro rfl
    exact .refl none

/-- **The spelling of an interaction makes no difference** among JSON values and among texts.
Between a value and a text it makes none just if the value cannot be read or the values of its
options are nested no deeper than they may be in a text. -/
theorem respelled_answered_alike {v w : Json} (h : Respelled (.one .interaction) v w) :
    (∀ takes : Json → Bool, AnsweredAlike (ofJson? takes v) (ofJson? takes w)) ∧
      (∀ t u : String, Json.parse? t = some v → Json.parse? u = some w →
        AnsweredAlike (ofText? t) (ofText? u)) ∧
      ∀ u : String, Json.parse? u = some w →
        (AnsweredAlike (ofJson? (fun _ => true) v) (ofText? u) ↔
          ofJson? (fun _ => true) v = none ∨ ∀ x ∈ optionValues v, x.Within maxValueDepth) := by
  have text : ∀ {u x}, Json.parse? u = some x → ofText? u = ofJson? takesFromText x := by
    intro u x hu
    rw [ofText?, hu, Option.bind_some]
  refine ⟨fun takes => ?values, fun t u ht hu => ?texts, fun u hu => ?both⟩
  case values =>
    rw [ofJson?_eq_of_respelled h takes]
    exact .refl _
  case texts =>
    rw [text ht, text hu, ofJson?_eq_of_respelled h]
    exact .refl _
  case both =>
    -- The text is read as the value would be with the restriction on its options.
    rw [text hu, ← ofJson?_eq_of_respelled h, ofJson?_eq takesFromText, ← all_takesFromText_iff]
    cases (optionValues v).all takesFromText with
    | false => simpa using answeredAlike_none_iff
    | true => simpa using AnsweredAlike.refl _

/-- A command is written with arrays, out of order, with a member of an unknown name and with
`null` for the member who sent it. -/
theorem respelled_answered_alike_arrays :
    let input : Json := .object [(some "name", .text (some "input")),
      (some "value", .text (some "d6"))]
    let command : Json := .object [(some "name", .text (some "roll")),
      (some "options", .array [input])]
    let v : Json := .object [(some "type", .number (.ofNat 2)), (some "data", command),
      (some "user", .object [(some "username", .text (some "will"))])]
    let w : Json := .object [(some "user", .array [.text (some "will")]),
      (some "id", .array [.null]), (some "type", .number (.ofNat 2)),
      (some "data", .array [.text (some "roll"),
        .array [.array [.text (some "input"), .text (some "d6")]]]),
      (some "member", .null)]
    Respelled (.one .interaction) v w ∧ Json.parse? v.toCompact = some v ∧
      Json.parse? w.toCompact = some w ∧
      (ofText? v.toCompact).map displayName = some "will" ∧
      AnsweredAlike (ofText? v.toCompact) (ofText? w.toCompact) ∧
      (∀ x ∈ optionValues v, x.Within maxValueDepth) ∧
      AnsweredAlike (ofJson? (fun _ => true) v) (ofText? w.toCompact) := by
  intro input command v w
  have userField : ⟨"user", .one .user, .nullable⟩ ∈ Record.interaction.fields := by decide
  have dataField : ⟨"data", .one .command, .nullable⟩ ∈ Record.interaction.fields := by decide
  have memberField : ⟨"member", .one .member, .nullable⟩ ∈ Record.interaction.fields := by decide
  have optionsPlace : Record.command.fields[1]? = some ⟨"options", .row .option, .defaulted⟩ := rfl
  have user : Respelled (.one .user) (.object [(some "username", .text (some "will"))])
      (.array [.text (some "will")]) :=
    .listed ⟨by decide, by decide, by decide⟩
  have option : Respelled (.one .option) input
      (.array [.text (some "input"), .text (some "d6")]) :=
    .listed ⟨by decide, by decide, by decide⟩
  have data : Respelled (.one .command) command (.array [.text (some "roll"),
      .array [.array [.text (some "input"), .text (some "d6")]]]) :=
    .trans (.listed ⟨by decide, by decide, by decide⟩)
      (.inItem [.text (some "roll")] [] optionsPlace (.inRow [] [] option))
  have spelled : Respelled (.one .interaction) v w := by
    refine .trans (.inMember userField [_, _] [] user) ?_
    refine .trans (.inMember dataField [_] [_] data) ?_
    refine .trans (.nullAdded memberField rfl [_, _, _] [] (by decide)) ?_
    -- The account moves to the front, and an id stands behind it.
    refine .trans (.permuted (List.perm_middle : List.Perm ([_, _] ++ _ :: [_]) _)) ?_
    exact .inserted (show "id" ∉ Record.interaction.names by decide) [_] _ _
  have first : Json.parse? v.toCompact = some v :=
    Json.parse?_toCompact (by
      simp [v, command, input, Json.IsWritable, Json.ItemsAreWritable, Json.MembersAreWritable,
        Numeral.wellFormed_ofNat])
  have second : Json.parse? w.toCompact = some w :=
    Json.parse?_toCompact (by
      simp [w, Json.IsWritable, Json.ItemsAreWritable, Json.MembersAreWritable,
        Numeral.wellFormed_ofNat])
  have named : (ofText? v.toCompact).map displayName = some "will" := by
    rw [ofText?, first, Option.bind_some]
    rfl
  have flat : ∀ x ∈ optionValues v, x.Within maxValueDepth := by
    have values : optionValues v = [.text (some "d6")] := rfl
    rw [values, ← all_takesFromText_iff]
    rfl
  obtain ⟨-, texts, both⟩ := respelled_answered_alike spelled
  exact ⟨spelled, first, second, named, texts _ _ first second, flat,
    (both _ second).2 (.inr flat)⟩

end Interaction

/-! ## Values and texts apart -/

namespace Json

/-- Arrays one inside the other, `n` of them. -/
def nested : Nat → Json
  | 0 => .null
  | n + 1 => .array [nested n]

variable (n : Nat)

theorem depth_nested : (nested n).depth = n := by
  induction n with
  | zero => rfl
  | succ n ih => simp [nested, depth, depthOfItems, ih]

theorem isSound_nested : (nested n).isSound = true := by
  induction n with
  | zero => rfl
  | succ n ih => simp [nested, isSound, itemsAreSound, ih]

theorem isWritable_nested : (nested n).IsWritable := by
  induction n with
  | zero => trivial
  | succ n ih => simp [nested, IsWritable, ItemsAreWritable, ih]

end Json

namespace Interaction

open Record (Respelled)

/-- An option with a value that is nested one level too deep is taken, but not from a text. -/
theorem nested_option_told_apart :
    let input : Json := .object [(some "name", .text (some "input")),
      (some "value", .nested 124)]
    let command : Json := .object [(some "name", .text (some "roll")),
      (some "options", .array [input])]
    let v : Json := .object [(some "type", .number (.ofNat 2)), (some "data", command)]
    let w : Json := .object [(some "data", command), (some "type", .number (.ofNat 2))]
    Respelled (.one .interaction) v w ∧ v.isSound = true ∧ Json.parse? w.toCompact = some w ∧
      (ofJson? (fun _ => true) v).isSome = true ∧ ofText? w.toCompact = none ∧
      ¬AnsweredAlike (ofJson? (fun _ => true) v) (ofText? w.toCompact) := by
  intro input command v w
  have sound : v.isSound = true := by
    simp [v, command, input, Json.isSound, Json.itemsAreSound, Json.membersAreSound,
      Json.isSound_nested]
    decide
  have parsed : Json.parse? w.toCompact = some w :=
    Json.parse?_toCompact (by
      simp [w, command, input, Json.IsWritable, Json.ItemsAreWritable, Json.MembersAreWritable,
        Json.isWritable_nested, Numeral.wellFormed_ofNat])
  have taken : (ofJson? (fun _ => true) v).isSome = true := rfl
  have refused : ofText? w.toCompact = none := by
    have values : optionValues w = [.nested 124] := rfl
    rw [ofText?, parsed, Option.bind_some, ofJson?_eq, values, if_neg]
    rw [all_takesFromText_iff]
    intro within
    have deep := (within _ List.mem_cons_self).2
    rw [Json.depth_nested] at deep
    exact absurd deep (by decide)
  refine ⟨.permuted (.swap _ _ _), sound, parsed, taken, refused, ?_⟩
  rw [refused, answeredAlike_none_iff]
  intro none
  rw [none] at taken
  cases taken

end Interaction

end ChatDice
