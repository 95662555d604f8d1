import ChatDice.Console.Run
import ChatDice.Proofs.Json.RoundTrip

/-!
# Responses on the wire

**Theorem (`Response.parse?_toJson`).** A response arrives as it was sent: both written forms of it
are read as one and the same object, which has the kind of the response and, just if the response is
a message, the content of the message with every character in its place.

This is the round trip of JSON values for the values that are sent. Interactions are dispatched to
such responses, whatever their input and the name on them, and the console can print them for its
lines.
-/

namespace ChatDice

namespace Response

/-- The value is an object without repeated keys that has the kind of the response and, just if the
response has a content, a member with that content alone. -/
def IsConveyedBy (r : Response) (v : Json) : Prop :=
  ∃ members, v = .object members ∧ (members.map Prod.fst).Nodup ∧
    members.lookup (some "type") = some (.number (.ofNat r.kind)) ∧
    members.lookup (some "data") =
      r.content?.map fun content => .object [(some "content", .text (some content))]

theorem isConveyedBy_toJson (r : Response) : r.IsConveyedBy r.toJson := by
  cases r with
  | pong =>
    have keys : [some "type"].Nodup := by decide
    exact ⟨_, rfl, keys, rfl, rfl⟩
  | message content =>
    have keys : [some "type", some "data"].Nodup := by decide
    exact ⟨_, rfl, keys, rfl, rfl⟩

/-- The only number that is sent is that of the kind. -/
theorem isWritable_toJson (r : Response) : r.toJson.IsWritable := by
  cases r with
  | pong => exact ⟨Numeral.wellFormed_ofNat 1, trivial⟩
  | message content => exact ⟨Numeral.wellFormed_ofNat 4, ⟨trivial, trivial⟩, trivial⟩

end Response

namespace Console

variable {σ : Type} [Roller σ]

/-- In the form of JSON values a line is answered with what a chat would be sent. -/
theorem answer_json (options : Options) (line : String) (source : σ)
    (h : line.toList.all Text.isBlank = false) :
    (answer { options with format := .json } line source).1 =
      { out := (Response.message (reply options line source).1).toJson.toPretty ++ "\n" } := by
  rw [answer, if_neg (by simp [h])]
  rfl

end Console

/-- **A response arrives as it was sent.** Both written forms of a response are read as the same
value, which conveys the response. So does what the console prints for a line that is not blank. -/
theorem Response.parse?_toJson {σ : Type} [Roller σ] :
    (∀ r : Response, ∃ v, Json.parse? r.toJson.toCompact = some v ∧
      Json.parse? r.toJson.toPretty = some v ∧ r.IsConveyedBy v) ∧
    ∀ (options : Console.Options) (line : String) (source : σ),
      line.toList.all Text.isBlank = false →
      ∃ text v, (Console.answer { options with format := .json } line source).1 =
          { out := text ++ "\n" } ∧
        Json.parse? text = some v ∧
        (Response.message (Console.reply options line source).1).IsConveyedBy v := by
  constructor
  · intro r
    exact ⟨r.toJson, Json.parse?_toCompact r.isWritable_toJson,
      Json.parse?_toPretty r.isWritable_toJson, r.isConveyedBy_toJson⟩
  · intro options line source h
    let r := Response.message (Console.reply options line source).1
    exact ⟨r.toJson.toPretty, r.toJson, Console.answer_json options line source h,
      Json.parse?_toPretty r.isWritable_toJson, r.isConveyedBy_toJson⟩

/-- A modifier that is no number is echoed. Its quote and its backslash arrive. -/
theorem Response.parse?_toJson_malformed :
    let line := "d6 +\"\\"
    let content := "Input Error: Expected modifier to be a number. Got '\"\\'."
    let source := Steps.startingAt 4 1
    line.toList.all Text.isBlank = false ∧ (Console.reply {} line source).1 = content ∧
      ∃ text v, (Console.answer { format := .json } line source).1 = { out := text ++ "\n" } ∧
        Json.parse? text = some v ∧ (Response.message content).IsConveyedBy v := by
  intro line content source
  have letters : line.toList.all Text.isBlank = false := by decide +kernel
  have replied : (Console.reply {} line source).1 = content := by decide +kernel
  obtain ⟨text, v, out, read, conveyed⟩ := parse?_toJson.2 {} line source letters
  rw [replied] at conveyed
  exact ⟨letters, replied, text, v, out, read, conveyed⟩

end ChatDice
