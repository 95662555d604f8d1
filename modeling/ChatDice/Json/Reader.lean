import ChatDice.Json.Basic
import ChatDice.Json.Lexeme

/-!
# Reading JSON

The reader takes one lexeme after the other and keeps the arrays and objects that are still open. So
values may be nested as deep as the text is long.
-/

namespace ChatDice

/-- An array or object that is still open, with what it has so far, latest first. -/
inductive Frame
  | array (items : List Json)
  /-- An object whose last key still lacks its value. -/
  | object (members : List (Option String × Json)) (key : Option String)

/-- What a reader waits for, inside the open arrays and objects, innermost first. -/
inductive Reader
  | value (frames : List Frame)
  /-- The first item of an array, or its end. -/
  | firstItem (frames : List Frame)
  /-- The first key of an object, or its end. -/
  | firstKey (frames : List Frame)
  | key (members : List (Option String × Json)) (frames : List Frame)
  | colon (members : List (Option String × Json)) (key : Option String) (frames : List Frame)
  /-- What comes after a complete value. -/
  | after (value : Json) (frames : List Frame)

namespace Reader

/-- Takes the first lexeme of a value. -/
def begin? (frames : List Frame) : Lexeme → Option Reader
  | .beginArray => some (firstItem frames)
  | .beginObject => some (firstKey frames)
  | .null => some (after .null frames)
  | .bool b => some (after (.bool b) frames)
  | .number n => some (after (.number n) frames)
  | .text content => some (after (.text content) frames)
  | _ => none

def step (r : Reader) (lexeme : Lexeme) : Option Reader :=
  match r, lexeme with
  | value frames, lexeme => begin? frames lexeme
  | firstItem frames, .endArray => some (after (.array []) frames)
  | firstItem frames, lexeme => begin? (.array [] :: frames) lexeme
  | firstKey frames, .endObject => some (after (.object []) frames)
  | firstKey frames, .text content => some (colon [] content frames)
  | key members frames, .text content => some (colon members content frames)
  | colon members k frames, .colon => some (value (.object members k :: frames))
  | after v (.array items :: frames), .comma => some (value (.array (v :: items) :: frames))
  | after v (.array items :: frames), .endArray =>
    some (after (.array (v :: items).reverse) frames)
  | after v (.object members k :: frames), .comma => some (key ((k, v) :: members) frames)
  | after v (.object members k :: frames), .endObject =>
    some (after (.object ((k, v) :: members).reverse) frames)
  | _, _ => none

/-- The value that was read, if it is complete. -/
def finish? : Reader → Option Json
  | after v [] => some v
  | _ => none

def read (r : Reader) (lexemes : List Lexeme) : Option Reader := lexemes.foldlM step r

end Reader

namespace Json

/-- The value whose lexemes are given. -/
def ofLexemes? (lexemes : List Lexeme) : Option Json :=
  ((Reader.value []).read lexemes).bind Reader.finish?

/-- Reads the whole of a text as one value. -/
def parse? (text : String) : Option Json :=
  (Lexeme.ofText? text.toList).bind ofLexemes?

end Json

end ChatDice
