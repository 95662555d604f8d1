import ChatDice.Json.Numeral

/-!
# The lexemes of a JSON text

A text is read character by character. The scanner keeps what it has seen of the lexeme it is in; a
bare word ends where a blank, a quote or a mark of punctuation follows. Main statement:
`scan_append` — scanning one text after another is going on with the scanner that the first text
leaves.
-/

namespace ChatDice

/-- The smallest part of a JSON text that means something. -/
inductive Lexeme
  | beginArray
  | endArray
  | beginObject
  | endObject
  | comma
  | colon
  | null
  | bool (b : Bool)
  | number (n : Numeral)
  /-- A text in quotes; `none` if it has half a surrogate pair. -/
  | text (content : Option String)
deriving DecidableEq

/-- A part of a text in quotes. -/
inductive Piece
  | char (c : Char)
  /-- One half of a surrogate pair. -/
  | half (code : Nat)
deriving DecidableEq

namespace Piece

/-- The piece that a code of 16 bits stands for. -/
def ofCode (code : Nat) : Piece :=
  if 0xD800 ≤ code ∧ code ≤ 0xDFFF then half code else char (Char.ofNat code)

/-- Adds a piece to those seen, latest first. A low half right after a high half makes a character.
-/
def onto (piece : Piece) (seen : List Piece) : List Piece :=
  match piece, seen with
  | half low, half high :: earlier =>
    if high ≤ 0xDBFF ∧ 0xDC00 ≤ low then
      char (Char.ofNat (0x10000 + (high - 0xD800) * 0x400 + (low - 0xDC00))) :: earlier
    else half low :: half high :: earlier
  | piece, seen => piece :: seen

/-- Puts a character in front of a text; half a surrogate pair goes into no text. -/
def before (content : List Char) : Piece → Option (List Char)
  | char c => some (c :: content)
  | half _ => none

/-- The text that the pieces seen make up, latest first. -/
def content? (seen : List Piece) : Option String :=
  (seen.foldlM before []).map String.ofList

end Piece

/-- Where a scanner stands. -/
inductive Place
  | between
  /-- In a bare word, with its characters so far, latest first. -/
  | word (seen : List Char)
  /-- In a text in quotes, with its pieces so far, latest first. -/
  | quoted (seen : List Piece)
  /-- After a backslash in a text in quotes. -/
  | escape (seen : List Piece)
  /-- In a code of which so many digits are missing after the next one. -/
  | code (seen : List Piece) (missing : Nat) (value : Nat)

/-- What a scanner has seen. -/
structure Scanner where
  /-- The lexemes so far, latest first. -/
  done : List Lexeme := []
  place : Place := .between

namespace Lexeme

/-- Whether `c` may stand between lexemes. -/
def isSpace (c : Char) : Bool := c == ' ' || c == '\t' || c == '\n' || c == '\r'

/-- The mark of punctuation that `c` is. -/
def punctuation? (c : Char) : Option Lexeme :=
  match c with
  | '[' => some beginArray
  | ']' => some endArray
  | '\x7b' => some beginObject
  | '\x7d' => some endObject
  | ',' => some comma
  | ':' => some colon
  | _ => none

/-- The lexeme that a bare word is. -/
def ofWord? (word : List Char) : Option Lexeme :=
  if word = "null".toList then some null
  else if word = "true".toList then some (bool true)
  else if word = "false".toList then some (bool false)
  else (Numeral.read? word).map number

/-- The character that a backslash and the letter `c` stand for. -/
def escaped? (c : Char) : Option Char :=
  match c with
  | '"' => some '"'
  | '\\' => some '\\'
  | '/' => some '/'
  | 'b' => some '\x08'
  | 'f' => some '\x0c'
  | 'n' => some '\n'
  | 'r' => some '\r'
  | 't' => some '\t'
  | _ => none

def hexDigit? (c : Char) : Option Nat :=
  if c.isDigit then some (c.toNat - '0'.toNat)
  else if 'a' ≤ c ∧ c ≤ 'f' then some (c.toNat - 'a'.toNat + 10)
  else if 'A' ≤ c ∧ c ≤ 'F' then some (c.toNat - 'A'.toNat + 10)
  else none

end Lexeme

namespace Scanner

open Lexeme

/-- Takes a character that stands between lexemes. -/
def enter (done : List Lexeme) (c : Char) : Scanner :=
  match punctuation? c with
  | some lexeme => { done := lexeme :: done }
  | none =>
    if isSpace c then { done }
    else if c = '"' then { done, place := .quoted [] }
    else { done, place := .word [c] }

/-- Whether a bare word ends before `c`. -/
def endsWord (c : Char) : Bool := isSpace c || c == '"' || (punctuation? c).isSome

def step (s : Scanner) (c : Char) : Option Scanner :=
  match s.place with
  | .between => some (enter s.done c)
  | .word seen =>
    if endsWord c then (ofWord? seen.reverse).map fun lexeme => enter (lexeme :: s.done) c
    else some { s with place := .word (c :: seen) }
  | .quoted seen =>
    if c = '"' then some { done := .text (Piece.content? seen) :: s.done }
    else if c = '\\' then some { s with place := .escape seen }
    else if c.toNat < 0x20 then none
    else some { s with place := .quoted (Piece.onto (.char c) seen) }
  | .escape seen =>
    if c = 'u' then some { s with place := .code seen 3 0 }
    else (escaped? c).map fun d => { s with place := .quoted (Piece.onto (.char d) seen) }
  | .code seen missing value =>
    (hexDigit? c).map fun digit =>
      match missing with
      | 0 => { s with place := .quoted (Piece.onto (.ofCode (value * 16 + digit)) seen) }
      | missing + 1 => { s with place := .code seen missing (value * 16 + digit) }

/-- The lexemes, if the text may end here. -/
def finish? (s : Scanner) : Option (List Lexeme) :=
  match s.place with
  | .between => some s.done.reverse
  | .word seen => (ofWord? seen.reverse).map fun lexeme => (lexeme :: s.done).reverse
  | _ => none

/-- Takes all characters of a text. -/
def scan (s : Scanner) (cs : List Char) : Option Scanner := cs.foldlM step s

theorem scan_append (s : Scanner) (a b : List Char) :
    s.scan (a ++ b) = (s.scan a).bind fun t => t.scan b := by
  simp [scan, List.foldlM_append]

end Scanner

def Lexeme.ofText? (cs : List Char) : Option (List Lexeme) :=
  (Scanner.scan {} cs).bind Scanner.finish?

end ChatDice
