import ChatDice.Text.Combining
import ChatDice.Text.Unprintable

/-!
# Quoted texts

A text between double quotes in which every character can be seen: the quote and the backslash are
written with a backslash before them, the usual controls by their letters, and a character that has
no look of its own or joins the one before it by its code point. The apostrophe stays as it is.
-/

namespace ChatDice.Text

/-- A character spelled by its code point in hexadecimal digits. -/
def spelledOut (c : Char) : List Char :=
  ['\\', 'u', '\x7b'] ++ Nat.toDigits 16 c.toNat ++ ['\x7d']

/-- A character as it stands in a quoted text. -/
def shown (c : Char) : List Char :=
  match c with
  | '\x00' => ['\\', '0']
  | '\t' => ['\\', 't']
  | '\r' => ['\\', 'r']
  | '\n' => ['\\', 'n']
  | '"' => ['\\', '"']
  | '\\' => ['\\', '\\']
  | c => if isCombining c || isUnprintable c then spelledOut c else [c]

/-- A text in double quotes, with every character in it shown. -/
def quoted (text : String) : String :=
  String.ofList ('"' :: text.toList.flatMap shown ++ ['"'])

end ChatDice.Text
