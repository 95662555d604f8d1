import ChatDice.Dice.Outcome
import ChatDice.Log.Basic

/-!
# Transcripts

A transcript shows an outcome line by line: every draw, the sums that are more than a single draw,
the value that counts and the total. A style says how values are set off from the words around them.
A transcript that is longer than its limit gives way to a summary of one line, which may itself be
longer than the limit.
-/

namespace ChatDice

/-- How values stand out in a transcript. -/
structure Style where
  mark : String → String
  /-- Sets off a value drawn from a die. -/
  markDraw : Die → UInt32 → String

namespace Style

/-- The style that sets off every value alike. -/
def uniform (mark : String → String) : Style where
  mark := mark
  markDraw _ value := mark value.toNat.repr

/-- The style of plain text, in which nothing is set off. -/
def plain : Style := uniform id

/-- The style that puts every value between two texts. -/
def brackets (opening closing : String) : Style := uniform fun text => opening ++ text ++ closing

def codeSpan (text : String) : String := "`" ++ text ++ "`"

def bold (text : String) : String := "**" ++ text ++ "**"

/-- The style of chats: values are spans of code, and a draw of one or of the last side is bold. -/
def markdown : Style where
  mark := codeSpan
  markDraw die value :=
    if value = 1 ∨ value = die.sides then bold (codeSpan value.toNat.repr)
    else codeSpan value.toNat.repr

end Style

namespace Throw

def drawLine (style : Style) (die : Die) (value : UInt32) : String :=
  "Rolling a " ++ style.mark die.name ++ "... " ++ style.markDraw die value ++ "!"

def sumLine (style : Style) (t : Throw) : String :=
  "That's " ++ style.mark (Text.decimal t.sum) ++ "!"

/-- The line that shows the sum with the modifier `m`. -/
def modifierLine (style : Style) (t : Throw) (m : Int64) : String :=
  "With " ++ style.mark (Text.signed m) ++ " that's " ++ style.mark (Text.decimal t.total) ++ "!"

/-- The lines for one dice expression. The sum is shown if the expression asks for more than one
die, and the sum with the modifier if it has one. -/
def lines (style : Style) (t : Throw) : List String :=
  t.draws.map (drawLine style t.spec.die) ++
    ((if 1 < t.spec.count then [t.sumLine style] else []) ++
      (t.spec.modifier.map (t.modifierLine style)).toList)

end Throw

namespace Trial

/-- The line that shows a draw from the cursed die. -/
def cursedLine (style : Style) (value : UInt32) (again : Bool) : String :=
  "Rolling " ++ (if again then "another" else "a") ++ " CURSED d6... " ++
    style.mark value.toNat.repr ++ "!"

/-- The line that shows the value of a trial with several dice expressions. -/
def allLine (style : Style) (t : Trial) : String :=
  "All together that's " ++ style.mark (Text.decimal t.total) ++ "!"

/-- The line between a trial and its replay. -/
def againLine : String := "Rolling again..."

/-- The lines for one trial, which is the first one or comes `again`. -/
def lines (style : Style) (t : Trial) (again : Bool) : List String :=
  match t with
  | cursed value => [cursedLine style value again]
  | dice throws =>
    (if again && 0 < t.drawCount then [againLine] else []) ++
      (throws.flatMap (Throw.lines style) ++
        if 1 < throws.length then [t.allLine style] else [])

end Trial

namespace Outcome

/-- The line that shows the value that counts after a replay. -/
def pickLine (style : Style) (o : Outcome) : String :=
  o.advantage.caption ++ ": " ++ style.mark (Text.decimal o.rollTotal)

def totalLine (style : Style) (o : Outcome) : String :=
  (if o.modifier.isSome then "With modifier" else "Total") ++ ": " ++
    style.mark (Text.decimal o.total)

/-- The lines of the transcript. -/
def lines (style : Style) (o : Outcome) : List String :=
  o.first.lines style false ++
    ((match o.replay with
      | some replay => replay.lines style true ++ [o.pickLine style]
      | none => []) ++ [o.totalLine style])

def transcript (style : Style) (o : Outcome) : String := "\n".intercalate (o.lines style)

/-- The line that takes the place of a transcript that is too long. -/
def summary (style : Style) (o : Outcome) : String :=
  "There's too much text to fit into one message, but " ++
    (match o.advantage with
      | .advantage => "with advantage "
      | .disadvantage => "with disadvantage "
      | .straight => "") ++
    "the total " ++ (if o.modifier.isSome then "with modifier " else "") ++ "is " ++
    style.mark (Text.decimal o.total)

/-- The transcript, or the summary if the transcript has more than `limit` characters. -/
def render (style : Style) (o : Outcome) (limit : Nat) : Logged String := do
  let text := o.transcript style
  if limit < text.length then
    Logged.emit (.summarized text.length limit)
    return o.summary style
  else return text

theorem value_render (style : Style) (o : Outcome) (limit : Nat) :
    (o.render style limit).value =
      if limit < (o.transcript style).length then o.summary style else o.transcript style := by
  simp only [render]
  split <;> simp

end Outcome

end ChatDice
