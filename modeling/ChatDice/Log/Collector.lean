/-!
# Setting up the log

A program has one collector of events. It is set once.
-/

namespace ChatDice

/-- Why a collector is not set. -/
inductive CollectorError
  | alreadySet
deriving DecidableEq

def CollectorError.message : CollectorError → String
  | alreadySet => "tracing subscriber already initialized"

/-- Sets the collector of a program: whether one is set before, and whether one is set after. -/
def setCollector (isSet : Bool) : Except CollectorError Bool :=
  if isSet then .error .alreadySet else .ok true

end ChatDice
