import ConfigLocator.Fault
import ConfigLocator.Text.Case

/-!
# Log levels

The severity from which on messages are logged, as it is set by name.
-/

namespace ConfigLocator

namespace LogLevel

def unset : Nat := 0

/-- Names of the severities, with those that are kept for habit. -/
def names : List (Text × Nat) :=
  [("CRITICAL", 50), ("FATAL", 50), ("ERROR", 40), ("WARN", 30), ("WARNING", 30), ("INFO", 20),
    ("DEBUG", 10), ("NOTSET", unset)]

/-- Case and white space around a name do not matter; an empty setting leaves the level unset. -/
def read (setting : Text) : Except Fault Nat :=
  if setting = [] then .ok unset
  else
    let name := setting.strip.upper
    match names.lookup name with
    | some level => .ok level
    | none => .error (.unknownLevel name)

end LogLevel

end ConfigLocator
