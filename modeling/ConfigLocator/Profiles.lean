import ConfigLocator.Text.Quoted
import ConfigLocator.Text.Blank

/-!
# Profiles

An ordered selection of profile names: each accepted name stands once, without white space around
it, in the order of its first mention.
-/

namespace ConfigLocator

structure Profiles where
  accepted : List Text
deriving DecidableEq, Repr

namespace Profiles

/-- The names so far, and the stripped name behind them unless it is blank or among them. -/
def accept (accepted : List Text) (name : Text) : List Text :=
  let name := name.strip
  if name.isEmpty || accepted.contains name then accepted else accepted ++ [name]

def ofNames (names : List Text) : Profiles := ⟨names.foldl accept []⟩

/-- Names with commas between them. -/
def ofText (t : Text) : Profiles := ofNames (Text.split ',' t)

def size (p : Profiles) : Nat := p.accepted.length

/-- The form in which a listing shows the selection. -/
def display (p : Profiles) : Text :=
  "Profiles([" ++ Text.join ", " (p.accepted.map Text.quoted) ++ "])"

end Profiles

end ConfigLocator
