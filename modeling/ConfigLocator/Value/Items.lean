import ConfigLocator.Fault
import ConfigLocator.Value

/-!
# Items and entries of a value

What a value yields when it is gone through one by one (`Value.items?`), and when it is read as a
list of keys with their values (`Value.entries`): a map yields its own entries, anything else has to
yield pairs.
-/

namespace ConfigLocator

namespace Value

/-- A text yields its characters, and a map its keys; a number or a date has no items. -/
def items? : Value → Option (List Value)
  | text t => some (t.map fun c => text [c])
  | bytes content => some (content.map fun b => int b.toNat)
  | list items | tuple items | set items => some items
  | map entries => some (entries.map (·.1))
  | _ => none

/-- The item at an index, taken as a key with its value. -/
def pairOf (index : Nat) (v : Value) : Except Fault (Value × Value) :=
  match v.items? with
  | none => .error .notIterable
  | some [key, value] => if key.isKey then .ok (key, value) else .error .unfitKey
  | some items => .error (.pairExpected index items.length)

def pairsFrom (index : Nat) : List Value → Except Fault (List (Value × Value))
  | [] => .ok []
  | v :: rest => do
    let pair ← pairOf index v
    return pair :: (← pairsFrom (index + 1) rest)

/-- A later pair takes the place of an earlier one with an equal key. -/
def entries : Value → Except Fault (List (Value × Value))
  | map entries => .ok entries
  | v =>
    match v.items? with
    | none => .error .notIterable
    | some items => do
      return (← pairsFrom 0 items).foldl (fun bound (k, x) => bind k x bound) []

/-- The value bound to a text key. -/
def find? (key : Text) (entries : List (Value × Value)) : Option Value :=
  (entries.find? fun (k, _) => k.same (text key)).map (·.2)

/-- The entries without a text key. -/
def without (key : Text) (entries : List (Value × Value)) : List (Value × Value) :=
  entries.filter fun (k, _) => !k.same (text key)

end Value

end ConfigLocator
