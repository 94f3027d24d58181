import ConfigLocator.Calendar
import ConfigLocator.Number.Binary64
import ConfigLocator.Text.Quoted

/-!
# Values

What a configuration property, a key of a document or a setting can hold. `same` is equality of
values across kinds (`true`, `1` and `1.0` are one value), which decides when two keys are one;
`toText` is the plain text of a value, `literal` its quoted form inside a listing.
-/

namespace ConfigLocator

inductive Value where
  | null
  | bool (b : Bool)
  | int (n : Int)
  | float (x : Binary64)
  | text (t : Text)
  | bytes (content : List UInt8)
  | date (d : Date)
  | moment (m : Moment)
  | list (items : List Value)
  | tuple (items : List Value)
  | set (items : List Value)
  | map (entries : List (Value × Value))

instance : Inhabited Value := ⟨.null⟩

namespace Value

/-! ## Kinds -/

def kindName : Value → Text
  | null => "NoneType"
  | bool _ => "bool"
  | int _ => "int"
  | float _ => "float"
  | text _ => "str"
  | bytes _ => "bytes"
  | date _ => "date"
  | moment _ => "datetime"
  | list _ => "list"
  | tuple _ => "tuple"
  | set _ => "set"
  | map _ => "dict"

/-- Not null, false, zero or empty. -/
def isTruthy : Value → Bool
  | null => false
  | bool b => b
  | int n => n != 0
  | float x => !x.isZero
  | text t => !t.isEmpty
  | bytes content => !content.isEmpty
  | date _ | moment _ => true
  | list items | tuple items | set items => !items.isEmpty
  | map entries => !entries.isEmpty

mutual

/-- Fit to be a key: no list, set or map, nor a tuple with one inside. -/
def isKey : Value → Bool
  | list _ | set _ | map _ => false
  | tuple items => areKeys items
  | _ => true

def areKeys : List Value → Bool
  | [] => true
  | v :: rest => isKey v && areKeys rest

end

/-! ## Equality -/

/-- The whole number that a Boolean or integer stands for. -/
def integer? : Value → Option Int
  | bool b => some (if b then 1 else 0)
  | int n => some n
  | _ => none

mutual

def same : Value → Value → Bool
  | null, null => true
  | text a, text b => a == b
  | bytes a, bytes b => a == b
  | date a, date b => a == b
  | moment a, moment b => a.same b
  | list as, list bs => sameItems as bs
  | tuple as, tuple bs => sameItems as bs
  | float x, float y => x.same y
  | float x, b =>
    match b.integer? with
    | some n => x.sameAsInt n
    | none => false
  | a, float y =>
    match a.integer? with
    | some n => y.sameAsInt n
    | none => false
  | a, b =>
    match a.integer?, b.integer? with
    | some m, some n => m == n
    | _, _ => false

def sameItems : List Value → List Value → Bool
  | [], [] => true
  | a :: as, b :: bs => same a b && sameItems as bs
  | _, _ => false

end

/-! ## Text -/

def byteLiteral (b : UInt8) : Text :=
  let c := b.toNat
  if c = '\'' || c = '\\' then ['\\', c]
  else if c = '\t' then "\\t"
  else if c = '\n' then "\\n"
  else if c = '\r' then "\\r"
  else if 0x20 ≤ c && c < 0x7F then [c]
  else "\\x" ++ hexPadded 2 c

/-- Items between an opening and a closing mark. -/
def bracketed (opening closing : Text) (items : List Text) : Text :=
  opening ++ Text.join ", " items ++ closing

mutual

def literal : Value → Text
  | null => "None"
  | bool b => if b then "True" else "False"
  | int n => Text.ofInt n
  | float x => x.toText
  | text t => t.quoted
  | bytes content => "b'" ++ content.flatMap byteLiteral ++ "'"
  | date d => d.toText
  | moment m => m.toText ' '
  | list items => bracketed "[" "]" (literals items)
  | tuple items =>
    match literals items with
    | [item] => "(" ++ item ++ ",)"
    | items => bracketed "(" ")" items
  | set items =>
    match literals items with
    | [] => "set()"
    | items => bracketed "\x7b" "\x7d" items
  | map entries => bracketed "\x7b" "\x7d" (entryLiterals entries)

def literals : List Value → List Text
  | [] => []
  | v :: rest => literal v :: literals rest

def entryLiterals : List (Value × Value) → List Text
  | [] => []
  | (k, v) :: rest => (literal k ++ ": " ++ literal v) :: entryLiterals rest

end

/-- As `literal`, but text stands without quotes. -/
def toText : Value → Text
  | text t => t
  | v => literal v

theorem toText_text (t : Text) : (text t).toText = t := rfl

/-! ## Maps -/

/-- Binds a key: an equal key keeps its place and takes the new value. -/
def bind (key value : Value) : List (Value × Value) → List (Value × Value)
  | [] => [(key, value)]
  | (k, v) :: rest => if k.same key then (k, value) :: rest else (k, v) :: bind key value rest

/-- The map that a sequence of bindings makes. -/
def mapOf (entries : List (Value × Value)) : Value :=
  map (entries.foldl (fun bound (k, v) => bind k v bound) [])

end Value

end ConfigLocator
