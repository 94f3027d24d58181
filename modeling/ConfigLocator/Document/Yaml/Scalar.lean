import ConfigLocator.Document.Yaml.Tag
import ConfigLocator.Fault
import ConfigLocator.Text.Base64
import ConfigLocator.Text.Case
import ConfigLocator.Value

/-!
# Scalars

The value that a text has under a tag (`Tag.read`): whole and decimal numbers, also in base sixty
with `:` between the digits, Booleans, bytes in base 64, dates and times.
-/

namespace ConfigLocator

namespace Yaml

/-! ## Numbers -/

/-- The most digits that a decimal numeral may have. -/
def maxDigits : Nat := 4300

/-- The number of digits before anything else in a numeral. -/
def leadingDigits (t : Text) : Nat :=
  ((Numeral.sign (Text.trimStart isBlank t)).2.takeWhile fun c => (decimalDigit? c).isSome).length

def readNumeral (base : Nat) (t : Text) : Except ScalarFault Int :=
  if base = 10 ∧ maxDigits < leadingDigits t then .error (.longNumeral (leadingDigits t))
  else
    match Numeral.read? base t with
    | some n => .ok n
    | none => .error (.numeral base t)

/-- Underscores do not count. -/
def withoutGaps (t : Text) : Text := t.filter (· != '_')

/-- A number whose first digit says what base it is in. -/
def readMagnitude (t : Text) : Except ScalarFault Int :=
  if t = ("0" : Text) then .ok 0
  else if Text.startsWith t "0b" then readNumeral 2 (t.drop 2)
  else if Text.startsWith t "0x" then readNumeral 16 (t.drop 2)
  else
    match t with
    | [] => .error .emptyNumeral
    | c :: _ =>
      if c = '0' then readNumeral 8 t
      else if t.contains ':' then do
        return (← (Text.split ':' t).mapM (readNumeral 10)).foldl (fun n digit => n * 60 + digit) 0
      else readNumeral 10 t

def readInt (t : Text) : Except ScalarFault Int :=
  match withoutGaps t with
  | [] => .error .emptyNumeral
  | t => do
    let (negative, body) := Numeral.sign t
    let n ← readMagnitude body
    return if negative then -n else n

def readDecimal (t : Text) : Except ScalarFault Binary64 :=
  match Binary64.read? t with
  | some x => .ok x
  | none => .error (.decimal t)

/-- Adds digits in base sixty, the lowest first, from a place on. -/
def addPlaces : (place : Nat) → (sum : Binary64) → List Binary64 → Except ScalarFault Binary64
  | _, sum, [] => .ok sum
  | place, sum, digit :: rest =>
    match (Binary64.ofNat? (Nat.pow 60 place)).bind Binary64.ratio? with
    | some (num, den) => addPlaces (place + 1) (sum.add (digit.scale (num.natAbs / den))) rest
    | none => .error .outOfRange

def readFloat (t : Text) : Except ScalarFault Binary64 :=
  match (withoutGaps t).lower with
  | [] => .error .emptyNumeral
  | t => do
    let (negative, body) := Numeral.sign t
    let x ←
      if body = (".inf" : Text) then .ok (.infinite false)
      else if body = (".nan" : Text) then .ok .nan
      else if body.contains ':' then do
        addPlaces 0 .zero (← (Text.split ':' body).mapM readDecimal).reverse
      else readDecimal body
    return if negative then x.neg else x

/-! ## Booleans -/

def truthWords : List (Text × Bool) :=
  [("yes", true), ("no", false), ("true", true), ("false", false), ("on", true), ("off", false)]

def readBool (t : Text) : Except ScalarFault Bool :=
  match truthWords.lookup t.lower with
  | some b => .ok b
  | none => .error .notBoolean

/-! ## Dates and times -/

def isSpaceOrTab (c : Nat) : Bool := c == ' ' || c == '\t'

def natOfDigits (digits : Text) : Nat := digits.foldl (fun n c => n * 10 + (c - 0x30)) 0

/-- A number of so many digits, and what follows it. -/
def number? (least most : Nat) (t : Text) : Option (Nat × Text) :=
  let digits := (t.take most).takeWhile Text.isAsciiDigit
  if digits.length < least then none else some (natOfDigits digits, t.drop digits.length)

/-- What follows a character. -/
def behind? (c : Char) : Text → Option Text
  | d :: rest => if d = c then some rest else none
  | [] => none

/-- What follows the separator of date and time: a `T` or blanks. -/
def behindSeparator? : Text → Option Text
  | c :: rest =>
    if c = 'T' ∨ c = 't' then some rest
    else if isSpaceOrTab c then some (Text.trimStart isSpaceOrTab rest)
    else none
  | [] => none

def microsecondDigits : Nat := 6

/-- Microseconds from the digits behind a point; digits beyond the sixth do not count. -/
def fraction (t : Text) : Nat × Text :=
  match t with
  | c :: rest =>
    if c = '.' then
      let digits := rest.takeWhile Text.isAsciiDigit
      let shown := digits.take microsecondDigits
      (natOfDigits shown * Nat.pow 10 (microsecondDigits - shown.length), rest.drop digits.length)
    else (0, t)
  | [] => (0, [])

/-- Seconds east of universal time, none if no zone is given. -/
def zone? (t : Text) : Option (Option Int) :=
  if t.isEmpty then some none
  else
    match Text.trimStart isSpaceOrTab t with
    | [] => none
    | c :: rest =>
      if c = 'Z' ∧ rest.isEmpty then some (some 0)
      else if c = '+' ∨ c = '-' then do
        let (hours, rest) ← number? 1 2 rest
        let minutes ←
          if rest.isEmpty then some 0
          else do
            let (minutes, rest) ← number? 2 2 (← behind? ':' rest)
            if rest.isEmpty then some minutes else none
        let seconds : Int := (hours * 60 + minutes) * 60
        some (some (if c = '-' then -seconds else seconds))
      else none

/-- The fields of a time stamp, which may lie outside the calendar. -/
structure Stamp where
  year : Nat
  month : Nat
  day : Nat
  /-- Hour, minute, second, microsecond and offset. -/
  time : Option (Nat × Nat × Nat × Nat × Option Int)

def stamp? (t : Text) : Option Stamp := do
  let (year, t) ← number? 4 4 t
  let (month, t) ← number? 1 2 (← behind? '-' t)
  let (day, t) ← number? 1 2 (← behind? '-' t)
  if t.isEmpty then some ⟨year, month, day, none⟩
  else do
    let (hour, t) ← number? 1 2 (← behindSeparator? t)
    let (minute, t) ← number? 2 2 (← behind? ':' t)
    let (second, t) ← number? 2 2 (← behind? ':' t)
    let (microsecond, t) := fraction t
    let offset ← zone? t
    some ⟨year, month, day, some (hour, minute, second, microsecond, offset)⟩

def calendar {α : Type} : Except CalendarFault α → Except ScalarFault α
  | .ok a => .ok a
  | .error fault => .error (.calendar fault)

/-- A line feed at the end does not count. -/
def readTimestamp (t : Text) : Except ScalarFault Value :=
  match stamp? (if t.getLast? = some 0x0A then t.dropLast else t) with
  | none => .error .notTimestamp
  | some ⟨year, month, day, none⟩ => do return .date (← calendar (Date.of? year month day))
  | some ⟨year, month, day, some (hour, minute, second, microsecond, offset)⟩ => do
    return .moment (← calendar (Moment.of? year month day hour minute second microsecond offset))

/-! ## Values -/

def scalar {α : Type} (make : α → Value) : Except ScalarFault α → Except Fault Value
  | .ok a => .ok (make a)
  | .error fault => .error (.scalar fault)

/-- A collection is not written as a text, and a tag that is unknown or that only keys have gives no
value. -/
def Tag.read (t : Text) : Tag → Except Fault Value
  | null => .ok .null
  | bool => scalar .bool (readBool t)
  | int => scalar .int (readInt t)
  | float => scalar .float (readFloat t)
  | binary =>
    match Base64.decode? t with
    | some content => if t.all (· < 0x80) then .ok (.bytes content) else .error .yaml
    | none => .error .yaml
  | timestamp => scalar id (readTimestamp t)
  | text => .ok (.text t)
  | _ => .error .yaml

end Yaml

end ConfigLocator
