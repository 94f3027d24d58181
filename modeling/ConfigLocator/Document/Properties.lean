import ConfigLocator.Fault
import ConfigLocator.Number.Numeral
import ConfigLocator.PropertyMap

/-!
# Properties text

A properties text has one entry a line: a key, then `=`, `:` or white space, then a value. A line
whose last backslash is not itself escaped goes on in the next one (`logicalLines`), blank lines and
lines that start with `#` or `!` say nothing, and a backslash in a key or value takes away the
meaning of the character behind it or writes a character by its code (`unescape`).

`Properties.read` gives the entries of a text, a later one over an earlier one of the same key.
-/

namespace ConfigLocator

namespace Properties

def carriageReturn : Nat := '\r'

/-! ## Lines -/

def isLineBreak (c : Nat) : Bool :=
  (0x0A ≤ c && c ≤ 0x0D) || (0x1C ≤ c && c ≤ 0x1E) || c == 0x85 || c == 0x2028 || c == 0x2029

/-- Lines without their ends; a carriage return and the line feed behind it are one line end. -/
def lines : Text → List Text
  | [] => []
  | c :: rest =>
    if c = carriageReturn ∧ rest.head? = some 0x0A then lines rest
    else if isLineBreak c then [] :: lines rest
    else Text.consFirst c (lines rest)

/-- The number of backslashes at the end. -/
def finalBackslashes (line : Text) : Nat := (line.reverse.takeWhile (· == backslash)).length

def isContinued (line : Text) : Bool := finalBackslashes line % 2 == 1

def isComment (line : Text) : Bool :=
  match line with
  | [] => true
  | c :: _ => c == '#' || c == '!'

/-- Lines joined where they are continued, to which `pending` holds what came before. White space at
the start of a line is dropped. -/
def joinLines : (pending : Option Text) → List Text → List Text
  | none, [] => []
  | some line, [] => [line]
  | pending, line :: rest =>
    let line := Text.trimStart isBlank line
    if pending.isNone && isComment line then joinLines none rest
    else if isContinued line then joinLines (some (pending.getD [] ++ line.dropLast)) rest
    else (pending.getD [] ++ line) :: joinLines none rest

def logicalLines (t : Text) : List Text := joinLines none (lines t)

/-! ## Entries -/

def isGap (c : Nat) : Bool := c == ' ' || c == '\t' || c == 0x0C

def isSeparator (c : Nat) : Bool := c == '=' || c == ':' || isGap c

/-- The length of the key: up to the first separator that no backslash stands before. -/
def keyLength : Text → Nat
  | [] => 0
  | [c] => if isSeparator c then 0 else 1
  | c :: d :: rest =>
    if c = backslash then keyLength rest + 2
    else if isSeparator c then 0
    else keyLength (d :: rest) + 1

/-- The value behind a key: a gap, one `=` or `:`, and another gap do not belong to it. -/
def valueAfter (t : Text) : Text :=
  match Text.trimStart isGap t with
  | [] => []
  | c :: rest => if c = '=' ∨ c = ':' then Text.trimStart isGap rest else c :: rest

/-- Key and value as they are written. -/
def splitEntry (line : Text) : Text × Text :=
  (line.take (keyLength line), valueAfter (line.drop (keyLength line)))

/-! ## Escapes -/

def codeBase : Nat := 16

def escaped (c : Nat) : Nat :=
  if c = 't' then '\t'
  else if c = 'n' then '\n'
  else if c = 'r' then '\r'
  else if c = 'f' then 0x0C
  else c

/-- The character whose code is written. -/
def characterOf (code : Text) : Except ScalarFault Nat :=
  match Numeral.read? codeBase code with
  | none => .error (.numeral codeBase code)
  | some n => if n < 0 then .error .codePointRange else .ok n.toNat

/-- A character code has four digits; with fewer behind it, `u` stands for itself. -/
def unescape : Text → Except ScalarFault Text
  | [] => .ok []
  | [c] => .ok [c]
  | c :: d :: rest =>
    if c ≠ backslash then do return c :: (← unescape (d :: rest))
    else
      match rest with
      | w :: x :: y :: z :: after =>
        if d = 'u' then do
          let char ← characterOf [w, x, y, z]
          return char :: (← unescape after)
        else do return escaped d :: (← unescape (w :: x :: y :: z :: after))
      | rest => do return escaped d :: (← unescape rest)

/-- The value is read before the key. -/
def readEntry (line : Text) : Except ScalarFault (Text × Text) := do
  let (key, value) := splitEntry line
  let value ← unescape value
  return (← unescape key, value)

def read (t : Text) : Except Fault PropertyMap :=
  match (logicalLines t).mapM readEntry with
  | .ok entries => .ok (entries.foldl (fun bound (k, v) => bound.bind k (.text v)) [])
  | .error fault => .error (.scalar fault)

end Properties

end ConfigLocator
