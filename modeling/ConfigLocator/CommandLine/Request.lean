import ConfigLocator.Location
import ConfigLocator.Path
import ConfigLocator.Text.Digit

/-!
# Requests

The words of a command are flags and values. A flag has several spellings; a long one may be
abbreviated as long as one flag is meant, and letters may be bundled behind one hyphen
(`CommandLine.readWord`, `CommandLine.Bundle`). `CommandLine.read` turns the words into a request.
-/

namespace ConfigLocator

namespace CommandLine

/-! ## Flags -/

inductive Flag where
  | help
  | version
  | location
  | profiles
  | names
  | properties
  | load
deriving DecidableEq, Repr

/-- How many values follow a flag. -/
inductive Arity where
  | none
  | one
  | any
  | some
deriving DecidableEq, Repr

def Flag.arity : Flag → Arity
  | help | version | load => .none
  | location | properties => .one
  | profiles => .any
  | names => .some

def spellings : List (Text × Flag) :=
  [("-h", .help), ("--help", .help), ("--version", .version), ("-v", .version), ("-l", .location),
    ("--location", .location), ("-p", .profiles), ("--profile", .profiles), ("-n", .names),
    ("--name", .names), ("-c", .properties), ("--properties", .properties), ("--load", .load)]

def hyphen : Nat := '-'

def equalsSign : Nat := '='

def space : Nat := ' '

/-! ## Words -/

/-- What is attached to a flag in the same word, directly or behind an equals sign. -/
structure Attached where
  isBehindSign : Bool
  text : Text

inductive Word where
  | value (t : Text)
  /-- A flag, whether it is spelled by one letter, and what is attached to it. -/
  | flag (flag : Flag) (isShort : Bool) (attached : Option Attached)
  /-- Neither a flag nor a value. -/
  | unknown

/-- A word refers to several flags. -/
inductive Reading where
  | word (w : Word)
  | ambiguous

/-- A text cut at its first equals sign. -/
def cutAtEquals (t : Text) : Text × Option Attached :=
  match t.dropWhile (· != equalsSign) with
  | [] => (t, none)
  | _ :: rest => (t.takeWhile (· != equalsSign), some ⟨true, rest⟩)

/-- A negative number; a line feed at its end does not count. -/
def isNumberText (t : Text) : Bool :=
  match if t.getLast? = some lineFeed then t.dropLast else t with
  | c :: rest =>
    let whole := rest.takeWhile fun d => (decimalDigit? d).isSome
    match rest.drop whole.length with
    | [] => c == hyphen && !whole.isEmpty
    | point :: fraction =>
      c == hyphen && point == Path.dot && !fraction.isEmpty &&
        fraction.all fun d => (decimalDigit? d).isSome
  | [] => false

/-- Readings of a word that is no spelling itself: the start of a long flag, possibly with a value
behind an equals sign, or a short flag with its value. -/
def abbreviations (t : Text) : List Word :=
  if Text.startsWith t [hyphen, hyphen] then
    let (start, attached) := cutAtEquals t
    (spellings.filter fun (s, _) => Text.startsWith s start).map fun (_, f) =>
      .flag f false attached
  else
    (spellings.filter fun (s, _) => s == t.take 2 || Text.startsWith s t).map fun (s, f) =>
      if s = t.take 2 then .flag f true (some ⟨false, t.drop 2⟩) else .flag f false none

def isShortSpelling (t : Text) : Bool := t.length == 2

/-- A flag spelled in full, with a value behind an equals sign or without. -/
def spelledFlag? (t : Text) : Option Word :=
  match spellings.lookup t with
  | some f => some (.flag f (isShortSpelling t) none)
  | none =>
    match cutAtEquals t with
    | (_, none) => none
    | (start, attached) => (spellings.lookup start).map (.flag · (isShortSpelling start) attached)

/-- A word that starts with a hyphen is a flag, unless it is a single hyphen, a number, or unknown
and with a space in it. -/
def readWord (t : Text) : Reading :=
  if t.head? != some hyphen then .word (.value t)
  else
    match spelledFlag? t with
    | some w => .word w
    | none =>
      if t.length = 1 then .word (.value t)
      else
        match abbreviations t with
        | [w] => .word w
        | _ :: _ :: _ => .ambiguous
        | [] => if isNumberText t || t.contains space then .word (.value t) else .word .unknown

/-- What ends the flags: everything behind it is no flag. -/
def terminator : Text := [hyphen, hyphen]

/-- The words of a command, none if one is ambiguous. There are no values that belong to no flag, so
what stands behind the terminator is unknown. -/
def readWords : List Text → Option (List Word)
  | [] => some []
  | t :: rest =>
    if t = terminator then some (.unknown :: rest.map fun _ => .unknown)
    else
      match readWord t with
      | .word w => (readWords rest).map (w :: ·)
      | .ambiguous => none

/-! ## Requests -/

structure Options where
  location : Text := defaultSearchLocations
  /-- Without profiles there is no pass for them. -/
  profiles : Option (List Text) := none
  names : List Text := []
  properties : Text := []
  load : Bool := false

inductive Request where
  | resolve (options : Options)
  | showVersion
  | showHelp
  | rejected

/-- The flags in one word: those before the last take no value. There is no last one if a letter is no
flag. -/
structure Bundle where
  before : List Flag
  last : Option (Flag × Option Text)

namespace Bundle

def single (flag : Flag) (attached : Option Text) : Bundle := ⟨[], some (flag, attached)⟩

def behind (flag : Flag) (b : Bundle) : Bundle := { b with before := flag :: b.before }

/-- The letters behind a flag of one letter that takes no value are flags as well, but neither an
equals sign nor a hyphen may follow it. -/
def split (flag : Flag) (isShort isBehindSign : Bool) : Text → Option Bundle
  | [] => if flag.arity = .none then none else some (single flag (some []))
  | c :: rest =>
    if flag.arity ≠ .none then some (single flag (some (c :: rest)))
    else if !isShort || isBehindSign || c == hyphen then none
    else
      match spellings.lookup [hyphen, c], rest with
      | none, _ => some ⟨[flag], none⟩
      | some next, [] => some ((single next none).behind flag)
      | some next, d :: more =>
        (if d = equalsSign then split next true true more else split next true false (d :: more)).map
          (behind flag)

def ofWord (flag : Flag) (isShort : Bool) (attached : Option Attached) : Option Bundle :=
  match attached with
  | none => some (single flag none)
  | some a => split flag isShort a.isBehindSign a.text

end Bundle

def isValue : Word → Bool
  | .value _ => true
  | _ => false

def valueText : Word → Option Text
  | .value t => some t
  | _ => none

/-- The values of a flag, how many words they take, none if they do not suffice. -/
def valuesOf (arity : Arity) (attached : Option Text) (rest : List Word) :
    Option (List Text × Nat) :=
  match attached with
  | some t => some ([t], 0)
  | none =>
    let following := (rest.takeWhile isValue).filterMap valueText
    match arity, following with
    | .none, _ => some ([], 0)
    | .one, t :: _ => some ([t], 1)
    | .one, [] | .some, [] => none
    | .any, following | .some, following => some (following, following.length)

/-- What a flag does: it changes the options, or ends the reading. -/
def apply (options : Options) (flag : Flag) (values : List Text) : Except Request Options :=
  match flag with
  | .help => .error .showHelp
  | .version => .error .showVersion
  | .load => .ok { options with load := true }
  | .location => .ok { options with location := values.headD [] }
  | .properties => .ok { options with properties := values.headD [] }
  | .profiles => .ok { options with profiles := some values }
  | .names => .ok { options with names := values }

def applyAll (options : Options) (flags : List Flag) : Except Request Options :=
  flags.foldlM (fun options flag => apply options flag []) options

/-- The last flag of a bundle with its values, and how many words they take; it is none where the
bundle has none, and there is no result if the values do not suffice. -/
def Bundle.lastValues (b : Bundle) (rest : List Word) : Option (Option (Flag × List Text) × Nat) :=
  match b.last with
  | none => some (none, 0)
  | some (flag, attached) =>
    (valuesOf flag.arity attached rest).map fun (values, taken) => (some (flag, values), taken)

def applyLast (options : Options) (last : Option (Flag × List Text)) : Except Request Options :=
  match last with
  | none => .ok options
  | some (flag, values) => apply options flag values

/-- Carries out the flags in order. Words that belong to no flag are refused at the end. -/
def interpret (options : Options) (isClean : Bool) : Nat → List Word → Request
  | _, [] => if isClean then .resolve options else .rejected
  | skip + 1, _ :: rest => interpret options isClean skip rest
  | 0, .flag flag isShort attached :: rest =>
    match Bundle.ofWord flag isShort attached with
    | none => .rejected
    | some bundle =>
      match bundle.lastValues rest with
      | none => .rejected
      | some (last, taken) =>
        match (do applyLast (← applyAll options bundle.before) last) with
        | .error request => request
        | .ok options => interpret options (isClean && last.isSome) taken rest
  | 0, _ :: rest => interpret options false 0 rest

def read (words : List Text) : Request :=
  match readWords words with
  | some words => interpret {} true 0 words
  | none => .rejected

end CommandLine

end ConfigLocator
