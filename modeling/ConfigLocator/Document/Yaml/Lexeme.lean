import ConfigLocator.Document.Yaml.Scalar
import ConfigLocator.Text.Encoding

/-!
# Lexemes

The pieces of a YAML text that have an inner form: names, tags, directives, and scalars in their
plain, quoted and block styles. Each reader takes the text from where the piece starts and gives its
content with the text behind it. Line ends are single characters here (`withUniformBreaks`).
-/

namespace ConfigLocator

namespace Yaml

/-! ## Characters -/

/-- A carriage return, alone or with a line feed, and a next-line character become line feeds. -/
def withUniformBreaks : Text → Text
  | [] => []
  | c :: rest =>
    if c = '\r' ∧ rest.head? = some 0x0A then withUniformBreaks rest
    else (if c = '\r' ∨ c = 0x85 then 0x0A else c) :: withUniformBreaks rest

def isBreak (c : Nat) : Bool := c == 0x0A || c == 0x2028 || c == 0x2029

def isSpace (c : Nat) : Bool := c == ' '

def isSpaceOrBreak (c : Nat) : Bool := isSpace c || isBreak c

/-- A character that separates tokens: a space, a tab or a line end. -/
def isGap (c : Nat) : Bool := isSpaceOrTab c || isBreak c

def isWordChar (c : Nat) : Bool :=
  Text.isAsciiDigit c || Text.isAsciiLetter c || c == '-' || c == '_'

/-- The first character, if any, is of a class: the end of the text suits every class. -/
def headOrEnd (p : Nat → Bool) : Text → Bool
  | [] => true
  | c :: _ => p c

/-- `---` or `...` with nothing else behind it, which at the start of a line bounds a document. -/
def startsMarker (marker t : Text) : Bool :=
  Text.startsWith t marker && headOrEnd isGap (t.drop marker.length)

def isAtBound (t : Text) : Bool := startsMarker "---" t || startsMarker "..." t

/-- A line break alone is a space, and of several the first does not count, unless it is one of the
separators that stand for themselves. -/
def foldBreaks : Text → Text
  | [] => []
  | first :: later => if first ≠ 0x0A then first :: later else if later.isEmpty then " " else later

/-- The rest of a line: spaces, and a comment behind them. -/
def restOfLine? (t : Text) : Option Text :=
  let t := Text.trimStart isSpace t
  let t := if t.head? = some ('#' : Nat) then t.dropWhile (!isBreak ·) else t
  match t with
  | [] => some []
  | c :: rest => if isBreak c then some rest else none

/-! ## Names, tags and directives -/

def named {α : Type} (value : Option α) : Except Fault α :=
  match value with
  | some a => .ok a
  | none => .error .yaml

/-- One or more word characters, and what follows them. -/
def wordName? (t : Text) : Option (Text × Text) :=
  let name := t.takeWhile isWordChar
  if name.isEmpty then none else some (name, t.drop name.length)

/-- The name of an anchor or alias. -/
def anchorName? (t : Text) : Option (Text × Text) := do
  let (name, rest) ← wordName? t
  let ends := fun c : Nat => isGap c || ("?:,]\x7d%@`" : Text).contains c
  if headOrEnd ends rest then some (name, rest) else none

/-- An exclamation mark, alone or at both ends of a name. -/
def handle? (t : Text) : Option (Text × Text) := do
  let bang : Nat := '!'
  let rest ← behind? '!' t
  if headOrEnd isSpace rest && !rest.isEmpty then some ([bang], rest)
  else
    let name := rest.takeWhile isWordChar
    let rest ← behind? '!' (rest.drop name.length)
    some (bang :: name ++ [bang], rest)

def isUriChar (c : Nat) : Bool :=
  isWordChar c || (";/?:@&=+$,_.!~*'()[]" : Text).contains c

/-- The bytes of consecutive escapes: `%` and two hexadecimal digits each. -/
def escapedBytes? : Text → Option (List UInt8 × Text)
  | [] => some ([], [])
  | c :: rest =>
    if c ≠ '%' then some ([], c :: rest)
    else
      match rest with
      | a :: b :: rest => do
        let high ← Numeral.digitValue? a
        let low ← Numeral.digitValue? b
        if high < 16 ∧ low < 16 then
          let (bytes, rest) ← escapedBytes? rest
          some (UInt8.ofNat (high * 16 + low) :: bytes, rest)
        else none
      | _ => none

/-- The characters of a resource identifier, with those already read; an escaped character is written
as its bytes in UTF-8. -/
def uriFrom? : (fuel : Nat) → Text → Option (Text × Text)
  | 0, t => some ([], t)
  | fuel + 1, t => do
    let plain := t.takeWhile isUriChar
    match t.drop plain.length with
    | [] => some (plain, [])
    | c :: rest =>
      if c = '%' then
        let (bytes, rest) ← escapedBytes? (c :: rest)
        let chars ← Text.ofUtf8? bytes
        let (more, rest) ← uriFrom? fuel rest
        some (plain ++ chars ++ more, rest)
      else some (plain, c :: rest)

def uri? (t : Text) : Option (Text × Text) :=
  match t with
  | [] => none
  | c :: _ => if isUriChar c || c == '%' then uriFrom? t.length t else none

/-- A tag as it is written: a full name, or a suffix behind a handle. -/
structure TagName where
  handle : Option Text
  suffix : Text
deriving Repr

/-- The tag that says no more than that the node has no tag of its own. -/
def plainTag : Text := "!"

def tagBody? (t : Text) : Option (TagName × Text) :=
  if Text.startsWith t "!<" then do
    let (name, rest) ← uri? (t.drop 2)
    some (⟨none, name⟩, ← behind? '>' rest)
  else if headOrEnd isGap (t.drop 1) then some (⟨none, plainTag⟩, t.drop 1)
  else if ((t.drop 1).takeWhile (!isSpaceOrBreak ·)).contains '!' then do
    let (handle, rest) ← handle? t
    let (suffix, rest) ← uri? rest
    some (⟨some handle, suffix⟩, rest)
  else do
    let (suffix, rest) ← uri? (t.drop 1)
    some (⟨some "!", suffix⟩, rest)

def tagName? (t : Text) : Option (TagName × Text) := do
  let (name, rest) ← tagBody? t
  if headOrEnd isSpaceOrBreak rest then some (name, rest) else none

inductive Directive where
  | version (major : Nat)
  | handle (name expansion : Text)
  | other
deriving Repr

def versionNumber? (t : Text) : Option (Nat × Text) :=
  let digits := t.takeWhile Text.isAsciiDigit
  if digits.isEmpty then none else some (natOfDigits digits, t.drop digits.length)

def directiveBody? (t : Text) : Option (Directive × Text) := do
  let (name, rest) ← wordName? t
  if !headOrEnd isSpaceOrBreak rest then none
  else if name = ("YAML" : Text) then
    let (major, rest) ← versionNumber? (Text.trimStart isSpace rest)
    let (_, rest) ← versionNumber? (← behind? '.' rest)
    if headOrEnd isSpaceOrBreak rest then some (.version major, rest) else none
  else if name = ("TAG" : Text) then
    let (handle, rest) ← handle? (Text.trimStart isSpace rest)
    if rest.head? ≠ some (' ' : Nat) then none
    else
      let (expansion, rest) ← uri? (Text.trimStart isSpace rest)
      if headOrEnd isSpaceOrBreak rest then some (.handle handle expansion, rest) else none
  else some (.other, rest.dropWhile (!isBreak ·))

/-- A directive, whose line starts with `%`. -/
def directive? (t : Text) : Option (Directive × Text) := do
  let (directive, rest) ← directiveBody? (t.drop 1)
  some (directive, ← restOfLine? rest)

/-! ## Plain scalars -/

/-- Characters that end a plain scalar in a flow collection. -/
def flowMarks : Text := ",?[]\x7b\x7d"

/-- A plain scalar ends before a gap, before a `:` that separates a key from its value, and in a flow
collection before the marks of the collection. -/
def endsPlain (inFlow : Bool) (c : Nat) (rest : Text) : Bool :=
  let separates := fun d : Nat => isGap d || (inFlow && (",[]\x7b\x7d" : Text).contains d)
  isGap c || (c == ':' && headOrEnd separates rest) || (inFlow && flowMarks.contains c)

/-- Number of characters up to the first that ends a plain scalar. -/
def plainLength (inFlow : Bool) : Text → Nat
  | [] => 0
  | c :: rest => if endsPlain inFlow c rest then 0 else plainLength inFlow rest + 1

/-- The column that a gap with a line break in it ends at. -/
def columnAfter (gap : Text) : Nat := (gap.reverse.takeWhile isSpace).length

/-- A scalar goes on behind a gap unless a comment or the end of a document comes next, or in a block
collection a line that is indented less than the scalar has to be. -/
def goesOn (inFlow : Bool) (indent : Int) (gap rest : Text) : Bool :=
  let onNewLine := gap.any isBreak
  !gap.isEmpty && rest.head? != some ('#' : Nat) && plainLength inFlow rest != 0 &&
    !(onNewLine && columnAfter gap == 0 && isAtBound rest) &&
    (inFlow || !onNewLine || indent ≤ columnAfter gap)

def plainGap (gap : Text) : Text :=
  if gap.any isBreak then foldBreaks (gap.filter isBreak) else gap

/-- A plain scalar with the first character given, whether the gap behind it has a line break, and
what follows the gap. -/
def plain (inFlow : Bool) (indent : Int) : Text → Text × Bool × Text
  | [] => ([], false, [])
  | c :: t =>
    let n := plainLength inFlow t
    let run := c :: t.take n
    let gap := (t.drop n).takeWhile isSpaceOrBreak
    let rest := (t.drop n).drop gap.length
    if goesOn inFlow indent gap rest then
      let (more, crossed, rest) := plain inFlow indent rest
      (run ++ plainGap gap ++ more, crossed, rest)
    else (run, gap.any isBreak, rest)
termination_by t => t.length
decreasing_by simp only [List.length_drop, List.length_cons]; omega

/-! ## Quoted scalars -/

/-- What stands between two visible characters: blanks, or line breaks with the blanks around them
dropped. A break behind a backslash does not count. -/
inductive Gap where
  | blanks (t : Text)
  | breaks (escaped : Bool) (breaks : Text)

namespace Gap

def start : Gap := blanks []

def toText : Gap → Text
  | blanks t => t
  | breaks true t => t
  | breaks false t => foldBreaks t

def addBlank (c : Nat) : Gap → Gap
  | blanks t => blanks (t ++ [c])
  | breaks escaped t => breaks escaped t

def addBreak (c : Nat) : Gap → Gap
  | blanks _ => breaks false [c]
  | breaks escaped t => breaks escaped (t ++ [c])

end Gap

/-- The character that a letter behind a backslash stands for. -/
def escapes : List (Nat × Nat) :=
  [('0', 0), ('a', 0x07), ('b', 0x08), ('t', 0x09), ('\t', 0x09), ('n', 0x0A), ('v', 0x0B),
    ('f', 0x0C), ('r', 0x0D), ('e', 0x1B), (' ', ' '), ('"', '"'), ('\\', '\\'), ('/', '/'),
    ('N', 0x85), ('_', 0xA0), ('L', 0x2028), ('P', 0x2029)]

/-- The number of hexadecimal digits behind a letter. -/
def codeLengths : List (Nat × Nat) := [('x', 2), ('u', 4), ('U', 8)]

/-- The greatest code that is looked at as a character at all. -/
def greatestCode : Nat := 0x7FFFFFFF

def greatestCharacter : Nat := 0x10FFFF

/-- The character with a code of so many hexadecimal digits. -/
def characterOf (length : Nat) (t : Text) : Except Fault Nat :=
  let code := t.take length
  match code.mapM Numeral.digitValue? with
  | none => .error .yaml
  | some digits =>
    if code.length < length ∨ digits.any (16 ≤ ·) then .error .yaml
    else
      let n := digits.foldl (fun n d => n * 16 + d) 0
      if n ≤ greatestCharacter then .ok n
      else .error (.scalar (if n ≤ greatestCode then .codePointRange else .outOfRange))

def singleQuote : Nat := '\''
def doubleQuote : Nat := '"'

/-- The text of a quoted scalar up to the closing quote, behind a gap, and what follows the quote. A
quote inside single quotes is written twice; inside double quotes a backslash starts an escape. -/
def quoted (isDouble : Bool) (gap : Gap) : Text → Except Fault (Text × Text)
  | [] => .error .yaml
  | c :: rest =>
    let more (chars : Text) (rest : Except Fault (Text × Text)) : Except Fault (Text × Text) := do
      let (t, rest) ← rest
      return (gap.toText ++ chars ++ t, rest)
    if isBreak c then
      if isAtBound rest then .error .yaml else quoted isDouble (gap.addBreak c) rest
    else if isSpaceOrTab c then quoted isDouble (gap.addBlank c) rest
    else if isDouble then
      if c = doubleQuote then .ok (gap.toText, rest)
      else if c = backslash then
        match rest with
        | [] => .error .yaml
        | d :: rest =>
          match escapes.lookup d with
          | some char => more [char] (quoted true .start rest)
          | none =>
            match codeLengths.lookup d with
            | some length =>
              match characterOf length rest with
              | .ok char => more [char] (quoted true .start (rest.drop length))
              | .error fault => .error fault
            | none =>
              if isBreak d then
                if isAtBound rest then .error .yaml else more [] (quoted true (.breaks true []) rest)
              else .error .yaml
      else more [c] (quoted true .start rest)
    else if c = singleQuote then
      match rest with
      | [] => .ok (gap.toText, [])
      | d :: rest =>
        if d = singleQuote then more [singleQuote] (quoted false .start rest)
        else .ok (gap.toText, d :: rest)
    else more [c] (quoted false .start rest)
termination_by t => t.length
decreasing_by all_goals simp only [List.length_drop, List.length_cons]; omega

/-! ## Block scalars -/

/-- What becomes of the line breaks at the end: one is kept, all are, or none is. -/
inductive Chomping where
  | clip
  | keep
  | strip
deriving DecidableEq, Repr

def chomping? (c : Nat) : Option Chomping :=
  if c = '+' then some .keep else if c = '-' then some .strip else none

/-- An indentation written in the header of a block scalar is a digit but zero. -/
def written? (c : Nat) : Option Nat := if c ≠ '0' ∧ Text.isAsciiDigit c then some (c - 0x30) else none

/-- The two indicators of a header, in either order. -/
def indicators (t : Text) : Chomping × Option Nat × Text :=
  match t with
  | [] => (.clip, none, [])
  | c :: rest =>
    match chomping? c with
    | some chomping =>
      match rest.head?.bind written? with
      | some n => (chomping, some n, rest.drop 1)
      | none => (chomping, none, rest)
    | none =>
      match written? c with
      | none => (.clip, none, t)
      | some n =>
        match rest.head?.bind chomping? with
        | some chomping => (chomping, some n, rest.drop 1)
        | none => (.clip, some n, rest)

/-- The header of a block scalar, behind its first character, and the lines below it. -/
def header? (t : Text) : Option (Chomping × Option Nat × Text) := do
  let (chomping, indent, rest) := indicators t
  if headOrEnd isSpaceOrBreak rest then some (chomping, indent, ← restOfLine? rest) else none

/-- Line breaks with up to `indent` spaces before each, and then up to `indent` spaces; the column
behind them, and what follows. -/
def blankLines (indent : Nat) : (column : Nat) → Text → Text × Nat × Text
  | column, [] => ([], column, [])
  | column, c :: t =>
    if isSpace c && column < indent then blankLines indent (column + 1) t
    else if isBreak c then
      let (breaks, rest) := blankLines indent 0 t
      (c :: breaks, rest)
    else ([], column, c :: t)

theorem length_blankLines_le (indent column : Nat) (t : Text) :
    (blankLines indent column t).2.2.length ≤ t.length := by
  induction t generalizing column with
  | nil => simp [blankLines]
  | cons c t ih =>
    simp only [blankLines]
    split
    · exact Nat.le_succ_of_le (ih _)
    · split
      · exact Nat.le_succ_of_le (ih _)
      · exact Nat.le_refl _

/-- The greatest number of spaces that a blank line at the start has, counting the indentation of
the first line that is not blank. -/
def leadingIndent (gap : Text) : Nat :=
  ((Text.split 0x0A (gap.map fun c => if isBreak c then 0x0A else c)).map List.length).foldl max 0

/-- Text of the lines, the line break behind the last one, the line breaks after that, and what
follows the scalar. -/
structure Block where
  text : Text
  lastBreak : Text
  breaks : Text
  rest : Text

/-- Two lines are joined by a space when both start with something visible and folding is on. -/
def joint (isFolded : Bool) (line breaks next : Text) (lineBreak : Nat) : Text :=
  if isFolded && lineBreak == 0x0A && !(line.head?.any isSpaceOrTab) && !(next.head?.any isSpaceOrTab)
  then (if breaks.isEmpty then " " else [])
  else [lineBreak]

/-- The lines of a block scalar from the start of one on, behind its indentation. -/
def blockLines (isFolded : Bool) (indent : Nat) : Text → Block
  | [] => ⟨[], [], [], []⟩
  | c :: t =>
    let line := c :: t.takeWhile (!isBreak ·)
    match _ht : t.dropWhile (!isBreak ·) with
    | [] => ⟨line, [], [], []⟩
    | lineBreak :: below =>
      match _hb : blankLines indent 0 below with
      | (breaks, column, rest) =>
        if column = indent ∧ rest ≠ [] then
          let block := blockLines isFolded indent rest
          { block with
            text := line ++ joint isFolded line breaks rest lineBreak ++ breaks ++ block.text }
        else ⟨line, [lineBreak], breaks, rest⟩
termination_by t => t.length
decreasing_by
  have hd := (t.dropWhile_suffix (!isBreak ·)).length_le
  have hl := length_blankLines_le indent 0 below
  rw [_ht, List.length_cons] at hd
  rw [_hb] at hl
  simp only [List.length_cons] at hl ⊢
  omega

/-- A block scalar from behind its first character on: its text and what follows it. Without a
written indentation the lines at the start tell it; it is at least `least`. -/
def blockScalar (isFolded : Bool) (least : Nat) (t : Text) : Option (Text × Text) := do
  let (chomping, indent, t) ← header? t
  let gap := t.takeWhile isSpaceOrBreak
  let (indent, breaks, column, rest) :=
    match indent with
    | some n => (least + n - 1, blankLines (least + n - 1) 0 t)
    | none =>
      (max least (leadingIndent gap), gap.filter isBreak, columnAfter gap, t.drop gap.length)
  let block :=
    if column = indent then
      let block := blockLines isFolded indent rest
      { block with
        text := if rest.isEmpty then [] else breaks ++ block.text
        breaks := if rest.isEmpty then breaks else block.breaks }
    else ⟨[], [], breaks, rest⟩
  let ending :=
    match chomping with
    | .clip => block.lastBreak
    | .keep => block.lastBreak ++ block.breaks
    | .strip => []
  some (block.text ++ ending, block.rest)

end Yaml

end ConfigLocator
