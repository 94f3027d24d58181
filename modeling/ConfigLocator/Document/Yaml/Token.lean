import ConfigLocator.Document.Yaml.Lexeme

/-!
# Tokens

A YAML text as a sequence of tokens. In block context the indentation opens and closes collections,
and a key is known only by the `:` behind it: a place where one can start is kept as a candidate
(`Candidate`) until its `:` is found or can no longer come, and then the tokens that open the
mapping and mark the key are put in front of it.

`Tokens.ofText` gives the tokens that are certain before the text becomes invalid, and the fault
that whoever needs more of them meets.
-/

namespace ConfigLocator

namespace Yaml

inductive Token where
  | directive (d : Directive)
  | documentStart
  | documentEnd
  | sequenceStart
  | mappingStart
  | blockEnd
  | flowSequenceStart
  | flowSequenceEnd
  | flowMappingStart
  | flowMappingEnd
  | flowEntry
  | blockEntry
  | key
  | value
  | alias (name : Text)
  | anchor (name : Text)
  | tag (name : TagName)
  | scalar (isPlain : Bool) (value : Text)
  | finish
deriving Repr

structure Tokens where
  tokens : List Token
  ending : Fault

/-! ## Places -/

/-- A place in a text: what follows it, and where it stands. -/
structure Place where
  rest : Text
  index : Nat
  line : Nat
  column : Nat

/-- A mark of the byte order, which takes no column. -/
def byteOrderMark : Nat := 0xFEFF

namespace Place

def next (p : Place) : Place :=
  match p.rest with
  | [] => p
  | c :: rest =>
    if isBreak c then ⟨rest, p.index + 1, p.line + 1, 0⟩
    else ⟨rest, p.index + 1, p.line, if c = byteOrderMark then p.column else p.column + 1⟩

def forward : Nat → Place → Place
  | 0, p => p
  | n + 1, p => forward n p.next

/-- The place where a later part of the text starts. -/
def upTo (rest : Text) (p : Place) : Place := p.forward (p.rest.length - rest.length)

end Place

/-! ## State -/

/-- A place where a key may have started, with the number of tokens before it. A required one has to
turn out to be a key. -/
structure Candidate where
  number : Nat
  isRequired : Bool
  place : Place

structure Tokenizer where
  place : Place
  /-- The newest first. -/
  tokens : List Token
  flowLevel : Nat
  /-- Columns of the open block collections, the innermost first. -/
  indents : List Nat
  /-- Whether a key may start at the next token. -/
  allowsKey : Bool
  /-- At most one for every flow level. -/
  candidates : List (Nat × Candidate)

namespace Tokenizer

def start (t : Text) : Tokenizer := ⟨⟨t, 0, 0, 0⟩, [], 0, [], true, []⟩

def inFlow (s : Tokenizer) : Bool := s.flowLevel != 0

def column (s : Tokenizer) : Nat := s.place.column

/-- The column of the innermost block collection, `-1` outside of all. -/
def indent (s : Tokenizer) : Int :=
  match s.indents with
  | [] => -1
  | column :: _ => column

def add (token : Token) (s : Tokenizer) : Tokenizer := { s with tokens := token :: s.tokens }

/-- Adds the token that ends where `rest` starts. -/
def take (token : Token) (rest : Text) (s : Tokenizer) : Tokenizer :=
  { s.add token with place := s.place.upTo rest }

/-- Adds a token of so many characters. -/
def takeMark (token : Token) (length : Nat) (s : Tokenizer) : Tokenizer :=
  { s.add token with place := s.place.forward length }

def allowKey (allowed : Bool) (s : Tokenizer) : Tokenizer := { s with allowsKey := allowed }

/-! ## Indentation -/

/-- Closes the block collections whose items stand right of a column. -/
def unwind (column : Int) (s : Tokenizer) : Tokenizer :=
  if s.inFlow then s
  else
    let closed := s.indents.takeWhile fun n : Nat => column < n
    { s with
      tokens := List.replicate closed.length .blockEnd ++ s.tokens
      indents := s.indents.drop closed.length }

/-- Opens a block collection unless one is open at the column. -/
def openBlock (token : Token) (s : Tokenizer) : Tokenizer :=
  if s.indent < s.column then { s.add token with indents := s.column :: s.indents } else s

/-! ## Candidates for keys -/

/-- The most characters that a key without a mark may have. -/
def maxKeyLength : Nat := 1024

/-- A key without a mark lies on one line. -/
def isStale (s : Tokenizer) (key : Candidate) : Bool :=
  key.place.line != s.place.line || maxKeyLength < s.place.index - key.place.index

def dropStale (s : Tokenizer) : Except Fault Tokenizer :=
  if s.candidates.any fun (_, key) => s.isStale key && key.isRequired then .error .yaml
  else .ok { s with candidates := s.candidates.filter fun (_, key) => !s.isStale key }

def candidate? (s : Tokenizer) : Option Candidate := s.candidates.lookup s.flowLevel

def withoutCandidate (s : Tokenizer) : Tokenizer :=
  { s with candidates := s.candidates.filter (·.1 != s.flowLevel) }

/-- Gives up the candidate of the flow level. -/
def giveUp (s : Tokenizer) : Except Fault Tokenizer :=
  if s.candidate?.any (·.isRequired) then .error .yaml else .ok s.withoutCandidate

/-- Takes the next token as the possible start of a key. -/
def offerKey (s : Tokenizer) : Except Fault Tokenizer :=
  if s.allowsKey then do
    let s ← s.giveUp
    let key := ⟨s.tokens.length, !s.inFlow && s.indent == s.column, s.place⟩
    return { s with candidates := (s.flowLevel, key) :: s.candidates }
  else .ok s

/-- Marks a candidate as a key, which in block context opens a mapping unless one is open at its
column. -/
def confirm (key : Candidate) (s : Tokenizer) : Tokenizer :=
  let opens := !s.inFlow && s.indent < key.place.column
  let (newer, older) := s.tokens.splitAt (s.tokens.length - key.number)
  { s with
    tokens := newer ++ .key :: ((if opens then [.mappingStart] else []) ++ older)
    indents := if opens then key.place.column :: s.indents else s.indents }

/-! ## Tokens -/

/-- Passes over spaces, comments and line ends; whether a line has ended. -/
def behindGap : (inComment crossed : Bool) → Text → Bool × Text
  | _, crossed, [] => (crossed, [])
  | inComment, crossed, c :: rest =>
    if isBreak c then behindGap false true rest
    else if inComment || isSpace c then behindGap inComment crossed rest
    else if c = '#' then behindGap true crossed rest
    else (crossed, c :: rest)

/-- In block context a key may start on every line. -/
def skipGap (s : Tokenizer) : Tokenizer :=
  let (crossed, rest) := behindGap false false s.place.rest
  { s with place := s.place.upTo rest, allowsKey := s.allowsKey || (crossed && !s.inFlow) }

/-- Closes what is open in block context, where no key may follow. -/
def closeBlocks (s : Tokenizer) : Except Fault Tokenizer := do
  return (← (s.unwind (-1)).giveUp).allowKey false

def takeFinish (s : Tokenizer) : Except Fault Tokenizer := do
  return (← s.closeBlocks).add .finish

def takeDirective (s : Tokenizer) : Except Fault Tokenizer := do
  let s ← s.closeBlocks
  let (directive, rest) ← named (directive? s.place.rest)
  return s.take (.directive directive) rest

def takeBound (token : Token) (s : Tokenizer) : Except Fault Tokenizer := do
  return (← s.closeBlocks).takeMark token 3

def takeFlowStart (token : Token) (s : Tokenizer) : Except Fault Tokenizer := do
  let s ← s.offerKey
  return { (s.allowKey true).takeMark token 1 with flowLevel := s.flowLevel + 1 }

def takeFlowEnd (token : Token) (s : Tokenizer) : Except Fault Tokenizer := do
  let s ← s.giveUp
  return { (s.allowKey false).takeMark token 1 with flowLevel := s.flowLevel - 1 }

def takeFlowEntry (s : Tokenizer) : Except Fault Tokenizer := do
  return ((← s.giveUp).allowKey true).takeMark .flowEntry 1

/-- A mark of a block collection may stand only where a key may start. -/
def openFor (token : Token) (s : Tokenizer) : Except Fault Tokenizer :=
  if s.inFlow then .ok s
  else if s.allowsKey then .ok (s.openBlock token)
  else .error .yaml

def takeBlockEntry (s : Tokenizer) : Except Fault Tokenizer := do
  let s ← s.openFor .sequenceStart
  return ((← s.giveUp).allowKey true).takeMark .blockEntry 1

def takeKey (s : Tokenizer) : Except Fault Tokenizer := do
  let s ← s.openFor .mappingStart
  return ((← s.giveUp).allowKey (!s.inFlow)).takeMark .key 1

def takeValue (s : Tokenizer) : Except Fault Tokenizer :=
  match s.candidate? with
  | some key => .ok (((s.withoutCandidate.confirm key).allowKey false).takeMark .value 1)
  | none => do
    let s ← s.openFor .mappingStart
    return (s.allowKey (!s.inFlow)).takeMark .value 1

/-- A token that can be the start of a key. -/
def takeOffered {α : Type} (token : α → Token) (read : Text → Except Fault (α × Text))
    (s : Tokenizer) : Except Fault Tokenizer := do
  let s ← s.offerKey
  let (content, rest) ← read s.place.rest
  return (s.allowKey false).take (token content) rest

def takeQuoted (isDouble : Bool) (s : Tokenizer) : Except Fault Tokenizer :=
  s.takeOffered (.scalar false) fun t => quoted isDouble .start (t.drop 1)

def takePlain (s : Tokenizer) : Except Fault Tokenizer := do
  let s ← s.offerKey
  let (content, crossed, rest) := plain s.inFlow (s.indent + 1) s.place.rest
  return (s.allowKey crossed).take (.scalar true content) rest

def takeBlockScalar (isFolded : Bool) (s : Tokenizer) : Except Fault Tokenizer := do
  let s ← (s.allowKey true).giveUp
  let least := max 1 (s.indent + 1).toNat
  let (content, rest) ← named (blockScalar isFolded least (s.place.rest.drop 1))
  return s.take (.scalar false content) rest

/-- Characters that start no plain scalar, unless something visible follows the first three. -/
def indicatorChars : Text := "-?:,[]\x7b\x7d#&*!|>'\"%@\x60"

def startsPlain (inFlow : Bool) (c : Nat) (rest : Text) : Bool :=
  !(isGap c || indicatorChars.contains c) ||
    (!headOrEnd isGap rest && (c == '-' || (!inFlow && (c == '?' || c == ':'))))

/-- Adds the next token, with those that the indentation puts in front of it. -/
def step (s : Tokenizer) : Except Fault Tokenizer := do
  let s ← s.skipGap.dropStale
  let s := s.unwind s.column
  match s.place.rest with
  | [] => s.takeFinish
  | c :: rest =>
    let isMark := s.inFlow || headOrEnd isGap rest
    if s.column = 0 ∧ c = '%' then s.takeDirective
    else if s.column = 0 ∧ startsMarker "---" s.place.rest then s.takeBound .documentStart
    else if s.column = 0 ∧ startsMarker "..." s.place.rest then s.takeBound .documentEnd
    else if c = '[' then s.takeFlowStart .flowSequenceStart
    else if c = '\x7b' then s.takeFlowStart .flowMappingStart
    else if c = ']' then s.takeFlowEnd .flowSequenceEnd
    else if c = '\x7d' then s.takeFlowEnd .flowMappingEnd
    else if c = ',' then s.takeFlowEntry
    else if c = '-' ∧ headOrEnd isGap rest then s.takeBlockEntry
    else if c = '?' ∧ isMark then s.takeKey
    else if c = ':' ∧ isMark then s.takeValue
    else if c = '*' then s.takeOffered .alias fun t => named (anchorName? (t.drop 1))
    else if c = '&' then s.takeOffered .anchor fun t => named (anchorName? (t.drop 1))
    else if c = '!' then s.takeOffered .tag fun t => named (tagName? t)
    else if c = '|' ∧ !s.inFlow then s.takeBlockScalar false
    else if c = '>' ∧ !s.inFlow then s.takeBlockScalar true
    else if c = singleQuote then s.takeQuoted false
    else if c = doubleQuote then s.takeQuoted true
    else if startsPlain s.inFlow c rest then s.takePlain
    else .error .yaml

/-- The tokens in front of the first candidate, whose place in the sequence is certain. -/
def settled (s : Tokenizer) : List Token :=
  let pending := s.candidates.filter fun (_, key) => !s.isStale key || key.isRequired
  s.tokens.reverse.take ((pending.map fun (_, key) => key.number).foldl min s.tokens.length)

def isFinished (s : Tokenizer) : Bool :=
  match s.tokens with
  | .finish :: _ => true
  | _ => false

def run : (fuel : Nat) → Tokenizer → Tokens
  | 0, s => ⟨s.settled, .yaml⟩
  | fuel + 1, s =>
    match s.step with
    | .ok next => if next.isFinished then ⟨next.tokens.reverse, .yaml⟩ else run fuel next
    | .error fault => ⟨s.settled, fault⟩

end Tokenizer

/-- Every step but the last takes at least one character. -/
def Tokens.ofText (t : Text) : Tokens :=
  let t := withUniformBreaks (if t.head? = some byteOrderMark then t.drop 1 else t)
  (Tokenizer.start t).run (t.length + 1)

end Yaml

end ConfigLocator
