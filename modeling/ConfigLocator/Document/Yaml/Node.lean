import ConfigLocator.Document.Yaml.Token

/-!
# Nodes

A YAML document as a tree of scalars, sequences and mappings, each with its tag. An alias stands for
a copy of the node with its anchor. Only inside of the very collection that it names does it stay: as
a `loop`, since that node has no finite tree.

`Reader.document` reads the next document of a sequence of tokens.
-/

namespace ConfigLocator

namespace Yaml

inductive Node where
  | scalar (tag : Tag) (value : Text)
  | sequence (tag : Tag) (items : List Node)
  | mapping (tag : Tag) (entries : List (Node × Node))
  | loop (anchor : Text)

namespace Node

/-- A node that is left out. -/
def empty : Node := scalar .null []

def tag : Node → Tag
  | scalar tag _ | sequence tag _ | mapping tag _ => tag
  | loop _ => .map

def isLoopOf (anchor : Text) : Node → Bool
  | loop name => name == anchor
  | _ => false

mutual

/-- The node lies inside of itself. -/
def isEndless : Node → Bool
  | scalar .. => false
  | sequence _ items => areEndless items
  | mapping _ entries => haveEndless entries
  | loop _ => true

def areEndless : List Node → Bool
  | [] => false
  | node :: rest => isEndless node || areEndless rest

def haveEndless : List (Node × Node) → Bool
  | [] => false
  | (key, value) :: rest => isEndless key || isEndless value || haveEndless rest

end

end Node

/-! ## Reading -/

structure Reader where
  tokens : List Token
  /-- The fault behind the tokens. -/
  ending : Fault
  /-- What the handles of tags stand for. -/
  handles : List (Text × Text)
  /-- The nodes with anchors in this document; none while a collection is being read. -/
  anchors : List (Text × Option Node)

abbrev Reading := StateT Reader (Except Fault)

namespace Reader

def ofTokens (tokens : Tokens) : Reader := ⟨tokens.tokens, tokens.ending, [], []⟩

def peek : Reading Token := do
  let reader ← get
  match reader.tokens with
  | token :: _ => return token
  | [] => throw reader.ending

def skip : Reading Unit := modify fun reader => { reader with tokens := reader.tokens.drop 1 }

/-- Skips one token if it is such. -/
def skipIf (p : Token → Bool) : Reading Bool := do
  if p (← peek) then
    skip
    return true
  else return false

/-! ## Tags and anchors -/

def defaultHandles : List (Text × Text) := [("!", "!"), ("!!", Tag.standardPrefix)]

/-- The full name of a tag. -/
def fullName (name : TagName) : Reading Text := do
  match name.handle with
  | none => return name.suffix
  | some handle =>
    match (← get).handles.lookup handle with
    | some expansion => return expansion ++ name.suffix
    | none => throw .yaml

def collectionTag (standard : Tag) (name : Option Text) : Tag :=
  match name with
  | none => standard
  | some name => if name = plainTag then standard else .ofText name

def scalarTag (isPlain : Bool) (value : Text) (name : Option Text) : Tag :=
  match name with
  | none => if isPlain then .ofPlain value else .text
  | some name => if name = plainTag then .ofPlain value else .ofText name

def anchorHere : Reading (Option Text) := do
  match ← peek with
  | .anchor name =>
    skip
    return some name
  | _ => return none

def tagHere : Reading (Option TagName) := do
  match ← peek with
  | .tag name =>
    skip
    return some name
  | _ => return none

/-- Anchor and tag of a node, in either order. -/
def properties : Reading (Option Text × Option TagName) := do
  match ← anchorHere with
  | some anchor => return (some anchor, ← tagHere)
  | none =>
    match ← tagHere with
    | some tag => return (← anchorHere, some tag)
    | none => return (none, none)

/-- The node with an anchor. -/
def aliased (name : Text) : Reading Node := do
  match (← get).anchors.lookup name with
  | some (some node) => return node
  | some none => return .loop name
  | none => throw .yaml

/-- An anchor may name one node of a document only. -/
def declare (anchor : Option Text) : Reading Unit := do
  match anchor with
  | none => return
  | some name =>
    if ((← get).anchors.lookup name).isSome then throw .yaml
    modify fun reader => { reader with anchors := (name, none) :: reader.anchors }

def define (anchor : Option Text) (node : Node) : Reading Node := do
  match anchor with
  | none => return node
  | some name =>
    modify fun reader =>
      { reader with
        anchors := reader.anchors.map fun (n, old) => (n, if n = name then some node else old) }
    return node

/-- A mapping that is merged into itself gains nothing. -/
def withoutSelf (anchor : Option Text) (entries : List (Node × Node)) : List (Node × Node) :=
  match anchor with
  | none => entries
  | some name => entries.filter fun (key, value) => !(key.tag == .merge && value.isLoopOf name)

/-! ## Grammar -/

/-- The empty node where none comes before one of these tokens. -/
def emptyBefore (ends : Token → Bool) (read : Reading Node) : Reading Node := do
  if ends (← peek) then return .empty else read

def endsBlockItem : Token → Bool
  | .blockEntry | .blockEnd => true
  | _ => false

def endsBlockPart : Token → Bool
  | .key | .value | .blockEnd => true
  | _ => false

def endsFlushItem : Token → Bool
  | .blockEntry => true
  | token => endsBlockPart token

def endsFlowItem : Token → Bool
  | .flowEntry | .flowSequenceEnd => true
  | _ => false

def endsFlowPart : Token → Bool
  | .flowEntry | .flowMappingEnd => true
  | _ => false

def isValueMark : Token → Bool
  | .value => true
  | _ => false

def isFlowEntry : Token → Bool
  | .flowEntry => true
  | _ => false

/-- Items and keys may not follow each other without a comma. -/
def comma (isFirst : Bool) : Reading Unit := do
  if !isFirst then
    if !(← skipIf isFlowEntry) then throw .yaml

mutual

/-- A node; the items of a sequence as the value of a block mapping may be flush with its keys. -/
def node : (fuel : Nat) → (inBlock mayBeFlush : Bool) → Reading Node
  | 0, _, _ => throw .yaml
  | fuel + 1, inBlock, mayBeFlush => do
    if let .alias name ← peek then
      skip
      return ← aliased name
    let (anchor, tagName) ← properties
    let name ← tagName.mapM fullName
    let token ← peek
    declare anchor
    let sequence := fun items : Reading (List Node) => do
      define anchor (.sequence (collectionTag .seq name) (← items))
    let mapping := fun entries : Reading (List (Node × Node)) => do
      define anchor (.mapping (collectionTag .map name) (withoutSelf anchor (← entries)))
    match token with
    | .scalar isPlain value =>
      skip
      define anchor (.scalar (scalarTag isPlain value name) value)
    | .flowSequenceStart =>
      skip
      sequence (flowItems fuel true)
    | .flowMappingStart =>
      skip
      mapping (flowEntries fuel true)
    | .blockEntry =>
      if mayBeFlush then sequence (flushItems fuel) else missing anchor name
    | .sequenceStart =>
      if inBlock then
        skip
        sequence (blockItems fuel)
      else missing anchor name
    | .mappingStart =>
      if inBlock then
        skip
        mapping (blockEntries fuel)
      else missing anchor name
    | _ => missing anchor name
where
  /-- A node without content has to have an anchor or a tag. -/
  missing (anchor name : Option Text) : Reading Node :=
    if anchor.isNone && name.isNone then throw .yaml
    else define anchor (.scalar (scalarTag true [] name) [])

def blockItems : (fuel : Nat) → Reading (List Node)
  | 0 => throw .yaml
  | fuel + 1 => do
    match ← peek with
    | .blockEntry =>
      skip
      let item ← emptyBefore endsBlockItem (node fuel true false)
      return item :: (← blockItems fuel)
    | .blockEnd =>
      skip
      return []
    | _ => throw .yaml

def flushItems : (fuel : Nat) → Reading (List Node)
  | 0 => throw .yaml
  | fuel + 1 => do
    match ← peek with
    | .blockEntry =>
      skip
      let item ← emptyBefore endsFlushItem (node fuel true false)
      return item :: (← flushItems fuel)
    | _ => return []

def blockEntries : (fuel : Nat) → Reading (List (Node × Node))
  | 0 => throw .yaml
  | fuel + 1 => do
    match ← peek with
    | .key =>
      skip
      let key ← emptyBefore endsBlockPart (node fuel true true)
      let value ←
        if ← skipIf isValueMark then emptyBefore endsBlockPart (node fuel true true)
        else pure .empty
      return (key, value) :: (← blockEntries fuel)
    | .blockEnd =>
      skip
      return []
    | _ => throw .yaml

def flowItems : (fuel : Nat) → (isFirst : Bool) → Reading (List Node)
  | 0, _ => throw .yaml
  | fuel + 1, isFirst => do
    if let .flowSequenceEnd ← peek then
      skip
      return []
    comma isFirst
    match ← peek with
    | .flowSequenceEnd =>
      skip
      return []
    | .key =>
      skip
      let entry ← flowEntry fuel endsFlowItem
      return .mapping .map [entry] :: (← flowItems fuel false)
    | _ =>
      let item ← node fuel false false
      return item :: (← flowItems fuel false)

/-- Key and value behind the mark of the key. -/
def flowEntry : (fuel : Nat) → (ends : Token → Bool) → Reading (Node × Node)
  | 0, _ => throw .yaml
  | fuel + 1, ends => do
    let key ← emptyBefore (fun token => isValueMark token || ends token) (node fuel false false)
    let value ←
      if ← skipIf isValueMark then emptyBefore ends (node fuel false false) else pure .empty
    return (key, value)

def flowEntries : (fuel : Nat) → (isFirst : Bool) → Reading (List (Node × Node))
  | 0, _ => throw .yaml
  | fuel + 1, isFirst => do
    if let .flowMappingEnd ← peek then
      skip
      return []
    comma isFirst
    match ← peek with
    | .flowMappingEnd =>
      skip
      return []
    | .key =>
      skip
      let entry ← flowEntry fuel endsFlowPart
      return entry :: (← flowEntries fuel false)
    | _ =>
      let key ← node fuel false false
      return (key, .empty) :: (← flowEntries fuel false)

end

/-- Every token is taken after at most two calls. -/
def root : Reading Node := do
  node (4 * (← get).tokens.length + 8) true false

/-! ## Documents -/

def isDocumentEnd : Token → Bool
  | .documentEnd => true
  | _ => false

/-- The directives of a document; there may be one version and one expansion of a handle. -/
def directives : (fuel : Nat) → (hasVersion : Bool) → (handles : List (Text × Text)) →
    Reading (List (Text × Text))
  | 0, _, handles => return handles
  | fuel + 1, hasVersion, handles => do
    match ← peek with
    | .directive (.version major) =>
      skip
      if hasVersion || major != 1 then throw .yaml
      directives fuel true handles
    | .directive (.handle name expansion) =>
      skip
      if (handles.lookup name).isSome then throw .yaml
      directives fuel hasVersion ((name, expansion) :: handles)
    | .directive .other =>
      skip
      directives fuel hasVersion handles
    | _ => return handles

def skipDocumentEnds : (fuel : Nat) → Reading Unit
  | 0 => return
  | fuel + 1 => do
    if ← skipIf isDocumentEnd then skipDocumentEnds fuel

def startsDocument (handles : List (Text × Text)) : Reading Unit :=
  modify fun reader => { reader with handles := handles, anchors := [] }

def isBoundary : Token → Bool
  | .directive _ | .documentStart | .documentEnd | .finish => true
  | _ => false

/-- What a document without a start mark begins with. -/
def opensBare : Token → Bool
  | .documentEnd => true
  | token => !isBoundary token

/-- The document behind a start mark, none if no more follows. -/
def markedDocument : Reading (Option Node) := do
  skipDocumentEnds (← get).tokens.length
  if let .finish ← peek then return none
  let handles ← directives (← get).tokens.length false []
  startsDocument (handles ++ defaultHandles)
  match ← peek with
  | .documentStart =>
    skip
    let content ← emptyBefore isBoundary root
    discard (skipIf isDocumentEnd)
    return some content
  | _ => throw .yaml

/-- The next document; only the first needs no start mark. -/
def document (isFirst : Bool) : Reading (Option Node) := do
  if isFirst && opensBare (← peek) then
    startsDocument defaultHandles
    let content ← root
    discard (skipIf isDocumentEnd)
    return some content
  else markedDocument

end Reader

end Yaml

end ConfigLocator
