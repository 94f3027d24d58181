import ConfigLocator.Document.Yaml.Node
import ConfigLocator.Value

/-!
# YAML documents

The values of the documents in a YAML file. A node gets the value that its tag asks for
(`Node.build`); entries of other mappings can be merged in under `<<`, where the mapping's own
entries take precedence.

The nodes of a document are built level by level, from the root down. So of several faults in one
document the one that counts is that of the highest level, and on one level the first
(`Built.both`). Documents are read one by one: a fault of one comes before whatever is wrong with the
text behind it.
-/

namespace ConfigLocator

namespace Yaml

/-! ## Faults by level -/

/-- A result, or a fault with its level. -/
abbrev Built (α : Type) := Except (Nat × Fault) α

namespace Built

def both {α β : Type} : Built α → Built β → Built (α × β)
  | .ok a, .ok b => .ok (a, b)
  | .error e, .ok _ => .error e
  | .ok _, .error e => .error e
  | .error e, .error f => .error (if f.1 < e.1 then f else e)

def all {α : Type} : List (Built α) → Built (List α)
  | [] => .ok []
  | a :: rest => (both a (all rest)).map fun (a, rest) => a :: rest

def onLevel {α : Type} (level : Nat) : Except Fault α → Built α
  | .ok a => .ok a
  | .error fault => .error (level, fault)

def fail {α : Type} (level : Nat) : Built α := .error (level, .yaml)

end Built

/-! ## Values of nodes -/

/-- Tags of values that hold others. -/
def Tag.isCollection : Tag → Bool
  | seq | map | set | omap | pairs => true
  | _ => false

namespace Node

mutual

/-- The text of a scalar, or of the default value of a mapping. -/
def text? : Node → Option Text
  | scalar _ value => some value
  | mapping _ entries => defaultText? entries
  | _ => none

def defaultText? : List (Node × Node) → Option Text
  | [] => none
  | (key, value) :: rest => if key.tag = .value then text? value else defaultText? rest

end

/-- The value of a node whose tag asks for a text. A time stamp may not be a default value. -/
def readText (node : Node) (tag : Tag) : Except Fault Value :=
  match node, node.text? with
  | scalar .., some t => tag.read t
  | _, some t => if tag = .timestamp then .error (.scalar .defaultTimestamp) else tag.read t
  | _, none => .error .yaml

mutual

/-- Only mappings, and sequences of mappings, can be merged. -/
def canMerge : Node → Bool
  | mapping _ entries => canMergeEntries entries
  | sequence _ items => canMergeItems items
  | loop _ => true
  | scalar .. => false

def canMergeItems : List Node → Bool
  | [] => true
  | mapping _ entries :: rest => canMergeEntries entries && canMergeItems rest
  | loop _ :: rest => canMergeItems rest
  | _ :: _ => false

/-- Whatever these entries merge in can be merged. -/
def canMergeEntries : List (Node × Node) → Bool
  | [] => true
  | (key, value) :: rest => (key.tag != .merge || canMerge value) && canMergeEntries rest

end

/-- A key is no collection. What is written `=` is a text as a key. -/
def buildKey (level : Nat) (key : Node) : Built Value :=
  if key.tag = .value then .onLevel level (key.readText .text)
  else if key.tag.isCollection then .fail level
  else .onLevel level (key.readText key.tag)

mutual

/-- The value of a node on a level. A collection looks at its members one level further down. -/
def build (level : Nat) : Node → Built Value
  | sequence .seq items => (Built.all (buildItems (level + 1) items)).map .list
  | sequence .omap items | sequence .pairs items =>
    (Built.all (buildPairs (level + 1) items)).map .list
  | mapping .map entries =>
    if canMergeEntries entries then
      (Built.all (mergedEntries (level + 1) entries ++ ownEntries (level + 1) entries)).map
        Value.mapOf
    else .fail (level + 1)
  | mapping .set entries =>
    if canMergeEntries entries then
      (Built.all (mergedEntries (level + 1) entries ++ ownEntries (level + 1) entries)).map
        fun entries => .set ((entries.foldl (fun bound (k, v) => Value.bind k v bound) []).map (·.1))
    else .fail (level + 1)
  | loop _ => .ok .null
  | node => if node.tag.isCollection then .fail (level + 1) else .onLevel level (node.readText node.tag)

def buildItems (level : Nat) : List Node → List (Built Value)
  | [] => []
  | node :: rest => build level node :: buildItems level rest

/-- Pairs from mappings with one entry each. -/
def buildPairs (level : Nat) : List Node → List (Built Value)
  | [] => []
  | mapping _ [(key, value)] :: rest =>
    ((build level key).both (build level value)).map (fun (k, v) => .tuple [k, v]) ::
      buildPairs level rest
  | _ :: rest => .fail level :: buildPairs level rest

def ownEntries (level : Nat) : List (Node × Node) → List (Built (Value × Value))
  | [] => []
  | (key, value) :: rest =>
    if key.tag = .merge then ownEntries level rest
    else (buildKey level key).both (build level value) :: ownEntries level rest

/-- The entries that a mapping merges in. -/
def mergedEntries (level : Nat) : List (Node × Node) → List (Built (Value × Value))
  | [] => []
  | (key, value) :: rest =>
    (if key.tag = .merge then entriesOf level value else []) ++ mergedEntries level rest

/-- The entries that a merged node stands for. -/
def entriesOf (level : Nat) : Node → List (Built (Value × Value))
  | mapping _ entries => mergedEntries level entries ++ ownEntries level entries
  | sequence _ items => entriesOfAll level items
  | _ => []

/-- Of several mappings the first has the last word. -/
def entriesOfAll (level : Nat) : List Node → List (Built (Value × Value))
  | [] => []
  | node :: rest => entriesOfAll level rest ++ entriesOf level node

end

end Node

/-! ## Documents -/

structure Document where
  value : Value
  /-- The value lies inside of itself. -/
  isEndless : Bool

def Document.ofNode (node : Node) : Except Fault Document :=
  match node.build 0 with
  | .ok value => .ok ⟨value, node.isEndless⟩
  | .error (_, fault) => .error fault

def documentsFrom : (fuel : Nat) → (isFirst : Bool) → Reader → Except Fault (List Document)
  | 0, _, _ => .error .yaml
  | fuel + 1, isFirst, reader => do
    match ← (Reader.document isFirst).run reader with
    | (none, _) => return []
    | (some node, reader) =>
      let document ← Document.ofNode node
      return document :: (← documentsFrom fuel false reader)

/-! ## Characters -/

/-- Characters that a YAML text may hold. -/
def isAllowed (c : Nat) : Bool :=
  c == 0x09 || c == 0x0A || c == 0x0D || (0x20 ≤ c && c ≤ 0x7E) || c == 0x85 ||
    (0xA0 ≤ c && c ≤ 0xD7FF) || (0xE000 ≤ c && c ≤ 0xFFFD) || 0x10000 ≤ c

/-- UTF-16 after a byte order mark for it, otherwise UTF-8. -/
def decode? (content : List UInt8) : Option Text :=
  match content with
  | 0xFF :: 0xFE :: _ => Text.ofUtf16? false content
  | 0xFE :: 0xFF :: _ => Text.ofUtf16? true content
  | _ => Text.ofUtf8? content

def readDocuments (content : List UInt8) : Except Fault (List Document) := do
  let t ← named (decode? content)
  if !t.all isAllowed then throw .yaml
  let tokens := Tokens.ofText t
  documentsFrom (tokens.tokens.length + 1) true (.ofTokens tokens)

end Yaml

end ConfigLocator
