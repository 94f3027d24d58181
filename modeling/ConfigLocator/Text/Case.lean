import ConfigLocator.Text.CaseRuns
import ConfigLocator.Text.Basic

/-!
# Upper and lower case

Full case mapping of a text, by the Unicode rules that hold in every language. A character can map
to several (`ß` to `SS`), and a capital sigma becomes `ς` at the end of a word and `σ` elsewhere.
-/

namespace ConfigLocator

def upperOf (c : Nat) : Text :=
  match upperExpansions.lookup c with
  | some expansion => expansion
  | none => [(upperRuns.image? c).getD c]

/-- Lower case where the neighbours do not matter. -/
def lowerOf (c : Nat) : Text :=
  if c = 0x130 then [0x69, 0x307] else [(lowerRuns.image? c).getD c]

/-- The next character that is not passed over is a letter with case. -/
def meetsCased (t : Text) : Bool :=
  match t.dropWhile caseIgnorableRanges.contain with
  | [] => false
  | c :: _ => casedRanges.contain c

namespace Text

def upper (t : Text) : Text := t.flatMap upperOf

/-- Lower case of a text whose preceding characters are given, nearest first. -/
def lowerAfter : (before t : Text) → Text
  | _, [] => []
  | before, c :: rest =>
    (if c = 0x3A3 then [if meetsCased before && !meetsCased rest then 0x3C2 else 0x3C3] else lowerOf c)
      ++ lowerAfter (c :: before) rest

def lower (t : Text) : Text := lowerAfter [] t

end Text

end ConfigLocator
