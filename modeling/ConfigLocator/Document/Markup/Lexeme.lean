import ConfigLocator.Document.Markup.Reference

/-!
# Lexemes of markup

Pieces with fixed delimiters: comments, instructions, character data that is not looked into, and
texts in quotes. Each reader takes the text behind the opening delimiter and gives what follows the
piece.
-/

namespace ConfigLocator

namespace Markup

/-- What stands before and after the first occurrence of a delimiter. -/
def cutAt? (delimiter : Text) : Text → Option (Text × Text)
  | [] => none
  | c :: rest =>
    match Text.dropLeading? delimiter (c :: rest) with
    | some behind => some ([], behind)
    | none => (cutAt? delimiter rest).map fun (before, behind) => (c :: before, behind)

/-- Two hyphens stand only at the end of a comment. -/
def behindComment? (t : Text) : Option Text := do
  let (_, rest) ← cutAt? "--" t
  Text.dropLeading? ">" rest

/-- The target that is kept for the declaration of the document itself, in letters of either case. -/
def isReserved (target : Text) : Bool :=
  Text.lowerAscii target == ("xml" : Text)

/-- Behind the target of an instruction comes a blank or the end. -/
def behindInstruction? (t : Text) : Option Text := do
  let (target, rest) ← name? t
  if isReserved target then none
  else
    match Text.dropLeading? "?>" rest with
    | some rest => some rest
    | none =>
      if rest.head?.any isBlankChar then (cutAt? "?>" rest).map (·.2) else none

/-- Blanks, comments and instructions. -/
def skipMisc : (fuel : Nat) → Text → Option Text
  | 0, t => some t
  | fuel + 1, t =>
    let t := skipBlanks t
    match Text.dropLeading? "<!--" t, Text.dropLeading? "<?" t with
    | some comment, _ => do skipMisc fuel (← behindComment? comment)
    | none, some instruction => do skipMisc fuel (← behindInstruction? instruction)
    | none, none => some t

/-- Text in single or double quotes. -/
def literal? : Text → Option (Text × Text)
  | [] => none
  | quote :: rest => if quote = '"' ∨ quote = '\'' then cutAt? [quote] rest else none

end Markup

end ConfigLocator
