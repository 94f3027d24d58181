import ConfigLocator.Text.Basic

/-!
# Patterns

Regular patterns over code points. `Pattern.after` gives what has to follow a code point, so that a
text is accepted when what is left of the pattern behind its last code point may be empty
(`accepts_append`).
-/

namespace ConfigLocator

inductive Pattern where
  | never
  | empty
  | one (p : Nat → Bool)
  | seq (a b : Pattern)
  | either (a b : Pattern)
  | many (a : Pattern)

namespace Pattern

/-! ## Acceptance -/

def acceptsEmpty : Pattern → Bool
  | never | one _ => false
  | empty | many _ => true
  | seq a b => a.acceptsEmpty && b.acceptsEmpty
  | either a b => a.acceptsEmpty || b.acceptsEmpty

/-- `seq` with the parts that cannot matter left out. -/
def followedBy : Pattern → Pattern → Pattern
  | never, _ => never
  | empty, b => b
  | a, b => seq a b

/-- `either` with the parts that cannot matter left out. -/
def or : Pattern → Pattern → Pattern
  | never, b => b
  | a, never => a
  | a, b => either a b

/-- What is left of a pattern behind a code point. -/
def after (c : Nat) : Pattern → Pattern
  | never | empty => never
  | one p => if p c then empty else never
  | seq a b =>
    if a.acceptsEmpty then ((a.after c).followedBy b).or (b.after c) else (a.after c).followedBy b
  | either a b => (a.after c).or (b.after c)
  | many a => (a.after c).followedBy (many a)

/-- What is left of a pattern behind a text. -/
def afterText (pattern : Pattern) (t : Text) : Pattern := t.foldl (fun left c => left.after c) pattern

def accepts (pattern : Pattern) (t : Text) : Bool := (pattern.afterText t).acceptsEmpty

theorem accepts_append (pattern : Pattern) (s t : Text) :
    pattern.accepts (s ++ t) = (pattern.afterText s).accepts t := by
  simp [accepts, afterText]

/-! ## Building patterns -/

def char (c : Char) : Pattern := one (· == c)

def oneOf (chars : Text) : Pattern := one chars.contains

def word (t : Text) : Pattern := t.foldr (fun c rest => (one (· == c)).followedBy rest) empty

def words (ts : List Text) : Pattern := ts.foldr (fun t rest => (word t).or rest) never

def maybe (a : Pattern) : Pattern := either a empty

/-- Once or more. -/
def repeated (a : Pattern) : Pattern := seq a (many a)

def digit : Pattern := one Text.isAsciiDigit

def sequence (parts : List Pattern) : Pattern := parts.foldr followedBy empty

def choice (parts : List Pattern) : Pattern := parts.foldr or never

end Pattern

end ConfigLocator
