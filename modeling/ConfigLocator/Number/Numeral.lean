import ConfigLocator.Text.Blank
import ConfigLocator.Text.Digit

/-!
# Numerals

Reading whole numbers in a base. White space around the numeral is passed over, a sign and the
prefix of the base (`0b`, `0o`, `0x`) may stand in front, single underscores may separate digits,
and decimal digits of every script count as digits.
-/

namespace ConfigLocator

namespace Numeral

/-- The value of an ASCII digit or letter. -/
def digitValue? (c : Nat) : Option Nat :=
  if 0x30 ≤ c ∧ c ≤ 0x39 then some (c - 0x30)
  else if 0x61 ≤ c ∧ c ≤ 0x7A then some (c - 0x61 + 10)
  else if 0x41 ≤ c ∧ c ≤ 0x5A then some (c - 0x41 + 10)
  else none

/-- ASCII digits for the digits of other scripts and spaces for other blanks; none if anything else
lies beyond ASCII. -/
def toAscii? (t : Text) : Option Text :=
  t.mapM fun c =>
    if c < 0x7F then some c
    else if isBlank c then some 0x20
    else (decimalDigit? c).map (0x30 + ·)

/-- The sign of a numeral, and what follows it. -/
def sign : Text → Bool × Text
  | [] => (false, [])
  | c :: rest => if c = '-' then (true, rest) else if c = '+' then (false, rest) else (false, c :: rest)

/-- The digits of a base, to which `value` holds those before; a digit must come next when `gap`. -/
def readDigits (base : Nat) : (value : Nat) → (gap : Bool) → Text → Option Nat
  | value, gap, [] => if gap then none else some value
  | value, gap, c :: rest =>
    if c = '_' then
      if gap then none else readDigits base value true rest
    else
      match digitValue? c with
      | some d => if d < base then readDigits base (value * base + d) false rest else none
      | none => none

/-- The letters that mark a base after a zero. -/
def baseMarks (base : Nat) : Text :=
  if base = 2 then "bB" else if base = 8 then "oO" else if base = 16 then "xX" else []

/-- The digits without the mark of the base and an underscore after it. -/
def dropBaseMark (base : Nat) : Text → Text
  | a :: b :: rest =>
    if a = '0' ∧ (baseMarks base).contains b then Text.dropLeading rest "_" else a :: b :: rest
  | t => t

def read? (base : Nat) (t : Text) : Option Int := do
  let ascii ← toAscii? t
  let (negative, body) := sign (Text.trim isAsciiBlank ascii)
  let value ← readDigits base 0 true (dropBaseMark base body)
  return if negative then -(value : Int) else (value : Int)

end Numeral

end ConfigLocator
