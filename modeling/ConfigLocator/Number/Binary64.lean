import ConfigLocator.Number.Numeral

/-!
# Binary floating point

Numbers of the binary format with 53 bits of precision, held exactly as sign, whole mantissa and
power of two. Every operation is exact arithmetic followed by one rounding, to the nearest number
and on a tie to the one with the even mantissa (`ofRatio`).
-/

namespace ConfigLocator

/-- A finite number has a mantissa of 53 bits, or of fewer with the least exponent. -/
inductive Binary64 where
  | finite (negative : Bool) (mantissa : Nat) (exponent : Int)
  | infinite (negative : Bool)
  | nan
deriving DecidableEq, Repr

namespace Binary64

def leastExponent : Int := -1074

def greatestExponent : Int := 971

/-- Every finite number above the least exponent has a mantissa from here up to twice that. -/
def leastMantissa : Nat := 0x10000000000000

/-- The whole number nearest to a ratio, the even one on a tie. -/
def roundRatio (num den : Nat) : Nat :=
  let q := num / den
  let r := num % den
  if 2 * r < den then q else if den < 2 * r then q + 1 else q + q % 2

/-- A ratio divided by a power of two. -/
def scaleDown (num den : Nat) (exponent : Int) : Nat × Nat :=
  if exponent < 0 then (num * Nat.pow 2 exponent.natAbs, den)
  else (num, den * Nat.pow 2 exponent.natAbs)

/-- The number nearest to `num / den`, for a positive denominator. -/
def ofRatio (negative : Bool) (num den : Nat) : Binary64 :=
  if num = 0 then finite negative 0 leastExponent
  else
    let guess : Int := num.log2 - den.log2 - 52
    let (n, d) := scaleDown num den guess
    let exponent := max leastExponent (if n < d * leastMantissa then guess - 1 else guess)
    let (n, d) := scaleDown num den exponent
    let mantissa := roundRatio n d
    let (mantissa, exponent) :=
      if mantissa = 2 * leastMantissa then (leastMantissa, exponent + 1) else (mantissa, exponent)
    if greatestExponent < exponent then infinite negative else finite negative mantissa exponent

def zero : Binary64 := finite false 0 leastExponent

/-- Numerator and denominator of a finite number. -/
def ratio? : Binary64 → Option (Int × Nat)
  | finite negative mantissa exponent =>
    let (n, d) := scaleDown mantissa 1 (-exponent)
    some (if negative then -(n : Int) else (n : Int), d)
  | _ => none

def isZero : Binary64 → Bool
  | finite _ 0 _ => true
  | _ => false

def neg : Binary64 → Binary64
  | finite negative mantissa exponent => finite (!negative) mantissa exponent
  | infinite negative => infinite (!negative)
  | nan => nan

/-- Equality of values: the two zeros are equal, and nothing equals what is no number. -/
def same : Binary64 → Binary64 → Bool
  | infinite a, infinite b => a == b
  | x, y =>
    match x.ratio?, y.ratio? with
    | some (a, b), some (c, d) => a * d == c * b
    | _, _ => false

/-- Equality with a whole number. -/
def sameAsInt (x : Binary64) (n : Int) : Bool :=
  match x.ratio? with
  | some (num, den) => num == n * den
  | none => false

/-- Sum, of which no operand is a negative zero. -/
def add : Binary64 → Binary64 → Binary64
  | nan, _ | _, nan => nan
  | infinite a, infinite b => if a = b then infinite a else nan
  | infinite a, _ => infinite a
  | _, infinite b => infinite b
  | x, y =>
    match x.ratio?, y.ratio? with
    | some (a, b), some (c, d) =>
      let num := a * d + c * b
      ofRatio (num < 0) num.natAbs (b * d)
    | _, _ => nan

/-- Product with a positive whole number. -/
def scale : Binary64 → Nat → Binary64
  | finite negative mantissa exponent, k =>
    match (finite false mantissa exponent).ratio? with
    | some (num, den) => ofRatio negative (num.natAbs * k) den
    | none => nan
  | x, _ => x

/-- The number nearest to a natural one, none beyond the greatest finite number. -/
def ofNat? (n : Nat) : Option Binary64 :=
  match ofRatio false n 1 with
  | infinite _ => none
  | x => some x

/-! ## Shortest decimal text

A number is shown with the fewest decimal digits that lie nearer to it than to any other number, and
among those with the nearest ones, on a tie with an even last digit.
-/

/-- Integer power of ten as a ratio. -/
def tenTo (k : Int) : Nat × Nat := 
  if k < 0 then (1, Nat.pow 10 k.natAbs) else (Nat.pow 10 k.natAbs, 1)

/-- `a ≤ b` for ratios. -/
def ratioLe (a b : Nat × Nat) : Bool := a.1 * b.2 ≤ b.1 * a.2

/-- The greatest power of ten that a positive ratio reaches. -/
def decimalExponent (num den : Nat) : Int :=
  let guess := (((num.log2 : Int) - den.log2) * 30103).fdiv 100000
  if ratioLe (tenTo (guess + 1)) (num, den) then guess + 1
  else if ratioLe (tenTo guess) (num, den) then guess
  else guess - 1

/-- The bounds of the numbers that round to this mantissa and exponent, with the number itself in
the middle, over one denominator. -/
def neighbourhood (mantissa : Nat) (exponent : Int) : (Nat × Nat × Nat) × Nat :=
  let low := if mantissa = leastMantissa ∧ leastExponent < exponent then 1 else 2
  let (unit, den) := scaleDown 1 1 (2 - exponent)
  (((4 * mantissa - low) * unit, 4 * mantissa * unit, (4 * mantissa + 2) * unit), den)

/-- The point with `count` digits nearest to the number, if one rounds to it: digits and the power
of ten of the last. A point that reaches the next power of ten has the single digit 1. -/
def digitsOfCount? (mantissa : Nat) (exponent : Int) (count : Nat) : Option (Nat × Int) :=
  let ((low, mid, high), den) := neighbourhood mantissa exponent
  let power := decimalExponent mid den + 1 - (count : Int)
  let (p, q) := tenTo power
  let below := mid * q / (den * p)
  let inside := fun n : Nat =>
    let x := n * p * den
    if mantissa % 2 = 0 then low * q ≤ x && x ≤ high * q else low * q < x && x < high * q
  let middle := (2 * below + 1) * p * den
  let nearerAbove := middle < 2 * mid * q || (middle == 2 * mid * q && below % 2 == 1)
  let above := if below + 1 = Nat.pow 10 count then (1, power + count) else (below + 1, power)
  match inside below, inside (below + 1) with
  | true, true => some (if nearerAbove then above else (below, power))
  | true, false => some (below, power)
  | false, true => some above
  | false, false => none

def shortestDigits (mantissa : Nat) (exponent : Int) : Nat × Int :=
  ((List.range 17).findSome? fun k => digitsOfCount? mantissa exponent (k + 1)).getD (mantissa, 0)

/-- How decimal digits are laid out: positionally while the point falls in a range, otherwise with
an exponent of at least two digits. -/
structure Layout where
  /-- Least and greatest number of digits before the point that are written positionally; a negative
  number counts zeros after the point. -/
  leastPoint : Int
  greatestPoint : Int

/-- Positional from 0.0001 up to below 10^16, and then always with a point. -/
def layout : Layout := ⟨-3, 16⟩

/-- `digits` with a point after `point` of them. -/
def placeDigits (digits : Text) (point : Int) : Text :=
  if point ≤ 0 then "0." ++ List.replicate point.natAbs ('0' : Nat) ++ digits
  else
    let n := point.natAbs
    if digits.length ≤ n then digits ++ List.replicate (n - digits.length) ('0' : Nat) ++ ".0"
    else digits.take n ++ (('.' : Nat) :: digits.drop n)

def magnitudeText (l : Layout) (mantissa : Nat) (exponent : Int) : Text :=
  if mantissa = 0 then "0.0"
  else
    let (n, power) := shortestDigits mantissa exponent
    let digits := Text.ofNat n
    let point : Int := digits.length + power
    if l.leastPoint ≤ point ∧ point ≤ l.greatestPoint then placeDigits digits point
    else
      let fraction := if digits.length = 1 then [] else ('.' : Nat) :: digits.drop 1
      let e := point - 1
      digits.take 1 ++ fraction ++ (('e' : Nat) :: (if e < 0 then '-' else '+' : Char) ::
        Text.ofNatPadded 2 e.natAbs)

def toText : Binary64 → Text
  | finite negative mantissa exponent =>
    (if negative then [('-' : Nat)] else []) ++ magnitudeText layout mantissa exponent
  | infinite negative => if negative then "-inf" else "inf"
  | nan => "nan"

/-! ## Reading decimal text -/

/-- ASCII digits up to the first other character; single underscores may separate digits. -/
def takeDigits : (digits : List Nat) → (gap : Bool) → Text → Option (List Nat × Text)
  | digits, gap, [] => if gap && !digits.isEmpty then none else some (digits.reverse, [])
  | digits, gap, c :: rest =>
    if 0x30 ≤ c ∧ c ≤ 0x39 then takeDigits ((c - 0x30) :: digits) false rest
    else if c = '_' then
      if gap then none else takeDigits digits true rest
    else if gap && !digits.isEmpty then none else some (digits.reverse, c :: rest)

def natOfDigits (digits : List Nat) : Nat := digits.foldl (fun n d => n * 10 + d) 0

/-- The number nearest to `digits · 10^power`; a power far out of range is decided by its size. -/
def ofDecimal (negative : Bool) (digits : List Nat) (power : Int) : Binary64 :=
  let digits := digits.dropWhile (· == 0)
  if digits.isEmpty then finite negative 0 leastExponent
  else
    let point := (digits.length : Int) + power
    if 400 < point then infinite negative
    else if point < -400 then finite negative 0 leastExponent
    else
      let (p, q) := tenTo power
      ofRatio negative (natOfDigits digits * p) q

/-- An exponent part, zero if there is none. -/
def readExponent? : Text → Option Int
  | [] => some 0
  | c :: rest =>
    if c = 'e' ∨ c = 'E' then
      let (negative, digits) := Numeral.sign rest
      match takeDigits [] true digits with
      | some (ds, []) =>
        if ds.isEmpty then none
        else some (if negative then -(natOfDigits ds : Int) else (natOfDigits ds : Int))
      | _ => none
    else none

/-- A decimal number without sign. -/
def readMagnitude? (negative : Bool) (t : Text) : Option Binary64 := do
  let (whole, rest) ← takeDigits [] true t
  let (fraction, rest) ←
    match rest with
    | c :: more => if c = '.' then takeDigits [] true more else some ([], rest)
    | [] => some ([], [])
  if whole.isEmpty && fraction.isEmpty then none
  else
    let exponent ← readExponent? rest
    some (ofDecimal negative (whole ++ fraction) (exponent - fraction.length))

/-- A decimal number, `inf`, `infinity` or `nan` in letters of either case, with an optional sign and
white space around it. -/
def read? (t : Text) : Option Binary64 := do
  let ascii ← Numeral.toAscii? t
  let (negative, body) := Numeral.sign (Text.trim isAsciiBlank ascii)
  let word := Text.lowerAscii body
  if word = "inf" ∨ word = "infinity" then some (infinite negative)
  else if word = "nan" then some nan
  else readMagnitude? negative body

end Binary64

end ConfigLocator
