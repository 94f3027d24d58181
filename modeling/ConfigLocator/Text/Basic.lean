/-!
# Text

Text is a list of Unicode code points. A code point is kept as a number, since the escapes of a
properties file can name a lone surrogate, which no `Char` holds. The module has the list surgery
that locations, paths and keys are made of: leading and trailing pieces, splitting at a delimiter,
trimming by a class of code points, and the decimal text of a number.

`join_split` says that joining the pieces of a split gives the text back.
-/

namespace ConfigLocator

/-- Unicode code points: scalar values and lone surrogates. -/
abbrev Text := List Nat

instance codePoint : Coe Char Nat := ⟨Char.toNat⟩

def lineFeed : Nat := '\n'

def backslash : Nat := '\\'

namespace Text

def ofChars (cs : List Char) : Text := cs.map Char.toNat

def ofString (s : String) : Text := ofChars s.toList

instance : Coe String Text := ⟨ofString⟩

/-- The string with these code points, none if one of them is a lone surrogate. -/
def toString? (t : Text) : Option String :=
  (t.mapM fun c => if h : Nat.isValidChar c then some (Char.ofNatAux c h) else none).map String.ofList

/-! ## Leading and trailing pieces -/

def startsWith (t head : Text) : Bool := head.isPrefixOf t

def endsWith (t tail : Text) : Bool := tail.isSuffixOf t

/-- The text after a leading piece, none if the text does not start with it. -/
def dropLeading? : (head t : Text) → Option Text
  | [], t => some t
  | _ :: _, [] => none
  | h :: hs, c :: cs => if h = c then dropLeading? hs cs else none

/-- The text without a leading piece, the text itself if it does not start with it. -/
def dropLeading (t head : Text) : Text := (dropLeading? head t).getD t

theorem dropLeading?_append (head t : Text) : dropLeading? head (head ++ t) = some t := by
  induction head with
  | nil => cases t <;> rfl
  | cons h hs ih => simp [dropLeading?, ih]

theorem eq_append_of_dropLeading? {head t rest : Text} (h : dropLeading? head t = some rest) :
    t = head ++ rest := by
  induction head generalizing t with
  | nil => cases t <;> simp_all [dropLeading?]
  | cons c cs ih =>
    cases t with
    | nil => simp [dropLeading?] at h
    | cons d ds =>
      simp only [dropLeading?] at h
      split at h
      · next hcd => subst hcd; simp [ih h]
      · cases h

/-- What follows the last `c`, the whole text if there is none. -/
def afterLast (c : Nat) (t : Text) : Text :=
  (t.reverse.takeWhile (· != c)).reverse

/-- The text up to its last `c`, that one included; empty if there is none. -/
def throughLast (c : Nat) (t : Text) : Text :=
  (t.reverse.dropWhile (· != c)).reverse

theorem throughLast_append_afterLast (c : Nat) (t : Text) :
    throughLast c t ++ afterLast c t = t := by
  rw [throughLast, afterLast, ← List.reverse_append, List.takeWhile_append_dropWhile,
    List.reverse_reverse]

/-! ## Splitting -/

/-- Puts a code point in front of the first piece. -/
def consFirst (c : Nat) : List Text → List Text
  | [] => [[c]]
  | piece :: pieces => (c :: piece) :: pieces

/-- The pieces between the occurrences of a code point. -/
def split (sep : Nat) : Text → List Text
  | [] => [[]]
  | c :: rest => if c = sep then [] :: split sep rest else consFirst c (split sep rest)

/-- `splitOn delimiter`, with a number of code points still to be passed over. -/
def splitAfter (delimiter : Text) : Nat → Text → List Text
  | _, [] => [[]]
  | skip + 1, _ :: rest => splitAfter delimiter skip rest
  | 0, c :: rest =>
    if startsWith (c :: rest) delimiter then
      [] :: splitAfter delimiter (delimiter.length - 1) rest
    else consFirst c (splitAfter delimiter 0 rest)

/-- The pieces between the occurrences of a non-empty delimiter, which are found from the left and
do not overlap. -/
def splitOn (delimiter t : Text) : List Text := splitAfter delimiter 0 t

/-- The pieces with a separator between them. -/
def join (sep : Text) : List Text → Text
  | [] => []
  | [piece] => piece
  | piece :: pieces => piece ++ sep ++ join sep pieces

theorem split_ne_nil (sep : Nat) (t : Text) : split sep t ≠ [] := by
  cases t with
  | nil => simp [split]
  | cons c rest =>
    simp only [split]
    split
    · simp
    · unfold consFirst; split <;> simp

theorem join_consFirst (sep : Text) (c : Nat) {pieces : List Text} (h : pieces ≠ []) :
    join sep (consFirst c pieces) = c :: join sep pieces := by
  match pieces, h with
  | [piece], _ => rfl
  | piece :: other :: rest, _ => simp [consFirst, join]

theorem join_split (sep : Nat) (t : Text) : join [sep] (split sep t) = t := by
  induction t with
  | nil => rfl
  | cons c rest ih =>
    simp only [split]
    split
    · next h =>
      subst h
      cases hs : split c rest with
      | nil => exact absurd hs (split_ne_nil c rest)
      | cons piece pieces =>
        rw [hs] at ih
        simp [join, ih]
    · rw [join_consFirst _ _ (split_ne_nil sep rest), ih]

/-! ## ASCII -/

def isAsciiDigit (c : Nat) : Bool := 0x30 ≤ c && c ≤ 0x39

def isAsciiCapital (c : Nat) : Bool := 0x41 ≤ c && c ≤ 0x5A

def isAsciiSmall (c : Nat) : Bool := 0x61 ≤ c && c ≤ 0x7A

def isAsciiLetter (c : Nat) : Bool := isAsciiCapital c || isAsciiSmall c

/-- ASCII letters made small. -/
def lowerAscii (t : Text) : Text := t.map fun c => if isAsciiCapital c then c + 0x20 else c

/-- ASCII letters made capital. -/
def upperAscii (t : Text) : Text := t.map fun c => if isAsciiSmall c then c - 0x20 else c

/-! ## Trimming and counting -/

def trimStart (p : Nat → Bool) (t : Text) : Text := t.dropWhile p

def trimEnd (p : Nat → Bool) (t : Text) : Text := (t.reverse.dropWhile p).reverse

def trim (p : Nat → Bool) (t : Text) : Text := trimEnd p (trimStart p t)

def replace (old new : Nat) (t : Text) : Text := t.map fun c => if c = old then new else c

/-- Order by code point, a text before its extensions. -/
def le : Text → Text → Bool
  | [], _ => true
  | _ :: _, [] => false
  | a :: as, b :: bs => if a = b then le as bs else decide (a < b)

/-- Bytes of a code point in UTF-8. -/
def utf8Width (c : Nat) : Nat :=
  if c < 0x80 then 1 else if c < 0x800 then 2 else if c < 0x10000 then 3 else 4

/-- Bytes of the text in UTF-8. -/
def utf8Length : Text → Nat
  | [] => 0
  | c :: rest => utf8Width c + utf8Length rest

/-! ## Numbers -/

/-- Decimal digits, without leading zeros. -/
def ofNat (n : Nat) : Text := ofChars (Nat.toDigits 10 n)

def ofInt (n : Int) : Text :=
  if n < 0 then ('-' : Nat) :: ofNat n.natAbs else ofNat n.natAbs

/-- Decimal digits, with leading zeros up to a width. -/
def ofNatPadded (width n : Nat) : Text :=
  let digits := ofNat n
  List.replicate (width - digits.length) ('0' : Nat) ++ digits

end Text

end ConfigLocator
