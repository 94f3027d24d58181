import ConfigLocator.Text.Basic

/-!
# Encodings

Bytes as text and back. `ofUtf8?` and `ofUtf16?` refuse bytes that are no text in their encoding;
in Latin-1 every byte is a character.
-/

namespace ConfigLocator

namespace Text

def ofLatin1 (bytes : List UInt8) : Text := bytes.map UInt8.toNat

/-! ## UTF-8 -/

/-- The six bits of a continuation byte. -/
def continuation? (b : UInt8) : Option Nat :=
  if 0x80 ≤ b ∧ b < 0xC0 then some (b.toNat - 0x80) else none

def isSurrogate (c : Nat) : Bool := 0xD800 ≤ c && c < 0xE000

/-- The shortest form is the only one, and surrogates have none. -/
def ofUtf8? : List UInt8 → Option Text
  | [] => some []
  | a :: rest =>
    if a < 0x80 then do return a.toNat :: (← ofUtf8? rest)
    else
      match rest with
      | [] => none
      | b :: rest =>
        if 0xC2 ≤ a ∧ a < 0xE0 then do
          let y ← continuation? b
          return ((a.toNat - 0xC0) * 0x40 + y) :: (← ofUtf8? rest)
        else
          match rest with
          | [] => none
          | c :: rest =>
            if 0xE0 ≤ a ∧ a < 0xF0 then do
              let y ← continuation? b
              let z ← continuation? c
              let n := ((a.toNat - 0xE0) * 0x40 + y) * 0x40 + z
              if n < 0x800 || isSurrogate n then none else return n :: (← ofUtf8? rest)
            else
              match rest with
              | [] => none
              | d :: rest =>
                if 0xF0 ≤ a ∧ a < 0xF5 then do
                  let y ← continuation? b
                  let z ← continuation? c
                  let w ← continuation? d
                  let n := (((a.toNat - 0xF0) * 0x40 + y) * 0x40 + z) * 0x40 + w
                  if n < 0x10000 || 0x110000 ≤ n then none else return n :: (← ofUtf8? rest)
                else none

/-- The bytes of a code point. -/
def utf8Bytes (c : Nat) : List UInt8 :=
  let tail := fun k : Nat => UInt8.ofNat (0x80 + c / Nat.pow 0x40 k % 0x40)
  if c < 0x80 then [UInt8.ofNat c]
  else if c < 0x800 then [UInt8.ofNat (0xC0 + c / 0x40), tail 0]
  else if c < 0x10000 then [UInt8.ofNat (0xE0 + c / 0x1000), tail 1, tail 0]
  else [UInt8.ofNat (0xF0 + c / 0x40000), tail 2, tail 1, tail 0]

def toUtf8 (t : Text) : List UInt8 := t.flatMap utf8Bytes

/-! ## UTF-16 -/

/-- Code units of two bytes, none if a byte is left over. -/
def units16? (bigEndian : Bool) : List UInt8 → Option (List Nat)
  | [] => some []
  | [_] => none
  | a :: b :: rest => do
    let unit := if bigEndian then a.toNat * 0x100 + b.toNat else b.toNat * 0x100 + a.toNat
    return unit :: (← units16? bigEndian rest)

/-- Joins the halves of surrogate pairs; a half may not stand alone. -/
def joinUnits? : List Nat → Option Text
  | [] => some []
  | [u] => if isSurrogate u then none else some [u]
  | u :: v :: rest =>
    if isSurrogate u then
      if u < 0xDC00 && 0xDC00 ≤ v && v < 0xE000 then do
        return (0x10000 + (u - 0xD800) * 0x400 + (v - 0xDC00)) :: (← joinUnits? rest)
      else none
    else do return u :: (← joinUnits? (v :: rest))

def ofUtf16? (bigEndian : Bool) (bytes : List UInt8) : Option Text := do
  joinUnits? (← units16? bigEndian bytes)

end Text

end ConfigLocator
