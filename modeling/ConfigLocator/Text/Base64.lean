import ConfigLocator.Text.Basic

/-!
# Base 64

Bytes written as digits of six bits each. Characters that are no digits are passed over, and
everything behind the padding of a group is left unread; a group that is neither full nor padded
makes the text invalid.
-/

namespace ConfigLocator

namespace Base64

def digit? (c : Nat) : Option Nat :=
  if 0x41 ≤ c ∧ c ≤ 0x5A then some (c - 0x41)
  else if 0x61 ≤ c ∧ c ≤ 0x7A then some (c - 0x61 + 26)
  else if 0x30 ≤ c ∧ c ≤ 0x39 then some (c - 0x30 + 52)
  else if c = '+' then some 62
  else if c = '/' then some 63
  else none

def padding : Nat := '='

/-- What a group has so far: the number of its digits, the bits that make no byte yet, and the
number of padding characters since the last digit. -/
structure Group where
  digits : Nat
  bits : Nat
  pads : Nat

def Group.start : Group := ⟨0, 0, 0⟩

/-- The byte that a digit completes, and the group behind the digit. -/
def Group.add (g : Group) (digit : Nat) : Option UInt8 × Group :=
  match g.digits with
  | 0 => (none, ⟨1, digit, 0⟩)
  | 1 => (some (UInt8.ofNat (g.bits * 4 + digit / 16)), ⟨2, digit % 16, 0⟩)
  | 2 => (some (UInt8.ofNat (g.bits * 16 + digit / 4)), ⟨3, digit % 4, 0⟩)
  | _ => (some (UInt8.ofNat (g.bits * 64 + digit)), .start)

def decodeFrom : Group → Text → Option (List UInt8)
  | g, [] => if g.digits = 0 then some [] else none
  | g, c :: rest =>
    if c = padding then
      if g.digits < 2 then decodeFrom g rest
      else if 4 ≤ g.digits + g.pads + 1 then some []
      else decodeFrom { g with pads := g.pads + 1 } rest
    else
      match digit? c with
      | none => decodeFrom g rest
      | some d =>
        let (byte, group) := g.add d
        (decodeFrom group rest).map (byte.toList ++ ·)

def decode? (t : Text) : Option (List UInt8) := decodeFrom .start t

end Base64

end ConfigLocator
