import ConfigLocator.Text.Basic

/-!
# White space

The code points that count as blank: those with the Unicode property `White_Space`, and the four
information separators U+001C to U+001F. `strip` removes them at both ends, and a text is blank when
nothing is left.
-/

namespace ConfigLocator

/-- Blank code points beyond Latin-1. -/
def wideBlanks : List Nat :=
  [0x1680, 0x2000, 0x2001, 0x2002, 0x2003, 0x2004, 0x2005, 0x2006, 0x2007, 0x2008, 0x2009, 0x200A,
    0x2028, 0x2029, 0x202F, 0x205F, 0x3000]

def isBlank (c : Nat) : Bool :=
  (0x09 ≤ c && c ≤ 0x0D) || (0x1C ≤ c && c ≤ 0x20) || c == 0x85 || c == 0xA0 || wideBlanks.contains c

/-- Space, tab, line feed, vertical tab, form feed and carriage return. -/
def isAsciiBlank (c : Nat) : Bool := (0x09 ≤ c && c ≤ 0x0D) || c == 0x20

namespace Text

def strip (t : Text) : Text := trim isBlank t

/-- Nothing but white space. -/
def isBlankText (t : Text) : Bool := t.all isBlank

end Text

end ConfigLocator
