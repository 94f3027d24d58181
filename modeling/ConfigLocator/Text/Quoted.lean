import ConfigLocator.Text.Basic
import ConfigLocator.Text.Printable

/-!
# Quoted text

The form in which a message shows a text exactly: single quotes, or double ones when the text has a
single quote and no double one, with backslash escapes for the quote, the backslash and everything
that is not printable.
-/

namespace ConfigLocator

/-- Lower-case hexadecimal digits, padded with zeros to a width. -/
def hexPadded (width n : Nat) : Text :=
  let digits := Text.ofChars (Nat.toDigits 16 n)
  List.replicate (width - digits.length) ('0' : Nat) ++ digits

namespace Text

/-- The quote around a text. -/
def quoteFor (t : Text) : Nat := if t.contains '\'' && !t.contains '"' then '"' else '\''

def escapeIn (quote c : Nat) : Text :=
  if c = quote || c = '\\' then ['\\', c]
  else if c = '\t' then "\\t"
  else if c = '\n' then "\\n"
  else if c = '\r' then "\\r"
  else if isPrintable c then [c]
  else if c < 0x100 then ofString "\\x" ++ hexPadded 2 c
  else if c < 0x10000 then ofString "\\u" ++ hexPadded 4 c
  else ofString "\\U" ++ hexPadded 8 c

def quoted (t : Text) : Text :=
  let quote := quoteFor t
  quote :: t.flatMap (escapeIn quote) ++ [quote]

end Text

end ConfigLocator
