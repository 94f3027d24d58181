import ConfigLocator.Text.Pattern

/-!
# Tags

A tag says what kind of value a node of a document is. A node that writes no tag has the one that
its text suggests (`Tag.ofPlain`): the patterns are those of YAML 1.1.
-/

namespace ConfigLocator

namespace Yaml

/-- The tags of YAML 1.1 that have values. `merge` and `value` have a meaning only as keys. -/
inductive Tag where
  | null
  | bool
  | int
  | float
  | binary
  | timestamp
  | omap
  | pairs
  | set
  | text
  | seq
  | map
  | merge
  | value
  | unknown
deriving DecidableEq, Repr

namespace Tag

/-! ## Written tags -/

/-- What the full names of the standard tags start with. -/
def standardPrefix : Text := "tag:yaml.org,2002:"

def standardNames : List (Text × Tag) :=
  [("null", null), ("bool", bool), ("int", int), ("float", float), ("binary", binary),
    ("timestamp", timestamp), ("omap", omap), ("pairs", pairs), ("set", set), ("str", text),
    ("seq", seq), ("map", map), ("merge", merge), ("value", value)]

/-- The tag with a full name. -/
def ofText (t : Text) : Tag :=
  match Text.dropLeading? standardPrefix t with
  | some name => (standardNames.lookup name).getD unknown
  | none => unknown

/-! ## Suggested tags -/

open Pattern

def sign : Pattern := maybe (oneOf "+-")

def digitOrGap : Pattern := either digit (char '_')

/-- `:` and a number below sixty, once or more. -/
def sixtieths : Pattern :=
  repeated (sequence [char ':', maybe (oneOf "012345"), digit])

def boolPattern : Pattern :=
  words ["yes", "Yes", "YES", "no", "No", "NO", "true", "True", "TRUE", "false", "False", "FALSE",
    "on", "On", "ON", "off", "Off", "OFF"]

def exponentPattern : Pattern := maybe (sequence [oneOf "eE", oneOf "+-", repeated digit])

def floatPattern : Pattern :=
  choice
    [sequence [sign, digit, many digitOrGap, char '.', many digitOrGap, exponentPattern],
      sequence [char '.', digit, many digitOrGap, exponentPattern],
      sequence [sign, digit, many digitOrGap, sixtieths, char '.', many digitOrGap],
      sequence [sign, words [".inf", ".Inf", ".INF"]],
      words [".nan", ".NaN", ".NAN"]]

def intPattern : Pattern :=
  let leading := oneOf "123456789"
  choice
    [sequence [sign, word "0b", repeated (oneOf "01_")],
      sequence [sign, char '0', repeated (oneOf "01234567_")],
      sequence [sign, char '0'],
      sequence [sign, leading, many digitOrGap],
      sequence [sign, word "0x", repeated (oneOf "0123456789abcdefABCDEF_")],
      sequence [sign, leading, many digitOrGap, sixtieths]]

def datePattern : Pattern :=
  sequence [digit, digit, digit, digit, char '-', digit, digit, char '-', digit, digit]

def timestampPattern : Pattern :=
  let short := sequence [digit, maybe digit]
  let blank := oneOf " \t"
  let zone := either (char 'Z')
    (sequence [oneOf "+-", short, maybe (sequence [char ':', digit, digit])])
  sequence
    [digit, digit, digit, digit, char '-', short, char '-', short,
      either (oneOf "Tt") (repeated blank),
      short, char ':', digit, digit, char ':', digit, digit,
      maybe (sequence [char '.', many digit]), maybe (sequence [many blank, zone])]

/-- What the text of a node suggests. No text suits two of the patterns. -/
def patterns : List (Tag × Pattern) :=
  [(bool, boolPattern), (float, floatPattern), (int, intPattern), (merge, word "<<"),
    (null, words ["~", "null", "Null", "NULL"]),
    (timestamp, either datePattern timestampPattern), (value, word "="),
    (unknown, words ["!", "&", "*"])]

/-- A line feed at the end does not count. -/
def suits (pattern : Pattern) (t : Text) : Bool :=
  pattern.accepts t || (t.getLast? == some 0x0A && pattern.accepts t.dropLast)

def ofPlain (t : Text) : Tag :=
  if t.isEmpty then null
  else ((patterns.find? fun (_, pattern) => suits pattern t).map (·.1)).getD text

end Tag

end Yaml

end ConfigLocator
