import ConfigLocator.Document.Markup.Lexeme
import ConfigLocator.Fault
import ConfigLocator.Text.CodePages
import ConfigLocator.Text.Encoding

/-!
# Encodings of markup

The characters of a markup document. A byte order mark, or a zero byte among the first two, tells
UTF-16 from the encodings that write ASCII in single bytes; of these the declaration at the head of
the document names one, UTF-8 where it does not.
-/

namespace ConfigLocator

namespace Markup

/-! ## Declarations -/

/-- What the head of a document declares. -/
structure Declaration where
  encoding : Option Text
  standsAlone : Bool

def isDeclaredChar (c : Nat) : Bool :=
  Text.isAsciiDigit c || Text.isAsciiLetter c || (".-_" : Text).contains c

/-- A name with a value in quotes, behind a blank. -/
def setting? (t : Text) : Option ((Text × Text) × Text) := do
  if !t.head?.any isBlankChar then none
  else
    let t := skipBlanks t
    let name := t.takeWhile fun c : Nat => c != '=' && !isBlankChar c
    let rest ← Text.dropLeading? "=" (skipBlanks (t.drop name.length))
    let (value, rest) ← literal? (skipBlanks rest)
    if value.all isDeclaredChar then some ((name, value), rest) else none

def isOver (t : Text) : Bool := (skipBlanks t).isEmpty

def standsAlone? (setting : Text × Text) : Option Bool :=
  if setting.1 ≠ ("standalone" : Text) then none
  else if setting.2 = ("yes" : Text) then some true
  else if setting.2 = ("no" : Text) then some false
  else none

/-- The declaration that a text between `<?xml` and `?>` makes: a version, and then an encoding and
whether the document stands alone, where they are given. -/
def Declaration.read? (t : Text) : Option Declaration := do
  let ((name, _), rest) ← setting? t
  if name ≠ ("version" : Text) then none
  else if isOver rest then some ⟨none, false⟩
  else
    let (setting, rest) ← setting? rest
    if setting.1 = ("encoding" : Text) then
      if !setting.2.head?.any Text.isAsciiLetter then none
      else if isOver rest then some ⟨some setting.2, false⟩
      else
        let (last, rest) ← setting? rest
        if isOver rest then some ⟨some setting.2, ← standsAlone? last⟩ else none
    else if isOver rest then some ⟨none, ← standsAlone? setting⟩
    else none

def declarationOpening : Text := "<?xml"

/-- What stands in the declaration at the start of a text, and what follows it; none if there is no
declaration. -/
def splitDeclaration? (t : Text) : Option (Option (Text × Text)) :=
  match Text.dropLeading? declarationOpening t with
  | none => none
  | some rest => if rest.head?.any isNameChar then none else some (cutAt? "?>" rest)

/-! ## Encodings -/

inductive Encoding where
  | utf8
  | utf16 (bigEndian : Bool)
  | latin1
  | ascii
  | page (p : CodePage)

namespace Encoding

def decode? (bytes : List UInt8) : Encoding → Option Text
  | utf8 => Text.ofUtf8? bytes
  | utf16 bigEndian => Text.ofUtf16? bigEndian bytes
  | latin1 => some (Text.ofLatin1 bytes)
  | ascii => if bytes.all (· < 0x80) then some (Text.ofLatin1 bytes) else none
  | page p => p.decode? bytes

/-- The code units of a text, in which its declaration can be read before its encoding is known for
sure. -/
def units (bytes : List UInt8) : Encoding → Text
  | utf16 bigEndian => (Text.units16? bigEndian (bytes.take (bytes.length / 2 * 2))).getD []
  | _ => Text.ofLatin1 bytes

/-- The encoding that the first bytes show, and the bytes behind a byte order mark. -/
def detect (bytes : List UInt8) : Encoding × List UInt8 :=
  match bytes with
  | 0xFE :: 0xFF :: rest => (utf16 true, rest)
  | 0xFF :: 0xFE :: rest => (utf16 false, rest)
  | 0xEF :: 0xBB :: 0xBF :: rest => (utf8, rest)
  | 0x00 :: _ :: _ => (utf16 true, bytes)
  | _ :: 0x00 :: _ => (utf16 false, bytes)
  | _ => (utf8, bytes)

/-- Small letters, with one `_` for every run of signs between letters and digits. -/
def plainName (name : Text) : Text :=
  let signs : Text := (Text.lowerAscii name).map fun c =>
    if Text.isAsciiDigit c || Text.isAsciiLetter c || c == '.' then c else '_'
  Text.join "_" ((Text.split '_' signs).filter (!·.isEmpty))

/-- The encoding of single bytes with a name. -/
def singleByte (name : Text) : Except Fault Encoding :=
  let plain := plainName name
  let among := fun names : List String => names.any fun n => Text.ofString n == plain
  if among latin1Names then .ok latin1
  else if among asciiNames then .ok ascii
  else if among multiByteNames then .error .multiByteEncoding
  else if among foreignNames then .error .markup
  else
    match codePages.find? fun p => among p.names with
    | some p => .ok (page p)
    | none => .error .unknownEncoding

def wideNames : List Text := ["UTF-16", "UTF-16BE", "UTF-16LE"]

/-- The names that every reader of markup knows. -/
def standardNames : List Text := "UTF-8" :: "ISO-8859-1" :: "US-ASCII" :: wideNames

/-- The encoding with a name, which has to agree with what the first bytes show: whether characters
take two bytes, and in which order. -/
def named (detected : Encoding) (name : Text) : Except Fault Encoding := do
  let upper := Text.upperAscii name
  match detected with
  | utf16 bigEndian =>
    if upper = ("UTF-16" : Text) ∨ upper = (if bigEndian then "UTF-16BE" else "UTF-16LE" : Text) then
      return detected
    else if standardNames.contains upper then throw .markup
    else
      let _ ← singleByte name
      throw .markup
  | _ =>
    if upper = ("UTF-8" : Text) then return utf8
    else if wideNames.contains upper then throw .markup
    else singleByte name

end Encoding

/-! ## Documents as text -/

/-- The text of a document behind its declaration. -/
structure Source where
  standsAlone : Bool
  text : Text

def wellFormed {α : Type} (value : Option α) : Except Fault α :=
  match value with
  | some a => .ok a
  | none => .error .markup

/-- All characters have to be allowed; line ends become line feeds. -/
def checkedText (t : Text) : Except Fault Text :=
  if t.all isAllowed then .ok (withLineFeeds t) else .error .markup

namespace Source

def ofBytes (content : List UInt8) : Except Fault Source := do
  let (detected, bytes) := Encoding.detect content
  match splitDeclaration? (detected.units bytes) with
  | none => return ⟨false, ← checkedText (← wellFormed (detected.decode? bytes))⟩
  | some parts =>
    let (inner, _) ← wellFormed parts
    let declaration ← wellFormed (Declaration.read? inner)
    let encoding ←
      match declaration.encoding with
      | some name => Encoding.named detected name
      | none => .ok detected
    let t ← wellFormed (encoding.decode? bytes)
    let behind := t.drop (declarationOpening.length + inner.length + 2)
    return ⟨declaration.standsAlone, ← checkedText behind⟩

end Source

end Markup

end ConfigLocator
