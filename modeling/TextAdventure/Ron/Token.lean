import TextAdventure.Number.Decimal
import TextAdventure.Text.NameTable

/-!
# The words of RON files

A RON file is cut into marks, names, numbers and quoted texts, with blanks and
comments between them. `tokens` cuts a whole file; it fails where a quoted text
or a comment does not end, and where no word can begin.
-/

namespace TextAdventure.Ron

/-- A name. With `r#` in front it is raw: it can then hold some signs, and it never
has a meaning of its own, such as `true` has. -/
structure Name where
  text : String
  isRaw : Bool := false
deriving DecidableEq, Repr, Inhabited

/-- A word of a file. Numbers are kept as they are written. -/
inductive Token where
  | mark (c : Char)
  /-- Both parentheses, with nothing between them. -/
  | unit
  | name (name : Name)
  | number (text : String)
  | text (text : String)
  /-- A single character or bytes in quotes. -/
  | other
deriving DecidableEq, Repr, Inhabited

/-! ## Characters -/

/-- Characters that stand between words. -/
def isBlank (c : Char) : Bool :=
  c == ' ' || ('\t' ≤ c && c ≤ '\r') || c == '\u0085' || c == '\u200e' || c == '\u200f'
    || c == '\u2028' || c == '\u2029'

/-- Characters that are words by themselves. -/
def isMark (c : Char) : Bool := "()[]\x7b\x7d,:#!".toList.contains c

/-- Characters of raw names. -/
def isRawNamePart (c : Char) : Bool := Text.isNamePart c || c == '.' || c == '+' || c == '-'

def isNumberStart (c : Char) : Bool := c.isDigit || c == '.' || c == '+' || c == '-'

/-- Characters that a number can go on with, a suffix for its type included. -/
def isNumberPart (c : Char) : Bool := isNumberStart c || c.isAlpha || c == '_'

/-! ## Comments -/

def afterLine : List Char → List Char := List.dropWhile (· != '\n')

/-- What follows the end of a block comment. Blocks can stand inside each other;
`depth` more of them are open. -/
def afterBlock : Nat → List Char → Option (List Char)
  | 0, '*' :: '/' :: rest => some rest
  | depth + 1, '*' :: '/' :: rest => afterBlock depth rest
  | depth, '/' :: '*' :: rest => afterBlock (depth + 1) rest
  | depth, _ :: rest => afterBlock depth rest
  | _, [] => none

/-! ## Escapes -/

/-- What `\x` and two digits stand for between quotes. -/
inductive ByteRule where
  /-- A character of its own. -/
  | single
  /-- A byte of a character. -/
  | joined
  /-- Any byte. -/
  | free
deriving DecidableEq, Repr

/-- One to six hexadecimal digits and a closing brace, as a character. -/
def unicodeEscape (cs : List Char) : Option (Char × List Char) :=
  match cs.span (· != '\x7d') with
  | (digits, _ :: rest) => do
    let n ← digitsValue? 16 digits
    if 6 < digits.length then none
    else if h : n.isValidChar then some (Char.ofNatAux n h, rest)
    else none
  | (_, []) => none

/-- Two hexadecimal digits, as a byte. -/
def byteEscape : List Char → Option (Nat × List Char)
  | a :: b :: rest => (digitsValue? 16 [a, b]).map (·, rest)
  | _ => none

/-- The character that begins with some bytes beyond ASCII. As many as are missing
are escaped right after them, three at most. -/
def joinedEscape : Nat → List Nat → List Char → Option (Char × List Char)
  | missing + 1, bytes, '\\' :: 'x' :: rest => do
    let (byte, rest) ← byteEscape rest
    let bytes := bytes ++ [byte]
    match String.fromUTF8? ⟨(bytes.map UInt8.ofNat).toArray⟩ with
    | some text => text.toList.head?.map (·, rest)
    | none => joinedEscape missing bytes rest
  | _, _, _ => none

/-- What stands for a character after a backslash. -/
def escape (rule : ByteRule) : List Char → Option (Char × List Char)
  | 'n' :: rest => some ('\n', rest)
  | 'r' :: rest => some ('\r', rest)
  | 't' :: rest => some ('\t', rest)
  | '0' :: rest => some ('\x00', rest)
  | '\\' :: rest => some ('\\', rest)
  | '\'' :: rest => some ('\'', rest)
  | '"' :: rest => some ('"', rest)
  | 'x' :: rest => do
    let (byte, rest) ← byteEscape rest
    if byte < 0x80 || rule = .free then some (Char.ofNat byte, rest)
    else if rule = .joined then joinedEscape 3 [byte] rest
    else none
  | 'u' :: '\x7b' :: rest => unicodeEscape rest
  | _ => none

/-! ## Quoted texts -/

/-- The text up to the closing quote, and what follows it. Every step uses up a
character, so that their number bounds the steps. -/
def quoted (rule : ByteRule) : Nat → List Char → Option (List Char × List Char)
  | _, '"' :: rest => some ([], rest)
  | steps + 1, '\\' :: cs => do
    let (c, rest) ← escape rule cs
    let (text, rest) ← quoted rule steps rest
    return (c :: text, rest)
  | steps + 1, c :: rest => do
    let (text, rest) ← quoted rule steps rest
    return (c :: text, rest)
  | _, _ => none

/-- The text up to a quote that is followed by as many `#` as the opening one
has in front of it. -/
def rawQuoted (hashes : List Char) : List Char → Option (List Char × List Char)
  | [] => none
  | c :: rest =>
    if c == '"' && hashes.isPrefixOf rest then some ([], rest.drop hashes.length)
    else do
      let (text, rest) ← rawQuoted hashes rest
      return (c :: text, rest)

/-- A raw text, from its `#` marks on. -/
def rawText (cs : List Char) : Option (List Char × List Char) :=
  match cs.span (· == '#') with
  | (hashes, '"' :: rest) => rawQuoted hashes rest
  | _ => none

/-- What follows a single character in quotes, from that character on. -/
def afterCharacter : List Char → Option (List Char)
  | '\\' :: rest =>
    match escape .single rest with
    | some (_, '\'' :: rest) => some rest
    | _ => none
  | _ :: '\'' :: rest => some rest
  | _ => none

/-- What follows a single byte in quotes, from what stands for it on: an ASCII
character or an escape, but not one of the kind that can stand for any character. -/
def afterByte : List Char → Option (List Char)
  | '\\' :: 'u' :: _ => none
  | '\\' :: rest =>
    match escape .free rest with
    | some (_, '\'' :: rest) => some rest
    | _ => none
  | c :: '\'' :: rest => if c.toNat < 0x80 then some rest else none
  | _ => none

/-! ## Words -/

/-- A name and what follows it. A sign or a point must not touch its end. -/
def name (cs : List Char) : Option (Token × List Char) :=
  let (own, rest) := cs.span Text.isNamePart
  if rest.head?.any isRawNamePart then none else some (.name ⟨String.ofList own, false⟩, rest)

/-- A raw name, from behind the sign that makes it raw. -/
def rawName (cs : List Char) : Option (Token × List Char) :=
  let (own, rest) := cs.span isRawNamePart
  if own.isEmpty then none else some (.name ⟨String.ofList own, true⟩, rest)

/-- The word for a text that was read. -/
def textToken : List Char × List Char → Token × List Char
  | (text, rest) => (.text (String.ofList text), rest)

/-- The first word of a text that does not begin with a blank or a comment, and
what follows it. A quoted text takes at most so many steps. -/
def word (steps : Nat) (cs : List Char) : Option (Token × List Char) :=
  match cs with
  | [] => none
  | '(' :: ')' :: rest => some (.unit, rest)
  | '"' :: rest => (quoted .joined steps rest).map textToken
  | 'r' :: '"' :: rest => (rawText ('"' :: rest)).map textToken
  | 'r' :: '#' :: rest => ((rawText ('#' :: rest)).map textToken).or (rawName rest)
  | 'b' :: '"' :: rest => (quoted .free steps rest).map fun (_, rest) => (.other, rest)
  | 'b' :: 'r' :: '"' :: rest => (rawText ('"' :: rest)).map fun (_, rest) => (.other, rest)
  | 'b' :: 'r' :: '#' :: rest => (rawText ('#' :: rest)).map fun (_, rest) => (.other, rest)
  | 'b' :: '\'' :: rest => (afterByte rest).map (.other, ·)
  | '\'' :: rest => (afterCharacter rest).map (.other, ·)
  | c :: rest =>
    if isMark c then some (.mark c, rest)
    else if Text.isNameStart c then name cs
    else if isNumberStart c then
      some (.number (String.ofList (cs.takeWhile isNumberPart)), cs.dropWhile isNumberPart)
    else none

/-- All words of the text. Every step uses up a character, so that their number
bounds the steps. -/
def tokensFrom : Nat → List Char → Option (List Token)
  | _, [] => some []
  | 0, _ => none
  | steps + 1, c :: rest =>
    if isBlank c then tokensFrom steps rest
    else
      match c, rest with
      | '/', '/' :: rest => tokensFrom steps (afterLine rest)
      | '/', '*' :: rest => (afterBlock 0 rest).bind (tokensFrom steps)
      | c, rest => do
        let (first, rest) ← word steps (c :: rest)
        return first :: (← tokensFrom steps rest)

/-- All words of a file. -/
def tokens (text : String) : Option (List Token) :=
  tokensFrom (text.toList.length + 1) text.toList

end TextAdventure.Ron
