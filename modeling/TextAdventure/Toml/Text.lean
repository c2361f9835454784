import TextAdventure.Number.Decimal

/-!
# Blanks, texts and keys in TOML files

The pieces of a TOML file that do not hold others: what stands between words,
comments, the four kinds of quoted text, and keys. Every reader takes a sequence
of characters and gives what it read and what follows.
-/

namespace TextAdventure.Toml

/-! ## Between words -/

def isSpace (c : Char) : Bool := c == ' ' || c == '\t'

/-- What follows spaces and tabs. -/
def skipSpaces : List Char → List Char := List.dropWhile isSpace

/-- Characters that can stand in comments and, if they do not end it, in texts. -/
def isShown (c : Char) : Bool := c == '\t' || (' ' ≤ c && c != '\x7f')

/-- What follows the end of a line. -/
def lineEnd? : List Char → Option (List Char)
  | '\n' :: rest | '\r' :: '\n' :: rest => some rest
  | _ => none

/-- What follows a comment, which ends with its line; there need be none. -/
def skipComment : List Char → List Char
  | '#' :: rest => rest.dropWhile isShown
  | cs => cs

/-- What follows spaces, comments and ends of lines. Every step but the last uses
up the end of a line. -/
def skipLines : Nat → List Char → List Char
  | 0, cs => cs
  | steps + 1, cs =>
    let rest := skipComment (skipSpaces cs)
    match lineEnd? rest with
    | some rest => skipLines steps rest
    | none => rest

/-- What follows the rest of a line on which nothing more is written. -/
def finishLine (cs : List Char) : Option (List Char) :=
  match skipComment (skipSpaces cs) with
  | [] => some []
  | rest => lineEnd? rest

/-! ## Quoted texts -/

def coded (digits : List Char) : Option Char := do
  let n ← digitsValue? 16 digits
  if h : n.isValidChar then some (Char.ofNatAux n h) else none

/-- What a backslash and a letter stand for. -/
def escape : Char → Option Char
  | 'b' => some '\x08'
  | 't' => some '\t'
  | 'n' => some '\n'
  | 'f' => some '\x0c'
  | 'r' => some '\r'
  | '"' => some '"'
  | '\\' => some '\\'
  | _ => none

/-- The character that a backslash begins, and what follows. -/
def escaped : List Char → Option (Char × List Char)
  | 'u' :: a :: b :: c :: d :: rest => (coded [a, b, c, d]).map (·, rest)
  | 'U' :: a :: b :: c :: d :: e :: f :: g :: h :: rest =>
    (coded [a, b, c, d, e, f, g, h]).map (·, rest)
  | c :: rest => (escape c).map (·, rest)
  | [] => none

/-- One more character in front of a text that was read. -/
def andThen (c : Char) (read : Option (List Char × List Char)) :
    Option (List Char × List Char) :=
  read.map fun (text, rest) => (c :: text, rest)

/-- A text of one line up to its closing quote, with escapes. Every step uses up a
character. -/
def basicText : Nat → List Char → Option (List Char × List Char)
  | _, '"' :: rest => some ([], rest)
  | steps + 1, '\\' :: cs => (escaped cs).bind fun (c, rest) => andThen c (basicText steps rest)
  | steps + 1, c :: rest => if isShown c then andThen c (basicText steps rest) else none
  | _, _ => none

/-- A text of one line up to its closing apostrophe, as it is written. -/
def literalText : List Char → Option (List Char × List Char)
  | '\'' :: rest => some ([], rest)
  | c :: rest => if isShown c then andThen c (literalText rest) else none
  | [] => none

/-- Up to two more quotes right after three belong to the text. -/
def lastQuotes (quote : Char) (rest : List Char) : List Char × List Char :=
  let extra := (rest.takeWhile (· == quote)).take 2
  (extra, rest.drop extra.length)

/-- What follows spaces, tabs and ends of lines. -/
def skipBlanks : List Char → List Char
  | '\r' :: '\n' :: rest | '\n' :: rest => skipBlanks rest
  | c :: rest => if isSpace c then skipBlanks rest else c :: rest
  | [] => []

/-- A backslash at the end of a line: what follows all spaces and ends of lines
after it. -/
def folded? (cs : List Char) : Option (List Char) := (lineEnd? (skipSpaces cs)).map skipBlanks

/-- A text of several lines up to its three closing quotes, with escapes. Every step
uses up a character. -/
def basicLines : Nat → List Char → Option (List Char × List Char)
  | _, '"' :: '"' :: '"' :: rest => some (lastQuotes '"' rest)
  | steps + 1, '\\' :: cs =>
    match folded? cs with
    | some rest => basicLines steps rest
    | none => (escaped cs).bind fun (c, rest) => andThen c (basicLines steps rest)
  | steps + 1, '\r' :: '\n' :: rest | steps + 1, '\n' :: rest =>
    andThen '\n' (basicLines steps rest)
  | steps + 1, c :: rest => if isShown c then andThen c (basicLines steps rest) else none
  | _, _ => none

/-- A text of several lines up to its three closing apostrophes, as it is written. -/
def literalLines : List Char → Option (List Char × List Char)
  | '\'' :: '\'' :: '\'' :: rest => some (lastQuotes '\'' rest)
  | '\r' :: '\n' :: rest | '\n' :: rest => andThen '\n' (literalLines rest)
  | c :: rest => if isShown c then andThen c (literalLines rest) else none
  | [] => none

/-- Without the end of a line that a text of several lines begins with. -/
def dropFirstEnd (cs : List Char) : List Char := (lineEnd? cs).getD cs

/-- A quoted text of one line, from its opening quote on. -/
def lineText? (steps : Nat) : List Char → Option (List Char × List Char)
  | '"' :: rest => basicText steps rest
  | '\'' :: rest => literalText rest
  | _ => none

/-- A quoted text of any kind, from its opening quote on. -/
def text? (steps : Nat) : List Char → Option (List Char × List Char)
  | '"' :: '"' :: '"' :: rest => basicLines steps (dropFirstEnd rest)
  | '\'' :: '\'' :: '\'' :: rest => literalLines (dropFirstEnd rest)
  | cs => lineText? steps cs

/-! ## Keys -/

def isKeyPart (c : Char) : Bool := c.isAlphanum || c == '_' || c == '-'

/-- A key without points. -/
def simpleKey (steps : Nat) (cs : List Char) : Option (String × List Char) :=
  match cs.span isKeyPart with
  | ([], rest) => (lineText? steps rest).map fun (t, rest) => (String.ofList t, rest)
  | (name, rest) => some (String.ofList name, rest)

/-- Parts of a key with points between them and spaces around them. Every step uses
up a character. -/
def keyParts : Nat → List Char → Option (List String × List Char)
  | 0, _ => none
  | steps + 1, cs => do
    let (first, rest) ← simpleKey steps (skipSpaces cs)
    match skipSpaces rest with
    | '.' :: rest =>
      let (more, rest) ← keyParts steps rest
      return (first :: more, rest)
    | rest => return ([first], rest)

/-- How many parts a key can have, and how many arrays and tables in braces can
stand inside each other. -/
def nestingLimit : Nat := 79

/-- A key of one part or of several. -/
def key (steps : Nat) (cs : List Char) : Option (List String × List Char) :=
  (keyParts steps cs).filter fun (parts, _) => parts.length ≤ nestingLimit

end TextAdventure.Toml
