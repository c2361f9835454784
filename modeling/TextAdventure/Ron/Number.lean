import TextAdventure.Number.Decimal
import TextAdventure.Number.Single

/-!
# Numbers in RON files

How a written number is read as a whole number or as a single-precision one.
Whole numbers can be written with a base, with `_` between the digits and with a
suffix for their type, which must be the one that is asked for.
-/

namespace TextAdventure.Ron

/-- The base that a whole number announces, and the rest. -/
def splitBase : List Char → Nat × List Char
  | '0' :: 'x' :: rest => (16, rest)
  | '0' :: 'b' :: rest => (2, rest)
  | '0' :: 'o' :: rest => (8, rest)
  | rest => (10, rest)

/-- Characters that can stand among the digits of a whole number. -/
def isWholePart (c : Char) : Bool := (digitValue? c).isSome || c == '_'

/-- A whole number without its sign: a base, digits that do not begin with `_`,
and the suffix or none. Digits to base eight or sixteen have no suffix. -/
def magnitude? (suffix : String) (cs : List Char) : Option Nat :=
  let (base, rest) := splitBase cs
  let (digits, found) := rest.span isWholePart
  let fits := found.isEmpty || ((base == 10 || base == 2) && String.ofList found == suffix)
  if fits && digits.head? != some '_' then digitsValue? base (digits.filter (· != '_')) else none

def whole? (suffix : String) (text : String) : Option Int :=
  let (negative, cs) := splitSign text.toList
  (magnitude? suffix cs).map fun n => if negative then -(n : Int) else n

/-- Characters of a number with a fraction or a power of ten. -/
def isFloatPart (c : Char) : Bool :=
  c.isDigit || c == 'e' || c == 'E' || c == '.' || c == '+' || c == '-' || c == '_'

/-- Every `_` has a digit or the mark of the power of ten before it, with nothing
but signs and other `_` in between. -/
def underscoresFit : Bool → List Char → Bool
  | _, [] => true
  | after, c :: rest =>
    if c == '_' then after && underscoresFit after rest
    else underscoresFit (c.isDigit || c == 'e' || c == 'E' || (c != '.' && after)) rest

/-- A number with a fraction or a power of ten, and one of the suffixes or none. -/
def decimal? (suffixes : List String) (text : String) : Option Decimal :=
  let (body, suffix) := text.toList.span isFloatPart
  if (suffix.isEmpty || suffixes.contains (String.ofList suffix)) && underscoresFit false body then
    Decimal.ofChars? (body.filter (· != '_'))
  else none

/-- A number that is infinite or no number at all, with a sign or without. -/
def special? (suffixes : List String) (text : String) : Option Single :=
  let (negative, cs) := splitSign text.toList
  let is (word : String) := (("" :: suffixes).map (word ++ ·)).contains (String.ofList cs)
  if is "inf" then some (.infinity negative)
  else if is "NaN" then some (.notANumber negative)
  else none

def single? (text : String) : Option Single :=
  (special? ["f32"] text).or ((decimal? ["f32"] text).map Single.ofDecimal)

/-! ## Numbers of any type -/

/-- The suffixes of whole numbers, each with the least and the greatest number of
its type. -/
def wholeTypes : List (String × Int × Int) :=
  [8, 16, 32, 64].flatMap fun (bits : Nat) =>
    let half : Int := Nat.pow 2 (bits - 1)
    [("i" ++ toString bits, -half, half - 1), ("u" ++ toString bits, 0, 2 * half - 1)]

/-- The text is a whole number of some type: of the one that its suffix names, or of
any in whose limits it is. -/
def isWhole (text : String) : Bool :=
  wholeTypes.any fun (suffix, least, greatest) =>
    (whole? suffix text).any fun n => least ≤ n && n ≤ greatest

def isNumber (text : String) : Bool :=
  isWhole text || (decimal? ["f32", "f64"] text).isSome
    || (special? ["f32", "f64"] text).isSome

end TextAdventure.Ron
