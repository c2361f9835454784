import TextAdventure.Number.Decimal
import TextAdventure.Number.Single

/-!
# Values without quotes in TOML files

Truth values, whole numbers, numbers with a fraction or a power of ten, dates and
times. Each reader takes all the characters that belong to the value.
-/

namespace TextAdventure.Toml

/-- A value without quotes. Dates and times are checked but not kept. -/
inductive Scalar where
  | bool (b : Bool)
  | integer (n : Int)
  | float (x : Single)
  | moment
deriving DecidableEq, Repr, Inhabited

/-! ## Numbers -/

/-- Digits in which single underscores separate groups, without these. `after`
tells that a digit was just read. -/
def ungroup (isDigit : Char → Bool) (after : Bool) : List Char → Option (List Char)
  | [] => if after then some [] else none
  | c :: rest =>
    if isDigit c then (ungroup isDigit true rest).map (c :: ·)
    else if c == '_' && after then ungroup isDigit false rest
    else none

def grouped? (base : Nat) (cs : List Char) : Option Nat :=
  (ungroup (fun c => (digitOf? base c).isSome) false cs).bind (digitsValue? base)

/-- Grouped decimal digits that do not begin with a needless zero. -/
def wholePart? (cs : List Char) : Option (List Char) :=
  match ungroup Char.isDigit false cs with
  | some ('0' :: _ :: _) => none
  | digits => digits

/-- A whole number, which must fit eight bytes. -/
def integer? (cs : List Char) : Option Int :=
  let n? : Option Int :=
    match cs with
    | '0' :: 'x' :: digits => (grouped? 16 digits).map (·)
    | '0' :: 'o' :: digits => (grouped? 8 digits).map (·)
    | '0' :: 'b' :: digits => (grouped? 2 digits).map (·)
    | cs =>
      let (negative, digits) := splitSign cs
      ((wholePart? digits).bind (digitsValue? 10)).map fun n =>
        if negative then -(n : Int) else n
  n?.filter fun n => -0x8000000000000000 ≤ n && n < 0x8000000000000000

/-- The power of ten at the end of a number, without the groups' separators. -/
def powerPart? : List Char → Option (List Char)
  | [] => some []
  | e :: '-' :: digits => (ungroup Char.isDigit false digits).map (e :: '-' :: ·)
  | e :: '+' :: digits | e :: digits => (ungroup Char.isDigit false digits).map (e :: ·)

/-- The digits after the point, without the groups' separators. -/
def fractionPart? : List Char → Option (List Char)
  | '.' :: digits => (ungroup Char.isDigit false digits).map ('.' :: ·)
  | [] => some []
  | _ => none

/-- A number with a fraction or a power of ten; one that is too large is refused. -/
def decimal? (cs : List Char) : Option Single := do
  let isPower (c : Char) := c == 'e' || c == 'E'
  let (negative, rest) := splitSign cs
  let (body, power) := rest.span (!isPower ·)
  let (whole, fraction) := body.span (· != '.')
  if fraction.isEmpty && power.isEmpty then none
  else
    let text := (← wholePart? whole) ++ (← fractionPart? fraction) ++ (← powerPart? power)
    let d ← Decimal.ofChars? text
    if !negative && FloatFormat.double.infinityCode ≤ FloatFormat.double.codeOfDecimal d then none
    else some (.ofDecimalViaDouble { d with negative })

/-- An infinite number, or none. -/
def special? (cs : List Char) : Option Single :=
  match splitSign cs with
  | (negative, ['i', 'n', 'f']) => some (.infinity negative)
  | (negative, ['n', 'a', 'n']) => some (.notANumber negative)
  | _ => none

/-! ## Dates and times -/

/-- So many decimal digits with a value in an interval. -/
def digitsBetween (count low high : Nat) (cs : List Char) : Bool :=
  cs.length == count && cs.all Char.isDigit
    && (digitsValue? 10 cs).any fun n => low ≤ n && n ≤ high

def daysIn (year month : Nat) : Nat :=
  if month = 2 then
    if (year % 4 = 0 ∧ year % 100 ≠ 0) ∨ year % 400 = 0 then 29 else 28
  else if month ∈ [4, 6, 9, 11] then 30
  else 31

def isDate : List Char → Bool
  | [a, b, c, d, '-', m, n, '-', x, y] =>
    digitsBetween 4 0 9999 [a, b, c, d] && digitsBetween 2 1 12 [m, n]
      && digitsBetween 2 1
        (daysIn ((digitsValue? 10 [a, b, c, d]).getD 0) ((digitsValue? 10 [m, n]).getD 0)) [x, y]
  | _ => false

/-- A time of day up to the seconds, and what follows. -/
def clock? : List Char → Option (List Char)
  | a :: b :: ':' :: c :: d :: ':' :: e :: f :: rest =>
    if digitsBetween 2 0 23 [a, b] && digitsBetween 2 0 59 [c, d] && digitsBetween 2 0 60 [e, f]
    then some rest else none
  | _ => none

/-- Parts of a second, if there are any, and what follows. -/
def secondParts? : List Char → Option (List Char)
  | '.' :: rest =>
    let (digits, rest) := rest.span Char.isDigit
    if digits.isEmpty then none else some rest
  | rest => some rest

/-- The distance from universal time, or nothing. -/
def isOffset : List Char → Bool
  | [] | ['Z'] | ['z'] => true
  | sign :: a :: b :: ':' :: rest =>
    (sign == '+' || sign == '-') && digitsBetween 2 0 23 [a, b] && digitsBetween 2 0 59 rest
  | _ => false

def isTime (cs : List Char) : Bool := ((clock? cs).bind secondParts?).any List.isEmpty

/-- A time of day, perhaps with a distance from universal time. -/
def isZonedTime (cs : List Char) : Bool := ((clock? cs).bind secondParts?).any isOffset

def isMoment (cs : List Char) : Bool :=
  isDate cs || isTime cs
    || (isDate (cs.take 10) && ((cs[10]?).any fun c => c == 'T' || c == 't' || c == ' ')
      && isZonedTime (cs.drop 11))

/-! ## Scalars -/

def Scalar.ofChars? (cs : List Char) : Option Scalar :=
  match cs with
  | ['t', 'r', 'u', 'e'] => some (.bool true)
  | ['f', 'a', 'l', 's', 'e'] => some (.bool false)
  | cs =>
    ((integer? cs).map .integer).or
      ((((decimal? cs).or (special? cs)).map .float).or
        (if isMoment cs then some .moment else none))

/-- Characters that belong to a value without quotes. -/
def isScalarPart (c : Char) : Bool :=
  c.isAlphanum || c == '_' || c == '+' || c == '-' || c == '.' || c == ':'

/-- A value without quotes, and what follows it. A space can stand between a date
and a time. -/
def scalar (cs : List Char) : Option (Scalar × List Char) :=
  let (own, rest) := cs.span isScalarPart
  match rest with
  | ' ' :: more =>
    let (time, after) := more.span isScalarPart
    if isDate own && isZonedTime time then some (.moment, after)
    else (Scalar.ofChars? own).map (·, rest)
  | _ => (Scalar.ofChars? own).map (·, rest)

end TextAdventure.Toml
