import TextAdventure.Number.Rounding

/-!
# Single-precision numbers

Rank thresholds and score percentages are single-precision numbers. They are
kept as their bit pattern; the order, the rounding of fractions and decimals,
and the decimal text are all computed exactly.

* a comparison with something that is not a number is false (`lt`, `le`);
* on the other values `le` is a total preorder given by `key`
  (`le_iff_key_le`), in which the two zeros are equal;
* the text has the fewest digits that read back, never with an exponent.
-/

namespace TextAdventure

/-- A single-precision number, by its bit pattern: sign, exponent, fraction. -/
structure Single where
  bits : UInt32
deriving DecidableEq, Repr, Inhabited

namespace Single

/-- The number whose size has this code. -/
def ofCode (negative : Bool) (code : Nat) : Single :=
  ⟨UInt32.ofNat (code + if negative then 0x80000000 else 0)⟩

/-- The sign bit is set. -/
def isNegative (x : Single) : Bool := 0x80000000 ≤ x.bits.toNat

/-- The code of the size: the bits without the sign. -/
def code (x : Single) : Nat := x.bits.toNat % 0x80000000

/-- The bits stand for no number. -/
def isNaN (x : Single) : Bool := FloatFormat.single.infinityCode < x.code

/-- The place of a number in the order: the signed code. -/
def key (x : Single) : Int := if x.isNegative then -(x.code : Int) else x.code

def lt (x y : Single) : Bool := !x.isNaN && !y.isNaN && x.key < y.key

/-- At most, as numbers. -/
def le (x y : Single) : Bool := !x.isNaN && !y.isNaN && x.key ≤ y.key

theorem le_iff_key_le {x y : Single} (hx : x.isNaN = false) (hy : y.isNaN = false) :
    x.le y = true ↔ x.key ≤ y.key := by simp [le, hx, hy]

theorem lt_iff_key_lt {x y : Single} (hx : x.isNaN = false) (hy : y.isNaN = false) :
    x.lt y = true ↔ x.key < y.key := by simp [lt, hx, hy]

/-! ## Values -/

def ofFraction (num den : Nat) : Single := ofCode false (FloatFormat.single.code num den)

/-- The number nearest to a natural number. -/
def ofNat (n : Nat) : Single := ofFraction n 1

/-- The value of a finite number that is not negative, as a fraction. -/
def fraction (x : Single) : Nat × Nat := FloatFormat.single.fraction x.code

/-- The quotient of two finite numbers that are not negative, the second not
zero. -/
def div (x y : Single) : Single :=
  let (a, b) := x.fraction
  let (c, d) := y.fraction
  ofFraction (a * d) (b * c)

/-- The product of two finite numbers that are not negative. -/
def mul (x y : Single) : Single :=
  let (a, b) := x.fraction
  let (c, d) := y.fraction
  ofFraction (a * c) (b * d)

def infinity (negative : Bool) : Single := ofCode negative FloatFormat.single.infinityCode

/-- The value that is no number. -/
def notANumber (negative : Bool) : Single := ofCode negative 0x7FC00000

def ofDecimal (d : Decimal) : Single :=
  ofCode d.negative (FloatFormat.single.codeOfDecimal d)

/-- The number nearest to the double-precision number nearest to a decimal.
The two roundings can differ from a single one. -/
def ofDecimalViaDouble (d : Decimal) : Single :=
  let code := FloatFormat.double.codeOfDecimal d
  if FloatFormat.double.infinityCode ≤ code then infinity d.negative
  else
    let (num, den) := FloatFormat.double.fraction code
    ofCode d.negative (FloatFormat.single.code num den)

/-! ## Decimal text -/

/-- The whole part of the decimal logarithm of a positive fraction. -/
def log10Fraction (num den : Nat) : Int :=
  let guess : Int := (digitCount num : Int) - (digitCount den : Int)
  if den * Nat.pow 10 guess.toNat ≤ num * Nat.pow 10 (-guess).toNat then guess else guess - 1

/-- The numbers that read back as the value with this code, as an interval of
fractions `(low / den, high / den)` around `mid / den`; its ends belong to it
when the significand is even. -/
structure ReadBack where
  low : Nat
  mid : Nat
  high : Nat
  den : Nat
  closed : Bool

/-- The interval of the finite positive value with this code. Below a power of
two the neighbour is half as far. -/
def ReadBack.ofCode (code : Nat) : ReadBack :=
  let (m, e) := FloatFormat.single.parts code
  let below := if m = 0x800000 ∧ 0x800000 < code then 1 else 2
  let (unit, den) := scaleTwo 1 4 e
  { low := (4 * m - below) * unit, mid := 4 * m * unit, high := (4 * m + 2) * unit,
    den, closed := m % 2 = 0 }

/-- Whether `digits × 10 ^ t` reads back. -/
def ReadBack.holds (r : ReadBack) (digits : Nat) (t : Int) : Bool :=
  let x := digits * Nat.pow 10 t.toNat * r.den
  let scale := Nat.pow 10 (-t).toNat
  if r.closed then r.low * scale ≤ x && x ≤ r.high * scale
  else r.low * scale < x && x < r.high * scale

/-- The decimal with `n` digits nearest to the middle among those that read
back, searching for a longer one while there is none. -/
def ReadBack.shortest (r : ReadBack) (top : Int) : Nat → Nat → Nat × Int
  | 0, n => (r.mid * Nat.pow 10 (n - 1 - top).toNat / r.den, top - n + 1)
  | fuel + 1, n =>
    let t : Int := top - n + 1
    let num := r.mid * Nat.pow 10 (-t).toNat
    let den := r.den * Nat.pow 10 t.toNat
    let down := num / den
    let up := down + 1
    match r.holds down t, r.holds up t with
    | true, true => (if 2 * (num % den) < den then down else up, t)
    | true, false => (down, t)
    | false, true => (up, t)
    | false, false => r.shortest top fuel (n + 1)

/-- The fewest digits that read back as the finite positive value with this
code, with the power of ten of the last one. -/
def shortestDigits (code : Nat) : Nat × Int :=
  let r := ReadBack.ofCode code
  r.shortest (log10Fraction r.mid r.den) 9 1

/-- `digits × 10 ^ t` without an exponent. -/
def positional (digits : Nat) (t : Int) : String :=
  let ds := Nat.toDigits 10 digits
  if 0 ≤ t then String.ofList (ds ++ List.replicate t.toNat '0')
  else
    let places := (-t).toNat
    let padded := List.replicate (places + 1 - ds.length) '0' ++ ds
    let whole := padded.take (padded.length - places)
    let part := (padded.drop (padded.length - places)).reverse.dropWhile (· = '0')
    if part.isEmpty then String.ofList whole
    else String.ofList (whole ++ '.' :: part.reverse)

/-- The text of a number: the fewest digits that read back. -/
def toText (x : Single) : String :=
  if x.isNaN then "NaN"
  else
    let sign := if x.isNegative then "-" else ""
    if x.code = FloatFormat.single.infinityCode then sign ++ "inf"
    else if x.code = 0 then sign ++ "0"
    else
      let (digits, t) := shortestDigits x.code
      sign ++ positional digits t

end Single

end TextAdventure
