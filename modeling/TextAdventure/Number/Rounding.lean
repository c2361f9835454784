/-!
# Rounding to binary floating point

A binary format keeps a fixed number of significant bits and codes its
non-negative values, in order, by consecutive natural numbers. `FloatFormat.code`
gives the code of the value nearest to a fraction, a tie going to the even
code. Everything is exact arithmetic on natural numbers.
-/

namespace TextAdventure

/-- The quotient rounded to the nearest natural number, a half to the even
neighbour. -/
def divHalfEven (num den : Nat) : Nat :=
  let q := num / den
  let r := num % den
  if 2 * r < den then q
  else if den < 2 * r then q + 1
  else if q % 2 = 0 then q else q + 1

/-- A quotient rounded to nearest is off by half a unit at most. -/
theorem divHalfEven_near (num den : Nat) (h : 0 < den) :
    2 * num ≤ den * (2 * divHalfEven num den + 1) ∧
      den * (2 * divHalfEven num den) ≤ 2 * num + den := by
  have hd : den * (num / den) + num % den = num := Nat.div_add_mod num den
  have hr : num % den < den := Nat.mod_lt num h
  have e1 : ∀ q : Nat, den * (2 * q + 1) = 2 * (den * q) + den := by intro q; grind
  have e2 : ∀ q : Nat, den * (2 * q) = 2 * (den * q) := by intro q; grind
  have e3 : den * (num / den + 1) = den * (num / den) + den := by grind
  unfold divHalfEven
  simp only
  split
  · constructor <;> (first | rw [e1] | rw [e2]) <;> omega
  · split
    · constructor <;> (first | rw [e1] | rw [e2]) <;> rw [e3] <;> omega
    · split
      · constructor <;> (first | rw [e1] | rw [e2]) <;> omega
      · constructor <;> (first | rw [e1] | rw [e2]) <;> rw [e3] <;> omega

/-- A fraction of two natural numbers times a power of two. -/
def scaleTwo (num den : Nat) (e : Int) : Nat × Nat :=
  (num * Nat.pow 2 e.toNat, den * Nat.pow 2 (-e).toNat)

/-- The whole part of the binary logarithm of a positive fraction. -/
def log2Fraction (num den : Nat) : Int :=
  let guess : Int := (num.log2 : Int) - (den.log2 : Int)
  let (n, d) := scaleTwo num den (-guess)
  if d ≤ n then guess else guess - 1

/-- A binary format: `precision` significant bits, the exponent of its least
positive value, and the code that stands for infinity. -/
structure FloatFormat where
  precision : Nat
  leastExponent : Int
  infinityCode : Nat

namespace FloatFormat

/-- Four bytes: 24 significant bits. -/
def single : FloatFormat := ⟨24, -149, 0x7F800000⟩

/-- Eight bytes: 53 significant bits. -/
def double : FloatFormat := ⟨53, -1074, 0x7FF0000000000000⟩

/-- The code of the value nearest to the fraction `num / den`. A code is the
number of representable values below it, so a carry out of the significand runs
into the exponent by itself. -/
def code (f : FloatFormat) (num den : Nat) : Nat :=
  if num = 0 then 0
  else
    let e := max f.leastExponent (log2Fraction num den - (f.precision - 1 : Nat))
    let (n, d) := scaleTwo num den (-e)
    min f.infinityCode
      ((e - f.leastExponent).toNat * Nat.pow 2 (f.precision - 1) + divHalfEven n d)

/-- The significand and the exponent of the finite value with this code. -/
def parts (f : FloatFormat) (code : Nat) : Nat × Int :=
  let unit := Nat.pow 2 (f.precision - 1)
  if code < unit then (code, f.leastExponent)
  else (unit + code % unit, f.leastExponent + (code / unit - 1 : Nat))

/-- The finite value with this code, as a fraction. -/
def fraction (f : FloatFormat) (code : Nat) : Nat × Nat :=
  let (m, e) := f.parts code
  scaleTwo m 1 e

end FloatFormat

/-- A decimal number `± digits × 10 ^ exponent`, as it is written. -/
structure Decimal where
  negative : Bool
  digits : Nat
  exponent : Int
deriving Repr, DecidableEq

/-- The number of decimal digits of a natural number; none for zero. -/
def digitCount (n : Nat) : Nat := if n = 0 then 0 else (Nat.toDigits 10 n).length

/-- The code of the value nearest to the size of a decimal number. Numbers far
outside the range of the format are settled by their length, so that no huge
power is ever computed. -/
def FloatFormat.codeOfDecimal (f : FloatFormat) (d : Decimal) : Nat :=
  let size : Int := d.exponent + digitCount d.digits
  if d.digits = 0 ∨ size < -400 then 0
  else if 400 < size then f.infinityCode
  else f.code (d.digits * Nat.pow 10 d.exponent.toNat) (Nat.pow 10 (-d.exponent).toNat)

end TextAdventure
