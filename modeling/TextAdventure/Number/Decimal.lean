import TextAdventure.Number.Rounding

/-!
# Decimal numbers as they are written

A sign, digits with or without a point, and a power of ten. `digitsValue?` is
the value of digits of any base up to sixteen; `Decimal.ofChars?` reads a whole
decimal number.
-/

namespace TextAdventure

/-- The value of a digit of a base up to sixteen. -/
def digitValue? (c : Char) : Option Nat :=
  if c.isDigit then some (c.toNat - 48)
  else if 'a' ≤ c ∧ c ≤ 'f' then some (c.toNat - 87)
  else if 'A' ≤ c ∧ c ≤ 'F' then some (c.toNat - 55)
  else none

def digitOf? (base : Nat) (c : Char) : Option Nat := (digitValue? c).filter (· < base)

/-- The value of digits of a base that come after the value `start`. -/
def digitsFrom (base : Nat) (start : Nat) (digits : List Char) : Option Nat :=
  digits.foldlM (fun n c => (digitOf? base c).map (n * base + ·)) start

def digitsValue? (base : Nat) (digits : List Char) : Option Nat :=
  if digits.isEmpty then none else digitsFrom base 0 digits

def splitSign : List Char → Bool × List Char
  | '-' :: rest => (true, rest)
  | '+' :: rest => (false, rest)
  | rest => (false, rest)

/-- A power of ten after a number: `e` or `E` and a whole number. -/
def powerOfTen? : List Char → Option Int
  | [] => some 0
  | c :: rest =>
    if c == 'e' || c == 'E' then
      let (negative, digits) := splitSign rest
      (digitsValue? 10 digits).map fun n => if negative then -(n : Int) else n
    else none

/-- A decimal number: a sign, digits before or after a point or both, and a power
of ten. Only the digits are needed. -/
def Decimal.ofChars? (text : List Char) : Option Decimal := do
  let (negative, rest) := splitSign text
  let (whole, rest) := rest.span Char.isDigit
  let (part, rest) :=
    match rest with
    | '.' :: rest => rest.span Char.isDigit
    | rest => ([], rest)
  let digits ← digitsValue? 10 (whole ++ part)
  let power ← powerOfTen? rest
  return ⟨negative, digits, power - part.length⟩

end TextAdventure
