import TextAdventure.Text.CaseTable

/-!
# Letter case

Lowering and raising whole texts. Three characters need more than a letter by
letter map: a capital sigma that ends a word is lowered to the final form, the
dotted capital I is lowered to an i and a combining dot, and some small letters
are raised to several capitals.
-/

namespace TextAdventure.Text

/-- The small form of a single letter; every other character is left alone. -/
def lowerChar (c : Char) : Char :=
  if c.toNat < 0x80 then
    if 'A' ≤ c ∧ c ≤ 'Z' then Char.ofNat (c.toNat + 32) else c
  else
    match imageIn lowerRuns c.toNat with
    | some n => Char.ofNat n
    | none => c

/-- The first character that is not passed over is a letter with case. -/
def meetsCased : List Char → Bool
  | [] => false
  | c :: rest =>
    if inSpans passedOverSpans c.toNat then meetsCased rest
    else inSpans casedSpans c.toNat

/-- A letter precedes and no letter follows: the place of a final sigma. The
preceding characters are given nearest first. -/
def endsWord (before after : List Char) : Bool := meetsCased before && !meetsCased after

/-- Lowers `s`, which follows the characters `before`, nearest first. -/
def lowerFrom (before : List Char) : List Char → List Char
  | [] => []
  | c :: rest =>
    let small :=
      if c = 'Σ' then [if endsWord before rest then 'ς' else 'σ']
      else if c = 'İ' then ['i', '\u0307']
      else [lowerChar c]
    small ++ lowerFrom (c :: before) rest

def lowerChars (s : List Char) : List Char := lowerFrom [] s

/-- A text in small letters. -/
def lower (s : String) : String := String.ofList (lowerChars s.toList)

/-- The capital form of a single character. -/
def upperChar (c : Char) : List Char :=
  if c.toNat < 0x80 then
    [if 'a' ≤ c ∧ c ≤ 'z' then Char.ofNat (c.toNat - 32) else c]
  else
    match upperSpellings.lookup c.toNat with
    | some codes => codes.map Char.ofNat
    | none =>
      match imageIn upperRuns c.toNat with
      | some n => [Char.ofNat n]
      | none => [c]

/-- A text in capital letters. -/
def upper (s : String) : String := String.ofList (s.toList.flatMap upperChar)

end TextAdventure.Text
