import TextAdventure.Text.Split

/-!
# Styles of printed text

A terminal shows text slanted, underlined or in colour between an escape
sequence that switches the style on and one that switches all styles off.
Without colours, text is printed as it is.
-/

namespace TextAdventure

/-- A colour of the terminal, by its number or by its parts of red, green and
blue. -/
inductive Colour where
  | numbered (code : Nat)
  | mixed (red green blue : Nat)
deriving DecidableEq, Repr

/-- The part of an escape sequence that switches a colour on. -/
def Colour.code : Colour → String
  | .numbered code => toString code
  | .mixed red green blue =>
    "38;2;" ++ toString red ++ ";" ++ toString green ++ ";" ++ toString blue

/-- How text looks. -/
structure Style where
  slanted : Bool := false
  underlined : Bool := false
  colour : Option Colour := none
deriving DecidableEq, Repr, Inhabited

namespace Style

/-- The parts of the escape sequence that switches the style on. -/
def codes (s : Style) : List String :=
  (if s.slanted then ["3"] else []) ++ (if s.underlined then ["4"] else [])
    ++ s.colour.toList.map Colour.code

def opening (s : Style) : String := "\x1b[" ++ ";".intercalate s.codes ++ "m"

/-- The escape sequence that switches all styles off. -/
def closing : String := "\x1b[0m"

/-- Text in a style. Where the text itself switches all styles off, the style is
switched on again. `arrange` may add blanks inside the style. -/
def applyWith (arrange : String → String) (s : Style) (coloured : Bool) (text : String) :
    String :=
  if coloured && !s.codes.isEmpty then
    s.opening ++ arrange (Text.replace closing (closing ++ s.opening) text) ++ closing
  else arrange text

def apply (s : Style) (coloured : Bool) (text : String) : String :=
  s.applyWith id coloured text

/-! ## The styles of the game -/

def sceneTitle : Style := { underlined := true, colour := some (.mixed 223 77 10) }

/-- What describes a scene or the game. -/
def description : Style := { slanted := true, colour := some (.mixed 102 208 250) }

/-- A response to a command that was carried out. -/
def response : Style := { colour := some (.mixed 220 220 200) }

/-- A response to a command that was refused. -/
def denied : Style := { slanted := true, colour := some (.mixed 230 30 30) }

def error : Style := { colour := some (.mixed 230 30 30) }

/-- The prompt. -/
def prompt : Style := { colour := some (.mixed 110 220 110) }

/-- A heading in a list. -/
def subheading : Style := { underlined := true }

/-- The title of the game. -/
def gameTitle : Style := { underlined := true, colour := some (.numbered 93) }

/-- The name of a slot that was loaded. -/
def loaded : Style := { underlined := true, colour := some (.numbered 32) }

/-- What is only slanted. -/
def slantedOnly : Style := { slanted := true }

end Style

/-! ## Terminals -/

/-- A setting of the terminal that is switched on: anything but `0`. -/
def isSwitchedOn (setting : String) : Bool := setting != "0"

/-- Whether to print colours, by the settings `CLICOLOR_FORCE`, `NO_COLOR` and
`CLICOLOR` and by whether a terminal is printed to. -/
def coloursWanted (force never wanted : Option String) (terminal : Bool) : Bool :=
  force.any isSwitchedOn
    || (!never.any isSwitchedOn && (wanted.map isSwitchedOn).getD true && terminal)

/-! ## Centring -/

/-- Text in the middle of `width` columns. -/
def centred (width : Nat) (text : String) : String :=
  let space := width - text.length
  let blanks (n : Nat) := String.ofList (List.replicate n ' ')
  blanks (space / 2) ++ text ++ blanks (space - space / 2)

end TextAdventure
