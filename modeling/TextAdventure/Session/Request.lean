import TextAdventure.Play.Command
import TextAdventure.Text.Case

/-!
# Lines of the player

A line is cut into words in small letters without articles. The first words tell
what is wanted: something of the program, such as saving, or a command of the
game, whose words are split at the first preposition that stands between two
nouns.
-/

namespace TextAdventure

/-- What a line asks for. -/
inductive Request where
  | play (command : Command)
  | save (slot : String)
  | load (slot : String)
  | listSaves
  | help
  | quit
  | unknown
deriving DecidableEq, Repr

namespace Request

/-- The words that split an object from a target. -/
def prepositions : List String :=
  ["in", "into", "inside", "on", "onto", "with", "from", "to"]

/-- The words that are passed over. -/
def articles : List String := ["a", "an", "the"]

/-- Joins words with single spaces. -/
def phrase (words : List String) : String := " ".intercalate words

def slotName (words : List String) : String :=
  if words.isEmpty then "quicksave" else "-".intercalate words

/-- A command about the words after its verb: split at the first preposition,
if it stands neither first nor last. -/
def command (verb : String) (rest : List String) : Request :=
  let whole := { verb, object := some (phrase rest) }
  if rest.isEmpty then .play { verb }
  else
    match rest.span (· ∉ prepositions) with
    | (object, preposition :: target) =>
      if object.isEmpty || target.isEmpty then .play whole
      else
        .play { verb, object := some (phrase object), preposition := some preposition,
                target := some (phrase target) }
    | (_, []) => .play whole

def isSwitch (word : String) : Bool := word == "on" || word == "off"

/-- A command to turn or switch something: the word `on` or `off` belongs to the
verb, whether it comes right after it or last. -/
def turn (verb : String) (rest : List String) : Request :=
  match rest with
  | [] => command verb []
  | first :: others =>
    if isSwitch first then command ("turn " ++ first) others
    else
      match others.getLast? with
      | some last =>
        if isSwitch last then command ("turn " ++ last) (first :: others.dropLast)
        else command verb rest
      | none => command verb rest

/-- A command that is written with a verb of several words or of one. -/
def ofVerb (verb : String) (rest : List String) : Request :=
  match verb, rest with
  | "look", "at" :: w :: ws | "look", "in" :: w :: ws
  | "l", "at" :: w :: ws | "l", "in" :: w :: ws => command "examine" (w :: ws)
  | "pick", "up" :: ws => command "take" ws
  | "put", "down" :: ws | "set", "down" :: ws => command "drop" ws
  | "turn", ws | "switch", ws => turn verb ws
  | "go", w :: ws | "walk", w :: ws | "run", w :: ws =>
    .play { verb := "go", object := some (phrase (w :: ws)) }
  | _, _ => command verb rest

def ofWords : List String → Request
  | [] => unknown
  | ["quit"] | ["exit"] | ["q"] => quit
  | ["help"] | ["?"] | ["h"] => help
  | ["saves"] => listSaves
  | "save" :: slot => save (slotName slot)
  | "load" :: slot | "restore" :: slot => load (slotName slot)
  | verb :: rest => ofVerb verb rest

def ofLine (line : String) : Request :=
  ofWords ((Text.words (Text.lower (Text.trim line))).filter (· ∉ articles))

end Request

end TextAdventure
