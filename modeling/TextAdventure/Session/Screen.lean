import TextAdventure.Game
import TextAdventure.Saves.Shelf
import TextAdventure.Session.Style

/-!
# What is printed

The texts that the player sees, with their styles: scenes, responses, the lists of
saved games and the words at the end.
-/

namespace TextAdventure.Screen

def line (text : String) : String := text ++ "\n"

/-- A line without the spaces it ends with. -/
def fitted (text : String) : String :=
  String.ofList (text.toList.reverse.dropWhile (· == ' ')).reverse

/-- The lines of a text, each in a style and without the spaces it ends with. -/
def styledLines (coloured : Bool) (style : Style) (lines : List String) : String :=
  String.join (lines.map fun l => line (style.apply coloured (fitted l)))

/-- A scene: its name, and below what is to be seen. -/
def scene (coloured : Bool) (text : String) : String :=
  match Text.lines text with
  | [] => ""
  | title :: rest =>
    "\n" ++ line (Style.sceneTitle.apply coloured title)
      ++ styledLines coloured .description rest

def response (coloured : Bool) (r : Response) : String :=
  styledLines coloured (if r.success then .response else .denied) (Text.lines r.message)

def prompt (coloured : Bool) (state : GameState) : String :=
  Style.prompt.apply coloured
    ("\n[Turn: " ++ toString state.turns ++ "|Score: " ++ toString state.score ++ "]>> ")

/-- What the player can type. -/
def helpText : String :=
  "Movement: go <direction>, or just north/south/east/west/up/down (n, s, e, w, u, d).\n"
    ++ "Objects: take, drop, put <x> in <y>, open, close, lock, unlock, turn on, turn off, "
    ++ "examine,\n"
    ++ "         plus anything the world suggests (read, move, ring...).\n"
    ++ "Other: look, inventory, wait, score, save [slot], load [slot], saves, quit."

def help (coloured : Bool) : String := line (Style.description.apply coloured helpText)

/-- The answer to a line that says nothing. -/
def puzzled (coloured : Bool) : String :=
  line (Style.slantedOnly.apply coloured "Didn't quite catch that?")

/-- The answer to a line that is no text. -/
def unreadable (coloured : Bool) : String :=
  line (Style.error.apply coloured "Failed to read input. Try again.")

/-- The words at the end of the game. -/
def farewell (coloured : Bool) (g : Game) : String :=
  let praise := (g.rank.map (·.description)).filter (!·.isEmpty)
  "\n" ++ line (Style.subheading.apply coloured g.world.scoring.reportTitle)
    ++ line g.scoreReport
    ++ (praise.elim "" fun text => line (Style.description.apply coloured text))
    ++ "\nGoodbye.\n"

/-! ## Saved games -/

def saved (coloured : Bool) (slot : String) : Option Saves.SaveError → String
  | none => line ("Game saved as " ++ Style.subheading.apply coloured slot)
  | some e => line (Style.error.apply coloured "Save failed:" ++ " " ++ e.fullMessage)

/-- A saved game was found and could be used; the scene in which it goes on follows. -/
def loaded (coloured : Bool) (slot : String) (view : Except WorldError SceneView) : String :=
  line ("Saved game " ++ Style.loaded.apply coloured slot ++ " loaded successfully.")
    ++ (match view with
      | .ok v => scene coloured v.text
      | .error _ => "")

def notFound (coloured : Bool) (slot : String) : String :=
  line ("Unable to find " ++ Style.error.apply coloured slot ++ " save file. Load aborted.")

/-- The saved games could not be searched. -/
def notSearched : String := line "Unable to read the save directory. Load aborted."

/-- A saved game was found but could not be used. -/
def notLoaded (coloured : Bool) (slot : String) : String :=
  line ("Unable to load the " ++ Style.error.apply coloured slot
    ++ " save file. Your current game is unchanged.")

/-- What a list tells about a saved game. -/
def statusText : Saves.Status → String
  | .ready snap => "turn " ++ toString snap.turns ++ ", score " ++ toString snap.score
  | .otherVersion snap => "from v" ++ snap.version
  | .unreadable message => "unreadable: " ++ message

def saves (coloured : Bool) (now : Saves.Moment) :
    Except Saves.SaveError (List (Saves.Slot × Saves.Status)) → String
  | .error _ => line (Style.error.apply coloured "Unable to read the save directory.")
  | .ok [] => line "No saved games yet."
  | .ok listing =>
    line (Style.subheading.apply coloured "Saved games")
      ++ String.join (listing.map fun (slot, status) =>
        line ("  " ++ Style.subheading.apply coloured slot.name ++ " (" ++ statusText status
          ++ ") " ++ slot.written.elim "" (Saves.ageText now)))

/-! ## The title page -/

/-- What is shown before the first scene. -/
def titlePage (coloured : Bool) (w : World) : String :=
  let centre (style : Style) (text : String) := line (style.applyWith (centred 84) coloured text)
  "\x1b[2J\x1b[H" ++ centre .gameTitle (Text.upper w.title)
    ++ (if w.author.isEmpty then "" else centre .slantedOnly ("by " ++ w.author))
    ++ (if w.intro.isEmpty then ""
      else "\n" ++ line (Style.description.apply coloured w.intro))

end TextAdventure.Screen
