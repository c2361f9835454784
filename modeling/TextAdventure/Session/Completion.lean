import TextAdventure.Saves.Shelf
import TextAdventure.Text.Case

/-!
# Completing what is typed

Up to the cursor, a line may be the beginning of a command word, or `load` and
the beginning of the name of a saved game. Positions in the line are counted in
bytes.
-/

namespace TextAdventure

def commandWords : List String :=
  ["close", "down", "drop", "east", "examine", "go", "help", "inventory", "load", "lock", "look",
    "north", "open", "put", "quit", "save", "saves", "score", "south", "take", "turn off",
    "turn on", "unlock", "up", "wait", "west"]

/-- What can be put in place of what is typed. The texts replace the line from the
byte `start` up to the cursor; `start` is negative when what is typed is longer
in small letters than the whole line. -/
structure Completion where
  start : Int
  texts : List String
deriving DecidableEq, Repr

/-- The characters that begin in the first `size` bytes. -/
def takeBytes : Nat → List Char → List Char
  | _, [] => []
  | size, c :: rest => if size = 0 then [] else c :: takeBytes (size - c.utf8Size) rest

def complete (shelf : Saves.Shelf) (line : String) (cursor : Nat) : Completion :=
  let typed := Text.trimStart (String.ofList (takeBytes cursor line.toList))
  let start : Int := (cursor : Int) - typed.utf8ByteSize
  if typed.isEmpty then { start, texts := [] }
  else
    let lowered := Text.lower typed
    match Text.after? "load " lowered with
    | some rest =>
      let slot := Text.trimStart rest
      { start := (cursor : Int) - slot.utf8ByteSize
        texts := shelf.slotNames.filter (Text.beginsWith slot) }
    | none => { start, texts := commandWords.filter (Text.beginsWith lowered) }

end TextAdventure
