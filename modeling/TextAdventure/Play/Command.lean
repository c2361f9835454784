import TextAdventure.Text.Blank

/-!
# Commands and responses

A command has been cut into a verb, an object and a target already. Its response
tells whether it was carried out and whether it took a turn.
-/

namespace TextAdventure

/-- A command of the player: a verb, what it is done to, and what it is done
with, after a preposition. -/
structure Command where
  verb : String
  object : Option String := none
  target : Option String := none
  preposition : Option String := none
deriving DecidableEq, Repr, Inhabited

/-- A noun that is written down, without the blanks around it. -/
def Command.noun? (noun : Option String) : Option String :=
  (noun.map Text.trim).filter (!·.isEmpty)

/-- What comes of a command. -/
structure Response where
  success : Bool
  message : String
  takesTurn : Bool
deriving DecidableEq, Repr, Inhabited

namespace Response

def done (message : String) : Response := ⟨true, message, true⟩

/-- A command that was carried out and took no time. -/
def free (message : String) : Response := ⟨true, message, false⟩

/-- A command that was refused; it takes no time. -/
def refused (message : String) : Response := ⟨false, message, false⟩

end Response

end TextAdventure
