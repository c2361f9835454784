import TextAdventure.Session.Request
import TextAdventure.Session.Screen

/-!
# A session

A session shows a prompt, hears a line, answers it and starts over, until the
player quits, the lines come to an end or something is wrong with the world.
`Session.answer` is one round; `Session.run` goes through all lines of an input.
-/

namespace TextAdventure

/-- What is heard at the prompt. -/
inductive Heard where
  | line (text : String)
  /-- Bytes that are no text. -/
  | noise
  | ended
deriving DecidableEq, Repr

/-- What is heard when this line is read. -/
def Heard.ofLine (line : List UInt8) : Heard :=
  match String.fromUTF8? ⟨line.toArray⟩ with
  | none => .noise
  | some text =>
    .line (String.ofList (text.toList.reverse.dropWhile fun c => c == '\n' || c == '\r').reverse)

/-- How a session ends, or that it goes on. -/
inductive Outcome where
  | goesOn
  | quit
  | failed (cause : WorldError)
deriving DecidableEq, Repr

/-- The session so far: the game, the saved games, and what was printed by the
last answer. -/
structure Session where
  game : Game
  shelf : Saves.Shelf
  coloured : Bool
  printed : String := ""
  outcome : Outcome := .goesOn

namespace Session

def say (s : Session) (text : String) : Session := { s with printed := text }

/-- Saves the game under a name. -/
def save (s : Session) (now : Saves.Moment) (slot : String) : Session :=
  match s.shelf.write now slot s.game.snapshot with
  | .ok shelf => { s with shelf }.say (Screen.saved s.coloured slot none)
  | .error e => s.say (Screen.saved s.coloured slot (some e))

/-- Goes on with a saved game. One that cannot be used leaves the game as it is. -/
def load (s : Session) (slot : String) : Session :=
  match s.shelf.find slot with
  | .error _ => s.say Screen.notSearched
  | .ok none => s.say (Screen.notFound s.coloured slot)
  | .ok (some found) =>
    match s.shelf.read found.fileName with
    | .error _ => s.say (Screen.notLoaded s.coloured slot)
    | .ok snap =>
      match s.game.restore snap with
      | (.ok (), game) => { s with game }.say (Screen.loaded s.coloured slot game.currentScene)
      | (.error _, _) => s.say (Screen.notLoaded s.coloured slot)

/-- Carries out a command. -/
def play (s : Session) (command : Command) : Session :=
  match s.game.execute command with
  | (.ok r, game) => { s with game }.say (Screen.response s.coloured r)
  | (.error cause, game) => { s with game, printed := "", outcome := .failed cause }

def quit (s : Session) : Session :=
  { s.say (Screen.farewell s.coloured s.game) with outcome := .quit }

def fulfil (s : Session) (now : Saves.Moment) : Request → Session
  | .play command => s.play command
  | .save slot => s.save now slot
  | .load slot => s.load slot
  | .listSaves => s.say (Screen.saves s.coloured now s.shelf.listing)
  | .help => s.say (Screen.help s.coloured)
  | .quit => s.quit
  | .unknown => s.say (Screen.puzzled s.coloured)

/-- Answers what is heard. The end of the input is as good as a farewell. -/
def answer (s : Session) (now : Saves.Moment) : Heard → Session
  | .line text => s.fulfil now (Request.ofLine text)
  | .noise => s.say (Screen.unreadable s.coloured)
  | .ended => s.quit

/-! ## Whole inputs -/

/-- The lines of an input, each with its line feed. `line` is the part being read,
last byte first. -/
def linesFrom (line : List UInt8) : List UInt8 → List (List UInt8)
  | [] => if line.isEmpty then [] else [line.reverse]
  | b :: rest =>
    if b = 10 then (b :: line).reverse :: linesFrom [] rest else linesFrom (b :: line) rest

/-- A whole session: what was printed, the session at its end, and the lines that
were not read. Each round begins a nanosecond after the one before. -/
def run (s : Session) (now : Saves.Moment) (printed : String) :
    List (List UInt8) → String × Session × List (List UInt8)
  | [] =>
    let last := s.answer now .ended
    (printed ++ Screen.prompt s.coloured s.game.state ++ last.printed, last, [])
  | line :: rest =>
    let next := s.answer now (Heard.ofLine line)
    let printed := printed ++ Screen.prompt s.coloured s.game.state ++ next.printed
    match next.outcome with
    | .goesOn => next.run (now + 1) printed rest
    | _ => (printed, next, rest)

end Session

end TextAdventure
