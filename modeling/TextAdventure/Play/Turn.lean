import TextAdventure.Play.Act

/-!
# A turn of the game

Every command goes through `execute`: a few verbs without an object are answered
at once, directions move the player, and everything else is about an object. A
command that takes a turn lets the batteries run down.
-/

namespace TextAdventure.GameState

/-- Goes in a direction, or through the exit that a word means. -/
def go (s : GameState) (w : World) (messages : Messages) (token : String) :
    Except WorldError Response × GameState :=
  match w.findExit s.currentScene token with
  | .error cause => (.error cause, s)
  | .ok none => (.ok (.refused messages.cantGo), s)
  | .ok (some e) =>
    match s.passage w messages e with
    | .error cause => (.error cause, s)
    | .ok (.blocked message) => (.ok (.refused message), s)
    | .ok .allowed =>
      match s.traverse w e with
      | (.error cause, _) => (.error cause, s)
      | (.ok arrival, after) =>
        (.ok (.done ("\n".intercalate (arrival.description :: arrival.achievements))), after)

/-- What is said about a light source as time passes. -/
def eventLine (w : World) (messages : Messages) (event : LightEvent) :
    Except WorldError String := do
  match event with
  | .depleted id => return fill messages.lightDepleted "" (← w.nameOf id)
  | .lowBattery id _ => return fill messages.lightLow "" (← w.nameOf id)

/-- Lets a turn pass if the command took one; what happens to the light sources
is added to the message. -/
def endTurn (w : World) (settings : Settings)
    (outcome : Except WorldError Response × GameState) :
    Except WorldError Response × GameState :=
  match outcome with
  | (.error cause, s) => (.error cause, s)
  | (.ok response, s) =>
    if !response.takesTurn then (.ok response, s)
    else
      let s := { s with turnCount := s.turnCount + 1 }
      match s.tick w settings.batteryPolicy with
      | .error cause => (.error cause, s)
      | .ok (s, events) =>
        match events.mapM (eventLine w settings.messages) with
        | .error cause => (.error cause, s)
        | .ok lines =>
          (.ok { response with message := "\n".intercalate (response.message :: lines) }, s)

/-- The state together with a text that takes no time. -/
def answerFreely (s : GameState) (text : Except WorldError String) :
    Except WorldError Response × GameState := (text.map .free, s)

/-- Does what a command says, without letting time pass. -/
def perform (s : GameState) (w : World) (settings : Settings) (command : Command) :
    Except WorldError Response × GameState :=
  let messages := settings.messages
  let verb := Text.lower (Text.trim command.verb)
  match Command.noun? command.object with
  | some noun =>
    if verb = "go" ∨ verb = "walk" ∨ verb = "run" then s.go w messages noun
    else s.act w messages command
  | none =>
    if verb = "look" ∨ verb = "l" then
      s.answerFreely ((s.sceneView w s.currentScene).map (·.text))
    else if verb = "inventory" ∨ verb = "i" then
      s.answerFreely (s.inventoryText w messages.emptyHanded)
    else if verb = "score" then s.answerFreely (.ok (s.scoreReport w))
    else if verb = "wait" ∨ verb = "z" then (.ok (.done messages.wait), s)
    else if verb = "go" ∨ verb = "walk" ∨ verb = "run" then
      (.ok (.refused (fill messages.what "go" "")), s)
    else if normalizeDirection verb ∈ directions then s.go w messages verb
    else s.act w messages command

/-- Carries out a command, and lets a turn pass if it takes one. -/
def execute (s : GameState) (w : World) (settings : Settings) (command : Command) :
    Except WorldError Response × GameState :=
  endTurn w settings (s.perform w settings command)

end TextAdventure.GameState
