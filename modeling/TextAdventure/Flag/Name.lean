import TextAdventure.Flag.Basic
import TextAdventure.Text.Split

/-!
# Names of flags

How a flag is read from text. `Flag.ofText` reads the written form; everything
that is not one is the name of a custom flag. `Flag.resolve` reads the names
that authors use, which may also be words such as `mailboxOpen` or
`kitchen_visited` when they speak of something that exists.
-/

namespace TextAdventure.Flag

/-- A flag about one id, by the word before the colon. -/
def ofKind? (kind : String) (id : Id) : Option Flag :=
  match kind with
  | "open" => some (objectOpen id)
  | "locked" => some (objectLocked id)
  | "revealed" => some (objectRevealed id)
  | "visited" => some (sceneVisited id)
  | "on" => some (lightOn id)
  | "dead" => some (lightDead id)
  | "exit-scored" => some (exitScored id)
  | "achievement" => some (achievement id)
  | _ => none

/-- A scored interaction, written `object/verb` with neither part empty. -/
def ofScored? (pair : String) : Option Flag :=
  match Text.cut? '/' pair with
  | some (object, verb) =>
    if object.isEmpty || verb.isEmpty then none else some (interactionScored object verb)
  | none => none

/-- The flag of the written form `kind:id` with a known kind and an id. -/
def ofTyped? (text : String) : Option Flag :=
  match Text.cut? ':' text with
  | some (kind, id) =>
    if id.isEmpty then none
    else if kind = "scored" then ofScored? id
    else ofKind? kind id
  | none => none

/-- The flag that a text is the written form of. -/
def ofText (text : String) : Flag :=
  let text := Text.trim text
  if text = "light" then light else (ofTyped? text).getD (custom text)

/-- The endings by which a word speaks of an object. -/
def objectEndings : List (String × (Id → Flag)) := [
  ("Open", objectOpen), ("Locked", objectLocked), ("Revealed", objectRevealed),
  ("On", lightOn), ("Dead", lightDead)]

/-- The flag of a word that speaks of the light, of a scene or of an object. -/
def ofWord? (isObject isScene : Id → Bool) (name : String) : Option Flag :=
  if name = "hasLight" then some light
  else
    match (Text.before? "_visited" name).filter isScene with
    | some scene => some (sceneVisited scene)
    | none =>
      objectEndings.findSome? fun (ending, flag) =>
        ((Text.before? ending name).filter isObject).map flag

/-- The flag that an author's name for it stands for. -/
def resolve (isObject isScene : Id → Bool) (name : String) : Flag :=
  match ofText name with
  | custom text => (ofWord? isObject isScene text).getD (custom text)
  | flag => flag

end TextAdventure.Flag
