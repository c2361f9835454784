import TextAdventure.Saves.Shelf

/-!
# Paths to saved games

A saved game can be read by any path that leads to its file from the folder in
which the program runs: through folders on the shelf, and also out of a folder and
into it again. Besides the shelf, nothing is known to be there.
-/

namespace TextAdventure.Saves

/-- Puts an entry into a folder by a path, with the folders on the way that are
missing. -/
def place (entry : Entry) : List String → List (String × Entry) → List (String × Entry)
  | [], inside => inside
  | [name], inside => (name, entry) :: inside.filter (·.1 != name)
  | name :: steps, inside =>
    let below :=
      match inside.lookup name with
      | some (.folder below) => below
      | _ => []
    (name, .folder (place entry steps below)) :: inside.filter (·.1 != name)

/-- What a path leads to from a place. The folders around that place are `outer`,
the innermost first; every step but the last must lead to a folder. -/
def Entry.follow (outer : List Entry) (here : Entry) : List String → Option Entry
  | [] => some here
  | step :: steps =>
    match here with
    | .file .. => none
    | .folder inside =>
      if step = "" ∨ step = "." then here.follow outer steps
      else if step = ".." then
        match outer with
        | [] => none
        | around :: outer => around.follow outer steps
      else (inside.lookup step).bind fun found => found.follow (here :: outer) steps

namespace Shelf

/-- What stands under the path of the shelf. -/
def entry? (shelf : Shelf) : Option Entry :=
  match shelf.folder with
  | .missing => none
  | .file => some (.file .empty none)
  | .entries entries => some (.folder entries.toList)

/-- The folder in which the program runs, with the shelf alone. -/
def surroundings (shelf : Shelf) : Entry :=
  .folder (shelf.entry?.elim [] fun entry => place entry (pathSteps shelf.path) [])

/-- The snapshot in the file to which a path leads. -/
def readPath (shelf : Shelf) (path : String) : Except SaveError Snapshot :=
  let found := if isAbsolute path then none else shelf.surroundings.follow [] (pathSteps path)
  match found with
  | none => .error (.reading path .notFound)
  | some (.folder _) => .error (.reading path .isFolder)
  | some (.file content _) => readContent path content

end Shelf

end TextAdventure.Saves
