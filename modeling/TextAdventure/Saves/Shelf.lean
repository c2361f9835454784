import TextAdventure.Saves.File
import TextAdventure.Saves.Slot

/-!
# The shelf of saved games

A folder of files, as it was found, and what is done with it: listing the saved
games, finding the one for a slot, reading one and writing one. Files that are
no saved games are passed over.
-/

namespace TextAdventure.Saves

/-- What a name in a folder stands for. -/
inductive Entry where
  | file (content : ByteArray) (written : Option Moment)
  | folder (inside : List (String × Entry))

/-- What is found under the path of a folder. -/
inductive Folder where
  | missing
  /-- There is a file with the folder's name. -/
  | file
  | entries (entries : Std.ExtTreeMap String Entry)

/-- The folder of the saved games. -/
structure Shelf where
  path : String
  folder : Folder

/-! ## Errors -/

/-- Why a file or a folder could not be used. -/
inductive FileFault where
  | notFound
  | exists
  | notFolder
  | isFolder
  | nameTooLong
  | notText
  | notSnapshot
deriving DecidableEq, Repr

/-- The reason in words. -/
def FileFault.message : FileFault → String
  | .notFound => "No such file or directory (os error 2)"
  | .exists => "File exists (os error 17)"
  | .notFolder => "Not a directory (os error 20)"
  | .isFolder => "Is a directory (os error 21)"
  | .nameTooLong => "File name too long (os error 36)"
  | .notText => "stream did not contain valid UTF-8"
  | .notSnapshot => "the file does not hold a saved game"

/-- What could not be done with a path, and why. -/
inductive SaveError where
  | listing (path : String) (cause : FileFault)
  | reading (path : String) (cause : FileFault)
  | parsing (path : String)
  | creating (path : String) (cause : FileFault)
  | writing (path : String) (cause : FileFault)
deriving DecidableEq, Repr

/-- What could not be done. -/
def SaveError.message : SaveError → String
  | .listing path _ => "reading " ++ path
  | .reading path _ => "reading save file " ++ path
  | .parsing path => "parsing save file " ++ path
  | .creating path _ => "creating save directory " ++ path
  | .writing path _ => "writing save file " ++ path

/-- Why it could not be done. -/
def SaveError.cause : SaveError → FileFault
  | .listing _ cause | .reading _ cause | .creating _ cause | .writing _ cause => cause
  | .parsing _ => .notSnapshot

def SaveError.fullMessage (e : SaveError) : String := e.message ++ ": " ++ e.cause.message

/-! ## Reading -/

def readContent (path : String) (content : ByteArray) : Except SaveError Snapshot :=
  match String.fromUTF8? content with
  | none => .error (.reading path .notText)
  | some text =>
    match Snapshot.ofText? text with
    | none => .error (.parsing path)
    | some snap => .ok snap

/-- The slots among the entries of a folder, in whatever order these come. -/
def slotsAmong (entries : List (String × Entry)) : List Slot :=
  (entries.filterMap fun
    | (name, .file _ written) => Slot.ofFileName? name written
    | (_, .folder _) => none).mergeSort Slot.byName

/-- Of the slots with the safe name of `slot`, one of this version or else the
newest. -/
def choose (slot : String) (slots : List Slot) : Option Slot :=
  ((slots.filter (·.name == safeName slot)).mergeSort Slot.preferred).head?

namespace Shelf

def pathOf (shelf : Shelf) (name : String) : String := inFolder shelf.path name

/-- The snapshot in the file with this name. -/
def read (shelf : Shelf) (name : String) : Except SaveError Snapshot :=
  let path := shelf.pathOf name
  match shelf.folder with
  | .missing => .error (.reading path .notFound)
  | .file => .error (.reading path .notFolder)
  | .entries entries =>
    match entries[name]? with
    | none => .error (.reading path .notFound)
    | some (.folder _) => .error (.reading path .isFolder)
    | some (.file content _) => readContent path content

def names (shelf : Shelf) : List String :=
  match shelf.folder with
  | .entries entries => entries.keys
  | _ => []

/-- All slots, by name and version. -/
def slots (shelf : Shelf) : Except SaveError (List Slot) :=
  match shelf.folder with
  | .missing => .ok []
  | .file => .error (.listing shelf.path .notFolder)
  | .entries entries => .ok (slotsAmong entries.toList)

/-- The slot to load when the player asks for `slot`. -/
def find (shelf : Shelf) (slot : String) : Except SaveError (Option Slot) :=
  shelf.slots.map (choose slot)

/-- The names of all slots, each once. -/
def slotNames (shelf : Shelf) : List String :=
  match shelf.slots with
  | .ok slots => (slots.map (·.name)).eraseReps
  | .error _ => []

end Shelf

/-! ## Listing -/

/-- What a saved game turns out to be. -/
inductive Status where
  | ready (snap : Snapshot)
  /-- The snapshot was written by another version. -/
  | otherVersion (snap : Snapshot)
  | unreadable (message : String)

/-- A message that is not too long for a list. -/
def shortened (message : String) : String :=
  if message.length ≤ 120 then message
  else String.ofList (message.toList.take 117) ++ "..."

/-- What a slot on the shelf turns out to be. -/
def Shelf.status (shelf : Shelf) (slot : Slot) : Status :=
  match shelf.read slot.fileName with
  | .ok snap => if snap.version = engineVersion then .ready snap else .otherVersion snap
  | .error e => .unreadable (shortened e.fullMessage)

/-- All saved games, the newest first. -/
def Shelf.listing (shelf : Shelf) : Except SaveError (List (Slot × Status)) :=
  shelf.slots.map fun slots =>
    (slots.mergeSort Slot.newestFirst).map fun slot => (slot, shelf.status slot)

/-! ## Writing -/

/-- The shelf with one more file, which replaces one of its name. The folder is made
if it is missing. -/
def Shelf.write (shelf : Shelf) (now : Moment) (slot : String) (snap : Snapshot) :
    Except SaveError Shelf :=
  let name := fileName slot
  let put (entries : Std.ExtTreeMap String Entry) : Except SaveError Shelf :=
    if isTooLong name then .error (.writing (shelf.pathOf name) .nameTooLong)
    else
      let file : Entry := .file snap.toText.toUTF8 (some now)
      .ok { shelf with folder := .entries (entries.insert name file) }
  match shelf.folder with
  | .missing =>
    if (pathSteps shelf.path).any isTooLong then .error (.creating shelf.path .nameTooLong)
    else put ∅
  | .file => .error (.creating shelf.path .exists)
  | .entries entries =>
    match entries[name]? with
    | some (.folder _) => .error (.writing (shelf.pathOf name) .isFolder)
    | _ => put entries

end TextAdventure.Saves
