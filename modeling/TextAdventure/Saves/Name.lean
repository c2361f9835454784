import TextAdventure.Snapshot
import TextAdventure.Text.Split

/-!
# Names of saved games

The player may call a saved game anything. `safeName` makes a name of it that is
safe in a path: small ASCII letters, digits, `-` and `_` only, with a letter or
digit at both ends. A file of saved games carries the version that wrote it.
-/

namespace TextAdventure.Saves

/-- A mark that may join the parts of a name. -/
def isJoint (c : Char) : Bool := c == '-' || c == '_'

/-- The characters that are kept, each run of others as one `-`. Nothing is put in
front of the first letter or digit; `started` tells that it was found, and
`skipped` that something was left out since the last character kept. -/
def nameChars (started skipped : Bool) : List Char → List Char
  | [] => []
  | c :: rest =>
    if c.isAlphanum then
      let kept := c.toLower :: nameChars true false rest
      if started && skipped then '-' :: kept else kept
    else if isJoint c && started then c :: nameChars true false rest
    else nameChars started true rest

/-- A sequence without the marks it ends with. -/
def dropLastJoints (s : List Char) : List Char := (s.reverse.dropWhile isJoint).reverse

/-- The name under which something called `raw` is kept. -/
def safeName (raw : String) : String :=
  let name := dropLastJoints (nameChars false false (Text.trim raw).toList)
  if name.isEmpty then "world" else String.ofList name

/-- What stands between a name and the version in the name of a file. -/
def versionMark : String := "-lantern-"

/-- The end of the name of a file. -/
def fileEnding : String := ".ron"

def fileName (slot : String) : String :=
  safeName slot ++ versionMark ++ engineVersion ++ fileEnding

/-! ## Paths -/

/-- The path begins at the outermost folder of all. -/
def isAbsolute (path : String) : Bool := path.toList.head? == some '/'

/-- The path of something in a folder. An absolute path stays as it is. -/
def inFolder (folder name : String) : String :=
  if isAbsolute name then name
  else if folder.isEmpty || folder.toList.getLast? == some '/' then folder ++ name
  else folder ++ "/" ++ name

/-- The steps of a path: the names between its slashes. -/
def pathSteps (path : String) : List String := Text.splitAt '/' path

/-- How many bytes the name of a file or a folder can have. -/
def nameLimit : Nat := 255

/-- No file or folder can have the name. -/
def isTooLong (name : String) : Bool := nameLimit < name.utf8ByteSize

/-- The folder, under `root`, for the saved games of a world. -/
def folderFor (root slug : String) : String := inFolder root (safeName slug)

def filePath (folder slot : String) : String := inFolder folder (fileName slot)

/-- The folder that holds the saved games of all worlds. -/
def rootFolder : String := "saved_games"

end TextAdventure.Saves
