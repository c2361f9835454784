import TextAdventure.Session.Start

/-!
# The program

Plays the game in the data folder at the terminal. Everything that is printed and
every change of the game comes from the session; here files are read and written,
and lines are heard.
-/

namespace TextAdventure.Program

def content? (path : String) : IO (Option ByteArray) := do
  try return some (← IO.FS.readBinFile path)
  catch _ => return none

def isFolder (path : String) : IO Bool := do
  try (← IO.FS.realPath path).isDir
  catch _ => return false

/-- A time stamp of a file as a moment. -/
def momentOf (time : IO.FS.SystemTime) : Saves.Moment :=
  time.sec * 1000000000 + (time.nsec.toNat : Int)

/-- What stands under a name in a folder. -/
def entryOf (found : IO.FS.DirEntry) : IO Saves.Entry := do
  let data ← found.path.metadata
  if data.type == .file then
    return .file ((← content? found.path.toString).getD .empty) (some (momentOf data.modified))
  else return .folder []

/-- What is found under a path now. -/
def folderAt (path : String) : IO Saves.Folder := do
  try
    let place ← IO.FS.realPath path
    if !(← place.pathExists) then return .missing
    if !(← place.isDir) then return .file
    let entries ← (← place.readDir).toList.mapM fun found => do
      return (found.fileName, ← entryOf found)
    return .entries (.ofList entries)
  catch _ => return .missing

/-- The current moment: the time stamp of a new file. -/
def now : IO Saves.Moment := do
  let (_, path) ← IO.FS.createTempFile
  let data ← path.metadata
  IO.FS.removeFile path
  return momentOf data.modified

/-- Writes a text at once. -/
def say (text : String) : IO Unit := do
  let output ← IO.getStdout
  output.putStr text
  output.flush

/-- The next line with its line feed; empty at the end of the input. -/
def nextLine : IO (List UInt8) := do
  let input ← IO.getStdin
  let mut line := []
  repeat
    match (← input.read 1).toList with
    | [] => break
    | byte :: _ =>
      line := byte :: line
      if byte == 10 then break
  return line.reverse

def hear : IO Heard := do
  let line ← nextLine
  return if line.isEmpty then .ended else Heard.ofLine line

/-- Writes the file of a saved game and tells what came of it. -/
def save (s : Session) (slot : String) : IO Session := do
  try
    IO.FS.createDirAll s.shelf.path
    IO.FS.writeFile (Saves.filePath s.shelf.path slot) s.game.snapshot.toText
    return s.say (Screen.saved s.coloured slot none)
  catch e =>
    return s.say (Screen.line (Style.error.apply s.coloured "Save failed:" ++ " " ++ toString e))

/-- Answers what is heard, with the saved games as they are now. -/
def answer (s : Session) (heard : Heard) : IO Session := do
  match heard with
  | .line text =>
    match Request.ofLine text with
    | .save slot => save s slot
    | request =>
      let shelf := { s.shelf with folder := ← folderAt s.shelf.path }
      return { s with shelf }.fulfil (← now) request
  | heard => return s.answer 0 heard

/-- Plays a game to its end. -/
def play (s : Session) : IO Session := do
  let mut s := s
  say s.printed
  repeat
    if s.outcome != .goesOn then break
    say (Screen.prompt s.coloured s.game.state)
    s ← answer s (← hear)
    say s.printed
  return s

/-- Tells why a game could not go on. -/
def complain (chain : List String) : IO UInt32 := do
  IO.eprintln ("Error: " ++ ": ".intercalate chain)
  return 1

def programFolders : IO (List String) := do
  try
    let folder? := (← IO.appPath).parent
    return (folder?.toList ++ (folder?.bind (·.parent)).toList).map (·.toString)
  catch _ => return []

/-- Finds the game, plays it and tells how it ended. -/
def run : IO UInt32 := do
  let around ← programFolders
  let existing ← (dataFolders around).filterM isFolder
  let folder := dataFolder (← IO.getEnv "LANTERN_DATA") around existing.contains
  let worldPath := Saves.inFolder folder worldFileName
  let settings ← content? (Saves.inFolder folder settingsFileName)
  let coloured := coloursWanted (← IO.getEnv "CLICOLOR_FORCE") (← IO.getEnv "NO_COLOR")
    (← IO.getEnv "CLICOLOR") (← (← IO.getStdout).isTty)
  match Game.load worldPath (← content? worldPath) settings with
  | .error cause => complain cause.chain
  | .ok game =>
    let path := Saves.folderFor Saves.rootFolder game.world.slug
    let opened := Session.start game { path, folder := .missing } coloured
    let s ← play opened
    match opened.outcome, s.outcome with
    | .failed cause, _ => complain (StartError.enter cause).chain
    | _, .failed cause => complain (StartError.play cause).chain
    | _, _ => return 0

end TextAdventure.Program

/-- Plays the game in the data folder. -/
def main : IO UInt32 := TextAdventure.Program.run
