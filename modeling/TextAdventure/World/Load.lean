import TextAdventure.Reading.World
import TextAdventure.Ron.Source
import TextAdventure.World.Compile

/-!
# Loading a world

A world is written in a RON file, which is read, checked and resolved.
-/

namespace TextAdventure

def Authored.World.ofText? (text : String) : Option Authored.World :=
  (Ron.Node.ofText? text).bind Reading.world

/-- Why no world could be loaded from a file. -/
inductive LoadError where
  | unreadable (path : String)
  | malformed (path : String)
  | rejected (cause : CompileError)
deriving DecidableEq, Repr

/-- The error in words, outermost first. -/
def LoadError.chain : LoadError → List String
  | .unreadable path =>
    ["while loading worlddef from file", "reading worlddef from '" ++ path ++ "'"]
  | .malformed path =>
    ["while loading worlddef from file", "parsing worlddef RON from '" ++ path ++ "'"]
  | .rejected cause => cause.chain

/-- The world in the file at `path`, if there is one with this content. -/
def World.load (path : String) (content : Option ByteArray) : Except LoadError World :=
  match content.bind String.fromUTF8? with
  | none => .error (.unreadable path)
  | some text =>
    match Authored.World.ofText? text with
    | none => .error (.malformed path)
    | some w => (World.compile w).mapError .rejected

end TextAdventure
