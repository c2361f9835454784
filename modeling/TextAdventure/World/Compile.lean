import TextAdventure.Authored.Check
import TextAdventure.Flag.Name
import TextAdventure.World.Basic

/-!
# From the written world to the played one

`World.ofAuthored` resolves every condition and flag name against the ids of the
world and finds the highest score that can be reached. `World.compile` does so
for worlds without faults only.
-/

namespace TextAdventure

/-- The flag that an author's name for it stands for in a world. -/
def Authored.World.flag (w : Authored.World) (name : String) : Flag :=
  Flag.resolve (fun id => w.objects.any (·.id == id)) (fun id => w.scenes.any (·.id == id)) name

namespace Compile

/-- A condition with its flag names resolved. -/
def condition (w : Authored.World) (context : String) (clauses : Authored.Clauses) :
    Except WorldError Condition :=
  (Condition.ofClauses w.flag clauses).mapError (.condition context)

/-- The overrides of a description; they are counted for the sake of the errors. -/
def overrides (w : Authored.World) (context : String) (index : Nat) :
    List Authored.Override → Except WorldError (List (Condition × String))
  | [] => .ok []
  | o :: rest => do
    let c ← condition w (context ++ " override " ++ toString index) o.when
    return (c, o.text) :: (← overrides w context (index + 1) rest)

/-- A description with its conditions resolved. -/
def description (w : Authored.World) (context : String) (d : Authored.Description) :
    Except WorldError Description := do
  return { text := d.text, overrides := ← overrides w context 0 d.overrides,
           dark := d.dark, visited := d.visited }

def exit (w : Authored.World) (context : String) (e : Authored.Exit) :
    Except WorldError Exit := do
  let precondition ← condition w (context ++ " exit '" ++ e.direction ++ "'") e.requires
  return { direction := e.direction, destination := e.destination, description := e.desc,
           precondition, barredMessage := e.barredMessage, score := e.score, hidden := e.hidden }

/-- A scene, with the objects that start in it. -/
def scene (w : Authored.World) (s : Authored.Scene) : Except WorldError Scene := do
  let context := Authored.sceneContext s.id
  let exits ← s.exits.mapM (exit w context)
  return { id := s.id, name := s.name, region := s.region, naturalLight := s.lit,
           description := ← description w context s.desc,
           objects := (w.objects.filter (·.location == .scene s.id)).map (·.id), exits }

/-- An interaction with its conditions and flags resolved. -/
def interaction (w : Authored.World) (context : String) (i : Authored.Interaction) :
    Except WorldError Interaction := do
  let message ← i.message.mapM (description w context)
  let precondition ← condition w context i.requires
  return { message, failureMessage := i.failureMessage, precondition,
           requiresHeld := i.requiresHeld, grants := i.grants.map w.flag,
           removes := i.removes.map w.flag, score := i.score, reveals := i.reveals,
           transfers := i.transfers, targetScene := i.targetScene }

/-- The interactions of an object by verb, added to those already found. No verb
may occur twice once synonyms are folded. -/
def interactions (w : Authored.World) (object : Id)
    (found : Std.ExtTreeMap Verb Interaction) :
    List Authored.Interaction → Except WorldError (Std.ExtTreeMap Verb Interaction)
  | [] => .ok found
  | i :: rest => do
    let verb := Verb.ofText i.verb
    let entry ← interaction w
      (Authored.objectContext object ++ " verb '" ++ i.verb ++ "'") i
    if found.contains verb then throw (.repeatedVerb object i.verb)
    interactions w object (found.insert verb entry) rest

/-- An object with its conditions and flags resolved. -/
def object (w : Authored.World) (o : Authored.Object) : Except WorldError Object := do
  let interactions ← interactions w o.id ∅ o.interactions
  return { id := o.id, name := o.name, aliases := o.aliases,
           description := ← description w (Authored.objectContext o.id) o.desc,
           start := o.location, visibleOnEntry := o.visibleOnEntry,
           requiresLight := o.requiresLight, takeable := o.takeable, weight := o.weight,
           container := o.container, lightSource := o.lightSource, interactions }

end Compile

/-! ## The highest score -/

/-- The most that an exit into each scene is worth. -/
def bestExits (exits : List Exit) : Std.ExtTreeMap Id Nat :=
  exits.foldl (fun best e =>
    best.insert e.destination (max e.score (best.getD e.destination 0))) ∅

/-- The highest score: every interaction that earns points, and for each scene
the best exit into it, since exits into one scene share one award. -/
def highestScore (scenes : Std.ExtTreeMap Id Scene) (objects : Std.ExtTreeMap Id Object) : Nat :=
  let interactions := objects.values.flatMap fun o => o.interactions.values.map (·.score.toNat)
  let exits := (bestExits (scenes.values.flatMap (·.exits))).values
  (interactions ++ exits).foldl addCapped 0

/-! ## The world -/

/-- Resolves a written world, which should be without faults. -/
def World.ofAuthored (w : Authored.World) : Except WorldError World := do
  let scenes ← w.scenes.mapM (Compile.scene w)
  let objects ← w.objects.mapM (Compile.object w)
  let scenes := Std.ExtTreeMap.ofList (scenes.map fun s => (s.id, s))
  let objects := Std.ExtTreeMap.ofList (objects.map fun o => (o.id, o))
  let scoring := w.game.scoring
  return {
    title := w.game.title, slug := w.game.slug, author := w.game.author
    version := w.game.version, intro := w.game.intro, startScene := w.game.startScene
    carryLimit := w.game.carryLimit, initialFlags := w.game.initialFlags.map w.flag
    scenes, objects
    scoring := { reportTitle := scoring.reportTitle, ranks := ranksDescending scoring.ranks,
                 achievements := scoring.achievements }
    maxScore := highestScore scenes objects }

/-- Why a written world cannot be played. -/
inductive CompileError where
  | faults (faults : List Authored.Fault)
  | world (cause : WorldError)
deriving DecidableEq, Repr

/-- The error in words, outermost first. -/
def CompileError.chain : CompileError → List String
  | .faults found =>
    ["worlddef validation failed:\n"
      ++ "\n".intercalate (found.map fun f => "- " ++ f.message)]
  | .world cause => ["while building world graph from worlddef", cause.message]

/-- Resolves a written world if it is without faults. -/
def World.compile (w : Authored.World) : Except CompileError World :=
  match w.faults with
  | [] => (World.ofAuthored w).mapError .world
  | found => .error (.faults found)

end TextAdventure
