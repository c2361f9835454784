import TextAdventure.Authored.World
import TextAdventure.Reading.Source

/-!
# Reading a world

How the records of a written world are read from data of any format. Fields that
may be missing have the values that the records themselves give them.
-/

namespace TextAdventure.Reading

variable {V : Type} [Source V]

open Source (text? bool?)

def place (v : V) : Option Place := do
  match ← Source.case? v with
  | ("Inventory", none) => return .inventory
  | ("Nowhere", none) => return .nowhere
  | ("Scene", some id) => return .scene (← text? id)
  | ("Container", some id) => return .container (← text? id)
  | _ => none

/-- A text that replaces another. -/
def override (v : V) : Option Authored.Override := do
  let fields ← Source.record? "OverrideDef" ["when", "text"] v
  return {
    when := ← required fields "when" texts
    text := ← required fields "text" text? }

def description (v : V) : Option Authored.Description := do
  let fields ← Source.record? "DescriptionDef" ["text", "overrides", "dark", "visited"] v
  return {
    text := ← required fields "text" text?
    overrides := ← withDefault fields "overrides" [] (list override)
    dark := ← given fields "dark" text?
    visited := ← given fields "visited" text? }

def exit (v : V) : Option Authored.Exit := do
  let fields ← Source.record? "ExitDef"
    ["direction", "to", "desc", "requires", "barred_message", "score", "hidden"] v
  return {
    direction := ← required fields "direction" text?
    destination := ← required fields "to" text?
    desc := ← withDefault fields "desc" "" text?
    requires := ← withDefault fields "requires" [] texts
    barredMessage := ← given fields "barred_message" text?
    score := ← withDefault fields "score" 0 counter
    hidden := ← withDefault fields "hidden" false bool? }

def scene (v : V) : Option Authored.Scene := do
  let fields ← Source.record? "SceneDef" ["id", "name", "region", "lit", "desc", "exits"] v
  return {
    id := ← required fields "id" text?
    name := ← required fields "name" text?
    region := ← withDefault fields "region" "" text?
    lit := ← withDefault fields "lit" false bool?
    desc := ← required fields "desc" description
    exits := ← withDefault fields "exits" [] (list exit) }

/-- What makes an object a container. -/
def container (v : V) : Option Authored.Container := do
  let fields ← Source.record? "ContainerDef" ["capacity", "open", "locked"] v
  return {
    capacity := ← required fields "capacity" counter
    isOpen := ← withDefault fields "open" false bool?
    isLocked := ← withDefault fields "locked" false bool? }

/-- What makes an object a light source. -/
def lightSource (v : V) : Option Authored.LightSource := do
  let fields ← Source.record? "LightSourceDef" ["battery_life", "on"] v
  return {
    batteryLife := ← given fields "battery_life" counter
    on := ← withDefault fields "on" false bool? }

def transfer (v : V) : Option Authored.Transfer := do
  let fields ← Source.record? "TransferDef" ["object", "to"] v
  return {
    object := ← required fields "object" text?
    destination := ← required fields "to" place }

def interaction (v : V) : Option Authored.Interaction := do
  let fields ← Source.record? "InteractionDef"
    ["verb", "message", "failure_message", "requires", "requires_held", "grants", "removes",
      "score", "reveals", "transfers", "target_scene"] v
  return {
    verb := ← required fields "verb" text?
    message := ← given fields "message" description
    failureMessage := ← given fields "failure_message" text?
    requires := ← withDefault fields "requires" [] texts
    requiresHeld := ← withDefault fields "requires_held" [] texts
    grants := ← withDefault fields "grants" [] texts
    removes := ← withDefault fields "removes" [] texts
    score := ← withDefault fields "score" 0 points
    reveals := ← withDefault fields "reveals" [] texts
    transfers := ← withDefault fields "transfers" [] (list transfer)
    targetScene := ← given fields "target_scene" text? }

def object (v : V) : Option Authored.Object := do
  let fields ← Source.record? "ObjectDef"
    ["id", "name", "aliases", "desc", "location", "visible_on_entry", "requires_light",
      "takeable", "weight", "container", "light_source", "interactions"] v
  return {
    id := ← required fields "id" text?
    name := ← required fields "name" text?
    aliases := ← withDefault fields "aliases" [] texts
    desc := ← required fields "desc" description
    location := ← required fields "location" place
    visibleOnEntry := ← withDefault fields "visible_on_entry" true bool?
    requiresLight := ← withDefault fields "requires_light" true bool?
    takeable := ← withDefault fields "takeable" false bool?
    weight := ← withDefault fields "weight" 1 counter
    container := ← given fields "container" container
    lightSource := ← given fields "light_source" lightSource
    interactions := ← withDefault fields "interactions" [] (list interaction) }

def rank (v : V) : Option Authored.Rank := do
  let fields ← Source.record? "ScoringRankDef" ["threshold", "name", "description"] v
  return {
    threshold := ← required fields "threshold" Source.single?
    name := ← required fields "name" text?
    description := ← required fields "description" text? }

def achievement (v : V) : Option Authored.Achievement := do
  let fields ← Source.record? "AchievementDef" ["id", "threshold", "message"] v
  return {
    id := ← required fields "id" text?
    threshold := ← required fields "threshold" counter
    message := ← required fields "message" text? }

def scoring (v : V) : Option Authored.Scoring := do
  let fields ← Source.record? "ScoringDef" ["report_title", "ranks", "achievements"] v
  let standard : Authored.Scoring := {}
  return {
    reportTitle := ← withDefault fields "report_title" standard.reportTitle text?
    ranks := ← withDefault fields "ranks" standard.ranks (list rank)
    achievements := ← withDefault fields "achievements" [] (list achievement) }

/-- What concerns the game as a whole. -/
def game (v : V) : Option Authored.Game := do
  let fields ← Source.record? "GameDef"
    ["title", "slug", "author", "version", "intro", "start_scene", "carry_limit",
      "initial_flags", "scoring"] v
  return {
    title := ← required fields "title" text?
    slug := ← withDefault fields "slug" "" text?
    author := ← withDefault fields "author" "" text?
    version := ← withDefault fields "version" "" text?
    intro := ← withDefault fields "intro" "" text?
    startScene := ← required fields "start_scene" text?
    carryLimit := ← given fields "carry_limit" counter
    initialFlags := ← withDefault fields "initial_flags" [] texts
    scoring := ← withDefault fields "scoring" {} scoring }

def world (v : V) : Option Authored.World := do
  let fields ← Source.record? "WorldDef" ["game", "scenes", "objects"] v
  return {
    game := ← required fields "game" game
    scenes := ← withDefault fields "scenes" [] (list scene)
    objects := ← withDefault fields "objects" [] (list object) }

end TextAdventure.Reading
