import TextAdventure.Main
import TextAdventure.Saves.Path
import TextAdventure.Session.Completion
import TextAdventure.Proofs.Outcome
import TextAdventure.Proofs.State.Holders
import TextAdventure.Proofs.State.Nesting
import TextAdventure.Proofs.State.Placed
import TextAdventure.Proofs.State.Weights
import TextAdventure.Proofs.State.Start
import TextAdventure.Proofs.World.Resolved
import TextAdventure.Proofs.World.Containment
import TextAdventure.Proofs.World.Coherent
import TextAdventure.Proofs.Play.Moving
import TextAdventure.Proofs.Play.Seeing
import TextAdventure.Proofs.Play.Effects
import TextAdventure.Proofs.Play.Acting
import TextAdventure.Proofs.Game.Runs
import TextAdventure.Proofs.Play.Safety
import TextAdventure.Proofs.Play.Answers
import TextAdventure.Proofs.Game.Guarantees
import TextAdventure.Proofs.Game.Limits
import TextAdventure.Proofs.Game.Light
import TextAdventure.Proofs.World.Flags
import TextAdventure.Proofs.Play.Flags
import TextAdventure.Proofs.RoundTrip
import TextAdventure.Proofs.Play.Handling
import TextAdventure.Proofs.Game.Places
import TextAdventure.Proofs.Play.Rewards
import TextAdventure.Proofs.Play.Storing
import TextAdventure.Proofs.Game.Saving
import TextAdventure.Proofs.Play.Awards
import TextAdventure.Proofs.Game.Scoring
import TextAdventure.Proofs.World.Acceptance
import TextAdventure.Proofs.Play.Permission
import TextAdventure.Proofs.Game.Permission
import TextAdventure.Proofs.Play.Lamps
import TextAdventure.Proofs.Game.Batteries
import TextAdventure.Proofs.Game.Lids
import TextAdventure.Proofs.Play.Trophies
import TextAdventure.Proofs.Game.Trophies
import TextAdventure.Proofs.Ron.Words
import TextAdventure.Proofs.Ron.Values
import TextAdventure.Proofs.Ron.Source
import TextAdventure.Proofs.Saves.File
import TextAdventure.Proofs.Saves.Shelf
import TextAdventure.Proofs.Flag.Text
import TextAdventure.Proofs.Play.Causes
import TextAdventure.Proofs.Verb
import TextAdventure.Proofs.World.Texts
import TextAdventure.Proofs.Game.Texts
import TextAdventure.Proofs.State.Trees
import TextAdventure.Proofs.Game.Contents
import TextAdventure.Proofs.Game.Restoring
import TextAdventure.Proofs.Game.Attempts
import TextAdventure.Proofs.Condition
import TextAdventure.Proofs.Game.Nouns
import TextAdventure.Proofs.World.Exits
import TextAdventure.Proofs.World.Mentions
import TextAdventure.Proofs.Game.Mentions
import TextAdventure.Proofs.Game.Arrivals
import TextAdventure.Proofs.Game.Visits
import TextAdventure.Proofs.Game.Beginning
import TextAdventure.Proofs.World.Arrangement
import TextAdventure.Proofs.Text.Case
import TextAdventure.Proofs.Text.Words
import TextAdventure.Proofs.Session.Request
import TextAdventure.Proofs.World.Ranks
import TextAdventure.Proofs.Session.Completion
import TextAdventure.Proofs.Saves.Listing
import TextAdventure.Proofs.Settings
import TextAdventure.Proofs.World.Clauses
import TextAdventure.Proofs.Flag.Recovery
import TextAdventure.Proofs.World.Guards
import TextAdventure.Proofs.Saves.Name
import TextAdventure.Proofs.Saves.Path
