import TextAdventure.Authored.World
import TextAdventure.Flag.Set
import TextAdventure.Text.Split

/-!
# Conditions

A condition is a Boolean expression over flags. Authors write it as a list of
clauses that must all hold; a clause is a flag name, a negated flag name, or
several of either separated by `|`, of which one must hold. Reading resolves
the names once; holding is then a matter of the flags alone.
-/

namespace TextAdventure

/-- A Boolean expression over flags. -/
inductive Condition where
  | always
  | atom (flag : Flag)
  | not (inner : Condition)
  | and (parts : List Condition)
  | or (parts : List Condition)
deriving Repr, Inhabited

/-- What is wrong with a written condition. -/
inductive ConditionError where
  | emptyClause
  | emptyTerm (clause : String)
  | bareNegation (clause : String)
deriving DecidableEq, Repr

def ConditionError.message : ConditionError → String
  | .emptyClause => "empty clause"
  | .emptyTerm clause => "empty term in clause '" ++ clause ++ "'"
  | .bareNegation clause => "negation without a flag name in clause '" ++ clause ++ "'"

namespace Condition

def holds (flags : FlagSet) : Condition → Bool
  | always => true
  | atom flag => flags.has flag
  | not inner => !inner.holds flags
  | and parts => allHold parts
  | or parts => anyHolds parts
where
  /-- All of the conditions hold. -/
  allHold : List Condition → Bool
    | [] => true
    | c :: rest => c.holds flags && allHold rest
  /-- One of the conditions holds. -/
  anyHolds : List Condition → Bool
    | [] => false
    | c :: rest => c.holds flags || anyHolds rest

/-- The condition asks for nothing. -/
def isAlways : Condition → Bool
  | always => true
  | _ => false

/-! ## Reading -/

/-- Reads a term: a flag name with or without a negation. -/
def ofTerm (resolve : String → Flag) (clause term : String) :
    Except ConditionError Condition :=
  let term := Text.trim term
  if term.isEmpty then .error (.emptyTerm clause)
  else
    match Text.after? "!" term with
    | some rest =>
      let name := Text.trim rest
      if name.isEmpty then .error (.bareNegation clause) else .ok (not (atom (resolve name)))
    | none => .ok (atom (resolve term))

/-- Reads a clause: terms of which one must hold. -/
def ofClause (resolve : String → Flag) (clause : String) : Except ConditionError Condition :=
  if (Text.trim clause).isEmpty then .error .emptyClause
  else do
    match ← (Text.splitAt '|' clause).mapM (ofTerm resolve clause) with
    | [term] => pure term
    | terms => pure (or terms)

/-- Reads clauses, which must all hold. -/
def ofClauses (resolve : String → Flag) (clauses : Authored.Clauses) :
    Except ConditionError Condition := do
  match ← clauses.mapM (ofClause resolve) with
  | [] => pure always
  | [clause] => pure clause
  | parts => pure (and parts)

end Condition

end TextAdventure
