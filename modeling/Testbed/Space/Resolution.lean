import Testbed.Space.EnvironmentSpace

/-!
# Resolution

Picks the first candidate, in the order of declaration, that satisfies a requirement. When none
does, each candidate contributes the reasons it was rejected for under its name.
-/
namespace Testbed

/-- A candidate that satisfied a requirement. -/
structure MatchedEnvironment where
  candidateIndex : Nat
  name : String
  /-- The requirement narrowed by the candidate. -/
  space : EnvironmentSpace
  /-- The candidate's node for each required node. -/
  nodeAssignment : List Nat
  deriving DecidableEq

/-- The name of a candidate: its own, or one made of its place. -/
def candidateName (candidate : EnvironmentSpace) (index : Nat) : String :=
  candidate.name.getD s!"candidate_{index}"

/-- Match one candidate. -/
def matchCandidate (requirement candidate : EnvironmentSpace) (index : Nat) :
    Except (List Reason) MatchedEnvironment := do
  let assignment ← requirement.assignNodes candidate
  let space ← requirement.intersect candidate
  return ⟨index, candidateName candidate index, space, assignment.indices⟩

/-- Resolve among candidates with their places. -/
def resolveAmong (requirement : EnvironmentSpace) :
    List (EnvironmentSpace × Nat) → Except (List Reason) MatchedEnvironment
  | [] => .error []
  | (candidate, index) :: rest =>
    match matchCandidate requirement candidate index with
    | .ok found => .ok found
    | .error reasons =>
      (resolveAmong requirement rest).mapError
        (reasons.map (.within (.candidate (candidateName candidate index))) ++ ·)

/-- The first candidate that satisfies a requirement. -/
def resolve (requirement : EnvironmentSpace) (candidates : List EnvironmentSpace) :
    Except (List Reason) MatchedEnvironment :=
  resolveAmong requirement candidates.zipIdx

/-- The message of a resolution that failed. -/
def unavailableMessage (reasons : List Reason) : String :=
  "no environment available: " ++ "; ".intercalate (reasons.map Reason.text)

end Testbed
