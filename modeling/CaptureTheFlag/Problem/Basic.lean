import CaptureTheFlag.Json.Value
import CaptureTheFlag.Sha256
import CaptureTheFlag.TextSet

/-!
# Problems

A problem of the competition, and when a team may see it.  A problem is identified by the digest of
the name that it was created under.  Its weightmap gives a weight to each problem that helps to
unlock it; a problem without such helpers is open to every team, and any other opens once the
weights of the helpers that the team has solved add up to the threshold.

* `Problem.pidOf`: the identifier of a name.
* `Problem.weightSum`: the weights of a set of solved problems, added in ascending order of their
  identifiers; a sum that leaves the 64-bit integers stops at the nearest one.
* `Problem.isUnlockedBy`: the team that has solved these problems may see this one.
-/

namespace CaptureTheFlag

/-- A problem as it is stored. -/
structure Problem where
  /-- The identifier. -/
  pid : String
  name : String
  /-- The points for a solution. -/
  score : Int64
  category : String
  /-- The identifier of the grader that judges keys. -/
  grader : String
  description : String
  /-- The weight that unlocks the problem. -/
  threshold : Int64
  /-- Nobody sees the problem. -/
  disabled : Bool
  /-- Every user has a flag of their own. -/
  autogen : Bool
  tags : List String
  hint : Option String
  relatedProblems : List String
  /-- Weights by the identifiers of the problems that unlock this one. -/
  weightmap : KeyMap Int64
  deriving DecidableEq

namespace Problem

/-- The identifier of a problem created under a name. -/
def pidOf (name : String) : String := Sha256.hexDigest name

/-- The sum, or the nearest 64-bit integer. -/
def addSaturating (a b : Int64) : Int64 := Int64.ofIntClamp (a.toInt + b.toInt)

/-- The weights of some solved problems, added one by one in ascending order. -/
def weightSum (p : Problem) (solved : TextSet) : Int64 :=
  (solved.toList.filterMap p.weightmap.get?).foldl addSaturating 0

/-- A team that has solved these problems may see this one. -/
def isUnlockedBy (p : Problem) (solved : TextSet) : Bool :=
  p.weightmap.isEmpty || p.threshold ≤ p.weightSum solved

/-- Weights by identifiers, from weights by names.  Of two names with one identifier, the greater
counts. -/
def rekey {α : Type} (byName : KeyMap α) : KeyMap α :=
  KeyMap.ofList (byName.entries.map fun e => (pidOf e.1, e.2))

/-- The problem as a document, without its identifier. -/
def toDocument (p : Problem) : Document :=
  KeyMap.ofList [
    ("name", .string p.name),
    ("score", .ofInt64 p.score),
    ("category", .string p.category),
    ("grader", .string p.grader),
    ("description", .string p.description),
    ("threshold", .ofInt64 p.threshold),
    ("disabled", .bool p.disabled),
    ("autogen", .bool p.autogen),
    ("tags", .ofStrings p.tags),
    ("hint", .ofString? p.hint),
    ("related_problems", .ofStrings p.relatedProblems),
    ("weightmap", .ofDocument (p.weightmap.map .ofInt64))]

/-- The problem as a JSON value. -/
def toJson (p : Problem) : Json :=
  .ofDocument (p.toDocument.insert "pid" (.string p.pid))

/-- Every identifier has 64 digits. -/
theorem pidOf_length (name : String) : (pidOf name).length = 64 :=
  Sha256.hexDigest_length name

end Problem

end CaptureTheFlag
