/-!
# Routes

The paths of the service and the methods that each takes.  A path is cut at its slashes; a part of it
may be a parameter, which is any text, though not the empty one at the end of a path.  Where a fixed
word and a parameter could stand in one place, the word wins.

* `Route.ofPath?`: the route of a path.
* `Endpoint.ofRoute?`: what a method does on a route.
-/

namespace CaptureTheFlag.Http

/-- The paths of the service.  Parameters still have their escapes. -/
inductive Route where
  | health
  | problems
  | importing
  | searching
  | problem (pid : String)
  | problemDisabled (pid : String)
  | problemGrade (pid : String)
  | unlocked (tid : String)
  | solved (tid : String)
  | submissions
  | integrity
  | graders
  | reevaluation (pid : String)
  | invalidation
  | clearing
  | clearingAll
  deriving DecidableEq, Repr

namespace Route

/-- The route of the parts of a path below the base. -/
def ofParts? : List String → Option Route
  | ["health"] => some .health
  | ["problems"] => some .problems
  | ["problems", "import"] => some .importing
  | ["problems", "search"] => some .searching
  | ["problems", pid] => if pid.isEmpty then none else some (.problem pid)
  | ["problems", pid, "disabled"] => some (.problemDisabled pid)
  | ["problems", pid, "grade"] => some (.problemGrade pid)
  | ["teams", tid, "problems", "unlocked"] => some (.unlocked tid)
  | ["teams", tid, "problems", "solved"] => some (.solved tid)
  | ["submissions"] => some .submissions
  | ["admin", "integrity"] => some .integrity
  | ["admin", "graders"] => some .graders
  | ["admin", "problems", pid, "reevaluate"] => some (.reevaluation pid)
  | ["admin", "submissions", "invalidate"] => some .invalidation
  | ["admin", "submissions"] => some .clearing
  | ["admin", "submissions", "all"] => some .clearingAll
  | _ => none

/-- The parts of a path between its slashes. -/
def parts (path : String) : List String := (path.toList.splitOn '/').map String.ofList

/-- The route of a path. -/
def ofPath? (path : String) : Option Route :=
  match parts path with
  | "" :: "api" :: "v1" :: below => ofParts? below
  | _ => none

end Route

/-- What the service does for a request. -/
inductive Endpoint where
  | health
  | listProblems
  | createProblem
  | importProblems
  | searchProblems
  | getProblem (pid : String)
  | updateProblem (pid : String)
  | deleteProblem (pid : String)
  | setDisabled (pid : String)
  | gradeKey (pid : String)
  | unlockedProblems (tid : String)
  | solvedProblems (tid : String)
  | listSubmissions
  | createSubmission
  | integrity
  | graders
  | reevaluate (pid : String)
  | invalidate
  | clear
  | clearAll
  deriving DecidableEq, Repr

/-- What a method does on a route. -/
def Endpoint.ofRoute? : Route → String → Option Endpoint
  | .health, "GET" => some .health
  | .problems, "GET" => some .listProblems
  | .problems, "POST" => some .createProblem
  | .importing, "POST" => some .importProblems
  | .searching, "POST" => some .searchProblems
  | .problem pid, "GET" => some (.getProblem pid)
  | .problem pid, "PATCH" => some (.updateProblem pid)
  | .problem pid, "DELETE" => some (.deleteProblem pid)
  | .problemDisabled pid, "PUT" => some (.setDisabled pid)
  | .problemGrade pid, "POST" => some (.gradeKey pid)
  | .unlocked tid, "GET" => some (.unlockedProblems tid)
  | .solved tid, "GET" => some (.solvedProblems tid)
  | .submissions, "GET" => some .listSubmissions
  | .submissions, "POST" => some .createSubmission
  | .integrity, "GET" => some .integrity
  | .graders, "GET" => some .graders
  | .reevaluation pid, "POST" => some (.reevaluate pid)
  | .invalidation, "POST" => some .invalidate
  | .clearing, "DELETE" => some .clear
  | .clearingAll, "DELETE" => some .clearAll
  | _, _ => none

end CaptureTheFlag.Http
