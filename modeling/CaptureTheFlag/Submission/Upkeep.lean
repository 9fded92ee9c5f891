import CaptureTheFlag.Store.Program

/-!
# Upkeep of submissions

Listing, invalidating and clearing the submissions of a user or a team.
-/

namespace CaptureTheFlag.Upkeep

open Submission (Filter Query)

/-- The submissions of a query, by time. -/
def submissions (q : Query) : Program (List Submission) := do
  let found ← Program.call (.findSubmissions q.toFilter)
  pure found

/-- The correct submissions of a query that names a user or a team. -/
def correctSubmissions (q : Query) : Program (List Submission) :=
  if q.hasOwner then do
    let found ← Program.call (.findSubmissions (q.toFilter.withVerdict true))
    pure found
  else Program.fail .ownerless

/-- Makes the correct submissions of a query incorrect; their number. -/
def invalidate (q : Query) : Program Nat := do
  let n ← Program.call (.setCorrect (q.toFilter.withVerdict true) false)
  pure n

/-- Removes the submissions of a user, or else of a team; their number. -/
def clear (uid tid : Option String) : Program Nat := do
  match uid, tid with
  | some uid, _ => do
    let n ← Program.call (.deleteSubmissions (Filter.forUser uid))
    pure n
  | none, some tid => do
    let n ← Program.call (.deleteSubmissions (Filter.forTeam tid))
    pure n
  | none, none => Program.fail .ownerless

/-- Removes every submission; their number. -/
def clearAll : Program Nat := do
  let n ← Program.call (.deleteSubmissions Filter.all)
  pure n

end CaptureTheFlag.Upkeep
