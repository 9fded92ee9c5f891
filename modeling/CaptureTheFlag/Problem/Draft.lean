import CaptureTheFlag.Problem.Basic
import CaptureTheFlag.Problem.Schema

/-!
# Drafts of problems

A problem comes in as a document.  The document's fields are checked one after another, and the
first that breaks its rule decides the failure; what passes is a draft.  A draft becomes a problem
under the identifier of its name, or under an identifier that it already had.

* `Draft.ofDocument`: the draft of a document.
* `Problem.create`: a new problem, whose weightmap is given by names.
* `Problem.ofDraft`: a problem that keeps its identifier, and whose weightmap is given by
  identifiers.
-/

namespace CaptureTheFlag

/-- A problem that has been checked but has no identifier yet. -/
structure Draft where
  name : String
  score : Int64
  category : String
  grader : String
  description : String
  threshold : Int64
  disabled : Option Bool
  autogen : Option Bool
  relatedProblems : Option (List String)
  weightmap : Option (KeyMap Int64)
  tags : Option (List String)
  hint : Option String
  deriving DecidableEq

namespace Draft

/-- The fields that a document may have; two of them are known only to be refused. -/
def fields : List String :=
  ["name", "score", "category", "grader", "description", "threshold", "disabled", "autogen",
    "related_problems", "weightmap", "tags", "hint", "pid", "_id"]

/-- A name with a character that is not blank. -/
def checkName (d : Document) : Except Failure String := do
  let name ← Schema.requiredString d "name" "The problem's display name must be a string."
  if (Text.trim name).isEmpty then
    throw (.badField "The problem's display name must not be empty.")
  pure name

/-- The draft of a document. -/
def ofDocument (d : Document) : Except Failure Draft := do
  Schema.onlyFields d fields
  Schema.forbidden d "pid" "You should not specify a pid for a problem."
  Schema.forbidden d "_id" "Your problems should not already have _ids."
  let name ← checkName d
  let score ← Schema.requiredNonNegative d "score" "Score must be a non-negative integer."
  let category ← Schema.requiredString d "category" "Category must be a string."
  let grader ← Schema.requiredString d "grader" "The grader id must be a string."
  let description ←
    Schema.requiredString d "description" "The problem description must be a string."
  let threshold ←
    Schema.requiredNonNegative d "threshold" "Threshold must be a non-negative integer."
  let disabled ←
    Schema.optionalBool d "disabled" "A problem's disabled state is either true or false."
  let autogen ←
    Schema.optionalBool d "autogen" "A problem should either be autogenerated or not, true/false."
  let relatedProblems ←
    Schema.optionalStrings d "related_problems"
      "Related problems should be a list of related problems."
  let weightmap ←
    Schema.optionalIntegers d "weightmap"
      "Weightmap should be a mapping from problem names to integer weights."
  let tags ← Schema.optionalStrings d "tags" "Tags must be described as a list."
  let hint ← Schema.optionalString d "hint" "A hint must be a string."
  pure { name, score, category, grader, description, threshold, disabled, autogen,
         relatedProblems, weightmap, tags, hint }

end Draft

namespace Problem

/-- The problem of a draft, with an identifier and with weights by identifiers. -/
def assemble (pid : String) (d : Draft) (weightmap : KeyMap Int64) : Problem where
  pid := pid
  name := d.name
  score := d.score
  category := d.category
  grader := d.grader
  description := d.description
  threshold := d.threshold
  disabled := d.disabled.getD false
  autogen := d.autogen.getD false
  tags := d.tags.getD []
  hint := d.hint
  relatedProblems := d.relatedProblems.getD []
  weightmap := weightmap

/-- A new problem.  Its draft gives weights by names. -/
def create (d : Draft) : Problem :=
  assemble (pidOf d.name) d (rekey (d.weightmap.getD .empty))

/-- A problem that keeps its identifier.  Its draft gives weights by identifiers. -/
def ofDraft (pid : String) (d : Draft) : Problem :=
  assemble pid d (d.weightmap.getD .empty)

end Problem

end CaptureTheFlag
