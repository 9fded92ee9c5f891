import CaptureTheFlag.Submission.Basic

/-!
# Selecting submissions

A filter selects the submissions that agree with it in every part that is set.  A query is the part
of a filter that a caller may ask for; a user in it takes precedence over a team.

* `Filter.selects`: the filter selects the submission.
* `Query.toFilter`: the filter of a query.
-/

namespace CaptureTheFlag

namespace Submission

/-- A selection of submissions; a part that is not set selects all. -/
structure Filter where
  pid : Option String := none
  uid : Option String := none
  tid : Option String := none
  key : Option String := none
  category : Option String := none
  correct : Option Bool := none
  deriving DecidableEq, Repr

namespace Filter

/-- A part that is set has this value. -/
def admits {α : Type} [DecidableEq α] (part : Option α) (value : α) : Bool :=
  match part with
  | none => true
  | some x => x = value

/-- The submission agrees with every part that is set. -/
def selects (f : Filter) (s : Submission) : Bool :=
  admits f.pid s.pid && admits f.uid s.uid && admits f.tid s.tid && admits f.key s.key &&
    admits f.category s.category && admits f.correct s.correct

def all : Filter := {}

def forTeam (tid : String) : Filter := { tid := some tid }

def forProblem (pid : String) : Filter := { pid := some pid }

def forUser (uid : String) : Filter := { uid := some uid }

def withKey (f : Filter) (key : String) : Filter := { f with key := some key }

/-- The filter with its category set, or not set. -/
def inCategory (f : Filter) (category : Option String) : Filter := { f with category }

def withVerdict (f : Filter) (correct : Bool) : Filter := { f with correct := some correct }

@[simp] theorem admits_none {α : Type} [DecidableEq α] (x : α) : admits none x = true := rfl

@[simp] theorem admits_some {α : Type} [DecidableEq α] (x y : α) :
    admits (some x) y = decide (x = y) := rfl

theorem admits_iff {α : Type} [DecidableEq α] {part : Option α} {value : α} :
    admits part value = true ↔ ∀ v, part = some v → value = v := by
  cases part with
  | none => simp
  | some x => simp [eq_comm]

@[simp] theorem selects_all (s : Submission) : all.selects s = true := rfl

/-- A filter selects what all its parts admit. -/
theorem selects_iff (f : Filter) (s : Submission) :
    f.selects s = true ↔ admits f.pid s.pid = true ∧ admits f.uid s.uid = true ∧
      admits f.tid s.tid = true ∧ admits f.key s.key = true ∧
      admits f.category s.category = true ∧ admits f.correct s.correct = true := by
  unfold selects
  simp only [Bool.and_eq_true, and_assoc]

end Filter

/-- A selection that a caller may ask for. -/
structure Query where
  pid : Option String := none
  uid : Option String := none
  tid : Option String := none
  category : Option String := none
  deriving DecidableEq, Repr

namespace Query

/-- The query names a user or a team. -/
def hasOwner (q : Query) : Bool := q.uid.isSome || q.tid.isSome

/-- The filter of a query; a user takes precedence over a team. -/
def toFilter (q : Query) : Filter where
  pid := q.pid
  uid := q.uid
  tid := if q.uid.isSome then none else q.tid
  category := q.category

open Json (Tree Fault)

/-- A query in JSON text. -/
def read (t : Tree) : Except Fault Query := do
  let m ← t.readRecord ⟨["pid", "uid", "tid", "category"], []⟩ fun _ t => t.readString?
  pure ⟨(m.get? "pid").join, (m.get? "uid").join, (m.get? "tid").join, (m.get? "category").join⟩

end Query

end Submission

end CaptureTheFlag
