import CaptureTheFlag.Failure
import CaptureTheFlag.Json.Decoder
import CaptureTheFlag.Text.Blank

/-!
# Submissions

A submission is a key that a user has sent in for a problem on behalf of a team, together with the
verdict on it.  An attempt is a submission that has not been judged yet.

* `Attempt.normalized`: an attempt whose key is stripped of the blanks around it.
* `Attempt.check`: the lengths of an attempt's parts.
-/

namespace CaptureTheFlag

/-- A judged key, as it is stored.  What is drawn at random to identify it is left out: nothing is
looked up by it, and no answer depends on it. -/
structure Submission where
  /-- The user. -/
  uid : String
  /-- The team. -/
  tid : String
  /-- The problem. -/
  pid : String
  key : String
  /-- Milliseconds since the epoch. -/
  time : Int
  /-- The address of the client, if it is known. -/
  ip : Option String
  /-- The category that the problem had at the time. -/
  category : String
  correct : Bool
  deriving DecidableEq, Repr

/-- The submission as a JSON value, without its time, which differs from run to run.  What is drawn at
random to identify it would stand here too. -/
def Submission.toJson (s : Submission) : Json :=
  .ofFields [
    ("uid", .string s.uid),
    ("tid", .string s.tid),
    ("pid", .string s.pid),
    ("key", .string s.key),
    ("ip", .ofString? s.ip),
    ("category", .string s.category),
    ("correct", .bool s.correct)]

/-- A key that is about to be judged. -/
structure Attempt where
  tid : String
  pid : String
  key : String
  uid : String
  ip : Option String
  deriving DecidableEq, Repr

namespace Attempt

/-- No part of an attempt is longer than this many characters. -/
def maxLength : Nat := 100

/-- A key of a proper length. -/
def isKey (key : String) : Bool := 1 ≤ key.length && key.length ≤ maxLength

/-- The attempt with the blanks around its key stripped. -/
def normalized (a : Attempt) : Attempt := { a with key := Text.trim a.key }

/-- The parts of improper length.  Which of them comes first is not settled by the rules on attempts;
the order of the names is one of several, and the only thing that depends on it is the order of the
lines in a message. -/
def badFields (a : Attempt) : List AttemptField :=
  (if isKey a.key then [] else [.key]) ++
    (if a.pid.length ≤ maxLength then [] else [.pid]) ++
    (if a.tid.length ≤ maxLength then [] else [.tid])

/-- All parts have a proper length. -/
def check (a : Attempt) : Except Failure Unit :=
  match a.badFields with
  | [] => .ok ()
  | bad => .error (.badAttempt bad)

open Json (Tree Fault)

/-- An attempt in JSON text.  The address may be missing. -/
def read (t : Tree) : Except Fault Attempt := do
  let m ← t.readRecord ⟨["tid", "pid", "key", "uid"], ["ip"]⟩ fun k t =>
    if k = "ip" then t.readString? else some <$> t.readString
  let text (k : String) : Except Fault String := do
    pure ((← Tree.required m k).getD "")
  let tid ← text "tid"
  let pid ← text "pid"
  let key ← text "key"
  let uid ← text "uid"
  pure ⟨tid, pid, key, uid, (m.get? "ip").join⟩

@[simp] theorem normalized_tid (a : Attempt) : a.normalized.tid = a.tid := by
  unfold normalized
  rfl

@[simp] theorem normalized_pid (a : Attempt) : a.normalized.pid = a.pid := by
  unfold normalized
  rfl

@[simp] theorem normalized_key (a : Attempt) : a.normalized.key = Text.trim a.key := by
  unfold normalized
  rfl

@[simp] theorem normalized_uid (a : Attempt) : a.normalized.uid = a.uid := by
  unfold normalized
  rfl

@[simp] theorem normalized_ip (a : Attempt) : a.normalized.ip = a.ip := by
  unfold normalized
  rfl

/-- Stripping a key twice is stripping it once. -/
@[simp] theorem normalized_normalized (a : Attempt) : a.normalized.normalized = a.normalized := by
  simp [normalized]

/-! ## Proper lengths -/

theorem isKey_iff (key : String) :
    isKey key = true ↔ 1 ≤ key.length ∧ key.length ≤ maxLength := by
  simp [isKey]

/-- The key, the problem and the team of the attempt have a proper length. -/
structure IsProper (a : Attempt) : Prop where
  one_le_key : 1 ≤ a.key.length
  key_le : a.key.length ≤ maxLength
  pid_le : a.pid.length ≤ maxLength
  tid_le : a.tid.length ≤ maxLength

/-- No part is named as improper when all are proper. -/
theorem badFields_eq_nil_iff (a : Attempt) : a.badFields = [] ↔ a.IsProper := by
  have hnil : ∀ (t : Prop) [Decidable t] (f : AttemptField),
      (if t then [] else [f]) = [] ↔ t := by
    intro t _ f
    by_cases h : t <;> simp [h]
  unfold badFields
  rw [List.append_eq_nil_iff, List.append_eq_nil_iff, hnil, hnil, hnil, isKey_iff]
  constructor
  · rintro ⟨⟨⟨hone, hkey⟩, hpid⟩, htid⟩
    exact ⟨hone, hkey, hpid, htid⟩
  · intro h
    exact ⟨⟨⟨h.one_le_key, h.key_le⟩, h.pid_le⟩, h.tid_le⟩

theorem check_eq_ok_iff (a : Attempt) : a.check = .ok () ↔ a.IsProper := by
  rw [← badFields_eq_nil_iff]
  unfold check
  cases a.badFields with
  | nil => simp
  | cons f r => simp

/-- The failure of the check names all the parts that are improper. -/
theorem check_of_not_isProper {a : Attempt} (h : ¬a.IsProper) :
    a.check = .error (.badAttempt a.badFields) := by
  rw [← badFields_eq_nil_iff] at h
  unfold check
  cases hbad : a.badFields with
  | nil => exact absurd hbad h
  | cons f r => rfl

end Attempt

end CaptureTheFlag
