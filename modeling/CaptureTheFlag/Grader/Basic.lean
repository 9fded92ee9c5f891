import CaptureTheFlag.Json.Value
import CaptureTheFlag.Regex.Compile
import CaptureTheFlag.Sha256

/-!
# Graders

A grader judges a key, sent in by a user who may be unknown.  It takes some time to answer, and it
may fail.  The graders that answer at once compare the key, stripped of the blanks around it, with
something that they know: a flag, the digest of one, a pattern, or the flag that belongs to the user
alone.

* `Grader.flag`, `Grader.digest`, `Grader.pattern`, `Grader.perUser`: the graders that answer at once.
* `Grader.flagFor`: the flag of one user.
* `Grader.rehearsed`: a grader that follows a script.
-/

namespace CaptureTheFlag

/-- What a grader thinks of a key, and what it says to the user. -/
structure Verdict where
  correct : Bool
  message : String
  deriving DecidableEq, Repr

/-- The verdict as a JSON value. -/
def Verdict.toJson (v : Verdict) : Json :=
  .ofFields [("correct", .bool v.correct), ("message", .string v.message)]

namespace Grader

/-- The end of a grader's work: after how many milliseconds, and with what verdict or failure. -/
structure Answer where
  delay : Nat
  result : Except String Verdict

end Grader

/-- Judges a key, given the user if known. -/
def Grader := Option String → String → Grader.Answer

namespace Grader

/-- The messages for a correct and an incorrect key. -/
structure Messages where
  correct : String := "Correct!"
  incorrect : String := "Incorrect."
  deriving DecidableEq, Repr

/-- The verdict with its message. -/
def Messages.verdict (m : Messages) (correct : Bool) : Verdict :=
  ⟨correct, if correct then m.correct else m.incorrect⟩

/-- An answer that takes no time. -/
def Answer.atOnce (v : Verdict) : Answer := ⟨0, .ok v⟩

/-- A grader that answers at once, by the key between its blanks. -/
def immediate (m : Messages) (accepts : String → Bool) : Grader :=
  fun _ key => .atOnce (m.verdict (accepts (Text.trim key)))

/-- Accepts one flag; letters of the ASCII alphabet may differ in case if so wanted. -/
def flag (m : Messages) (flag : String) (caseInsensitive : Bool) : Grader :=
  immediate m fun key =>
    if caseInsensitive then Text.sameIgnoringAsciiCase key flag else key = flag

/-- Accepts the flag with this digest. -/
def digest (m : Messages) (digest : String) : Grader :=
  immediate m fun key => Sha256.verify key digest

/-- Accepts the keys that a pattern matches. -/
def pattern (m : Messages) (e : Regex.Expr) : Grader :=
  immediate m fun key => e.isMatch key

/-- The part of a digest that a user's flag shows. -/
def flagDigits : Nat := 16

/-- The flag that belongs to one user. -/
def flagFor (secret label uid : String) : String :=
  let shown := String.ofList ((Sha256.hexDigest (secret ++ ":" ++ uid)).toList.take flagDigits)
  label ++ "\x7b" ++ shown ++ "\x7d"

/-- What stands before the braces of a user's flag, unless something else is chosen. -/
def defaultLabel : String := "flag"

/-- Accepts the flag that belongs to the user. -/
def perUser (m : Messages) (secret label : String) : Grader :=
  fun uid? key =>
    match uid? with
    | some uid => .atOnce (m.verdict (Text.trim key = flagFor secret label uid))
    | none => .atOnce ⟨false, "This problem can only be graded for a known user."⟩

/-! ## Rehearsals -/

/-- A script for a grader: when it answers, which keys it accepts, and when it fails. -/
structure Script where
  delay : Nat
  correct : List String
  failing : List String
  /-- Every key fails. -/
  broken : Bool
  deriving DecidableEq, Repr

/-- Follows a script, and compares keys with all their blanks. -/
def rehearsed (s : Script) : Grader := fun _ key =>
  ⟨s.delay,
    if s.broken || key ∈ s.failing then .error "stub failure"
    else if key ∈ s.correct then .ok ⟨true, "stub yes"⟩
    else .ok ⟨false, "stub no"⟩⟩

end Grader

end CaptureTheFlag
