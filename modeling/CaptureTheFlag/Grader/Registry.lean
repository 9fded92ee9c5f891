import CaptureTheFlag.Grader.Definition

/-!
# The registry of graders

Graders by their identifiers, and the time that each has for an answer.

* `Registry.ofDefinitions`: a registry of definitions with different identifiers.
* `Registry.load`: a registry of what a file holds.
* `Registry.grade`: the verdict of a grader, unless there is none.
-/

namespace CaptureTheFlag

namespace Grader

/-- Why there is no verdict on a key. -/
inductive Refusal where
  | notRegistered (id : String)
  /-- The grader took longer than this many milliseconds. -/
  | timedOut (id : String) (timeout : Nat)
  | failed (id : String) (cause : String)
  deriving DecidableEq, Repr

/-- The decimal digits of a fraction of a second, given in milliseconds, without trailing zeros. -/
def fractionDigits (ms : Nat) : List Char :=
  let digits := [ms / 100 % 10, ms / 10 % 10, ms % 10].map fun d => Char.ofNat (48 + d)
  (digits.reverse.dropWhile (· = '0')).reverse

/-- A time in seconds from one second on, and in milliseconds below. -/
def durationText (ms : Nat) : String :=
  if ms = 0 then "0ns"
  else if ms < 1000 then toString ms ++ "ms"
  else
    match fractionDigits (ms % 1000) with
    | [] => toString (ms / 1000) ++ "s"
    | ds => toString (ms / 1000) ++ "." ++ String.ofList ds ++ "s"

/-- What a refusal says. -/
def Refusal.message : Refusal → String
  | .notRegistered id => "grader '" ++ id ++ "' is not registered"
  | .timedOut id timeout => "grader '" ++ id ++ "' timed out after " ++ durationText timeout
  | .failed id cause => "grader '" ++ id ++ "' failed: " ++ cause

/-- What is found where the definitions should be. -/
inductive DefinitionsFile where
  | missing
  | unreadable
  | octets (bs : List UInt8)

/-- The number of milliseconds in thirty years of 365 days.  Waits are not told apart beyond it: what
would come later comes then. -/
def horizon : Nat := 30 * 365 * 24 * 60 * 60 * 1000

end Grader

/-- Graders by their identifiers, and their time for an answer in milliseconds. -/
structure Registry where
  graders : KeyMap Grader
  timeout : Nat

namespace Registry

open Grader (Definition DefinitionsFile Refusal)

def empty (timeout : Nat) : Registry := ⟨.empty, timeout⟩

/-- There is a grader under the identifier. -/
def contains (r : Registry) (id : String) : Bool := r.graders.contains id

/-- The registry with a grader under an identifier, in place of any that was there. -/
def register (r : Registry) (id : String) (g : Grader) : Registry :=
  { r with graders := r.graders.insert id g }

/-- The identifiers in ascending order. -/
def ids (r : Registry) : List String := r.graders.keys

/-- The registry with one more definition, whose identifier must be new. -/
def define (r : Registry) (d : Definition) : Except Failure Registry :=
  if r.contains d.id then .error (.graderDefinedTwice d.id)
  else do
    let g ← d.build
    pure (r.register d.id g)

/-- The registry of some definitions, taken in order. -/
def ofDefinitions (timeout : Nat) (ds : List Definition) : Except Failure Registry :=
  ds.foldlM define (empty timeout)

/-- The registry of the definitions in a file.  A file that does not exist defines nothing. -/
def load (timeout : Nat) : DefinitionsFile → Except Failure Registry
  | .missing => .ok (empty timeout)
  | .unreadable => .error .unreadableDefinitions
  | .octets bs =>
    match Text.decode? bs with
    | none => .error .unreadableDefinitions
    | some text =>
      match Json.Tree.read text with
      | (t, false) =>
        match Definition.readAll? t with
        | some ds => ofDefinitions timeout ds
        | none => .error .badDefinitions
      | (_, true) => .error .badDefinitions

/-- The verdict of a grader on a key, if it has one in time. -/
def grade (r : Registry) (id : String) (uid? : Option String) (key : String) :
    Except Refusal Verdict :=
  match r.graders.get? id with
  | none => .error (.notRegistered id)
  | some g =>
    let answer := g uid? key
    if r.timeout < min answer.delay Grader.horizon then .error (.timedOut id r.timeout)
    else
      match answer.result with
      | .ok v => .ok v
      | .error cause => .error (.failed id cause)

end Registry

end CaptureTheFlag
