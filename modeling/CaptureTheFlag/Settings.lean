import CaptureTheFlag.KeyMap
import CaptureTheFlag.Text.Blank

/-!
# Settings

The settings of the service, taken from variables of the environment.  All but the database's address
have defaults.  The variables are looked at in one order, and the first that is missing or has no
meaning decides the failure.

* `Settings.ofEnvironment`: the settings that some variables give.
-/

namespace CaptureTheFlag

/-- The settings of the service. -/
structure Settings where
  host : String
  port : Nat
  logFilter : String
  databaseUrl : String
  maxConnections : Nat
  gradersPath : String
  /-- The time for a verdict, in milliseconds. -/
  timeout : Nat
  checkGraders : Bool
  deriving DecidableEq, Repr

namespace Settings

/-- What is wrong with a variable. -/
inductive Fault where
  | missing (name : String)
  | invalid (name : String)
  deriving DecidableEq, Repr

/-- What a fault says. -/
def Fault.message : Fault → String
  | .missing v => "Missing required environment variable: " ++ v
  | .invalid v => "Invalid value for environment variable: " ++ v

/-- The number of some decimal digits. -/
def ofDigits? (cs : List Char) : Option Nat :=
  if cs.isEmpty then none
  else cs.foldl (fun n? c => n?.bind fun n =>
    if c.isDigit then some (10 * n + (c.toNat - 48)) else none) (some 0)

/-- A number written with decimal digits, perhaps behind a plus, and below a bound. -/
def natBelow? (bound : Nat) (s : String) : Option Nat :=
  let digits :=
    match s.toList with
    | '+' :: r => r
    | cs => cs
  (ofDigits? digits).filter (· < bound)

/-- A truth value in one of its usual spellings, in any case and with blanks around it. -/
def bool? (s : String) : Option Bool :=
  let word := String.ofList ((Text.strip s.toList).map Char.toLower)
  if word ∈ ["1", "true", "yes", "on"] then some true
  else if word ∈ ["0", "false", "no", "off"] then some false
  else none

/-- The value of a variable in its reading, or a default when it is not set. -/
def read {α : Type} (env : KeyMap String) (name : String) (default : α)
    (reading : String → Option α) : Except Fault α :=
  match env.get? name with
  | none => .ok default
  | some s =>
    match reading s with
    | some x => .ok x
    | none => .error (.invalid name)

/-- The settings that some variables give. -/
def ofEnvironment (env : KeyMap String) : Except Fault Settings := do
  let host ← read env "SERVER_HOST" "0.0.0.0" some
  let port ← read env "SERVER_PORT" 8080 (natBelow? (Nat.pow 2 16))
  let logFilter ← read env "RUST_LOG" "info" some
  let databaseUrl ←
    match env.get? "DATABASE_URL" with
    | some url => pure url
    | none => throw (.missing "DATABASE_URL")
  let maxConnections ← read env "DATABASE_MAX_CONNECTIONS" 20 (natBelow? (Nat.pow 2 32))
  let timeout ← read env "GRADER_TIMEOUT_MS" 5000 (natBelow? (Nat.pow 2 64))
  let gradersPath ← read env "GRADERS_PATH" "./graders.json" some
  let checkGraders ← read env "CHECK_GRADERS_EXIST" true bool?
  pure { host, port, logFilter, databaseUrl, maxConnections, gradersPath, timeout, checkGraders }

end Settings

end CaptureTheFlag
