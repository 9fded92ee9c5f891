import CaptureTheFlag.Text.Hex

/-!
# Addresses of clients

Internet addresses of both versions, and their text.  The text of an address of version 6 leaves out
its longest run of zero groups, the first of equals, if it has at least two; an address that wraps one
of version 4 shows that one at its end.

* `Address.parse?`: the address of a text.
* `Address.text`: the text of an address.
-/

namespace CaptureTheFlag.Http

/-- The address of a client. -/
inductive Address where
  /-- Four octets. -/
  | v4 (octets : List Nat)
  /-- Eight groups of 16 bits. -/
  | v6 (groups : List Nat)
  deriving DecidableEq, Repr

namespace Address

/-! ## Writing -/

/-- The digits of a group, without leading zeros. -/
def groupText (n : Nat) : String :=
  String.ofList (Nat.toDigits 16 n)

def v4Text (octets : List Nat) : String :=
  String.intercalate "." (octets.map toString)

def groupsText (groups : List Nat) : String :=
  String.intercalate ":" (groups.map groupText)

/-- The number of zeros that a list starts with. -/
def zeros (groups : List Nat) : Nat := (groups.takeWhile (· = 0)).length

/-- Where the longest run of zeros starts, the first of equals, and how long it is. -/
def longestRun (groups : List Nat) : Nat × Nat :=
  (List.range groups.length).foldl
    (fun best i =>
      let n := zeros (groups.drop i)
      if best.2 < n then (i, n) else best)
    (0, 0)

def v6Text (groups : List Nat) : String :=
  match groups with
  | [0, 0, 0, 0, 0, 0xFFFF, a, b] =>
    "::ffff:" ++ v4Text [a / 256, a % 256, b / 256, b % 256]
  | _ =>
    let (start, length) := longestRun groups
    if length < 2 then groupsText groups
    else groupsText (groups.take start) ++ "::" ++ groupsText (groups.drop (start + length))

/-- The text of an address. -/
def text : Address → String
  | .v4 octets => v4Text octets
  | .v6 groups => v6Text groups

/-! ## Reading -/

/-- A number of one to three decimal digits below 256, without a leading zero. -/
def octet? (s : String) : Option Nat :=
  let cs := s.toList
  if cs.isEmpty || 3 < cs.length || !cs.all Char.isDigit || (1 < cs.length && cs.head? = some '0')
  then none
  else
    let n := cs.foldl (fun n c => 10 * n + (c.toNat - 48)) 0
    if n < 256 then some n else none

/-- Four octets between points. -/
def octets? (s : String) : Option (List Nat) :=
  let parts := s.splitOn "."
  if parts.length = 4 then parts.mapM octet? else none

/-- A group of one to four hexadecimal digits. -/
def group? (s : String) : Option Nat :=
  let cs := s.toList
  if cs.isEmpty || 4 < cs.length then none
  else cs.foldlM (fun n c => (Text.Hex.value? c).map fun d => 16 * n + d) 0

/-- Groups between colons, the last two perhaps as an address of version 4. -/
def groupList? : List String → Option (List Nat)
  | [] => some []
  | [s] =>
    match octets? s with
    | some [a, b, c, d] => some [256 * a + b, 256 * c + d]
    | _ => (group? s).map ([·])
  | s :: r =>
    match group? s, groupList? r with
    | some g, some gs => some (g :: gs)
    | _, _ => none

/-- Groups in a text, which may be empty. -/
def groups? (s : String) : Option (List Nat) :=
  if s.isEmpty then some [] else groupList? (s.splitOn ":")

/-- The address of a text. -/
def parse? (s : String) : Option Address :=
  match octets? s with
  | some octets => some (.v4 octets)
  | none =>
    match s.splitOn "::" with
    | [whole] => ((groups? whole).filter (·.length = 8)).map .v6
    | [head, tail] =>
      match groups? head, groups? tail with
      | some a, some b =>
        if a.length + b.length < 8 then
          some (.v6 (a ++ List.replicate (8 - a.length - b.length) 0 ++ b))
        else none
      | _, _ => none
    | _ => none

end Address

end CaptureTheFlag.Http
