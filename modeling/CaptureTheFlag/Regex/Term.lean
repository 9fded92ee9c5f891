import CaptureTheFlag.Regex.Expr

/-!
# Terms

A term is what a pattern means in its simplest form.  Characters that follow each other are one word,
sequences and choices hold none of their own kind, a choice between single characters is a set, and
what all branches of a choice start with stands in front of it.  Sequences and choices are chains: the
first part is none, and the rest goes on in the second.

* `Term.sequence`, `Term.choice`, `Term.turns`, `Term.ofSet`: terms in their simplest form.
* `Term.expr`: the expression that a term stands for.
-/

namespace CaptureTheFlag.Regex

/-- A pattern in its simplest form. -/
inductive Term where
  | empty
  /-- Characters, each behind the one before. -/
  | word (cs : List Char)
  /-- One character of a set, which may have been written as a set of octets. -/
  | set (octets : Bool) (s : CharSet)
  | look (l : Look)
  | repeated (t : Term) (min : Nat) (max : Option Nat) (greedy : Bool)
  /-- A stretch that can be asked for afterwards. -/
  | group (t : Term)
  | cat (a b : Term)
  | alt (a b : Term)
  deriving DecidableEq, Repr

namespace Term

/-! ## What can be told of a term -/

/-- The term matches empty stretches only. -/
def isNarrow : Term → Bool
  | .empty | .look _ => true
  | .word _ | .set .. => false
  | .cat a b | .alt a b => a.isNarrow && b.isNarrow
  | .repeated t _ max _ => max.isSome && t.isNarrow
  | .group t => t.isNarrow

/-- How many characters each match has at least, unless there is an empty set in the term. -/
def minLength? : Term → Option Nat
  | .empty | .look _ => some 0
  | .word cs => some cs.length
  | .set _ s => if s.ranges.isEmpty then none else some 1
  | .cat a b => do some ((← a.minLength?) + (← b.minLength?))
  | .alt a b => do some (Nat.min (← a.minLength?) (← b.minLength?))
  | .repeated t min _ _ => t.minLength?.map (min * ·)
  | .group t => t.minLength?

/-- Each match starts at the beginning of the text. -/
def startsText : Term → Bool
  | .look l => l = .textStart
  | .empty | .word _ | .set .. => false
  | .cat a b => a.startsText || (a.isNarrow && b.startsText)
  | .alt a b => a.startsText && b.startsText
  | .repeated t min _ _ => 0 < min && t.startsText
  | .group t => t.startsText

/-- Each match ends at the end of the text. -/
def endsText : Term → Bool
  | .look l => l = .textEnd
  | .empty | .word _ | .set .. => false
  | .cat a b => b.endsText || (b.isNarrow && a.endsText)
  | .alt a b => a.endsText && b.endsText
  | .repeated t min _ _ => 0 < min && t.endsText
  | .group t => t.endsText

/-- The terms are the same in all that can be told of them.  Two groups are not, because one can ask
for either. -/
def same : Term → Term → Bool
  | .empty, .empty => true
  | .word cs, .word ds => cs = ds
  | .set o s, .set p t => o = p && s = t
  | .look l, .look k => l = k
  | .repeated t min max greedy, .repeated u min' max' greedy' =>
    t.same u && min = min' && max = max' && greedy = greedy'
  | .cat a b, .cat c d | .alt a b, .alt c d => a.same c && b.same d
  | _, _ => false

/-! ## Sets -/

/-- What matches nothing. -/
def nothing : Term := .set true .empty

/-- One character of a set. -/
def ofSet (octets : Bool) (s : CharSet) : Term :=
  match s.ranges with
  | [] => nothing
  | [(lo, hi)] => if lo = hi then .word [Char.ofNat lo] else .set octets s
  | _ => .set octets s

/-! ## Sequences -/

/-- The parts of a sequence. -/
def parts : Term → List Term
  | .empty => []
  | .cat a b => a :: b.parts
  | t => [t]

/-- A term with another one behind it. -/
def before : Term → Term → Term
  | .empty, rest => rest
  | .cat a b, rest => a.before (b.before rest)
  | .word cs, .word ds => .word (cs ++ ds)
  | .word cs, .cat (.word ds) rest => .cat (.word (cs ++ ds)) rest
  | t, .empty => t
  | t, rest => .cat t rest

/-- Some terms one behind the other. -/
def sequence (ts : List Term) : Term := ts.foldr before .empty

/-! ## Choices -/

/-- The branches of a choice. -/
def branches : Term → List Term
  | .alt a b => a :: b.branches
  | t => [t]

/-- The character that a term is. -/
def char? : Term → Option Char
  | .word [c] => some c
  | _ => none

/-- The set that a term is. -/
def set? : Term → Option CharSet
  | .set _ s => some s
  | _ => none

/-- A choice between characters, or between sets of them, as one set. -/
def unite? (ts : List Term) : Option Term :=
  match ts.mapM char? with
  | some cs => some (ofSet false (CharSet.ofRanges (cs.map fun c => (c.toNat, c.toNat))))
  | none => (ts.mapM set?).map fun sets => ofSet false (CharSet.unionAll sets)

/-- How many parts two sequences have in common, from the first on. -/
def commonLength : List Term → List Term → Nat
  | a :: r, b :: s => if a.same b then commonLength r s + 1 else 0
  | _, _ => 0

/-- The parts that all sequences start with, if there are any, and what follows them in each. -/
def splitCommon? (ts : List Term) : Option (List Term × List Term) :=
  match ts.map parts with
  | [] => none
  | first :: others =>
    let n := (others.map (commonLength first)).foldl Nat.min first.length
    if n = 0 || ts.any fun t => t.parts.length < 2 then none
    else some (first.take n, (first :: others).map fun ps => sequence (ps.drop n))

/-- Terms as the branches of a choice. -/
def ofBranches : List Term → Term
  | [] => nothing
  | [t] => t
  | t :: r => .alt t (ofBranches r)

/-- A choice between terms. -/
def choice (ts : List Term) : Term :=
  match ts.flatMap branches with
  | [t] => t
  | ts =>
    match unite? ts, splitCommon? ts with
    | some t, _ => t
    | none, none => ofBranches ts
    | none, some (start, rests) =>
      let rests := rests.flatMap branches
      sequence (start ++ [(unite? rests).getD (ofBranches rests)])

/-! ## Repetitions -/

/-- A term over and over.  What matches empty stretches only need not be taken twice. -/
def turns (t : Term) (min : Nat) (max : Option Nat) (greedy : Bool) : Term :=
  let (min, max) :=
    if t.isNarrow then (Nat.min min 1, some (Nat.min (max.getD 1) 1)) else (min, max)
  if min = 0 && max = some 0 then .empty
  else if min = 1 && max = some 1 then t
  else .repeated t min max greedy

/-! ## Expressions -/

/-- Characters, each behind the one before. -/
def wordExpr : List Char → Expr
  | [] => .empty
  | [c] => .set (.single c)
  | c :: r => .cat (.set (.single c)) (wordExpr r)

/-- The expression that a term stands for. -/
def expr : Term → Expr
  | .empty => .empty
  | .word cs => wordExpr cs
  | .set _ s => .set s
  | .look l => .look l
  | .repeated t min max _ => .repeated t.expr min (max.map (· - min))
  | .group t => t.expr
  | .cat a b => .cat a.expr b.expr
  | .alt a b => .alt a.expr b.expr

end Term

end CaptureTheFlag.Regex
