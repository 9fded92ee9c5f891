import CaptureTheFlag.Regex.CharClass
import CaptureTheFlag.Regex.Term
import CaptureTheFlag.Unicode.CaseFolding

/-!
# The meaning of patterns

A pattern means a term, by the flags that are on.  Flags hold from where they are changed to the end of
their group, through all branches that follow.  Some patterns mean nothing: they name properties that
do not exist, or could match a part of a character when Unicode is off.

* `Pattern.term?`: the term that a pattern means.
-/

namespace CaptureTheFlag.Regex

/-- The flags that matter for the meaning of a pattern. -/
structure Mode where
  ignoreCase : Bool := false
  multiLine : Bool := false
  dotAll : Bool := false
  swapGreed : Bool := false
  unicode : Bool := true
  crlf : Bool := false
  deriving DecidableEq, Repr

namespace Mode

/-- One flag switched on or off. -/
def switch (m : Mode) (change : Flag × Bool) : Mode :=
  match change.1 with
  | .ignoreCase => { m with ignoreCase := change.2 }
  | .multiLine => { m with multiLine := change.2 }
  | .dotAll => { m with dotAll := change.2 }
  | .swapGreed => { m with swapGreed := change.2 }
  | .unicode => { m with unicode := change.2 }
  | .crlf => { m with crlf := change.2 }
  | .extended => m

def change (m : Mode) (changes : FlagChanges) : Mode := changes.foldl switch m

/-! ## Sets -/

/-- The set with other cases, where case does not count. -/
def fold (m : Mode) (s : CharSet) : CharSet :=
  if m.ignoreCase then
    if m.unicode then Unicode.foldCase s else Unicode.foldAsciiCase s
  else s

/-- The set or its complement, which must not have more than ASCII characters when Unicode is off. -/
def polar? (m : Mode) (negated : Bool) (s : CharSet) : Option CharSet :=
  if !negated then some s
  else if m.unicode then some s.complement
  else none

/-- The characters that a letter stands for, or all others. -/
def letter? (m : Mode) (k : LetterClass) (negated : Bool) : Option CharSet :=
  m.polar? negated (if m.unicode then k.chars else k.asciiChars)

/-- The characters with a property, or all others. -/
def property? (m : Mode) (name : PropertyName) (negated : Bool) : Option CharSet :=
  if m.unicode then name.chars?.bind fun s => m.polar? negated (m.fold s) else none

/-- One character of a set. -/
def term (m : Mode) (s : CharSet) : Term := Term.ofSet (!m.unicode) s

/-- What words are made of. -/
def wordChars (m : Mode) : CharSet :=
  if m.unicode then LetterClass.word.chars else LetterClass.word.asciiChars

end Mode

/-- Two sets joined. -/
def SetOp.join (op : SetOp) (s t : CharSet) : CharSet :=
  match op with
  | .intersection => s.intersect t
  | .difference => s.difference t
  | .symmetricDifference => s.symmetricDifference t

/-- The characters of a set between brackets. -/
def ClassSet.chars? (m : Mode) : ClassSet → Option CharSet
  | .empty => some .empty
  | .range lo hi =>
    if m.unicode || hi.toNat < 128 then some (.range lo.toNat hi.toNat) else none
  | .ascii s negated => (m.polar? negated (m.fold s)).map CharSet.canonical
  | .letter k negated => (m.letter? k negated).map CharSet.canonical
  | .property name negated => (m.property? name negated).map CharSet.canonical
  | .union a b => do
    let s ← a.chars? m
    let t ← b.chars? m
    some (s.union t)
  | .join op a b => do
    let s ← a.chars? m
    let t ← b.chars? m
    some (op.join (m.fold s) (m.fold t))
  | .bracketed negated a =>
    ((a.chars? m).bind fun s => m.polar? negated (m.fold s)).map CharSet.canonical

/-! ## Atoms -/

/-- The characters that a dot stands for. -/
def Mode.dot? (m : Mode) : Option CharSet :=
  if !m.unicode then none
  else if m.dotAll then some .full
  else if m.crlf then some (CharSet.complement ⟨[(0xA, 0xA), (0xD, 0xD)]⟩)
  else some (CharSet.complement ⟨[(0xA, 0xA)]⟩)

/-- What an assertion means. -/
def Assertion.look (m : Mode) : Assertion → Look
  | .lineStart =>
    if !m.multiLine then .textStart else if m.crlf then .anyLineStart else .lineStart
  | .lineEnd => if !m.multiLine then .textEnd else if m.crlf then .anyLineEnd else .lineEnd
  | .textStart => .textStart
  | .textEnd => .textEnd
  | .wordBoundary => .wordBoundary m.wordChars
  | .noWordBoundary => .noWordBoundary m.wordChars
  | .wordStart => .wordStart m.wordChars
  | .wordEnd => .wordEnd m.wordChars
  | .wordStartHalf => .wordStartHalf m.wordChars
  | .wordEndHalf => .wordEndHalf m.wordChars

/-- The term that an atom means. -/
def Atom.term? (m : Mode) : Atom → Option Term
  | .literal c => some (m.term (m.fold (.single c)))
  | .octet c => if m.unicode || c.toNat < 128 then some (m.term (m.fold (.single c))) else none
  | .dot => m.dot?.map m.term
  | .assertion a => some (.look (a.look m))
  | .letter k negated => (m.letter? k negated).map m.term
  | .property name negated => (m.property? name negated).map m.term
  | .bracketed negated a =>
    ((a.chars? m).bind fun s => m.polar? negated (m.fold s)).map m.term

/-! ## Patterns -/

/-- What is written side by side: the branches of a choice, and the parts of each.  The last ones come
first. -/
abbrev Phrase := List (List Term)

namespace Phrase

/-- The term of a phrase. -/
def term (p : Phrase) : Term :=
  Term.choice (p.reverse.map fun parts => Term.sequence parts.reverse)

/-- A phrase as parts of a longer one. -/
def parts : Phrase → List Term
  | [ts] => ts
  | p => [p.term]

end Phrase

/-- What a pattern means, and the flags behind it. -/
def Pattern.meaning? (m : Mode) : Pattern → Option (Phrase × Mode)
  | .empty => some ([[]], m)
  | .flags changes => some ([[]], m.change changes)
  | .atom a => (a.term? m).map fun t => ([[t]], m)
  | .repeated p min max greedy => do
    let (a, m) ← p.meaning? m
    some ([[a.term.turns min max (greedy != m.swapGreed)]], m)
  | .group changes captures p => do
    let (a, _) ← p.meaning? (m.change changes)
    some ([[if captures then .group a.term else a.term]], m)
  | .cat p q => do
    let (a, m) ← p.meaning? m
    let (b, m) ← q.meaning? m
    some ([b.parts ++ a.parts], m)
  | .alt p q => do
    let (a, m) ← p.meaning? m
    let (b, m) ← q.meaning? m
    some (b ++ a, m)

/-- The term that a pattern means. -/
def Pattern.term? (p : Pattern) : Option Term := (p.meaning? {}).map fun (a, _) => a.term

end CaptureTheFlag.Regex
