import CaptureTheFlag.Proofs.Regex.Reading
import CaptureTheFlag.Regex.Token

/-!
# The tokens of a pattern with an ending behind it

A pattern with a closing parenthesis and a dollar sign behind it is cut into the tokens of the
pattern and those of the ending, as long as the tokens of the pattern close no group that is open
before them.

* `Token.carries_next?`: the first token is the same.
* `Token.staysOpen`: tokens close no group but those that they open.
* `Token.scanFrom?_of_grows`: all tokens.

## Why it matters which groups are open

Whether blanks count is a flag that a group may change, and the groups that are open remember what
it was before.  Tokens that close one group more than they open bring back the flag of a group that
is no part of the pattern, and then the pattern by itself is cut in another way.
-/

namespace CaptureTheFlag.Regex.Token

variable {cs ds : List Char}

/-! ## Groups -/

theorem carries_readFlags (h : Grows cs ds) (changes : FlagChanges) (negated dangling : Bool) :
    Carries (readFlags changes negated dangling cs) (readFlags changes negated dangling ds) := by
  induction h generalizing changes negated dangling with
  | ending => exact .none _
  | swallowed => exact .none _
  | cons c h ih =>
    unfold readFlags
    split_ifs
    · exact .none _
    · exact .some _ (.cons c h)
    · exact .none _
    · exact ih _ _ _
    · cases flag? c with
      | none => exact .none _
      | some f =>
        dsimp only
        split_ifs
        · exact .none _
        · exact ih _ _ _

theorem carries_readName (h : Grows cs ds) : Carries (readName cs) (readName ds) := by
  unfold readName
  rcases takeWhile_of_grows h (p := (· ≠ '>')) (by decide) (by decide) with
    ⟨hcs, -⟩ | ⟨hname, c, r, s, hcs, hds, h⟩
  · dsimp only
    rw [hcs]
    cases cs.takeWhile (· ≠ '>') with
    | nil => exact .none _
    | cons c more => exact .none _
  · dsimp only
    rw [hname, hcs, hds]
    cases cs.takeWhile (· ≠ '>') with
    | nil => exact .none _
    | cons d more =>
      by_cases hc : c = '>'
      · subst hc
        simp only []
        split_ifs
        · exact .some _ h
        · exact .none _
      · simp only [List.cons.injEq, hc, false_and, imp_self, implies_true]
        exact .none _

/-- What stands behind a group's question mark, unless it is a name: flags, for the group or for the
rest of the group around it. -/
def readChanges (cs : List Char) : Option (Token × List Char) :=
  match readFlags [] false false cs with
  | some (changes, ':' :: r) => some (.opening changes false none, r)
  | some (changes, ')' :: r) => if changes.isEmpty then none else some (.flags changes, r)
  | _ => none

theorem carries_readChanges (h : Grows cs ds) : Carries (readChanges cs) (readChanges ds) := by
  have hflags := carries_readFlags h [] false false
  unfold readChanges
  generalize readFlags [] false false cs = x at hflags
  generalize readFlags [] false false ds = y at hflags
  cases hflags with
  | none => exact .none _
  | some changes h =>
    cases h with
    | ending => exact .none _
    | swallowed => exact .none _
    | @cons c r s h =>
      by_cases hcolon : c = ':'
      · subst hcolon
        exact .some _ h
      by_cases hparen : c = ')'
      · subst hparen
        simp only []
        split_ifs
        · exact .none _
        · exact .some _ h
      simp only [Option.some.injEq, Prod.mk.injEq, List.cons.injEq, hcolon, hparen, false_and,
        and_false, imp_self, implies_true]
      exact .none _

/-- The two characters behind the question mark say what stands there, so it is the same with the
ending behind it. -/
theorem carries_readOpening (h : Grows cs ds) (extended : Bool) :
    Carries (readOpening extended cs) (readOpening extended ds) := by
  have hskip := grows_skip h extended
  unfold readOpening
  dsimp only
  generalize skip extended cs = cs at hskip
  generalize skip extended ds = ds at hskip
  cases hskip with
  | ending => exact .some _ .ending
  | swallowed => exact .some _ .swallowed
  | @cons c r s h =>
    by_cases hc : c = '?'
    case neg =>
      simp only [List.cons.injEq, hc, false_and, imp_self, implies_true]
      exact .some _ (.cons c h)
    subst hc
    cases h with
    | ending => exact .none _
    | swallowed => exact .none _
    | @cons d r s h =>
      by_cases hequals : d = '='
      · subst hequals
        exact .none _
      by_cases hbang : d = '!'
      · subst hbang
        exact .none _
      by_cases hangle : d = '<'
      · subst hangle
        cases h with
        | ending => exact .none _
        | swallowed => exact .none _
        | @cons e r s h =>
          by_cases hequals : e = '='
          · subst hequals
            exact .none _
          by_cases hbang : e = '!'
          · subst hbang
            exact .none _
          simp only [List.cons.injEq, hequals, hbang, false_and, imp_self, implies_true]
          exact (carries_readName (.cons e h)).map fun name => Token.opening [] true (some name)
      by_cases hletter : d = 'P'
      · subst hletter
        cases h with
        | ending => exact .none _
        | swallowed => exact .none _
        | @cons e r s h =>
          by_cases hangle : e = '<'
          · subst hangle
            exact (carries_readName h).map fun name => Token.opening [] true (some name)
          simp only [List.cons.injEq, hangle, Char.reduceEq, false_and, and_false, imp_self,
            implies_true]
          exact carries_readChanges (.cons 'P' (.cons e h))
      simp only [List.cons.injEq, hequals, hbang, hangle, hletter, false_and, imp_self,
        implies_true]
      exact carries_readChanges (.cons d h)

/-! ## Repetitions -/

theorem carries_readDecimal (h : Grows cs ds) (extended : Bool) :
    Carries (readDecimal extended cs) (readDecimal extended ds) := by
  obtain ⟨hsame, hgrows⟩ := grows_gather (grows_dropBlanks h) extended Char.isDigit
    (Or.inl (by decide))
  unfold readDecimal
  dsimp only
  rw [hsame]
  split_ifs
  · exact .none _
  · exact .some _ (grows_dropBlanks hgrows)

theorem carries_repetitionOf (h : Grows cs ds) (min : Nat) (max : Option Nat) :
    Carries (some (repetitionOf min max cs)) (some (repetitionOf min max ds)) := by
  cases h with
  | ending => exact .some _ .ending
  | swallowed => exact .some _ .swallowed
  | @cons c r s h =>
    by_cases hc : c = '?'
    · subst hc
      exact .some _ h
    · unfold repetitionOf
      simp only [List.cons.injEq, hc, false_and, imp_self, implies_true]
      exact .some _ (.cons c h)

theorem carries_readBounds (h : Grows cs ds) (extended : Bool) :
    Carries (readBounds extended cs) (readBounds extended ds) := by
  refine (carries_readDecimal (grows_skip h extended) extended).bind fun min r s h => ?_
  dsimp only
  cases h with
  | ending => exact .none _
  | swallowed => exact .none _
  | @cons c r s h =>
    by_cases hbrace : c = '\x7d'
    · subst hbrace
      exact carries_repetitionOf (grows_skip h extended) min (some min)
    by_cases hcomma : c = ','
    case neg =>
      simp only [List.cons.injEq, hbrace, hcomma, false_and, imp_self, implies_true]
      exact .none _
    subst hcomma
    have hskip := grows_skip h extended
    simp only []
    generalize skip extended r = cs at hskip
    generalize skip extended s = ds at hskip
    cases hskip with
    | ending => exact .none _
    | swallowed => exact .none _
    | @cons c r s h =>
      by_cases hbrace : c = '\x7d'
      · subst hbrace
        exact carries_repetitionOf (grows_skip h extended) min none
      · simp only [List.cons.injEq, hbrace, false_and, imp_self, implies_true]
        refine (carries_readDecimal (.cons c h) extended).bind fun max r s h => ?_
        dsimp only
        cases h with
        | ending => exact .none _
        | swallowed => exact .none _
        | @cons c r s h =>
          by_cases hbrace : c = '\x7d'
          · subst hbrace
            simp only []
            split_ifs
            · exact carries_repetitionOf (grows_skip h extended) min (some max)
            · exact .none _
          · simp only [List.cons.injEq, hbrace, false_and, imp_self, implies_true]
            exact .none _

/-! ## Cutting -/

/-- **The first token of a pattern is the same with the ending behind it.** -/
theorem carries_next? (h : Grows cs ds) (extended : Bool) :
    Carries (next? extended cs) (next? extended ds) := by
  cases h with
  | ending => exact .none _
  | swallowed => exact .none _
  | @cons c r s h =>
    unfold next?
    dsimp only
    split
    · exact carries_readOpening h extended
    · exact .some _ h
    · exact .some _ h
    · exact (carries_readSet h extended).map Token.atom
    · exact carries_repetitionOf h 0 (some 1)
    · exact carries_repetitionOf h 0 none
    · exact carries_repetitionOf h 1 none
    · exact carries_readBounds h extended
    · exact (carries_readEscape h extended).map Token.atom
    · exact .some _ h
    · exact .some _ h
    · exact .some _ h
    · exact .some _ h

/-! ## Groups that stay open -/

/-- Some groups are open, and the tokens close none of them. -/
def staysOpen (ts : List Token) (depth : Nat) : Bool :=
  match ts with
  | [] => true
  | .opening .. :: ts => staysOpen ts (depth + 1)
  | .closing :: ts => 0 < depth && staysOpen ts (depth - 1)
  | _ :: ts => staysOpen ts depth

/-- The tokens that the ending is cut into. -/
def endingTokens : List Token := [.closing, .atom (.assertion .lineEnd)]

variable {extended : Bool} {outer : List Bool}

/-- A token that closes no group but those opened behind a place is tracked without regard to the
groups that are open there. -/
theorem track_append (extended : Bool) {t : Token} {ts : List Token}
    (h : staysOpen (t :: ts) outer.length = true) (e : Bool) :
    track extended (outer ++ [e]) t =
        ((track extended outer t).1, (track extended outer t).2 ++ [e]) ∧
      staysOpen ts (track extended outer t).2.length = true := by
  cases t with
  | closing =>
    cases outer with
    | nil => cases h
    | cons e' outer => exact ⟨rfl, h⟩
  | _ => exact ⟨rfl, h⟩

theorem scanFrom?_of_nil (hskip : skip extended cs = []) (n : Nat) :
    scanFrom? n extended outer cs = some [] := by
  unfold scanFrom?
  rw [hskip]

theorem scanFrom?_zero_of_cons {c : Char} {r : List Char} (hskip : skip extended cs = c :: r) :
    scanFrom? 0 extended outer cs = none := by
  unfold scanFrom?
  rw [hskip]

/-- The first token, and the tokens behind it. -/
theorem scanFrom?_succ_of_cons {c : Char} {r : List Char} (hskip : skip extended cs = c :: r)
    (n : Nat) : scanFrom? (n + 1) extended outer cs = (next? extended (c :: r)).bind fun (t, r) =>
      (scanFrom? n (track extended outer t).1 (track extended outer t).2 r).bind fun ts =>
        some (t :: ts) := by
  rw [scanFrom?, hskip]
  rfl

/-- Where a group is open, the ending closes it and asks for the end of the text. -/
theorem scanFrom?_ending (hskip : skip extended cs = ending) (houter : outer ≠ []) (n : Nat) :
    scanFrom? (n + 2) extended outer cs = some endingTokens := by
  obtain ⟨e, outer, rfl⟩ := List.exists_cons_of_ne_nil houter
  have hdollar : skip e ['$'] = ['$'] := by cases e <;> rfl
  have hnil (e : Bool) : skip e [] = [] := by cases e <;> rfl
  have hlast : scanFrom? (n + 1) e outer ['$'] = some [.atom (.assertion .lineEnd)] := by
    rw [scanFrom?_succ_of_cons hdollar]
    show (scanFrom? n e outer []).bind _ = _
    rw [scanFrom?_of_nil (hnil e)]
    rfl
  rw [scanFrom?_succ_of_cons hskip]
  show (scanFrom? (n + 1) e outer ['$']).bind _ = _
  rw [hlast]
  rfl

/-- Behind the last token of a pattern stands the ending, or a comment has swallowed it. -/
theorem scanFrom?_of_grows_of_nil (h : Grows cs ds) (hcs : skip extended cs = []) (e : Bool) :
    ∃ tail, (tail = [] ∨ tail = endingTokens) ∧ ∀ m, 2 ≤ m →
      scanFrom? m extended (outer ++ [e]) ds = some tail := by
  have hskip := grows_skip h extended
  rw [hcs] at hskip
  cases hds : skip extended ds with
  | nil => exact ⟨[], Or.inl rfl, fun m _ => scanFrom?_of_nil hds m⟩
  | cons c r =>
    rw [hds] at hskip
    cases hskip
    refine ⟨endingTokens, Or.inr rfl, fun m hm => ?_⟩
    obtain ⟨m, rfl⟩ := Nat.exists_eq_add_of_le' hm
    exact scanFrom?_ending hds (by simp) m

/-- **The tokens of a pattern with the ending behind it**, where they close no group that is open
before: those of the pattern, and behind them those of the ending, or none if a comment has
swallowed it.  The induction is on the number of tokens that may be cut off, for all groups that are
open. -/
theorem scanFrom?_of_grows (h : Grows cs ds) {n : Nat} {ts : List Token}
    (hscan : scanFrom? n extended outer cs = some ts) (hopen : staysOpen ts outer.length = true)
    (e : Bool) : ∃ tail, (tail = [] ∨ tail = endingTokens) ∧ ∀ m, n + 2 ≤ m →
      scanFrom? m extended (outer ++ [e]) ds = some (ts ++ tail) := by
  induction n generalizing cs ds extended outer ts with
  | zero =>
    cases hcs : skip extended cs with
    | nil =>
      rw [scanFrom?_of_nil hcs] at hscan
      obtain rfl := Option.some.inj hscan
      exact scanFrom?_of_grows_of_nil h hcs e
    | cons c r =>
      rw [scanFrom?_zero_of_cons hcs] at hscan
      cases hscan
  | succ n ih =>
    cases hcs : skip extended cs with
    | nil =>
      rw [scanFrom?_of_nil hcs] at hscan
      obtain rfl := Option.some.inj hscan
      obtain ⟨tail, htail, hds⟩ := scanFrom?_of_grows_of_nil h hcs e
      exact ⟨tail, htail, fun m hm => hds m (by omega)⟩
    | cons c r =>
      have hskip := grows_skip h extended
      rw [hcs] at hskip
      obtain ⟨s, hds⟩ : ∃ s, skip extended ds = c :: s := by
        generalize skip extended ds = ds at hskip ⊢
        cases hskip
        exact ⟨_, rfl⟩
      rw [hds] at hskip
      have hnext := carries_next? hskip extended
      rw [scanFrom?_succ_of_cons hcs] at hscan
      generalize next? extended (c :: r) = x at hnext hscan
      generalize hy : next? extended (c :: s) = y at hnext
      cases hnext with
      | none => cases hscan
      | some t hrest =>
        rw [Option.bind_some] at hscan
        obtain ⟨ts', hts, heq⟩ := Option.bind_eq_some_iff.1 hscan
        obtain rfl := Option.some.inj heq
        obtain ⟨htrack, hopen⟩ := track_append extended hopen e
        obtain ⟨tail, htail, hds'⟩ := ih hrest hts hopen
        refine ⟨tail, htail, fun m hm => ?_⟩
        obtain ⟨m, rfl⟩ : ∃ k, m = k + 1 := ⟨m - 1, by omega⟩
        rw [scanFrom?_succ_of_cons hds, hy]
        show (scanFrom? m (track extended (outer ++ [e]) t).1 _ _).bind _ = _
        rw [htrack, hds' m (by omega)]
        rfl

end CaptureTheFlag.Regex.Token
