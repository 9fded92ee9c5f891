import CaptureTheFlag.Regex.Bracket
import Mathlib.Tactic.SplitIfs

/-!
# Readers do not look behind what they read

A pattern is read from left to right, each part of it by a reader of its own.  When the pattern is
put into a group between the ends of a text, a closing parenthesis and a dollar sign come behind it.
A reader that succeeds on what is left of the pattern gives the same with these two characters
behind it, and leaves the same.

* `Grows`: what is left of a pattern, and what is left of it with the ending behind it.
* `Carries`, `Agrees`: a reader that succeeds without the ending succeeds with it, or fails on both.
* `grows_skip`, `grows_gather`: blanks and comments, and characters of a kind.
* `carries_readEscape`, `carries_readSet`: what stands behind a backslash, and sets in brackets.

## Comments and failures

Where blanks do not count, a comment may go on to the end of the pattern, and then it swallows the
ending.  So there may be nothing left of either text, which is a case of its own, `Grows.swallowed`.
A reader that fails may succeed with the ending behind it: a backslash at the end of a pattern takes
the parenthesis for itself.  So nothing is claimed of failures, except for the two readers whose
failure decides how a set is read on.
-/

namespace CaptureTheFlag.Regex

/-! ## Texts with the ending behind them -/

/-- What comes behind a pattern that is put into a group between the ends of the text. -/
def ending : List Char := [')', '$']

/-- What is left of a pattern, and what is left of it with the ending behind it.  A comment at the
end of the pattern swallows the ending. -/
inductive Grows : List Char → List Char → Prop where
  | ending : Grows [] ending
  | swallowed : Grows [] []
  | cons (c : Char) {cs ds : List Char} (h : Grows cs ds) : Grows (c :: cs) (c :: ds)

/-- If a reader succeeds without the ending, it reads the same with it, and leaves the same. -/
inductive Carries {α : Type} : Option (α × List Char) → Option (α × List Char) → Prop where
  | none (y : Option (α × List Char)) : Carries none y
  | some (a : α) {r s : List Char} (h : Grows r s) : Carries (some (a, r)) (some (a, s))

/-- A reader reads the same with the ending and without it, and leaves the same; or it fails on
both. -/
inductive Agrees {α : Type} : Option (α × List Char) → Option (α × List Char) → Prop where
  | none : Agrees none none
  | some (a : α) {r s : List Char} (h : Grows r s) : Agrees (some (a, r)) (some (a, s))

namespace Grows

variable {cs ds : List Char}

theorem append_ending (cs : List Char) : Grows cs (cs ++ Regex.ending) := by
  induction cs with
  | nil => exact .ending
  | cons c cs ih => exact .cons c ih

theorem length_le (h : Grows cs ds) : cs.length ≤ ds.length := by
  induction h with
  | ending => exact Nat.zero_le _
  | swallowed => exact Nat.le_refl _
  | cons c _ ih => exact Nat.succ_le_succ ih

end Grows

namespace Carries

variable {α β : Type} {x y : Option (α × List Char)} {r s : List Char}

theorem map (h : Carries x y) (f : α → β) :
    Carries (x.map fun z => (f z.1, z.2)) (y.map fun z => (f z.1, z.2)) := by
  cases h with
  | none => exact .none _
  | some a h => exact .some _ h

theorem bind (h : Carries x y) {f g : α × List Char → Option (β × List Char)}
    (hfg : ∀ a r s, Grows r s → Carries (f (a, r)) (g (a, s))) :
    Carries (x.bind f) (y.bind g) := by
  cases h with
  | none => exact .none _
  | some a h => exact hfg a _ _ h

/-- What has been read may be refused, and then nothing is claimed. -/
theorem ofOption (x? : Option α) (f : α → β) (h : Grows r s) :
    Carries (x?.map fun a => (f a, r)) (x?.map fun a => (f a, s)) := by
  cases x? with
  | none => exact .none _
  | some a => exact .some _ h

end Carries

/-! ## Blanks and comments -/

variable {cs ds : List Char}

theorem grows_skipBlanks (h : Grows cs ds) (inComment : Bool) :
    Grows (skipBlanks inComment cs) (skipBlanks inComment ds) := by
  induction h generalizing inComment with
  | ending =>
    cases inComment with
    | false => exact .ending
    | true => exact .swallowed
  | swallowed => exact .swallowed
  | cons c h ih =>
    unfold skipBlanks
    split_ifs
    · exact ih _
    · exact ih _
    · exact ih _
    · exact .cons c h

theorem grows_skip (h : Grows cs ds) (extended : Bool) :
    Grows (skip extended cs) (skip extended ds) := by
  cases extended with
  | false => exact h
  | true => exact grows_skipBlanks h false

/-- Where a kind of characters does not have the parenthesis of the ending, or is followed by one of
another kind, the same are gathered. -/
theorem grows_gatherFrom (h : Grows cs ds) (extended : Bool) (kind : Char → Bool)
    (inComment : Bool) (limit : Nat)
    (hkind : kind ')' = false ∨ (gatherFrom extended kind inComment limit cs).2 ≠ []) :
    (gatherFrom extended kind inComment limit ds).1 =
        (gatherFrom extended kind inComment limit cs).1 ∧
      Grows (gatherFrom extended kind inComment limit cs).2
        (gatherFrom extended kind inComment limit ds).2 := by
  induction h generalizing inComment limit with
  | ending =>
    have hparen : kind ')' = false := hkind.resolve_right fun h => h rfl
    cases inComment with
    | true => exact ⟨rfl, .swallowed⟩
    | false =>
      have hblank : Text.isBlank ')' = false := by decide
      have hnone : gatherFrom extended kind false limit ending = ([], ending) := by
        simp [gatherFrom, ending, hparen, hblank]
      rw [hnone]
      exact ⟨rfl, .ending⟩
  | swallowed => exact ⟨rfl, .swallowed⟩
  | cons c h ih =>
    unfold gatherFrom at hkind ⊢
    split_ifs at hkind ⊢ with hcomment hblank hhash hfound
    · exact ih _ _ hkind
    · exact ih _ _ hkind
    · exact ih _ _ hkind
    · obtain ⟨hsame, hgrows⟩ := ih _ _ hkind
      exact ⟨congrArg (List.cons c) hsame, hgrows⟩
    · exact ⟨rfl, .cons c h⟩

/-- No more can be gathered than there is. -/
theorem gatherFrom_of_length_le (extended : Bool) (kind : Char → Bool) (inComment : Bool)
    {limit limit' : Nat} (h : cs.length ≤ limit) (h' : cs.length ≤ limit') :
    gatherFrom extended kind inComment limit cs = gatherFrom extended kind inComment limit' cs := by
  induction cs generalizing inComment limit limit' with
  | nil => rfl
  | cons c cs ih =>
    rw [List.length_cons] at h h'
    have hpos : 0 < limit := by omega
    have hpos' : 0 < limit' := by omega
    have hsame (b : Bool) :
        gatherFrom extended kind b limit cs = gatherFrom extended kind b limit' cs :=
      ih b (by omega) (by omega)
    have hfewer : gatherFrom extended kind false (limit - 1) cs =
        gatherFrom extended kind false (limit' - 1) cs := ih false (by omega) (by omega)
    unfold gatherFrom
    simp only [hpos, hpos', hsame, hfewer]

theorem grows_gather (h : Grows cs ds) (extended : Bool) (kind : Char → Bool)
    (hkind : kind ')' = false ∨ (gather extended kind cs).2 ≠ []) :
    (gather extended kind ds).1 = (gather extended kind cs).1 ∧
      Grows (gather extended kind cs).2 (gather extended kind ds).2 := by
  have hlimit : gather extended kind cs = gatherFrom extended kind false ds.length cs :=
    gatherFrom_of_length_le extended kind false (Nat.le_refl _) h.length_le
  rw [hlimit] at hkind ⊢
  exact grows_gatherFrom h extended kind false _ hkind

/-- What stands in braces is gathered up to the closing one. -/
theorem grows_gather_braced (h : Grows cs ds) (extended : Bool) {kind : Char → Bool}
    {name r : List Char} (hread : gather extended kind cs = (name, '\x7d' :: r)) :
    ∃ s, gather extended kind ds = (name, '\x7d' :: s) ∧ Grows r s := by
  have hmore : (gather extended kind cs).2 ≠ [] := by
    rw [hread]
    exact List.cons_ne_nil _ _
  obtain ⟨hsame, hgrows⟩ := grows_gather h extended kind (Or.inr hmore)
  rw [hread] at hsame hgrows
  generalize gather extended kind ds = found at hsame hgrows ⊢
  obtain ⟨name', rest⟩ := found
  obtain rfl : name' = name := hsame
  cases hgrows with
  | cons _ hgrows => exact ⟨_, rfl, hgrows⟩

/-! ## Characters by number, properties and words -/

theorem carries_readHex (h : Grows cs ds) (extended : Bool) (digits : Nat) :
    Carries (readHex extended digits cs) (readHex extended digits ds) := by
  have hskip := grows_skip h extended
  unfold readHex
  generalize skip extended cs = cs at hskip
  generalize skip extended ds = ds at hskip
  cases hskip with
  | ending => exact .none _
  | swallowed => exact .none _
  | @cons c r s h =>
    by_cases hc : c = '\x7b'
    · subst hc
      simp only []
      split
      · next found t hread =>
        obtain ⟨t', hread', h⟩ := grows_gather_braced h extended hread
        rw [hread']
        exact .ofOption _ _ (grows_skip h extended)
      · exact .none _
    · obtain ⟨hsame, hgrows⟩ := grows_gatherFrom (.cons c h) extended isHexDigit false digits
        (Or.inl (by decide))
      simp only [List.cons.injEq, hc, false_and, imp_self, implies_true, hsame]
      split_ifs
      · exact .ofOption _ _ hgrows
      · exact .ofOption _ _ hgrows
      · exact .none _

theorem carries_readProperty (h : Grows cs ds) (extended negated : Bool) :
    Carries (readProperty extended negated cs) (readProperty extended negated ds) := by
  have hskip := grows_skip h extended
  unfold readProperty
  generalize skip extended cs = cs at hskip
  generalize skip extended ds = ds at hskip
  cases hskip with
  | ending => exact .none _
  | swallowed => exact .none _
  | @cons c r s h =>
    by_cases hc : c = '\x7b'
    · subst hc
      simp only []
      split
      · next found t hread =>
        obtain ⟨t', hread', h⟩ := grows_gather_braced h extended hread
        rw [hread']
        exact .some _ h
      · exact .none _
    · by_cases hc' : c = '\\'
      · subst hc'
        exact .none _
      · simp only []
        exact .some _ (grows_skip h extended)

theorem carries_readWordBoundary (h : Grows cs ds) (extended : Bool) :
    Carries (readWordBoundary extended cs) (readWordBoundary extended ds) := by
  unfold readWordBoundary
  cases h with
  | ending => exact .some _ .ending
  | swallowed => exact .some _ .swallowed
  | @cons c r s h =>
    by_cases hc : c = '\x7b'
    case neg =>
      simp only [List.cons.injEq, hc, false_and, imp_self, implies_true]
      exact .some _ (.cons c h)
    subst hc
    have hskip := grows_skip h extended
    simp only []
    generalize skip extended r = cs at hskip
    generalize skip extended s = ds at hskip
    cases hskip with
    | ending => exact .none _
    | swallowed => exact .none _
    | @cons d r' s' h' =>
      dsimp only
      split
      · split
        · next found t hread =>
          obtain ⟨t', hread', h⟩ := grows_gather_braced (.cons d h') extended hread
          rw [hread']
          exact .ofOption _ _ h
        · exact .none _
      · exact .some _ (.cons _ h)

theorem carries_readEscape (h : Grows cs ds) (extended : Bool) :
    Carries (readEscape extended cs) (readEscape extended ds) := by
  unfold readEscape
  cases h with
  | ending => exact .none _
  | swallowed => exact .none _
  | @cons c r s h =>
    dsimp only
    split
    · exact carries_readHex h extended 2
    · exact carries_readHex h extended 4
    · exact carries_readHex h extended 8
    · exact carries_readProperty h extended false
    · exact carries_readProperty h extended true
    -- most letters stand for themselves or for a class, whatever comes behind them
    all_goals try exact .some _ h
    · exact (carries_readWordBoundary h extended).map _
    · split_ifs
      · exact .some _ h
      · exact .none _

/-! ## Sets in brackets -/

/-- A name that ends before the ending is the same with the ending behind it; if it does not, it
takes the ending in. -/
theorem takeWhile_of_grows (h : Grows cs ds) {p : Char → Bool} (hp : p ')' = true)
    (hp' : p '$' = true) :
    (cs.drop (cs.takeWhile p).length = [] ∧ ds.drop (ds.takeWhile p).length = []) ∨
      ds.takeWhile p = cs.takeWhile p ∧ ∃ c r s, cs.drop (cs.takeWhile p).length = c :: r ∧
        ds.drop (cs.takeWhile p).length = c :: s ∧ Grows r s := by
  induction h with
  | ending =>
    refine Or.inl ⟨rfl, ?_⟩
    simp [ending, hp, hp']
  | swallowed => exact Or.inl ⟨rfl, rfl⟩
  | cons c h ih =>
    by_cases hc : p c = true
    · simpa only [List.takeWhile_cons, hc, if_true, List.length_cons, List.drop_succ_cons,
        List.cons.injEq, true_and] using ih
    · refine Or.inr ?_
      simp only [List.takeWhile_cons, hc, Bool.false_eq_true, if_false, List.length_nil,
        List.drop_zero, true_and]
      exact ⟨c, _, _, rfl, rfl, h⟩

/-- A class by its name, behind the sign, up to a colon and the closing bracket. -/
def readClassName (negated : Bool) (cs : List Char) : Option (ClassSet × List Char) :=
  match cs.drop (cs.takeWhile (· ≠ ':')).length with
  | ':' :: ']' :: r => (asciiClass? (cs.takeWhile (· ≠ ':'))).map fun s => (.ascii s negated, r)
  | _ => none

theorem agrees_readClassName (h : Grows cs ds) (negated : Bool) :
    Agrees (readClassName negated cs) (readClassName negated ds) := by
  unfold readClassName
  rcases takeWhile_of_grows h (p := (· ≠ ':')) (by decide) (by decide) with
    ⟨hcs, hds⟩ | ⟨hname, c, r, s, hcs, hds, h⟩
  · rw [hcs, hds]
    exact .none
  · rw [hname, hcs, hds]
    by_cases hc : c = ':'
    case neg =>
      simp only [List.cons.injEq, hc, false_and, imp_self, implies_true]
      exact .none
    subst hc
    cases h with
    | ending => exact .none
    | swallowed => exact .none
    | @cons d r s h =>
      by_cases hd : d = ']'
      · subst hd
        simp only []
        cases asciiClass? (cs.takeWhile (· ≠ ':')) with
        | none => exact .none
        | some a => exact .some _ h
      · simp only [List.cons.injEq, hd, false_and, and_false, imp_self, implies_true]
        exact .none

/-- A class with a name between colons is read on both texts or on none. -/
theorem agrees_readAsciiClass (h : Grows cs ds) :
    Agrees (readAsciiClass cs) (readAsciiClass ds) := by
  unfold readAsciiClass
  cases h with
  | ending => exact .none
  | swallowed => exact .none
  | @cons c r s h =>
    by_cases hc : c = ':'
    case neg =>
      simp only [List.cons.injEq, hc, false_and, imp_self, implies_true]
      exact .none
    subst hc
    simp only []
    cases h with
    | ending => exact agrees_readClassName .ending false
    | swallowed => exact agrees_readClassName .swallowed false
    | @cons d r s h =>
      by_cases hd : d = '^'
      · subst hd
        exact agrees_readClassName h true
      · simp only [List.cons.injEq, hd, false_and, imp_self, implies_true]
        exact agrees_readClassName (.cons d h) false

theorem carries_readSetItem (h : Grows cs ds) (extended : Bool) :
    Carries (readSetItem extended cs) (readSetItem extended ds) := by
  unfold readSetItem
  cases h with
  | ending => exact .none _
  | swallowed => exact .none _
  | @cons c r s h =>
    by_cases hc : c = '\\'
    · subst hc
      exact carries_readEscape h extended
    · simp only []
      exact .some _ h

/-! ### The next character that counts -/

theorem grows_dropBlanks (h : Grows cs ds) :
    Grows (cs.dropWhile Text.isBlank) (ds.dropWhile Text.isBlank) := by
  induction h with
  | ending => exact .ending
  | swallowed => exact .swallowed
  | cons c h ih =>
    rw [List.dropWhile_cons, List.dropWhile_cons]
    split_ifs
    · exact ih
    · exact .cons c h

theorem head?_of_grows (h : Grows cs ds) {c : Char} (hc : c ≠ ')') :
    ds.head? = some c ↔ cs.head? = some c := by
  cases h with
  | ending => exact iff_of_false (fun h => hc (Option.some.inj h).symm) (fun h => nomatch h)
  | swallowed => exact Iff.rfl
  | cons d h => exact Iff.rfl

/-- A character that is neither a blank nor a hash is next if it stands behind blanks, or behind one
hash with blanks around it. -/
theorem peekBlanks_eq_some_iff {c : Char} (hblank : Text.isBlank c = false) (hhash : c ≠ '#') :
    peekBlanks cs = some c ↔ (cs.dropWhile Text.isBlank).head? = some c ∨
      ∃ r, cs.dropWhile Text.isBlank = '#' :: r ∧ (r.dropWhile Text.isBlank).head? = some c := by
  have hfirst : cs.head? = some c → (cs.dropWhile Text.isBlank).head? = some c := by
    intro h
    cases cs with
    | nil => cases h
    | cons d r =>
      obtain rfl : d = c := Option.some.inj h
      rw [List.dropWhile_cons, hblank]
      rfl
  unfold peekBlanks
  cases hcs : cs.dropWhile Text.isBlank with
  | nil =>
    rw [hcs] at hfirst
    simpa using hfirst
  | cons d r =>
    rw [hcs] at hfirst
    by_cases hd : d = '#'
    case neg => simp [hd]
    subst hd
    have hnot : cs.head? ≠ some c := fun h => hhash (Option.some.inj (hfirst h)).symm
    cases hr : r.dropWhile Text.isBlank with
    | nil => simp [hr, hnot, Ne.symm hhash]
    | cons e t => simp [hr, Ne.symm hhash]

/-- The ending does not make a character next, unless it is the parenthesis. -/
theorem peek_of_grows (h : Grows cs ds) (extended : Bool) {c : Char}
    (hblank : Text.isBlank c = false) (hhash : c ≠ '#') (hparen : c ≠ ')') :
    peek extended ds = some c ↔ peek extended cs = some c := by
  cases extended with
  | false => exact head?_of_grows h hparen
  | true =>
    show peekBlanks ds = some c ↔ peekBlanks cs = some c
    rw [peekBlanks_eq_some_iff hblank hhash, peekBlanks_eq_some_iff hblank hhash]
    have hdrop := grows_dropBlanks h
    refine or_congr (head?_of_grows hdrop hparen) ?_
    generalize cs.dropWhile Text.isBlank = cs at hdrop
    generalize ds.dropWhile Text.isBlank = ds at hdrop
    cases hdrop with
    | ending => exact iff_of_false (fun ⟨_, h, _⟩ => nomatch h) (fun ⟨_, h, _⟩ => nomatch h)
    | swallowed => exact Iff.rfl
    | @cons d r s h =>
      have hhead := head?_of_grows (grows_dropBlanks h) hparen
      simp only [List.cons.injEq, and_assoc, exists_and_left, exists_eq_left']
      exact and_congr_right fun _ => hhead

/-! ### Members -/

theorem carries_readSetRange (h : Grows cs ds) (extended : Bool) :
    Carries (readSetRange extended cs) (readSetRange extended ds) := by
  refine (carries_readSetItem h extended).bind fun a r s h => ?_
  have hskip := grows_skip h extended
  dsimp only
  generalize skip extended r = cs at hskip
  generalize skip extended s = ds at hskip
  cases hskip with
  | ending => exact .none _
  | swallowed => exact .none _
  | @cons c r s h =>
    by_cases hc : c = '-'
    case neg =>
      simp only [List.cons.injEq, hc, false_and, imp_self, implies_true]
      exact .ofOption _ _ (.cons c h)
    subst hc
    have hbracket := peek_of_grows h extended (c := ']') (by decide) (by decide) (by decide)
    have hhyphen := peek_of_grows h extended (c := '-') (by decide) (by decide) (by decide)
    simp only [hbracket, hhyphen]
    split_ifs
    · exact .ofOption _ _ (.cons '-' h)
    · refine (carries_readSetItem (grows_skip h extended) extended).bind fun b r s h => ?_
      exact .ofOption _ _ h

/-- The beginning of a set by its sign, the hyphens behind it, and what follows these. -/
def setOpeningOf (extended negated : Bool) (found : List Char × List Char) :
    Option (Bool × List ClassSet × List Char) :=
  match found.1, found.2 with
  | [], ']' :: r => some (negated, [.range ']' ']'], skip extended r)
  | _, r => some (negated, found.1.map fun c => .range c c, r)

theorem setOpeningOf_of_grows {x y : List Char × List Char} (hsame : y.1 = x.1)
    (hgrows : Grows x.2 y.2) (extended negated : Bool) :
    ∃ first r s, setOpeningOf extended negated x = some (negated, first, r) ∧
      setOpeningOf extended negated y = some (negated, first, s) ∧ Grows r s := by
  obtain ⟨hyphens, r⟩ := x
  obtain ⟨hyphens', s⟩ := y
  obtain rfl : hyphens' = hyphens := hsame
  cases hyphens' with
  | cons c hyphens => exact ⟨_, _, _, rfl, rfl, hgrows⟩
  | nil =>
    dsimp only at hgrows
    cases hgrows with
    | ending => exact ⟨_, _, _, rfl, rfl, .ending⟩
    | swallowed => exact ⟨_, _, _, rfl, rfl, .swallowed⟩
    | @cons c r s h =>
      by_cases hc : c = ']'
      · subst hc
        exact ⟨_, _, _, rfl, rfl, grows_skip h extended⟩
      · unfold setOpeningOf
        simp only [List.cons.injEq, hc, false_and, imp_self, implies_true]
        exact ⟨_, _, _, rfl, rfl, .cons c h⟩

/-- The beginning of a set is read on both texts. -/
theorem readSetOpening_of_grows (h : Grows cs ds) (extended : Bool) :
    ∃ negated first r s, readSetOpening extended cs = some (negated, first, r) ∧
      readSetOpening extended ds = some (negated, first, s) ∧ Grows r s := by
  have hbehind (negated : Bool) {cs ds : List Char} (h : Grows cs ds) :
      ∃ negated' first r s,
        setOpeningOf extended negated (gather extended (· = '-') cs) =
          some (negated', first, r) ∧
        setOpeningOf extended negated (gather extended (· = '-') ds) =
          some (negated', first, s) ∧ Grows r s := by
    obtain ⟨hsame, hgrows⟩ := grows_gather h extended (· = '-') (Or.inl (by decide))
    exact ⟨negated, setOpeningOf_of_grows hsame hgrows extended negated⟩
  have hskip := grows_skip h extended
  unfold readSetOpening
  generalize skip extended cs = cs at hskip
  generalize skip extended ds = ds at hskip
  cases hskip with
  | ending => exact hbehind false .ending
  | swallowed => exact hbehind false .swallowed
  | @cons c r s h =>
    by_cases hc : c = '^'
    · subst hc
      exact hbehind true (grows_skip h extended)
    · simp only [List.cons.injEq, hc, false_and, imp_self, implies_true]
      exact hbehind false (.cons c h)

/-- An operation is read on both texts or on none: the parenthesis stands for none. -/
theorem agrees_readSetOp (h : Grows cs ds) : Agrees (readSetOp cs) (readSetOp ds) := by
  unfold readSetOp
  cases h with
  | ending => exact .none
  | swallowed => exact .none
  | @cons c r s h =>
    cases h with
    | ending =>
      by_cases hc : c = ')'
      · subst hc
        exact .none
      · dsimp only [ending]
        rw [if_neg hc]
        exact .none
    | swallowed => exact .none
    | @cons d r s h =>
      dsimp only
      split_ifs
      · cases setOp? c with
        | none => exact .none
        | some op => exact .some op h
      · exact .none

/-- The members of a set are the same, however many steps are left beyond those that it takes. -/
theorem carries_readMembers (h : Grows cs ds) (extended : Bool) {n m : Nat} (hnm : n ≤ m)
    (frames : List SetFrame) (members : List ClassSet) :
    Carries (readMembers extended n frames members cs)
      (readMembers extended m frames members ds) := by
  induction n generalizing m frames members cs ds with
  | zero => exact .none _
  | succ n ih =>
    obtain ⟨m, rfl⟩ : ∃ k, m = k + 1 := ⟨m - 1, by omega⟩
    have hnm : n ≤ m := by omega
    have hskip := grows_skip h extended
    unfold readMembers
    generalize skip extended cs = cs at hskip
    generalize skip extended ds = ds at hskip
    cases hskip with
    | ending => exact .none _
    | swallowed => exact .none _
    | @cons c r s h =>
      by_cases hopen : c = '['
      · subst hopen
        simp only []
        have hclass := agrees_readAsciiClass h
        generalize readAsciiClass r = x at hclass
        generalize readAsciiClass s = y at hclass
        cases hclass with
        | some a h => exact ih h hnm _ _
        | none =>
          obtain ⟨negated, first, r', s', hr, hs, h⟩ := readSetOpening_of_grows h extended
          rw [hr, hs]
          exact ih h hnm _ _
      by_cases hclose : c = ']'
      · subst hclose
        simp only []
        split
        · exact .some _ h
        · exact ih h hnm _ _
        · exact .none _
      simp only []
      have hop := agrees_readSetOp (.cons c h)
      generalize readSetOp (c :: r) = x at hop
      generalize readSetOp (c :: s) = y at hop
      cases hop with
      | some op h => exact ih h hnm _ _
      | none =>
        exact (carries_readSetRange (.cons c h) extended).bind fun a r s h => ih h hnm _ _

theorem carries_readSet (h : Grows cs ds) (extended : Bool) :
    Carries (readSet extended cs) (readSet extended ds) := by
  obtain ⟨negated, first, r, s, hr, hs, h⟩ := readSetOpening_of_grows h extended
  unfold readSet
  rw [hr, hs]
  exact carries_readMembers h extended (Nat.succ_le_succ h.length_le) _ _

end CaptureTheFlag.Regex
