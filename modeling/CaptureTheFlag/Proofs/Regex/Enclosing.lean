import CaptureTheFlag.Proofs.Regex.Cutting
import CaptureTheFlag.Regex.Compile
import CaptureTheFlag.Regex.Simplification

/-!
# Patterns in a group between the ends of a text

The text of a pattern is put into a group between the ends of a text before it is read.  What is
read then is this pattern in such a group if the text closes no group around it; and such a pattern
matches whole texts only.

* `Token.scan?_whole`: the tokens.
* `Pattern.ofTokens?_enclosed`: the pattern that they make.
* `Pattern.term?_enclosed`, `Term.matches_enclosed`: what it means, and what it matches.
* `KeepsGroup`: a text closes no group around it.
* `compileWhole?_eq_some`: when the text is a pattern by itself, and what a search finds then.

## What a text can do to the group

Nothing is asked of the text alone, so it may close the group and open another one.  If it does not,
the parenthesis of the ending must close the group, since nothing else does; so the ending has not
been taken for anything else, and what stands in the group is a pattern by itself.
-/

namespace CaptureTheFlag.Regex

open CaptureTheFlag.Regex.Expr (Matches)

/-! ## Tokens -/

namespace Token

/-- The tokens of a pattern between the ends of the text. -/
theorem scan?_whole {pattern : String} {ts : List Token} (hscan : scan? pattern = some ts)
    (hopen : staysOpen ts 0 = true) : ∃ tail, (tail = [] ∨ tail = endingTokens) ∧
      scan? (whole pattern) =
        some (.atom (.assertion .lineStart) :: .opening [] false none :: (ts ++ tail)) := by
  obtain ⟨tail, htail, hrest⟩ :=
    scanFrom?_of_grows (Grows.append_ending pattern.toList) hscan hopen false
  refine ⟨tail, htail, ?_⟩
  have hchars : (whole pattern).toList =
      '^' :: '(' :: '?' :: ':' :: (pattern.toList ++ ending) := by
    unfold whole
    simp [ending]
  have hlength : ('^' :: '(' :: '?' :: ':' :: (pattern.toList ++ ending)).length =
      (pattern.toList.length + 4) + 1 + 1 := by
    simp [ending]
  unfold scan?
  dsimp only
  rw [hchars, hlength]
  show ((scanFrom? (pattern.toList.length + 4) false [false] (pattern.toList ++ ending)).bind
    fun ts => some (Token.opening [] false none :: ts)).bind _ = _
  have htokens := hrest (pattern.toList.length + 4) (by omega)
  rw [List.nil_append] at htokens
  rw [htokens]
  rfl

end Token

/-! ## Patterns -/

namespace Pattern

/-- A pattern in a group between the ends of the text. -/
def enclosed (p : Pattern) : Pattern :=
  .cat (.cat (.atom (.assertion .lineStart)) (.group [] false p)) (.atom (.assertion .lineEnd))

namespace Builder

variable {b b' : Builder} {t : Token} {ts : List Token}

/-- The same within one more group. -/
def within (b : Builder) (frame : Level × FlagChanges × Bool) : Builder :=
  { b with outer := b.outer ++ [frame] }

/-- A token that a pattern goes on with closes no group but the pattern's own. -/
theorem staysOpen_of_step? (h : b.step? t = some b') :
    Token.staysOpen (t :: ts) b.outer.length = Token.staysOpen ts b'.outer.length := by
  unfold step? at h
  cases t with
  | closing =>
    cases houter : b.outer with
    | nil =>
      rw [houter] at h
      cases h
    | cons frame outer =>
      rw [houter] at h
      obtain rfl := Option.some.inj h
      rfl
  | repetition min max greedy =>
    obtain ⟨level, -, rfl⟩ := Option.map_eq_some_iff.1 h
    rfl
  | _ =>
    obtain rfl := Option.some.inj h
    rfl

theorem staysOpen_of_foldlM (h : ts.foldlM step? b = some b') :
    Token.staysOpen ts b.outer.length = true := by
  induction ts generalizing b with
  | nil => rfl
  | cons t ts ih =>
    rw [List.foldlM_cons] at h
    obtain ⟨b₁, hstep, hrest⟩ := Option.bind_eq_some_iff.1 h
    rw [staysOpen_of_step? hstep]
    exact ih hrest

theorem step?_within (h : Token.staysOpen (t :: ts) b.outer.length = true)
    (frame : Level × FlagChanges × Bool) :
    (b.within frame).step? t = (b.step? t).map (·.within frame) := by
  unfold step? within
  cases t with
  | closing =>
    cases houter : b.outer with
    | nil =>
      rw [houter] at h
      cases h
    | cons inner outer => rfl
  | repetition min max greedy =>
    dsimp only
    rw [Option.map_map]
    rfl
  | _ => rfl

theorem foldlM_within (h : Token.staysOpen ts b.outer.length = true)
    (frame : Level × FlagChanges × Bool) :
    ts.foldlM step? (b.within frame) = (ts.foldlM step? b).map (·.within frame) := by
  induction ts generalizing b with
  | nil => rfl
  | cons t ts ih =>
    rw [List.foldlM_cons, List.foldlM_cons, step?_within h]
    cases hstep : b.step? t with
    | none => rfl
    | some b' =>
      rw [staysOpen_of_step? hstep] at h
      exact ih h

/-- The groups of a pattern that is read on are those that are open. -/
theorem finish?_eq_some_iff {p : Pattern} :
    b.finish? = some p ↔ b.outer = [] ∧ b.level.close = p := by
  unfold finish?
  cases b.outer with
  | nil => simp
  | cons frame outer => simp

end Builder

/-- The tokens of a pattern that is right leave all groups around it open. -/
theorem staysOpen_of_ofTokens? {ts : List Token} {p : Pattern} (h : ofTokens? ts = some p) :
    Token.staysOpen ts 0 = true := by
  obtain ⟨b, hfold, -⟩ := Option.bind_eq_some_iff.1 h
  exact Builder.staysOpen_of_foldlM hfold

/-- **A pattern in a group.**  If the tokens that are put around the group's opening and behind it
make a pattern, the ending has not been swallowed, and what stands in the group is a pattern by
itself. -/
theorem ofTokens?_enclosed {ts tail : List Token} {w : Pattern}
    (hopen : Token.staysOpen ts 0 = true) (htail : tail = [] ∨ tail = Token.endingTokens)
    (h : ofTokens? (.atom (.assertion .lineStart) :: .opening [] false none :: (ts ++ tail)) =
      some w) : ∃ p, ofTokens? ts = some p ∧ w = p.enclosed := by
  obtain ⟨b, hfold, hfinish⟩ := Option.bind_eq_some_iff.1 h
  obtain ⟨houter, hclose⟩ := Builder.finish?_eq_some_iff.1 hfinish
  have hgroup : (ts ++ tail).foldlM Builder.step?
      (Builder.start.within (⟨[], [.atom (.assertion .lineStart)]⟩, [], false)) = some b := hfold
  rw [List.foldlM_append, Builder.foldlM_within hopen] at hgroup
  cases hinner : ts.foldlM Builder.step? Builder.start with
  | none =>
    rw [hinner] at hgroup
    cases hgroup
  | some inner =>
    rw [hinner] at hgroup
    obtain ⟨level, outer⟩ := inner
    rcases htail with rfl | rfl
    · -- the group is still open
      obtain rfl := Option.some.inj hgroup
      exact absurd houter (by simp [Builder.within])
    · cases outer with
      | nil =>
        obtain rfl := Option.some.inj hgroup
        refine ⟨level.close, ?_, hclose.symm⟩
        unfold ofTokens?
        rw [hinner]
        rfl
      | cons frame outer =>
        -- the ending has closed another group
        obtain rfl := Option.some.inj hgroup
        exact absurd houter (by simp)

/-- A pattern is nested no deeper than it is in a group. -/
theorem depth_le_depth_enclosed (p : Pattern) :
    p.depth false false ≤ p.enclosed.depth false false := by
  show _ ≤ 1 + max (0 + max 0 (1 + p.depth false false)) 0
  omega

end Pattern

/-! ## Meanings -/

namespace Term

/-- A sequence that starts with an assertion is no choice. -/
theorem branches_look_before (l : Look) (t : Term) :
    ((Term.look l).before t).branches = [(Term.look l).before t] := by
  cases t <;> rfl

/-- A term between the ends of the text. -/
def enclosed (t : Term) : Term := sequence [.look .textStart, t, .look .textEnd]

theorem choice_enclosed (t : Term) : choice [t.enclosed] = t.enclosed := by
  have hbranches : [t.enclosed].flatMap branches = [t.enclosed] := by
    rw [List.flatMap_singleton]
    exact branches_look_before _ _
  unfold choice
  rw [hbranches]

variable {text : List Char}

theorem matches_textStart {i j : Nat} :
    Matches text (.look .textStart) i j ↔ i = 0 ∧ j = 0 := by
  constructor
  · intro h
    cases h with
    | look hle hlook =>
      cases i with
      | zero => exact ⟨rfl, rfl⟩
      | succ i =>
        have hnone : (text[i]?).isNone = true := hlook
        rw [List.getElem?_eq_getElem hle] at hnone
        cases hnone
  · rintro ⟨rfl, rfl⟩
    exact .look (Nat.zero_le _) rfl

theorem matches_textEnd {i j : Nat} :
    Matches text (.look .textEnd) i j ↔ i = text.length ∧ j = text.length := by
  constructor
  · intro h
    cases h with
    | look hle hlook =>
      have hnone : (text[i]?).isNone = true := hlook
      rw [Option.isNone_iff_eq_none, List.getElem?_eq_none_iff] at hnone
      exact ⟨Nat.le_antisymm hle hnone, Nat.le_antisymm hle hnone⟩
  · rintro ⟨rfl, rfl⟩
    refine .look (Nat.le_refl _) ?_
    show (text[text.length]?).isNone = true
    rw [List.getElem?_eq_none (Nat.le_refl _)]
    rfl

/-- **A term between the ends of the text matches the whole text or nothing.** -/
theorem matches_enclosed (t : Term) {i j : Nat} : Matches text t.enclosed.expr i j ↔
    i = 0 ∧ j = text.length ∧ Matches text t.expr 0 text.length := by
  unfold enclosed
  rw [matches_sequence]
  simp only [matches_sequence, expr, matches_textStart, matches_textEnd]
  constructor
  · rintro ⟨-, ⟨rfl, rfl⟩, -, ht, -, ⟨rfl, rfl⟩, hempty⟩
    obtain ⟨rfl, -⟩ := matches_empty.1 hempty
    exact ⟨rfl, rfl, ht⟩
  · rintro ⟨rfl, rfl, ht⟩
    exact ⟨0, ⟨rfl, rfl⟩, text.length, ht, text.length, ⟨rfl, rfl⟩, .empty (Nat.le_refl _)⟩

end Term

theorem Pattern.meaning?_cat (p q : Pattern) (m : Mode) :
    (p.cat q).meaning? m = (p.meaning? m).bind fun x =>
      (q.meaning? x.2).bind fun y => some ([y.1.parts ++ x.1.parts], y.2) := rfl

/-- What a pattern means between the ends of the text. -/
theorem Pattern.term?_enclosed (p : Pattern) : p.enclosed.term? = p.term?.map Term.enclosed := by
  have hgroup : (Pattern.group [] false p).meaning? {} =
      (p.meaning? {}).bind fun x => some ([[x.1.term]], {}) := rfl
  have hstart : (Pattern.atom (.assertion .lineStart)).meaning? {} =
      some ([[.look .textStart]], {}) := rfl
  have hend : (Pattern.atom (.assertion .lineEnd)).meaning? {} =
      some ([[.look .textEnd]], {}) := rfl
  unfold term? enclosed
  rw [meaning?_cat, meaning?_cat, hstart, Option.bind_some, hgroup]
  cases p.meaning? {} with
  | none => rfl
  | some x =>
    simp only [Option.bind_some, hend, Option.map_some]
    exact congrArg some (Term.choice_enclosed x.1.term)

/-! ## Texts of patterns -/

/-- The term of a text that is a pattern by itself.  An expression may be too large by itself and
fit between the ends of the text, so nothing is said about its size. -/
def term? (pattern : String) : Option Term := (Pattern.parse? pattern).bind Pattern.term?

/-- The text can be cut into tokens, and these close no group that is open before it. -/
def KeepsGroup (pattern : String) : Prop :=
  ∃ ts, Token.scan? pattern = some ts ∧ Token.staysOpen ts 0 = true

instance (pattern : String) : Decidable (KeepsGroup pattern) :=
  decidable_of_iff ((Token.scan? pattern).any fun ts => Token.staysOpen ts 0)
    (Option.any_eq_true _ _)

example : KeepsGroup "(a)|b" ∧ ¬KeepsGroup "a)|(?:b" := by decide +kernel

variable {pattern : String}

theorem Pattern.parse?_eq_some_iff {p : Pattern} : Pattern.parse? pattern = some p ↔
    ∃ ts, Token.scan? pattern = some ts ∧ distinct (ts.filterMap groupName?) = true ∧
      ofTokens? ts = some p ∧ p.depth false false ≤ depthLimit := by
  have hlimit (p? : Option Pattern) :
      (p?.bind fun p => if p.depth false false ≤ depthLimit then some p else none) = some p ↔
        p? = some p ∧ p.depth false false ≤ depthLimit := by
    rw [Option.bind_eq_some_iff]
    constructor
    · rintro ⟨q, hq, h⟩
      obtain ⟨hdepth, hsame⟩ := Option.ite_none_right_eq_some.1 h
      obtain rfl := Option.some.inj hsame
      exact ⟨hq, hdepth⟩
    · rintro ⟨hp, hdepth⟩
      exact ⟨p, hp, if_pos hdepth⟩
  unfold parse?
  simp only [Option.bind_eq_bind, Option.bind_eq_some_iff (x := Token.scan? pattern)]
  refine exists_congr fun ts => and_congr_right fun _ => ?_
  cases distinct (ts.filterMap groupName?) with
  | false => simp
  | true => simpa using hlimit (ofTokens? ts)

/-- A text that is a pattern by itself closes no group around it. -/
theorem keepsGroup_of_term? {t : Term} (h : term? pattern = some t) : KeepsGroup pattern := by
  obtain ⟨p, hparse, -⟩ := Option.bind_eq_some_iff.1 h
  obtain ⟨ts, hscan, -, hp, -⟩ := Pattern.parse?_eq_some_iff.1 hparse
  exact ⟨ts, hscan, Pattern.staysOpen_of_ofTokens? hp⟩

/-- **A text that closes no group around it is a pattern by itself if it is one in a group between
the ends of the text**, and it means the same there. -/
theorem exists_term?_of_keepsGroup (h : KeepsGroup pattern) {w : Pattern} {u : Term}
    (hparse : Pattern.parse? (whole pattern) = some w) (hterm : w.term? = some u) :
    ∃ t, term? pattern = some t ∧ u = t.enclosed := by
  obtain ⟨ts, hscan, hopen⟩ := h
  obtain ⟨tail, htail, hwhole⟩ := Token.scan?_whole hscan hopen
  obtain ⟨ts', hscan', hdistinct, hw, hdepth⟩ := Pattern.parse?_eq_some_iff.1 hparse
  obtain rfl := Option.some.inj (hwhole.symm.trans hscan')
  obtain ⟨p, hp, rfl⟩ := Pattern.ofTokens?_enclosed hopen htail hw
  rw [Pattern.term?_enclosed] at hterm
  obtain ⟨t, ht, rfl⟩ := Option.map_eq_some_iff.1 hterm
  have hnames : (ts ++ tail).filterMap Pattern.groupName? = ts.filterMap Pattern.groupName? := by
    rcases htail with rfl | rfl
    · rw [List.append_nil]
    · rw [List.filterMap_append]
      exact List.append_nil _
  have hself : Pattern.parse? pattern = some p :=
    Pattern.parse?_eq_some_iff.2 ⟨ts, hscan, hnames ▸ hdistinct, hp,
      Nat.le_trans (Pattern.depth_le_depth_enclosed p) hdepth⟩
  refine ⟨t, ?_, rfl⟩
  unfold term?
  rw [hself]
  exact ht

/-- **The expression of a text between the ends of a text**, if there is one.  The text is a pattern
by itself exactly if it closes no group around it; and then a search finds a match exactly in the
texts that the pattern matches from their beginning to their end. -/
theorem compileWhole?_eq_some {e : Expr} (h : compileWhole? pattern = some e) :
    ((∃ t, term? pattern = some t) ↔ KeepsGroup pattern) ∧
      ∀ t, term? pattern = some t → ∀ key : String,
        (e.isMatch key = true ↔ Matches key.toList t.expr 0 key.toList.length) := by
  obtain ⟨w, hparse, h⟩ := Option.bind_eq_some_iff.1 h
  obtain ⟨u, hterm, h⟩ := Option.bind_eq_some_iff.1 h
  obtain ⟨-, he⟩ := Option.ite_none_right_eq_some.1 h
  obtain rfl := Option.some.inj he
  refine ⟨⟨fun ⟨t, ht⟩ => keepsGroup_of_term? ht, fun hkeeps => ?_⟩, fun t ht key => ?_⟩
  · obtain ⟨t, ht, -⟩ := exists_term?_of_keepsGroup hkeeps hparse hterm
    exact ⟨t, ht⟩
  · obtain ⟨t', ht', rfl⟩ := exists_term?_of_keepsGroup (keepsGroup_of_term? ht) hparse hterm
    obtain rfl := Option.some.inj (ht.symm.trans ht')
    rw [Expr.isMatch_iff]
    simp only [Term.matches_enclosed]
    constructor
    · rintro ⟨-, -, -, -, hmatches⟩
      exact hmatches
    · exact fun hmatches => ⟨0, _, rfl, rfl, hmatches⟩

end CaptureTheFlag.Regex
