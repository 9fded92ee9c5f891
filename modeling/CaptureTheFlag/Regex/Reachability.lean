import CaptureTheFlag.Regex.Search

/-!
# Where a search arrives

Following the moves of an expression from a set of places leads to the places at which a match from one
of them can end.  A repetition leads where some number of turns leads; turns that do not advance can be
left out, so no more turns are needed than the text is long.

* `Expr.mem_reach`: where an expression leads.
* `Expr.isMatch_iff`: a search finds a match if there is one.
-/

namespace CaptureTheFlag.Regex

/-! ## Turns -/

/-- One gets from place to place in a number of turns. -/
def Turns (r : Nat → Nat → Prop) : Nat → Nat → Nat → Prop
  | 0, i, j => i = j
  | n + 1, i, j => ∃ k, r i k ∧ Turns r n k j

namespace Turns

variable {r : Nat → Nat → Prop}

/-- One turn more at the end. -/
theorem succ_iff {n i j : Nat} : Turns r (n + 1) i j ↔ ∃ k, Turns r n i k ∧ r k j := by
  induction n generalizing i with
  | zero =>
    constructor
    · rintro ⟨k, h, rfl⟩
      exact ⟨i, rfl, h⟩
    · rintro ⟨k, rfl, h⟩
      exact ⟨j, h, rfl⟩
  | succ n ih =>
    constructor
    · rintro ⟨k, hk, h⟩
      obtain ⟨m, hm, hj⟩ := ih.1 h
      exact ⟨m, ⟨k, hk, hm⟩, hj⟩
    · rintro ⟨m, ⟨k, hk, hm⟩, hj⟩
      exact ⟨k, hk, ih.2 ⟨m, hm, hj⟩⟩

/-- Some turns and then some more. -/
theorem add {m n i k j : Nat} (h : Turns r m i k) (h' : Turns r n k j) : Turns r (m + n) i j := by
  induction m generalizing i with
  | zero =>
    cases h
    rwa [Nat.zero_add]
  | succ m ih =>
    obtain ⟨l, hl, h⟩ := h
    rw [Nat.succ_add]
    exact ⟨l, hl, ih h⟩

/-- The first turns, and the others. -/
theorem split {m n i j : Nat} (h : Turns r (m + n) i j) :
    ∃ k, Turns r m i k ∧ Turns r n k j := by
  induction m generalizing i with
  | zero =>
    rw [Nat.zero_add] at h
    exact ⟨i, rfl, h⟩
  | succ m ih =>
    rw [Nat.succ_add] at h
    obtain ⟨l, hl, h⟩ := h
    obtain ⟨k, hk, h⟩ := ih h
    exact ⟨k, ⟨l, hl, hk⟩, h⟩

/-- Turns that do not go back do not go back together. -/
theorem le (hr : ∀ i j, r i j → i ≤ j) {n i j : Nat} (h : Turns r n i j) : i ≤ j := by
  induction n generalizing i with
  | zero =>
    cases h
    exact Nat.le_refl _
  | succ n ih =>
    obtain ⟨k, hk, h⟩ := h
    exact Nat.le_trans (hr _ _ hk) (ih h)

/-- Turns that do not advance can be left out. -/
theorem exists_le (hr : ∀ i j, r i j → i ≤ j) {n i j : Nat} (h : Turns r n i j) :
    ∃ m, m ≤ j - i ∧ Turns r m i j := by
  induction n generalizing i with
  | zero =>
    cases h
    exact ⟨0, Nat.zero_le _, rfl⟩
  | succ n ih =>
    obtain ⟨k, hk, h⟩ := h
    obtain ⟨m, hm, h'⟩ := ih h
    have hik := hr _ _ hk
    have hkj := h.le hr
    by_cases same : i = k
    · subst same
      exact ⟨m, hm, h'⟩
    · exact ⟨m + 1, by omega, k, hk, h'⟩

end Turns

/-! ## Following turns -/

namespace Moves

/-- A function on places leads where a relation says, as far as the text goes. -/
def Follows (length : Nat) (f : Places → Places) (r : Nat → Nat → Prop) : Prop :=
  ∀ a, (∀ i ∈ a, i ≤ length) → ∀ j, j ∈ f a ↔ ∃ i ∈ a, r i j

variable {length : Nat} {f : Places → Places} {r : Nat → Nat → Prop}

theorem mem_turns (hf : Follows length f r) (hr : ∀ i j, r i j → j ≤ length) (n : Nat)
    (a : Places) (ha : ∀ i ∈ a, i ≤ length) (j : Nat) :
    j ∈ turns f n a ↔ ∃ i ∈ a, Turns r n i j := by
  induction n generalizing a with
  | zero =>
    constructor
    · exact fun hj => ⟨j, hj, rfl⟩
    · rintro ⟨i, hi, rfl⟩
      exact hi
  | succ n ih =>
    have next : ∀ i ∈ f a, i ≤ length := fun i hi => by
      obtain ⟨k, -, hk⟩ := (hf a ha i).1 hi
      exact hr _ _ hk
    have go : j ∈ turns f n (f a) ↔ ∃ i ∈ a, Turns r (n + 1) i j := by
      rw [ih (f a) next]
      constructor
      · rintro ⟨k, hk, h⟩
        obtain ⟨i, hi, hik⟩ := (hf a ha k).1 hk
        exact ⟨i, hi, k, hik, h⟩
      · rintro ⟨i, hi, k, hik, h⟩
        exact ⟨k, (hf a ha k).2 ⟨i, hi, hik⟩, h⟩
    simp only [turns]
    split
    · next fixed =>
      have stays : ∀ m, turns f m a = a := fun m => by
        cases m with
        | zero => rfl
        | succ m => simp only [turns, fixed, if_true]
      rw [← go, fixed, stays]
    · exact go

theorem mem_spread (hf : Follows length f r) (hr : ∀ i j, r i j → j ≤ length) (n : Nat)
    (a : Places) (ha : ∀ i ∈ a, i ≤ length) (j : Nat) :
    j ∈ spread f n a ↔ ∃ m, m ≤ n ∧ ∃ i ∈ a, Turns r m i j := by
  induction n generalizing a with
  | zero =>
    constructor
    · exact fun hj => ⟨0, Nat.le_refl _, j, hj, rfl⟩
    · rintro ⟨m, hm, i, hi, h⟩
      obtain rfl := Nat.le_zero.1 hm
      cases h
      exact hi
  | succ n ih =>
    simp only [spread]
    split
    · next fixed =>
      have closed : ∀ i ∈ a, ∀ k, r i k → k ∈ a := fun i hi k hik => by
        rw [← fixed]
        exact Places.mem_union.2 (.inr ((hf a ha k).2 ⟨i, hi, hik⟩))
      have stays : ∀ m, ∀ i ∈ a, Turns r m i j → j ∈ a := by
        intro m
        induction m with
        | zero =>
          rintro i hi rfl
          exact hi
        | succ m ihm =>
          rintro i hi ⟨k, hik, h⟩
          exact ihm k (closed i hi k hik) h
      constructor
      · exact fun hj => ⟨0, Nat.zero_le _, j, hj, rfl⟩
      · rintro ⟨m, -, i, hi, h⟩
        exact stays m i hi h
    · have grown : ∀ i ∈ a.union (f a), i ≤ length := fun i hi => by
        rcases Places.mem_union.1 hi with hi | hi
        · exact ha i hi
        · obtain ⟨k, -, hk⟩ := (hf a ha i).1 hi
          exact hr _ _ hk
      rw [ih _ grown]
      constructor
      · rintro ⟨m, hm, i, hi, h⟩
        rcases Places.mem_union.1 hi with hi | hi
        · exact ⟨m, by omega, i, hi, h⟩
        · obtain ⟨k, hk, hki⟩ := (hf a ha i).1 hi
          exact ⟨m + 1, by omega, k, hk, i, hki, h⟩
      · rintro ⟨m, hm, i, hi, h⟩
        cases m with
        | zero => exact ⟨0, Nat.zero_le _, i, Places.mem_union.2 (.inl hi), h⟩
        | succ m =>
          obtain ⟨k, hik, h⟩ := h
          exact ⟨m, by omega, k, Places.mem_union.2 (.inr ((hf a ha k).2 ⟨i, hi, hik⟩)), h⟩

theorem saturate_eq (f : Places → Places) (n : Nat) (a : Places) :
    saturate f n a = (spread f n a, f (spread f n a)) := by
  induction n generalizing a with
  | zero => rfl
  | succ n ih =>
    simp only [saturate, spread]
    split
    · rfl
    · exact ih _

/-- As many turns as the text is long lead wherever any number of turns leads. -/
theorem mem_spread_length (hf : Follows length f r) (hle : ∀ i j, r i j → i ≤ j)
    (hr : ∀ i j, r i j → j ≤ length) (a : Places) (ha : ∀ i ∈ a, i ≤ length) (j : Nat) :
    j ∈ spread f length a ↔ ∃ m, ∃ i ∈ a, Turns r m i j := by
  rw [mem_spread hf hr length a ha]
  constructor
  · rintro ⟨m, -, i, hi, h⟩
    exact ⟨m, i, hi, h⟩
  · rintro ⟨m, i, hi, h⟩
    have hj : j ≤ length := by
      cases m with
      | zero =>
        cases h
        exact ha _ hi
      | succ m =>
        obtain ⟨k, -, hk⟩ := Turns.succ_iff.1 h
        exact hr _ _ hk
    obtain ⟨m', hm', h'⟩ := h.exists_le hle
    exact ⟨m', by omega, i, hi, h'⟩

end Moves

/-! ## Matches -/

namespace Expr

variable {text : List Char}

/-- A match goes forward and stays in the text. -/
theorem Matches.le {e : Expr} {i j : Nat} (h : Matches text e i j) : i ≤ j ∧ j ≤ text.length := by
  induction h with
  | empty h => exact ⟨Nat.le_refl _, h⟩
  | set h _ =>
    obtain ⟨h, -⟩ := List.getElem?_eq_some_iff.1 h
    exact ⟨Nat.le_succ _, h⟩
  | look h _ => exact ⟨Nat.le_refl _, h⟩
  | cat _ _ ih₁ ih₂ => exact ⟨Nat.le_trans ih₁.1 ih₂.1, ih₂.2⟩
  | left _ ih => exact ih
  | right _ ih => exact ih
  | stop h => exact ⟨Nat.le_refl _, h⟩
  | again _ _ ih₁ ih₂ => exact ⟨Nat.le_trans ih₁.1 ih₂.1, ih₂.2⟩
  | more _ _ _ ih₁ ih₂ => exact ⟨Nat.le_trans ih₁.1 ih₂.1, ih₂.2⟩

/-- The number of turns is one that a repetition allows. -/
def Allows (min : Nat) (extra : Option Nat) (n : Nat) : Prop :=
  min ≤ n ∧ ∀ m, extra = some m → n ≤ min + m

theorem matches_repeated_of_turns {e : Expr} {n min : Nat} {extra : Option Nat} {i j : Nat}
    (hn : Allows min extra n) (hi : i ≤ text.length) (h : Turns (Matches text e) n i j) :
    Matches text (.repeated e min extra) i j := by
  induction n generalizing min extra i with
  | zero =>
    cases h
    obtain rfl := Nat.le_zero.1 hn.1
    exact .stop hi
  | succ n ih =>
    obtain ⟨k, hk, h⟩ := h
    cases min with
    | succ min =>
      refine .again hk (ih ⟨?_, fun m hm => ?_⟩ hk.le.2 h)
      · have := hn.1
        omega
      · have := hn.2 m hm
        omega
    | zero =>
      refine .more (fun hzero => ?_) hk (ih ⟨Nat.zero_le n, fun m hm => ?_⟩ hk.le.2 h)
      · have := hn.2 0 hzero
        omega
      · obtain ⟨m', hm', rfl⟩ := Option.map_eq_some_iff.1 hm
        have := hn.2 m' hm'
        omega

theorem turns_of_matches_repeated {e : Expr} {min : Nat} {extra : Option Nat} {i j : Nat}
    (h : Matches text (.repeated e min extra) i j) :
    i ≤ text.length ∧ ∃ n, Allows min extra n ∧ Turns (Matches text e) n i j := by
  generalize hx : Expr.repeated e min extra = x at h
  induction h generalizing min extra with
  | stop h =>
    cases hx
    exact ⟨h, 0, ⟨Nat.le_refl _, fun m _ => Nat.zero_le _⟩, rfl⟩
  | again hk _ _ ih =>
    cases hx
    obtain ⟨-, n, hn, ht⟩ := ih rfl
    refine ⟨Nat.le_trans hk.le.1 hk.le.2, n + 1, ⟨?_, fun m hm => ?_⟩, _, hk, ht⟩
    · have := hn.1
      omega
    · have := hn.2 m hm
      omega
  | more hzero hk _ _ ih =>
    cases hx
    obtain ⟨-, n, hn, ht⟩ := ih rfl
    refine ⟨Nat.le_trans hk.le.1 hk.le.2, n + 1, ⟨Nat.zero_le _, fun m hm => ?_⟩, _, hk, ht⟩
    have := hn.2 (m - 1) (by rw [hm]; rfl)
    have : m ≠ 0 := fun h => hzero (h ▸ hm)
    omega
  | _ => cases hx

/-- A repetition matches what some number of turns that it allows matches. -/
theorem matches_repeated_iff {e : Expr} {min : Nat} {extra : Option Nat} {i j : Nat} :
    Matches text (.repeated e min extra) i j ↔
      i ≤ text.length ∧ ∃ n, Allows min extra n ∧ Turns (Matches text e) n i j :=
  ⟨turns_of_matches_repeated, fun ⟨hi, _, hn, h⟩ => matches_repeated_of_turns hn hi h⟩

/-! ## Contexts -/

theorem getElem?_contexts (before : Option Char) (text : List Char) (i : Nat) :
    (contexts before text)[i]? =
      if i ≤ text.length then some (if i = 0 then before else text[i - 1]?, text[i]?) else none := by
  induction text generalizing before i with
  | nil =>
    cases i with
    | zero => rfl
    | succ i => simp [contexts]
  | cons c r ih =>
    cases i with
    | zero => rfl
    | succ i =>
      rw [contexts, List.getElem?_cons_succ, ih]
      cases i <;> simp

theorem before?_eq (text : List Char) (i : Nat) :
    before? text i = if i = 0 then none else text[i - 1]? := by
  cases i <;> simp [before?]

theorem mem_lookPlaces {l : Look} {i : Nat} :
    i ∈ Places.ofList ((contexts none text).map fun (b, a) => l.holds b a) ↔
      i ≤ text.length ∧ l.holds (before? text i) text[i]? = true := by
  rw [Places.mem_ofList, List.getD_eq_getElem?_getD, List.getElem?_map, getElem?_contexts,
    before?_eq]
  split
  · simp [*]
  · simp [*]

theorem mem_setPlaces {s : CharSet} {i : Nat} :
    i ∈ Places.ofList (text.map s.contains) ↔ ∃ c, text[i]? = some c ∧ s.contains c = true := by
  rw [Places.mem_ofList, List.getD_eq_getElem?_getD, List.getElem?_map]
  cases text[i]? <;> simp

/-! ## Reaching -/

theorem mem_reach_repeated {e : Expr} {min : Nat} {extra : Option Nat}
    (he : Moves.Follows text.length (e.reach text) (Matches text e))
    (a : Places) (ha : ∀ i ∈ a, i ≤ text.length) (j : Nat) :
    j ∈ (Expr.repeated e min extra).reach text a ↔
      ∃ n, Allows min extra n ∧ ∃ i ∈ a, Turns (Matches text e) n i j := by
  have forward : ∀ i j, Matches text e i j → i ≤ j := fun _ _ h => h.le.1
  have inside : ∀ i j, Matches text e i j → j ≤ text.length := fun _ _ h => h.le.2
  have turned : ∀ n, ∀ k ∈ Moves.turns (e.reach text) n a, k ≤ text.length := fun n k hk => by
    obtain ⟨i, hi, h⟩ := (Moves.mem_turns he inside n a ha k).1 hk
    cases n with
    | zero =>
      cases h
      exact ha _ hi
    | succ n =>
      obtain ⟨_, -, h⟩ := Turns.succ_iff.1 h
      exact h.le.2
  cases extra with
  | some extra =>
    change j ∈ Moves.spread (e.reach text) extra (Moves.turns (e.reach text) min a) ↔ _
    rw [Moves.mem_spread he inside extra _ (turned min)]
    constructor
    · rintro ⟨m, hm, k, hk, h⟩
      obtain ⟨i, hi, h'⟩ := (Moves.mem_turns he inside min a ha k).1 hk
      refine ⟨min + m, ⟨Nat.le_add_right _ _, fun n hn => ?_⟩, i, hi, h'.add h⟩
      cases hn
      omega
    · rintro ⟨n, hn, i, hi, h⟩
      have hle := hn.1
      have hbound := hn.2 extra rfl
      obtain ⟨m, rfl⟩ : ∃ m, n = min + m := ⟨n - min, by omega⟩
      obtain ⟨k, hk, h⟩ := h.split
      exact ⟨m, by omega, k, (Moves.mem_turns he inside min a ha k).2 ⟨i, hi, hk⟩, h⟩
  | none =>
    cases min with
    | zero =>
      change j ∈ (Moves.saturate (e.reach text) text.length a).1 ↔ _
      rw [Moves.saturate_eq, Moves.mem_spread_length he forward inside a ha]
      constructor
      · rintro ⟨n, h⟩
        exact ⟨n, ⟨Nat.zero_le _, fun m hm => nomatch hm⟩, h⟩
      · rintro ⟨n, -, h⟩
        exact ⟨n, h⟩
    | succ min =>
      change j ∈ (Moves.saturate (e.reach text) text.length
        (Moves.turns (e.reach text) min a)).2 ↔ _
      have reached := Moves.mem_spread_length he forward inside _ (turned min)
      have spread : ∀ k ∈ Moves.spread (e.reach text) text.length
          (Moves.turns (e.reach text) min a), k ≤ text.length := fun k hk => by
        obtain ⟨m, i, hi, h⟩ := (reached k).1 hk
        cases m with
        | zero =>
          cases h
          exact turned min _ hi
        | succ m =>
          obtain ⟨_, -, h⟩ := Turns.succ_iff.1 h
          exact h.le.2
      rw [Moves.saturate_eq, he _ spread]
      constructor
      · rintro ⟨k, hk, h⟩
        obtain ⟨m, l, hl, hlk⟩ := (reached k).1 hk
        obtain ⟨i, hi, hil⟩ := (Moves.mem_turns he inside min a ha l).1 hl
        refine ⟨min + m + 1, ⟨by omega, fun n hn => nomatch hn⟩, i, hi, ?_⟩
        exact Turns.succ_iff.2 ⟨k, hil.add hlk, h⟩
      · rintro ⟨n, hn, i, hi, h⟩
        have hle := hn.1
        obtain ⟨m, rfl⟩ : ∃ m, n = min + m + 1 := ⟨n - min - 1, by omega⟩
        obtain ⟨k, hk, hj⟩ := Turns.succ_iff.1 h
        obtain ⟨l, hl, hlk⟩ := hk.split
        exact ⟨k, (reached k).2 ⟨m, l, (Moves.mem_turns he inside min a ha l).2 ⟨i, hi, hl⟩, hlk⟩, hj⟩

/-- An expression leads to the places at which its matches end. -/
theorem follows_reach (text : List Char) (e : Expr) :
    Moves.Follows text.length (e.reach text) (Matches text e) := by
  induction e with
  | empty =>
    intro a ha j
    constructor
    · exact fun hj => ⟨j, hj, .empty (ha j hj)⟩
    · rintro ⟨i, hi, h⟩
      cases h
      exact hi
  | set s =>
    intro a _ j
    change j ∈ (a.inter (Places.ofList (text.map s.contains))).next ↔ _
    rw [Places.mem_next]
    constructor
    · rintro ⟨i, hi, rfl⟩
      obtain ⟨hi, hs⟩ := Places.mem_inter.1 hi
      obtain ⟨c, hc, hs⟩ := mem_setPlaces.1 hs
      exact ⟨i, hi, .set hc hs⟩
    · rintro ⟨i, hi, h⟩
      cases h with
      | set hc hs => exact ⟨i, Places.mem_inter.2 ⟨hi, mem_setPlaces.2 ⟨_, hc, hs⟩⟩, rfl⟩
  | look l =>
    intro a _ j
    change j ∈ a.inter _ ↔ _
    rw [Places.mem_inter, mem_lookPlaces]
    constructor
    · rintro ⟨hj, hle, hl⟩
      exact ⟨j, hj, .look hle hl⟩
    · rintro ⟨i, hi, h⟩
      cases h with
      | look hle hl => exact ⟨hi, hle, hl⟩
  | cat e₁ e₂ ih₁ ih₂ =>
    intro a ha j
    change j ∈ e₂.reach text (e₁.reach text a) ↔ _
    have inner : ∀ k ∈ e₁.reach text a, k ≤ text.length := fun k hk => by
      obtain ⟨i, -, h⟩ := (ih₁ a ha k).1 hk
      exact h.le.2
    rw [ih₂ _ inner]
    constructor
    · rintro ⟨k, hk, h₂⟩
      obtain ⟨i, hi, h₁⟩ := (ih₁ a ha k).1 hk
      exact ⟨i, hi, .cat h₁ h₂⟩
    · rintro ⟨i, hi, h⟩
      cases h with
      | cat h₁ h₂ => exact ⟨_, (ih₁ a ha _).2 ⟨i, hi, h₁⟩, h₂⟩
  | alt e₁ e₂ ih₁ ih₂ =>
    intro a ha j
    change j ∈ (e₁.reach text a).union (e₂.reach text a) ↔ _
    rw [Places.mem_union, ih₁ a ha, ih₂ a ha]
    constructor
    · rintro (⟨i, hi, h⟩ | ⟨i, hi, h⟩)
      · exact ⟨i, hi, .left h⟩
      · exact ⟨i, hi, .right h⟩
    · rintro ⟨i, hi, h⟩
      cases h with
      | left h => exact .inl ⟨i, hi, h⟩
      | right h => exact .inr ⟨i, hi, h⟩
  | repeated e min extra ih =>
    intro a ha j
    rw [mem_reach_repeated ih a ha]
    constructor
    · rintro ⟨n, hn, i, hi, h⟩
      exact ⟨i, hi, matches_repeated_iff.2 ⟨ha i hi, n, hn, h⟩⟩
    · rintro ⟨i, hi, h⟩
      obtain ⟨-, n, hn, h⟩ := matches_repeated_iff.1 h
      exact ⟨n, hn, i, hi, h⟩

/-- From some places of a text, an expression leads to the ends of its matches. -/
theorem mem_reach (text : List Char) (e : Expr) (a : Places) (ha : ∀ i ∈ a, i ≤ text.length)
    (j : Nat) : j ∈ e.reach text a ↔ ∃ i ∈ a, Matches text e i j :=
  follows_reach text e a ha j

/-- A search finds a match if there is one. -/
theorem isMatch_iff (e : Expr) (text : String) :
    e.isMatch text = true ↔ ∃ i j, Matches text.toList e i j := by
  have inside : ∀ i ∈ Places.all text.toList.length, i ≤ text.toList.length :=
    fun i hi => Places.mem_all.1 hi
  rw [isMatch, Bool.not_eq_true', ← Bool.not_eq_true, Places.isEmpty_iff]
  constructor
  · intro h
    obtain ⟨j, hj⟩ := Classical.not_forall.1 h
    obtain ⟨i, -, hij⟩ := (mem_reach _ e _ inside j).1 (Classical.not_not.1 hj)
    exact ⟨i, j, hij⟩
  · rintro ⟨i, j, h⟩ hempty
    have hi : i ≤ text.toList.length := Nat.le_trans h.le.1 h.le.2
    exact hempty j ((mem_reach _ e _ inside j).2 ⟨i, Places.mem_all.2 hi, h⟩)

end Expr

end CaptureTheFlag.Regex
