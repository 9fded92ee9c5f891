import CaptureTheFlag.Grader.Registry

/-!
# What a registry of definitions holds

A registry is put together from definitions one after another, and an identifier must not come
twice.  So under each identifier lies the grader of the one definition that has it.

* `Registry.get?_ofDefinitions`: what lies under an identifier.
* `Grader.Definition.IsPerUser`: the definition gives every user a flag of their own.
* `Grader.Definition.build_cases`: a grader of another kind judges by the key alone.
* `Registry.grade_of_atOnce`: a grader that answers at once is in time.
* `Registry.grade_eq_grade`, `Registry.grade_none_of_isPerUser`: verdicts with one user, with
  another and with none.
* `Registry.grade_eq_of_trim_eq`: the blanks around a key do not count.

## Graders that do not know the user

Of the graders that can be defined only one asks who has sent in a key.  Without a user it does not
fail, which would say that there is no verdict: it judges the key incorrect, whatever it is.  All
others come to the same verdict for all users and for none.
-/

namespace CaptureTheFlag

open Grader (Definition)

namespace Grader.Definition

variable {d : Definition} {g : Grader}

/-- The definition gives every user a flag of their own. -/
def IsPerUser (d : Definition) : Prop := ∃ secret label, d.kind = .perUser secret label

/-- A grader compares with the user's own flag, or it judges by the key alone and at once. -/
theorem build_cases (h : d.build = .ok g) :
    (∃ secret label, d.kind = .perUser secret label ∧
        g = Grader.perUser d.messages secret (label.getD defaultLabel)) ∨
      ¬d.IsPerUser ∧ ∃ accepts, g = Grader.immediate d.messages accepts := by
  unfold build at h
  unfold IsPerUser
  cases hkind : d.kind with
  | flag flag caseInsensitive =>
    rw [hkind] at h
    exact Or.inr ⟨by simp, _, (Except.ok.inj h).symm⟩
  | sha256 digest =>
    rw [hkind] at h
    dsimp only at h
    split at h
    · exact Or.inr ⟨by simp, _, (Except.ok.inj h).symm⟩
    · cases h
  | regex pattern =>
    rw [hkind] at h
    dsimp only at h
    split at h
    · exact Or.inr ⟨by simp, _, (Except.ok.inj h).symm⟩
    · cases h
  | perUser secret label =>
    rw [hkind] at h
    exact Or.inl ⟨secret, label, rfl, (Except.ok.inj h).symm⟩

/-- A grader that can be defined does not tell keys apart that differ only in the blanks around
them. -/
theorem grades_eq_of_trim_eq (h : d.build = .ok g) {key key' : String}
    (hkey : Text.trim key = Text.trim key') (uid? : Option String) : g uid? key = g uid? key' := by
  rcases d.build_cases h with ⟨secret, label, -, rfl⟩ | ⟨-, accepts, rfl⟩
  · unfold Grader.perUser
    rw [hkey]
  · unfold Grader.immediate
    rw [hkey]

end Grader.Definition

namespace Registry

variable {r r' : Registry} {ds : List Definition}

/-! ## Definitions one after another -/

theorem define_eq_ok_iff {d : Definition} : r.define d = .ok r' ↔
    r.contains d.id = false ∧ ∃ g, d.build = .ok g ∧ r' = r.register d.id g := by
  unfold define
  split
  · next h => simp [h]
  · next h =>
    rw [Failure.bind_eq_ok_iff]
    constructor
    · rintro ⟨g, hg, heq⟩
      exact ⟨by simpa using h, g, hg, (Except.ok.inj heq).symm⟩
    · rintro ⟨-, g, hg, rfl⟩
      exact ⟨g, hg, rfl⟩

/-- What lies under an identifier was there before, or comes from a definition.  The induction is on
the definitions; what the first one puts in stays, since its identifier does not come again. -/
theorem get?_foldlM (h : ds.foldlM define r = .ok r') (id : String) (g : Grader) :
    r'.graders.get? id = some g ↔
      r.graders.get? id = some g ∨ ∃ d ∈ ds, d.id = id ∧ d.build = .ok g := by
  induction ds generalizing r with
  | nil =>
    obtain rfl : r = r' := Except.ok.inj h
    simp
  | cons d rest ih =>
    rw [List.foldlM_cons, Failure.bind_eq_ok_iff] at h
    obtain ⟨r₁, hdefine, hrest⟩ := h
    obtain ⟨hnew, g₁, hbuild, rfl⟩ := define_eq_ok_iff.1 hdefine
    have hfirst : (r.register d.id g₁).graders.get? id = some g ↔
        r.graders.get? id = some g ∨ d.id = id ∧ d.build = .ok g := by
      show (r.graders.insert d.id g₁).get? id = some g ↔ _
      rw [KeyMap.get?_insert, hbuild]
      by_cases hid : id = d.id
      · subst hid
        rw [if_pos rfl, (KeyMap.contains_eq_false_iff _ _).1 hnew]
        simp
      · rw [if_neg hid]
        simp [Ne.symm hid]
    rw [ih hrest, hfirst, or_assoc]
    simp only [List.mem_cons, exists_eq_or_imp]

/-- **What lies under an identifier** is the grader of a definition that has it. -/
theorem get?_ofDefinitions {timeout : Nat} (h : ofDefinitions timeout ds = .ok r) (id : String)
    (g : Grader) : r.graders.get? id = some g ↔ ∃ d ∈ ds, d.id = id ∧ d.build = .ok g := by
  rw [get?_foldlM h]
  show none = some g ∨ _ ↔ _
  simp

/-! ## Verdicts and users -/

variable {timeout : Nat} {id : String}

/-- A grader that answers at once is always in time. -/
theorem grade_of_atOnce {uid? : Option String} {key : String} {g : Grader} {v : Verdict}
    (hget : r.graders.get? id = some g) (hanswer : g uid? key = .atOnce v) :
    r.grade id uid? key = .ok v := by
  have hintime : ¬r.timeout < min (Grader.Answer.atOnce v).delay Grader.horizon := by
    show ¬r.timeout < min 0 Grader.horizon
    rw [Nat.zero_min]
    exact Nat.not_lt_zero _
  unfold grade
  rw [hget]
  dsimp only
  rw [hanswer, if_neg hintime]
  rfl

/-- Where no definition asks for the user, the verdict on a key is the same for all. -/
theorem grade_eq_grade (h : ofDefinitions timeout ds = .ok r)
    (hid : ∀ d ∈ ds, d.id = id → ¬d.IsPerUser) (uid? uid?' : Option String) (key : String) :
    r.grade id uid? key = r.grade id uid?' key := by
  unfold grade
  cases hg : r.graders.get? id with
  | none => rfl
  | some g =>
    obtain ⟨d, hd, hdid, hbuild⟩ := (get?_ofDefinitions h id g).1 hg
    rcases d.build_cases hbuild with ⟨secret, label, hkind, -⟩ | ⟨-, accepts, rfl⟩
    · exact absurd ⟨secret, label, hkind⟩ (hid d hd hdid)
    · rfl

/-- Where users have flags of their own, every key is incorrect if there is no user. -/
theorem grade_none_of_isPerUser (h : ofDefinitions timeout ds = .ok r) {d : Definition}
    (hd : d ∈ ds) (hid : d.id = id) (hper : d.IsPerUser) (key : String) :
    ∃ v, r.grade id none key = .ok v ∧ v.correct = false := by
  obtain ⟨secret, label, hkind⟩ := hper
  have hbuild : d.build =
      .ok (Grader.perUser d.messages secret (label.getD Grader.defaultLabel)) := by
    rw [Definition.build, hkind]
  exact ⟨_, grade_of_atOnce ((get?_ofDefinitions h id _).2 ⟨d, hd, hid, hbuild⟩) rfl, rfl⟩

/-- The blanks around a key do not count. -/
theorem grade_eq_of_trim_eq (h : ofDefinitions timeout ds = .ok r) (id : String)
    (uid? : Option String) {key key' : String} (hkey : Text.trim key = Text.trim key') :
    r.grade id uid? key = r.grade id uid? key' := by
  unfold grade
  cases hg : r.graders.get? id with
  | none => rfl
  | some g =>
    obtain ⟨d, -, -, hbuild⟩ := (get?_ofDefinitions h id g).1 hg
    have hsame : g uid? key = g uid? key' := Definition.grades_eq_of_trim_eq hbuild hkey uid?
    simp only [hsame]

end Registry

end CaptureTheFlag
