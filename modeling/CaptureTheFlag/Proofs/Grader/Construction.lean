import CaptureTheFlag.Proofs.Grader.Registry
import Mathlib.Data.List.Induction
import Mathlib.Data.List.Nodup

/-!
# Which lists of definitions make a registry, and what it answers

Definitions are put in one after another.  The first one that is refused decides the failure: one
that has the identifier of an earlier one, or one that gives no grader.  If none is refused, every
definition is asked by its identifier, as if it were alone.

* `Grader.Definition.IsRefused`: why a definition is refused behind others.
* `Grader.Definition.IsRefusedFirstAt`: the first place of a list where this happens.
* `Grader.Definition.IsWorded`: what a verdict says, from the messages of the definition.
* `Registry.ofDefinitions_cases`: all definitions are put in, or the first that is refused decides.
* `registry_of_definitions`: which lists make a registry, the failure of the others, and the
  identifiers and the verdicts of the registry.

## Inductions from the end

What is put in before a definition decides what becomes of it.  So the inductions take the last
definition off the list: the registry of those before it is there when it comes.
-/

namespace CaptureTheFlag

open Grader (Definition)

namespace Grader.Definition

variable {d d' : Definition} {ds earlier : List Definition} {f f' : Failure} {i : Nat}

/-! ## Definitions that are refused -/

/-- Why a definition is refused behind earlier ones: one of them has its identifier; or none has,
and the definition gives no grader. -/
inductive IsRefused (earlier : List Definition) (d : Definition) : Failure → Prop where
  | repeated (h : ∃ d' ∈ earlier, d'.id = d.id) : IsRefused earlier d (.graderDefinedTwice d.id)
  | faulty {f : Failure} (hnew : ∀ d' ∈ earlier, d'.id ≠ d.id) (hbuild : d.build = .error f) :
      IsRefused earlier d f

/-- The definition at a place is refused behind those before it. -/
def IsRefusedAt (ds : List Definition) (i : Nat) (f : Failure) : Prop :=
  ∃ d, ds[i]? = some d ∧ IsRefused (ds.take i) d f

/-- The definition at a place is refused, and none before it is. -/
structure IsRefusedFirstAt (ds : List Definition) (i : Nat) (f : Failure) : Prop where
  refused : IsRefusedAt ds i f
  first : ∀ j < i, ∀ f', ¬IsRefusedAt ds j f'

theorem IsRefused.unique (h : IsRefused earlier d f) (h' : IsRefused earlier d f') : f = f' := by
  cases h with
  | repeated h =>
    cases h' with
    | repeated _ => rfl
    | faulty hnew _ =>
      obtain ⟨d', hmem, hid⟩ := h
      exact absurd hid (hnew d' hmem)
  | faulty hnew hbuild =>
    cases h' with
    | repeated h =>
      obtain ⟨d', hmem, hid⟩ := h
      exact absurd hid (hnew d' hmem)
    | faulty _ hbuild' => exact Except.error.inj (hbuild.symm.trans hbuild')

/-- There is one first place, and one failure there. -/
theorem IsRefusedFirstAt.unique {j : Nat} (h : IsRefusedFirstAt ds i f)
    (h' : IsRefusedFirstAt ds j f') : f = f' := by
  rcases Nat.lt_trichotomy i j with hlt | rfl | hlt
  · exact absurd h.refused (h'.first i hlt f)
  · obtain ⟨d, hd, hrefused⟩ := h.refused
    obtain ⟨d', hd', hrefused'⟩ := h'.refused
    obtain rfl := Option.some.inj (hd.symm.trans hd')
    exact hrefused.unique hrefused'
  · exact absurd h'.refused (h.first j hlt f')

theorem IsRefusedAt.lt_length (h : IsRefusedAt ds i f) : i < ds.length := by
  obtain ⟨d, hd, -⟩ := h
  exact (List.getElem?_eq_some_iff.1 hd).1

/-- With one more definition at the end, the same places are refused, and perhaps the last one. -/
theorem isRefusedAt_concat_iff : IsRefusedAt (ds ++ [d]) i f ↔
    IsRefusedAt ds i f ∨ i = ds.length ∧ IsRefused ds d f := by
  unfold IsRefusedAt
  rcases Nat.lt_trichotomy i ds.length with hlt | rfl | hgt
  · rw [List.getElem?_append_left hlt, List.take_append_of_le_length (Nat.le_of_lt hlt)]
    exact (or_iff_left fun h => Nat.ne_of_lt hlt h.1).symm
  · rw [List.getElem?_concat_length, List.take_left' rfl]
    simp
  · have hend : (ds ++ [d])[i]? = none := by
      rw [List.getElem?_eq_none_iff, List.length_append, List.length_singleton]
      exact hgt
    have hend' : ds[i]? = none := List.getElem?_eq_none_iff.2 (Nat.le_of_lt hgt)
    rw [hend, hend']
    simp [Nat.ne_of_gt hgt]

/-- A definition that gives no grader is at fault itself. -/
theorem kind_of_build_eq_error (h : d.build = .error f) : f.kind = .configuration := by
  unfold build at h
  cases hkind : d.kind with
  | flag flag caseInsensitive =>
    rw [hkind] at h
    cases h
  | sha256 digest =>
    rw [hkind] at h
    dsimp only at h
    split at h
    · cases h
    · obtain rfl := Except.error.inj h
      rfl
  | regex pattern =>
    rw [hkind] at h
    dsimp only at h
    split at h
    · cases h
    · obtain rfl := Except.error.inj h
      rfl
  | perUser secret label =>
    rw [hkind] at h
    cases h

theorem IsRefused.kind_eq (h : IsRefused earlier d f) : f.kind = .configuration := by
  cases h with
  | repeated _ => rfl
  | faulty _ hbuild => exact kind_of_build_eq_error hbuild

/-! ## What verdicts say -/

/-- A verdict says what the definition has for it, or else the usual.  Only where users have flags
of their own and there is no user, it says that it needs one. -/
structure IsWorded (d : Definition) (uid? : Option String) (v : Verdict) : Prop where
  known : ¬(d.IsPerUser ∧ uid? = none) → v.message =
    if v.correct then d.correctMessage.getD "Correct!" else d.incorrectMessage.getD "Incorrect."
  unknown : d.IsPerUser → uid? = none →
    v = ⟨false, "This problem can only be graded for a known user."⟩

/-- The grader of a definition answers at once, in the definition's words. -/
theorem exists_verdict {g : Grader} (h : d.build = .ok g) (uid? : Option String) (key : String) :
    ∃ v, g uid? key = .atOnce v ∧ d.IsWorded uid? v := by
  rcases d.build_cases h with ⟨secret, label, hkind, rfl⟩ | ⟨hper, accepts, rfl⟩
  · cases uid? with
    | none =>
      exact ⟨_, rfl, fun hknown => absurd ⟨⟨secret, label, hkind⟩, rfl⟩ hknown, fun _ _ => rfl⟩
    | some uid => exact ⟨_, rfl, fun _ => rfl, fun _ hnone => nomatch hnone⟩
  · exact ⟨_, rfl, fun _ => rfl, fun hper' => absurd hper' hper⟩

end Grader.Definition

namespace Registry

open Grader.Definition (IsRefused IsRefusedAt IsRefusedFirstAt)

variable {r : Registry} {d : Definition} {ds : List Definition} {timeout : Nat} {f : Failure}

/-! ## One definition more -/

theorem ofDefinitions_concat (timeout : Nat) (ds : List Definition) (d : Definition) :
    ofDefinitions timeout (ds ++ [d]) = ofDefinitions timeout ds >>= fun r => r.define d := by
  unfold ofDefinitions
  rw [List.foldlM_append]
  simp only [List.foldlM_cons, List.foldlM_nil, bind_pure]

/-- Every definition that is put in gives a grader. -/
theorem exists_build_of_ofDefinitions (h : ofDefinitions timeout ds = .ok r) :
    ∀ d ∈ ds, ∃ g, d.build = .ok g := by
  induction ds using List.reverseRecOn generalizing r with
  | nil => exact List.forall_mem_nil _
  | append_singleton ds d ih =>
    rw [ofDefinitions_concat, Failure.bind_eq_ok_iff] at h
    obtain ⟨r', hr', hdefine⟩ := h
    obtain ⟨-, g, hbuild, -⟩ := define_eq_ok_iff.1 hdefine
    exact List.forall_mem_append.2 ⟨ih hr', List.forall_mem_singleton.2 ⟨g, hbuild⟩⟩

/-- The registry has the identifiers of the definitions. -/
theorem contains_ofDefinitions (h : ofDefinitions timeout ds = .ok r) (id : String) :
    r.contains id = true ↔ ∃ d ∈ ds, d.id = id := by
  unfold contains
  rw [KeyMap.contains_iff]
  constructor
  · rintro ⟨g, hg⟩
    obtain ⟨d, hd, hid, -⟩ := (get?_ofDefinitions h id g).1 hg
    exact ⟨d, hd, hid⟩
  · rintro ⟨d, hd, hid⟩
    obtain ⟨g, hbuild⟩ := exists_build_of_ofDefinitions h d hd
    exact ⟨g, (get?_ofDefinitions h id g).2 ⟨d, hd, hid, hbuild⟩⟩

theorem contains_ofDefinitions_eq_false_iff (h : ofDefinitions timeout ds = .ok r) (id : String) :
    r.contains id = false ↔ ∀ d ∈ ds, d.id ≠ id := by
  rw [← Bool.not_eq_true, contains_ofDefinitions h]
  simp

/-- The next definition fails with what it is refused for. -/
theorem define_eq_error_iff (h : ofDefinitions timeout ds = .ok r) :
    r.define d = .error f ↔ IsRefused ds d f := by
  unfold define
  constructor
  · intro herror
    split at herror
    · next hcontains =>
      obtain rfl := Except.error.inj herror
      exact .repeated ((contains_ofDefinitions h d.id).1 hcontains)
    · next hcontains =>
      have hnew := (contains_ofDefinitions_eq_false_iff h d.id).1 (eq_false_of_ne_true hcontains)
      cases hbuild : d.build with
      | error f' =>
        rw [hbuild] at herror
        obtain rfl := Except.error.inj herror
        exact .faulty hnew hbuild
      | ok g =>
        rw [hbuild] at herror
        cases herror
  · rintro (hrepeated | ⟨hnew, hbuild⟩)
    · rw [if_pos ((contains_ofDefinitions h d.id).2 hrepeated)]
    · rw [if_neg (ne_true_of_eq_false ((contains_ofDefinitions_eq_false_iff h d.id).2 hnew)),
        hbuild]
      rfl

/-! ## All definitions -/

/-- **All definitions are put in, or the first that is refused decides the failure.** -/
theorem ofDefinitions_cases (timeout : Nat) (ds : List Definition) :
    (∃ r, ofDefinitions timeout ds = .ok r ∧ ∀ i f, ¬IsRefusedAt ds i f) ∨
      ∃ i f, ofDefinitions timeout ds = .error f ∧ IsRefusedFirstAt ds i f := by
  induction ds using List.reverseRecOn with
  | nil => exact Or.inl ⟨.empty timeout, rfl, fun i f h => absurd h.lt_length (Nat.not_lt_zero i)⟩
  | append_singleton ds d ih =>
    rw [ofDefinitions_concat]
    rcases ih with ⟨r, hr, hnone⟩ | ⟨i, f, herror, hfirst⟩
    · -- the last definition comes to the registry of those before it
      rw [hr]
      cases hdefine : r.define d with
      | ok r' =>
        refine Or.inl ⟨r', hdefine, fun i f h => ?_⟩
        rcases Definition.isRefusedAt_concat_iff.1 h with h | ⟨-, h⟩
        · exact hnone i f h
        · rw [← define_eq_error_iff hr, hdefine] at h
          cases h
      | error f =>
        have hrefused := (define_eq_error_iff hr).1 hdefine
        refine Or.inr ⟨ds.length, f, hdefine,
          Definition.isRefusedAt_concat_iff.2 (Or.inr ⟨rfl, hrefused⟩), fun j hj f' h => ?_⟩
        rcases Definition.isRefusedAt_concat_iff.1 h with h | ⟨hend, -⟩
        · exact hnone j f' h
        · exact Nat.ne_of_lt hj hend
    · -- the last definition is not looked at
      rw [herror]
      refine Or.inr ⟨i, f, rfl, Definition.isRefusedAt_concat_iff.2 (Or.inl hfirst.refused),
        fun j hj f' h => ?_⟩
      rcases Definition.isRefusedAt_concat_iff.1 h with h | ⟨hend, -⟩
      · exact hfirst.first j hj f' h
      · have hlt := hfirst.refused.lt_length
        omega

/-- The failure of a list of definitions is that of the first one that is refused. -/
theorem ofDefinitions_eq_error_iff :
    ofDefinitions timeout ds = .error f ↔ ∃ i, IsRefusedFirstAt ds i f := by
  rcases ofDefinitions_cases timeout ds with ⟨r, hr, hnone⟩ | ⟨i, f', herror, hfirst⟩
  · rw [hr]
    refine iff_of_false nofun ?_
    rintro ⟨i, hfirst⟩
    exact hnone i f hfirst.refused
  · rw [herror]
    constructor
    · intro h
      obtain rfl := Except.error.inj h
      exact ⟨i, hfirst⟩
    · rintro ⟨j, hfirst'⟩
      rw [hfirst.unique hfirst']

/-- The lists that make a registry are those without a repetition and without a faulty
definition. -/
theorem exists_ofDefinitions_iff : (∃ r, ofDefinitions timeout ds = .ok r) ↔
    (ds.map (·.id)).Nodup ∧ ∀ d ∈ ds, ∃ g, d.build = .ok g := by
  induction ds using List.reverseRecOn with
  | nil => exact iff_of_true ⟨_, rfl⟩ ⟨List.nodup_nil, List.forall_mem_nil _⟩
  | append_singleton ds d ih =>
    have hids : ((ds ++ [d]).map (·.id)).Nodup ↔
        (ds.map (·.id)).Nodup ∧ ∀ d' ∈ ds, d'.id ≠ d.id := by
      rw [List.map_append, List.nodup_append]
      simp
    rw [ofDefinitions_concat, hids, List.forall_mem_append, List.forall_mem_singleton]
    constructor
    · rintro ⟨r', h⟩
      obtain ⟨r, hr, hdefine⟩ := Failure.bind_eq_ok_iff.1 h
      obtain ⟨hnew, g, hbuild, -⟩ := define_eq_ok_iff.1 hdefine
      obtain ⟨hnodup, hbuilds⟩ := ih.1 ⟨r, hr⟩
      exact ⟨⟨hnodup, (contains_ofDefinitions_eq_false_iff hr d.id).1 hnew⟩, hbuilds, g, hbuild⟩
    · rintro ⟨⟨hnodup, hnew⟩, hbuilds, g, hbuild⟩
      obtain ⟨r, hr⟩ := ih.2 ⟨hnodup, hbuilds⟩
      have hdefine := define_eq_ok_iff.2
        ⟨(contains_ofDefinitions_eq_false_iff hr d.id).2 hnew, g, hbuild, rfl⟩
      exact ⟨_, Failure.bind_eq_ok_iff.2 ⟨r, hr, hdefine⟩⟩

/-! ## What the registry answers -/

theorem mem_ids_ofDefinitions (h : ofDefinitions timeout ds = .ok r) (id : String) :
    id ∈ r.ids ↔ ∃ d ∈ ds, d.id = id := by
  rw [← contains_ofDefinitions h]
  unfold ids contains
  rw [KeyMap.mem_keys_iff, KeyMap.contains_iff]

/-- Under the identifier of a definition its grader answers. -/
theorem grade_of_mem (h : ofDefinitions timeout ds = .ok r) (hd : d ∈ ds) :
    ∃ g, d.build = .ok g ∧ ∀ uid? key, ∃ v, g uid? key = .atOnce v ∧
      r.grade d.id uid? key = .ok v ∧ d.IsWorded uid? v := by
  obtain ⟨g, hbuild⟩ := exists_build_of_ofDefinitions h d hd
  refine ⟨g, hbuild, fun uid? key => ?_⟩
  obtain ⟨v, hanswer, hworded⟩ := Definition.exists_verdict hbuild uid? key
  exact ⟨v, hanswer,
    grade_of_atOnce ((get?_ofDefinitions h d.id g).2 ⟨d, hd, rfl, hbuild⟩) hanswer, hworded⟩

/-- Under any other identifier there is nothing that could answer. -/
theorem grade_of_forall_ne (h : ofDefinitions timeout ds = .ok r) {id : String}
    (hid : ∀ d ∈ ds, d.id ≠ id) (uid? : Option String) (key : String) :
    r.grade id uid? key = .error (.notRegistered id) := by
  have hnone : r.graders.get? id = none :=
    (KeyMap.contains_eq_false_iff _ id).1 ((contains_ofDefinitions_eq_false_iff h id).2 hid)
  unfold grade
  rw [hnone]

end Registry

/-- **A registry holds the definitions of its list, or the first that is refused is told.**  A list
of definitions makes a registry exactly if their identifiers are all different and every definition
gives a grader.  Otherwise the failure is that of the first definition, from the front, that has the
identifier of an earlier one or gives no grader; if it does both, the repetition is told.  Of a
registry that is made the identifiers are those of the definitions, in strictly ascending order.
Under each of them answers the grader of the one definition that has it, in the words of this
definition; under any other nothing is registered. -/
theorem registry_of_definitions (timeout : Nat) (ds : List Definition) :
    ((∃ r, Registry.ofDefinitions timeout ds = .ok r) ↔
        (ds.map (·.id)).Nodup ∧ ∀ d ∈ ds, ∃ g, d.build = .ok g) ∧
      (∀ f, Registry.ofDefinitions timeout ds = .error f ↔
        ∃ i, Definition.IsRefusedFirstAt ds i f) ∧
      (∀ f, Registry.ofDefinitions timeout ds = .error f → f.kind = .configuration) ∧
      ∀ r, Registry.ofDefinitions timeout ds = .ok r →
        (r.ids.Pairwise (· < ·) ∧ ∀ id, id ∈ r.ids ↔ ∃ d ∈ ds, d.id = id) ∧
        (∀ d ∈ ds, (∀ d' ∈ ds, d'.id = d.id → d' = d) ∧
          ∃ g, d.build = .ok g ∧ ∀ uid? key, ∃ v, g uid? key = .atOnce v ∧
            r.grade d.id uid? key = .ok v ∧ d.IsWorded uid? v) ∧
        ∀ id, (∀ d ∈ ds, d.id ≠ id) →
          ∀ uid? key, r.grade id uid? key = .error (.notRegistered id) := by
  refine ⟨Registry.exists_ofDefinitions_iff, fun f => Registry.ofDefinitions_eq_error_iff,
    fun f h => ?_, fun r h => ⟨⟨r.graders.keys_ascending, Registry.mem_ids_ofDefinitions h⟩,
      fun d hd => ⟨fun d' hd' hid => ?_, Registry.grade_of_mem h hd⟩,
      fun id hid => Registry.grade_of_forall_ne h hid⟩⟩
  · obtain ⟨i, hfirst⟩ := Registry.ofDefinitions_eq_error_iff.1 h
    obtain ⟨d, -, hrefused⟩ := hfirst.refused
    exact hrefused.kind_eq
  · have hnodup := (Registry.exists_ofDefinitions_iff.1 ⟨r, h⟩).1
    exact List.inj_on_of_nodup_map hnodup hd' hd hid

/-- Two definitions with one message each make a registry, whatever its time: the other messages are
the usual ones.  A third one that repeats an identifier and has a bad digest is told to repeat, and
the faulty one behind it is not looked at. -/
theorem registry_of_two_definitions :
    let welcome : Definition := ⟨"b", .flag "flag" false, some "Welcome!", none⟩
    let own : Definition := ⟨"a", .perUser "s3cret" none, none, some "Not yours."⟩
    let again : Definition := ⟨"b", .sha256 "no digest", none, none⟩
    let faulty : Definition := ⟨"c", .sha256 "no digest", none, none⟩
    (∃ r, Registry.ofDefinitions 0 [welcome, own] = .ok r ∧ "a" ∈ r.ids ∧
        r.grade "b" none " flag " = .ok ⟨true, "Welcome!"⟩ ∧
        r.grade "b" (some "ada") "guess" = .ok ⟨false, "Incorrect."⟩ ∧
        r.grade "a" none "guess" =
          .ok ⟨false, "This problem can only be graded for a known user."⟩ ∧
        r.grade "c" none "flag" = .error (.notRegistered "c")) ∧
      again.build = .error (.badDigest "b") ∧
      Registry.ofDefinitions 0 [welcome, own, again, faulty] =
        .error (.graderDefinedTwice "b") := by
  intro welcome own again faulty
  obtain ⟨hmade, -, -, hmakes⟩ := registry_of_definitions 0 [welcome, own]
  obtain ⟨-, hfails, -, -⟩ := registry_of_definitions 0 [welcome, own, again, faulty]
  have hbuilds : ∀ d ∈ [welcome, own], ∃ g, d.build = .ok g :=
    List.forall_mem_cons.2 ⟨⟨_, rfl⟩, List.forall_mem_singleton.2 ⟨_, rfl⟩⟩
  obtain ⟨r, hr⟩ := hmade.2 ⟨by decide, hbuilds⟩
  obtain ⟨⟨-, hids⟩, hgrades, hothers⟩ := hmakes r hr
  obtain ⟨-, g, hbuild, hverdict⟩ := hgrades welcome List.mem_cons_self
  obtain ⟨-, g', hbuild', hverdict'⟩ := hgrades own (List.mem_cons_of_mem _ List.mem_cons_self)
  obtain rfl := Except.ok.inj hbuild
  obtain rfl := Except.ok.inj hbuild'
  obtain ⟨v₁, hv₁, hgrade₁, -⟩ := hverdict none " flag "
  obtain ⟨v₂, hv₂, hgrade₂, -⟩ := hverdict (some "ada") "guess"
  obtain ⟨v₃, -, hgrade₃, hworded⟩ := hverdict' none "guess"
  obtain rfl := Except.ok.inj (congrArg Grader.Answer.result hv₁)
  obtain rfl := Except.ok.inj (congrArg Grader.Answer.result hv₂)
  have hright : welcome.messages.verdict (decide (Text.trim " flag " = "flag")) =
      ⟨true, "Welcome!"⟩ := by decide
  have hwrong : welcome.messages.verdict (decide (Text.trim "guess" = "flag")) =
      ⟨false, "Incorrect."⟩ := by decide
  have hrefused : Definition.IsRefusedAt [welcome, own, again, faulty] 2
      (.graderDefinedTwice "b") := ⟨again, rfl, .repeated ⟨welcome, List.mem_cons_self, rfl⟩⟩
  have hbefore : ∀ j < 2, ∀ f', ¬Definition.IsRefusedAt [welcome, own, again, faulty] j f' := by
    rintro (_ | _ | j) hj f' ⟨d, hd, h⟩
    · obtain rfl := Option.some.inj hd
      rcases h with ⟨d', hmem, -⟩ | ⟨-, ⟨⟩⟩
      cases hmem
    · obtain rfl := Option.some.inj hd
      rcases h with ⟨d', hmem, hid⟩ | ⟨-, ⟨⟩⟩
      obtain rfl := List.mem_singleton.1 hmem
      exact absurd hid (by decide)
    · omega
  have hnobody : ∀ d ∈ [welcome, own], d.id ≠ "c" := by decide
  exact ⟨⟨r, hr, (hids "a").2 ⟨own, List.mem_cons_of_mem _ List.mem_cons_self, rfl⟩,
    hgrade₁.trans (congrArg Except.ok hright), hgrade₂.trans (congrArg Except.ok hwrong),
    hgrade₃.trans (congrArg Except.ok (hworded.unknown ⟨_, _, rfl⟩ rfl)),
    hothers "c" hnobody none "flag"⟩, rfl, (hfails _).2 ⟨2, hrefused, hbefore⟩⟩

end CaptureTheFlag
