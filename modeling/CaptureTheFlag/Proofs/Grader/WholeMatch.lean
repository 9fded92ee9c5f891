import CaptureTheFlag.Grader.Definition
import CaptureTheFlag.Proofs.Regex.Enclosing

/-!
# Graders with a pattern accept what the pattern matches as a whole

The grader puts the text of the pattern into a group between the ends of the key, and searches the
stripped key for what comes of it.

* `Grader.Definition.build_regex_iff`: when there is such a grader, and what it does.
* `correct_iff_matches_whole`: a key is correct exactly if the pattern matches the whole of it.
* `prefix_judged_correct`: a text that is no pattern is accepted, and so is a key that only starts
  with what stands before its parenthesis.

## Texts that are no patterns

Only what comes of putting the text into the group is looked at.  A text that closes this group and
opens another one may be accepted, though it is no pattern; then the ends are asked for in one
branch each.  These are the only texts that are accepted and are no patterns.
-/

namespace CaptureTheFlag

open Regex.Expr (Matches)

/-- A definition with a pattern gives a grader if the pattern is one in a group between the ends of
the key, and the grader searches the stripped key for it. -/
theorem Grader.Definition.build_regex_iff {d : Definition} {pattern : String}
    (hkind : d.kind = .regex pattern) {g : Grader} : d.build = .ok g ↔
      ∃ e, Regex.compileWhole? pattern = some e ∧ g = Grader.pattern d.messages e := by
  unfold build
  rw [hkind]
  dsimp only
  cases Regex.compileWhole? pattern with
  | none => simp
  | some e => simp [eq_comm]

/-- **A grader with a pattern accepts what the pattern matches as a whole.**  Let a definition with
a pattern give a grader.  Its text is a pattern by itself exactly if its tokens close no group that
is open before them.  If it is one, the grader answers at once, whoever has sent in the key, and
judges the key correct exactly if the pattern by itself matches the stripped key from its first to
its last character. -/
theorem correct_iff_matches_whole {d : Grader.Definition} {pattern : String}
    (hkind : d.kind = .regex pattern) {g : Grader} (hbuild : d.build = .ok g) :
    ((∃ t, Regex.term? pattern = some t) ↔ Regex.KeepsGroup pattern) ∧
      ∀ t, Regex.term? pattern = some t → ∀ uid? key, ∃ v, g uid? key = .atOnce v ∧
        (v.correct = true ↔
          Matches (Text.trim key).toList t.expr 0 (Text.trim key).toList.length) := by
  obtain ⟨e, he, rfl⟩ := (d.build_regex_iff hkind).1 hbuild
  obtain ⟨hkeeps, hmatches⟩ := Regex.compileWhole?_eq_some he
  refine ⟨hkeeps, fun t ht uid? key => ⟨_, rfl, ?_⟩⟩
  exact hmatches t ht (Text.trim key)

/-- A choice is put into the group as a whole: neither branch is enough at one end of the key. -/
theorem choice_matches_whole :
    let d : Grader.Definition := ⟨"r", .regex "ab|c", none, none⟩
    ∃ g t, d.build = .ok g ∧ Regex.term? "ab|c" = some t ∧ Regex.KeepsGroup "ab|c" ∧
      (∃ v, g none " ab " = .atOnce v ∧ v.correct = true) ∧
      Matches "ab".toList t.expr 0 "ab".toList.length ∧
      (∃ v, g none "abc" = .atOnce v ∧ v.correct = false) ∧
      ¬Matches "abc".toList t.expr 0 "abc".toList.length := by
  intro d
  have hterm : (Regex.term? "ab|c").isSome = true := by decide +kernel
  have hfound : ((Regex.compileWhole? "ab|c").map fun e => (e.isMatch "ab", e.isMatch "abc")) =
      some (true, false) := by decide +kernel
  obtain ⟨t, ht⟩ := Option.isSome_iff_exists.1 hterm
  obtain ⟨e, he, hsearch⟩ := Option.map_eq_some_iff.1 hfound
  obtain ⟨hin, hout⟩ := Prod.mk.inj hsearch
  have hbuild : d.build = .ok (Grader.pattern d.messages e) :=
    (d.build_regex_iff rfl).2 ⟨e, he, rfl⟩
  obtain ⟨hkeeps, hmatches⟩ := correct_iff_matches_whole rfl hbuild
  obtain ⟨v, hanswer, hcorrect⟩ := hmatches t ht none " ab "
  obtain ⟨v', hanswer', hcorrect'⟩ := hmatches t ht none "abc"
  have htrim : Text.trim " ab " = "ab" := by decide
  have htrim' : Text.trim "abc" = "abc" := by decide
  rw [htrim] at hcorrect
  rw [htrim'] at hcorrect'
  have hsearched : v.correct = e.isMatch (Text.trim " ab ") := by
    rw [← Except.ok.inj (congrArg Grader.Answer.result hanswer)]
    rfl
  have hsearched' : v'.correct = e.isMatch (Text.trim "abc") := by
    rw [← Except.ok.inj (congrArg Grader.Answer.result hanswer')]
    rfl
  rw [htrim, hin] at hsearched
  rw [htrim', hout] at hsearched'
  refine ⟨_, t, hbuild, ht, hkeeps.1 ⟨t, ht⟩, ⟨v, hanswer, hsearched⟩, hcorrect.1 hsearched,
    ⟨v', hanswer', hsearched'⟩, fun h => ?_⟩
  exact Bool.false_ne_true (hsearched'.symm.trans (hcorrect'.2 h))

/-- A text that is no pattern is accepted, and the grader judges a key correct that only starts with
its first branch. -/
theorem prefix_judged_correct :
    let d : Grader.Definition := ⟨"r", .regex "a)|(?:b", none, none⟩
    Regex.term? "a)|(?:b" = none ∧
      ∃ g, d.build = .ok g ∧ g none "axyz" = .atOnce ⟨true, "Correct!"⟩ := by
  intro d
  have hnone : Regex.term? "a)|(?:b" = none := by decide +kernel
  have hfound : ((Regex.compileWhole? "a)|(?:b").map fun e => e.isMatch (Text.trim "axyz")) =
      some true := by decide +kernel
  obtain ⟨e, he, hsearch⟩ := Option.map_eq_some_iff.1 hfound
  refine ⟨hnone, _, (d.build_regex_iff rfl).2 ⟨e, he, rfl⟩, ?_⟩
  show Grader.Answer.atOnce (d.messages.verdict (e.isMatch (Text.trim "axyz"))) = _
  rw [hsearch]
  rfl

end CaptureTheFlag
