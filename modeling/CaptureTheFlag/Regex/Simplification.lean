import CaptureTheFlag.Regex.Reachability
import CaptureTheFlag.Regex.Term

/-!
# Simplest forms match the same

A term with another one behind it is brought to its simplest form, in which words are joined and
sequences hold none of their own kind.  It still matches what the two match one behind the other.

* `Term.matches_before`: what a term with another one behind it matches.
* `Term.matches_sequence`: what some terms match one behind the other.
-/

namespace CaptureTheFlag.Regex.Term

open CaptureTheFlag.Regex.Expr (Matches)

variable {text : List Char}

theorem matches_empty {i j : Nat} : Matches text .empty i j ↔ i = j ∧ i ≤ text.length := by
  constructor
  · intro h
    cases h with
    | empty h => exact ⟨rfl, h⟩
  · rintro ⟨rfl, h⟩
    exact .empty h

theorem matches_cat {a b : Expr} {i j : Nat} :
    Matches text (.cat a b) i j ↔ ∃ k, Matches text a i k ∧ Matches text b k j := by
  constructor
  · intro h
    cases h with
    | cat ha hb => exact ⟨_, ha, hb⟩
  · rintro ⟨k, ha, hb⟩
    exact .cat ha hb

/-- With nothing before it, an expression matches the same. -/
theorem matches_cat_empty {b : Expr} {i j : Nat} :
    Matches text (.cat .empty b) i j ↔ Matches text b i j := by
  rw [matches_cat]
  constructor
  · rintro ⟨k, ha, hb⟩
    obtain ⟨rfl, -⟩ := matches_empty.1 ha
    exact hb
  · exact fun h => ⟨i, .empty (Nat.le_trans h.le.1 h.le.2), h⟩

/-- With nothing behind it, an expression matches the same. -/
theorem matches_cat_empty_right {a : Expr} {i j : Nat} :
    Matches text (.cat a .empty) i j ↔ Matches text a i j := by
  rw [matches_cat]
  constructor
  · rintro ⟨k, ha, hb⟩
    obtain ⟨rfl, -⟩ := matches_empty.1 hb
    exact ha
  · exact fun h => ⟨j, h, .empty h.le.2⟩

theorem matches_cat_assoc {a b c : Expr} {i j : Nat} :
    Matches text (.cat (.cat a b) c) i j ↔ Matches text (.cat a (.cat b c)) i j := by
  simp only [matches_cat]
  constructor
  · rintro ⟨k, ⟨l, ha, hb⟩, hc⟩
    exact ⟨l, ha, k, hb, hc⟩
  · rintro ⟨l, ha, k, hb, hc⟩
    exact ⟨k, ⟨l, ha, hb⟩, hc⟩

/-- A word goes on with another one. -/
theorem matches_wordExpr_append (cs ds : List Char) {i j : Nat} :
    Matches text (wordExpr (cs ++ ds)) i j ↔ Matches text (.cat (wordExpr cs) (wordExpr ds)) i j := by
  induction cs generalizing i j with
  | nil => exact matches_cat_empty.symm
  | cons c cs ih =>
    match cs, ds with
    | [], [] => exact matches_cat_empty_right.symm
    | [], d :: ds => rfl
    | b :: cs, ds =>
      change Matches text (.cat (.set (.single c)) (wordExpr (b :: cs ++ ds))) i j ↔ _
      rw [matches_cat]
      refine Iff.trans ?_ (matches_cat_assoc (a := .set (.single c))).symm
      rw [matches_cat]
      exact exists_congr fun k => and_congr_right fun _ => ih

/-- A term with another one behind it matches what they match one behind the other. -/
theorem matches_before (a rest : Term) {i j : Nat} :
    Matches text (a.before rest).expr i j ↔ Matches text (.cat a.expr rest.expr) i j := by
  induction a generalizing rest i j with
  | empty => exact matches_cat_empty.symm
  | cat a b iha ihb =>
    change Matches text (a.before (b.before rest)).expr i j ↔ _
    rw [iha, matches_cat]
    refine Iff.trans ?_ (matches_cat_assoc (a := a.expr)).symm
    rw [matches_cat]
    exact exists_congr fun k => and_congr_right fun _ => ihb rest
  | word cs =>
    cases rest with
    | word ds => exact matches_wordExpr_append cs ds
    | empty => exact matches_cat_empty_right.symm
    | cat b rest =>
      cases b with
      | word ds =>
        refine Iff.trans ?_ matches_cat_assoc
        change Matches text (.cat (wordExpr (cs ++ ds)) rest.expr) i j ↔ _
        rw [matches_cat, matches_cat]
        exact exists_congr fun k => and_congr_left fun _ => matches_wordExpr_append cs ds
      | _ => rfl
    | _ => rfl
  | _ =>
    cases rest with
    | empty => exact matches_cat_empty_right.symm
    | _ => rfl

/-- Some terms one behind the other match what the first one and then the others match. -/
theorem matches_sequence (t : Term) (ts : List Term) {i j : Nat} :
    Matches text (sequence (t :: ts)).expr i j ↔
      ∃ k, Matches text t.expr i k ∧ Matches text (sequence ts).expr k j :=
  (matches_before t (sequence ts)).trans matches_cat

end CaptureTheFlag.Regex.Term
