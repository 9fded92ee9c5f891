import CaptureTheFlag.Proofs.Problem.Naming
import CaptureTheFlag.Proofs.Problem.ReadBack

/-!
# Documents make the round trip

A problem is written as a JSON value, which less the identifier is its document.  The rules on
documents are a second account of the same fields.  The two accounts agree: what is written for a
problem that the rules let in is let in again, and makes the same problem.

* `Problem.RoundTrips`: the problem comes back from its document.
* `Problem.roundTrips_iff_isReadable`: this is so if and only if the rules on names, points and
  thresholds are kept.
* `roundTrips_of_accepted`: a problem made from a document that is accepted comes back, and so does
  every stored problem.

## Weights

A new problem has its weights by identifiers, while its document gave them by names.  The document
that is written has the identifiers, and they are taken as they are when it is read
(`Problem.ofDraft`, not `Problem.create`).  So the draft that is read has the problem's own weights,
and nothing is said here of digests.
-/

namespace CaptureTheFlag

namespace Problem

variable {p : Problem}

/-- The problem comes back from its document. -/
structure RoundTrips (p : Problem) : Prop where
  /-- It is written as a JSON object, which has the identifier and otherwise is the document. -/
  written : ∃ d, p.toJson.document? = some d ∧ d.get? "pid" = some (.string p.pid) ∧
    d.erase "pid" = p.toDocument
  /-- The document does not have the identifier. -/
  no_pid : p.toDocument.contains "pid" = false
  /-- It is accepted with the weights as they are, and under the identifier it makes the problem. -/
  read : ∃ draft, Draft.ofDocument p.toDocument = .ok draft ∧ draft.weightmap = some p.weightmap ∧
    ofDraft p.pid draft = p

theorem get?_toDocument_pid (p : Problem) : p.toDocument.get? "pid" = none :=
  get?_toDocument_eq_none (by decide)

theorem document?_toJson (p : Problem) :
    p.toJson.document? = some (p.toDocument.insert "pid" (.string p.pid)) :=
  Json.document?_ofDocument _

theorem IsReadable.roundTrips (hp : p.IsReadable) : p.RoundTrips where
  written := by
    refine ⟨_, p.document?_toJson, ?_, ?_⟩
    · rw [KeyMap.get?_insert, if_pos rfl]
    · rw [KeyMap.erase_insert, KeyMap.erase_of_get?_eq_none p.get?_toDocument_pid]
  no_pid := (KeyMap.contains_eq_false_iff _ _).2 p.get?_toDocument_pid
  read := ⟨p.toDraft, Draft.ofDocument_eq_ok_iff.2 hp.isOf_toDraft, rfl, p.ofDraft_toDraft⟩

/-- **A problem comes back if and only if the rules are kept.**  A stored problem that broke one
could not be switched off any more. -/
theorem roundTrips_iff_isReadable : p.RoundTrips ↔ p.IsReadable := by
  refine ⟨fun hp => ?_, IsReadable.roundTrips⟩
  obtain ⟨draft, hdraft, -, hmade⟩ := hp.read
  have hread : (ofDraft p.pid draft).IsReadable :=
    (Draft.ofDocument_eq_ok_iff.1 hdraft).isReadable_assemble p.pid _
  rw [hmade] at hread
  exact hread

end Problem

/-- **Documents make the round trip**: where a document is accepted, both the new problem that it
makes and the one that it makes under any given identifier come back from their documents.  So does
every problem that is stored at any time while operations are under way, and it lies under the
identifier that it comes back with. -/
theorem roundTrips_of_accepted :
    (∀ doc draft, Draft.ofDocument doc = .ok draft →
      (Problem.create draft).RoundTrips ∧ ∀ pid, (Problem.ofDraft pid draft).RoundTrips) ∧
      ∀ s threads, World.Reachable ⟨s, threads⟩ →
        ∀ pid p, s.problem? pid = some p → p.pid = pid ∧ p.RoundTrips := by
  constructor
  · intro doc draft hdraft
    have hof := Draft.ofDocument_eq_ok_iff.1 hdraft
    exact ⟨(hof.isReadable_assemble _ _).roundTrips,
      fun pid => (hof.isReadable_assemble pid _).roundTrips⟩
  · intro s threads hw pid p hp
    have hs := Store.isInvariant_hasReadableProblems.of_reachable hw
    have hstored : p ∈ s.problems.values := (KeyMap.mem_values_iff _ p).2 ⟨pid, hp⟩
    exact ⟨hs.wellKeyed pid p hp, (hs.isReadable p hstored).roundTrips⟩

namespace Sample

/-- The numbers are as far out as they may be, texts are in several scripts, the hint is null, and
one of the weights is for the empty name. -/
def farOut : Document :=
  KeyMap.ofList [
    ("name", .string " 旗 \u0000 "),
    ("score", .integer 9223372036854775807),
    ("category", .string ""),
    ("grader", .string "hidden"),
    ("description", .string "Regardez partout, déjà."),
    ("threshold", .integer 0),
    ("tags", .array [.string "é", .string "é"]),
    ("weightmap", .ofFields [
      ("", .integer (-9223372036854775808)),
      ("Warmup", .integer 9223372036854775807)]),
    ("hint", .null)]

end Sample

/-- A document with the greatest and the least number comes back, under an identifier that is empty,
too.  So does a stored problem that has another name by now. -/
theorem roundTrips_of_far_out_and_renamed :
    (∃ draft, Draft.ofDocument Sample.farOut = .ok draft ∧
      (Problem.create draft).RoundTrips ∧ (Problem.ofDraft "" draft).RoundTrips) ∧
      (∃ threads, World.Reachable ⟨Sample.renamed, threads⟩) ∧
      ∃ p, Sample.renamed.problem? (Problem.pidOf "Warmup") = some p ∧ p.name = "Start" ∧
        p.RoundTrips := by
  have haccepted : (Draft.ofDocument Sample.farOut).toOption.isSome = true := by decide +kernel
  have hstored : (Sample.renamed.problem? (Problem.pidOf "Warmup")).map (·.name) = some "Start" := by
    decide +kernel
  obtain ⟨accepted, stored⟩ := roundTrips_of_accepted
  obtain ⟨threads, hw⟩ := (Sample.served_store.operation Sample.setup _).exists_world
  refine ⟨?_, ⟨threads, hw⟩, ?_⟩
  · cases hdraft : Draft.ofDocument Sample.farOut with
    | error e =>
      rw [hdraft] at haccepted
      cases haccepted
    | ok draft =>
      obtain ⟨hcreate, hmade⟩ := accepted _ draft hdraft
      exact ⟨draft, rfl, hcreate, hmade ""⟩
  · obtain ⟨p, hp, hname⟩ := Option.map_eq_some_iff.1 hstored
    exact ⟨p, hp, hname, (stored _ threads hw _ p hp).2⟩

end CaptureTheFlag
