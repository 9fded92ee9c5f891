import CaptureTheFlag.Json.Printer
import CaptureTheFlag.Proofs.Problem.Insertion

/-!
# An import is one insertion after another

A text with a list of problems is imported item by item.  The first item that is not an object, or
whose problem is refused, ends the import; what has been inserted before it stays.

* `Lifecycle.InsertsAll`: all items have been inserted, one after another.
* `Lifecycle.IsStuck`: an item that ends the import.
* `Lifecycle.AreInserted`: what is stored when all items have been inserted.
* `Lifecycle.insertAll_cases`: all items are inserted, or those before one that ends the import.
* `Lifecycle.run_insertAll_eq_ok_iff`, `Lifecycle.run_insertAll_eq_error_iff`: when a list is
  accepted, and when it is refused.
* `import_item_by_item`: this is what an import does, and all that it does.

## Items that depend on each other

Whether an item is refused depends on the items before it, as its name may be one of theirs.  So an
item is looked at in the store that those before it have led to, and no condition on the list as a
whole says whether it is accepted.  The identifiers of items that are accepted are distinct for the
same reason: each is new in the store that it comes into, and none of those before it is.
-/

namespace CaptureTheFlag

open Program

namespace Lifecycle

variable {setup : Setup} {item : Json} {items before after : List Json} {doc : Document}
  {s t s' : Store} {pid : String} {pids : List String} {e : Failure}

/-! ## One insertion -/

/-- An insertion that succeeds has put a new problem under the identifier of its name. -/
theorem exists_draft_of_inserted (h : (insert setup doc).run .none s = (.ok pid, t)) :
    ∃ draft, draft.IsOf doc ∧ s.IsFree draft.name ∧ pid = Problem.pidOf draft.name ∧
      t = { s with problems := s.problems.insert pid (Problem.create draft) } := by
  rcases insertion_cases setup doc s with ⟨e, hrun, -⟩ | ⟨draft, hdraft, -, hfree, hrun⟩
  · rw [hrun] at h
    cases h
  · rw [hrun] at h
    cases h
    exact ⟨draft, hdraft, hfree, rfl, rfl⟩

/-- An insertion that fails leaves no trace. -/
theorem eq_of_refused (h : (insert setup doc).run .none s = (.error e, t)) : t = s := by
  rcases insertion_cases setup doc s with ⟨e', hrun, -⟩ | ⟨draft, -, -, -, hrun⟩
  · rw [hrun] at h
    cases h
    rfl
  · rw [hrun] at h
    cases h

/-! ## One item after another -/

/-- All items are objects, and have been inserted one after another under these identifiers. -/
inductive InsertsAll (setup : Setup) : List Json → Store → List String → Store → Prop where
  | nil (s : Store) : InsertsAll setup [] s [] s
  | cons {item : Json} {items : List Json} {doc : Document} {s t s' : Store} {pid : String}
      {pids : List String} (hdoc : item.document? = some doc)
      (hinsert : (insert setup doc).run .none s = (.ok pid, t))
      (hrest : InsertsAll setup items t pids s') :
      InsertsAll setup (item :: items) s (pid :: pids) s'

/-- The item is not an object, or its problem is refused. -/
inductive IsStuck (setup : Setup) (item : Json) (s : Store) : Failure → Prop where
  | notObject (h : item.document? = none) : IsStuck setup item s .importedItem
  | refused {doc : Document} {t : Store} {e : Failure} (hdoc : item.document? = some doc)
      (h : (insert setup doc).run .none s = (.error e, t)) : IsStuck setup item s e

/-- A problem is stored that says what an item says, under the identifier of the item's name. -/
def HoldsItem (s : Store) (item : Json) (pid : String) : Prop :=
  ∃ doc name p, item.document? = some doc ∧ doc.get? "name" = some (.string name) ∧
    pid = Problem.pidOf name ∧ s.problem? pid = some p ∧ p.toDocument = doc.completed

/-- Some items have been inserted under identifiers that are new and distinct, in their order, and
nothing else has changed. -/
structure AreInserted (items : List Json) (s : Store) (pids : List String) (s' : Store) : Prop where
  held : List.Forall₂ (HoldsItem s') items pids
  nodup : pids.Nodup
  isNew : ∀ pid ∈ pids, s.problem? pid = none
  others : ∀ pid, pid ∉ pids → s'.problem? pid = s.problem? pid
  users : s'.users = s.users
  submissions : s'.submissions = s.submissions

/-- An item is inserted, or it ends the import. -/
theorem item_cases (setup : Setup) (item : Json) (s : Store) :
    (∃ doc pid t, item.document? = some doc ∧ (insert setup doc).run .none s = (.ok pid, t)) ∨
      ∃ e, IsStuck setup item s e := by
  cases hdoc : item.document? with
  | none => exact Or.inr ⟨_, .notObject hdoc⟩
  | some doc =>
    rcases hrun : (insert setup doc).run .none s with ⟨e | pid, t⟩
    · exact Or.inr ⟨e, .refused hdoc hrun⟩
    · exact Or.inl ⟨doc, pid, t, rfl, hrun⟩

/-- An item that is inserted is followed by the others. -/
theorem run_insertAll_cons (hdoc : item.document? = some doc)
    (hinsert : (insert setup doc).run .none s = (.ok pid, t)) (items : List Json) :
    (insertAll setup (item :: items)).run .none s =
      (((insertAll setup items).run .none t).1.map (pid :: ·),
        ((insertAll setup items).run .none t).2) := by
  have hprogram : insertAll setup (item :: items) =
      (insert setup doc).bind fun pid => (insertAll setup items).bind fun pids =>
        .done (.ok (pid :: pids)) := by
    rw [insertAll, hdoc]
    rfl
  rw [hprogram, run_bind_of_ok hinsert, run_bind]
  rcases (insertAll setup items).run .none t with ⟨_ | _, _⟩ <;> rfl

/-- An item that is not inserted ends the import, and leaves no trace. -/
theorem IsStuck.run_insertAll (h : IsStuck setup item s e) (items : List Json) :
    (insertAll setup (item :: items)).run .none s = (.error e, s) := by
  rw [insertAll]
  cases h with
  | notObject hdoc =>
    rw [hdoc]
    rfl
  | refused hdoc hrun =>
    obtain rfl := eq_of_refused hrun
    rw [hdoc]
    exact run_bind_of_error hrun _

/-- Items that are inserted are followed by the others.  The induction is on the items that are
inserted. -/
theorem InsertsAll.run_append (h : InsertsAll setup before s pids t) (after : List Json) :
    (insertAll setup (before ++ after)).run .none s =
      (((insertAll setup after).run .none t).1.map (pids ++ ·),
        ((insertAll setup after).run .none t).2) := by
  induction h with
  | nil s =>
    rw [List.nil_append]
    rcases (insertAll setup after).run .none s with ⟨_ | _, _⟩ <;> rfl
  | cons hdoc hinsert hrest ih =>
    rw [List.cons_append, run_insertAll_cons hdoc hinsert, ih]
    rcases (insertAll setup after).run .none _ with ⟨_ | _, _⟩ <;> rfl

theorem InsertsAll.run_insertAll (h : InsertsAll setup items s pids s') :
    (insertAll setup items).run .none s = (.ok pids, s') := by
  have hrun := h.run_append []
  rw [List.append_nil] at hrun
  rw [hrun]
  show (Except.ok (pids ++ []), s') = _
  rw [List.append_nil]

/-- The items before one that is not inserted stay inserted. -/
theorem InsertsAll.run_of_stuck (h : InsertsAll setup before s pids s')
    (hstuck : IsStuck setup item s' e) (after : List Json) :
    (insertAll setup (before ++ item :: after)).run .none s = (.error e, s') := by
  rw [h.run_append, hstuck.run_insertAll]
  rfl

/-- **All items are inserted, or those before the first that is not.**  The induction is on the
items, from any store: the rest is inserted into the store that the first has led to. -/
theorem insertAll_cases (setup : Setup) (items : List Json) (s : Store) :
    (∃ pids s', InsertsAll setup items s pids s') ∨
      ∃ before item after pids s' e, items = before ++ item :: after ∧
        InsertsAll setup before s pids s' ∧ IsStuck setup item s' e := by
  induction items generalizing s with
  | nil => exact Or.inl ⟨[], s, .nil s⟩
  | cons item items ih =>
    rcases item_cases setup item s with ⟨doc, pid, t, hdoc, hinsert⟩ | ⟨e, hstuck⟩
    · rcases ih t with ⟨pids, s', hall⟩ | ⟨before, item', after, pids, s', e, rfl, hall, hstuck⟩
      · exact Or.inl ⟨_, _, .cons hdoc hinsert hall⟩
      · exact Or.inr ⟨item :: before, item', after, _, _, e, rfl, .cons hdoc hinsert hall, hstuck⟩
    · exact Or.inr ⟨[], item, items, [], s, e, rfl, .nil s, hstuck⟩

/-- The items are accepted if and only if each is inserted after those before it. -/
theorem run_insertAll_eq_ok_iff :
    (insertAll setup items).run .none s = (.ok pids, s') ↔ InsertsAll setup items s pids s' := by
  refine ⟨fun hrun => ?_, InsertsAll.run_insertAll⟩
  rcases insertAll_cases setup items s with
    ⟨pids, t, hall⟩ | ⟨before, item, after, pids, t, e, rfl, hall, hstuck⟩
  · rw [hall.run_insertAll] at hrun
    cases hrun
    exact hall
  · rw [hall.run_of_stuck hstuck] at hrun
    cases hrun

/-- The items are refused if and only if one of them ends the import, after those before it have
been inserted. -/
theorem run_insertAll_eq_error_iff :
    (insertAll setup items).run .none s = (.error e, s') ↔
      ∃ before item after pids, items = before ++ item :: after ∧
        InsertsAll setup before s pids s' ∧ IsStuck setup item s' e := by
  constructor
  · intro hrun
    rcases insertAll_cases setup items s with
      ⟨pids, t, hall⟩ | ⟨before, item, after, pids, t, e, rfl, hall, hstuck⟩
    · rw [hall.run_insertAll] at hrun
      cases hrun
    · rw [hall.run_of_stuck hstuck] at hrun
      cases hrun
      exact ⟨before, item, after, pids, rfl, hall, hstuck⟩
  · rintro ⟨before, item, after, pids, rfl, hall, hstuck⟩
    exact hall.run_of_stuck hstuck after

/-- **What has been inserted item by item**: every identifier is new when its item comes in, so none
is there twice. -/
theorem InsertsAll.areInserted (h : InsertsAll setup items s pids s') :
    AreInserted items s pids s' := by
  induction h with
  | nil s => exact ⟨.nil, .nil, nofun, fun _ _ => rfl, rfl, rfl⟩
  | @cons item items doc s t s' pid pids hdoc hinsert hrest ih =>
    obtain ⟨draft, hdraft, hfree, rfl, ht⟩ := exists_draft_of_inserted hinsert
    have hget : ∀ other, t.problem? other =
        if other = Problem.pidOf draft.name then some (Problem.create draft)
        else s.problem? other := by
      intro other
      rw [ht]
      exact KeyMap.get?_insert _ _ _ _
    -- the problem of the first item is there when the others come in
    have hplaced : t.problem? (Problem.pidOf draft.name) = some (Problem.create draft) := by
      rw [hget, if_pos rfl]
    have hfresh : Problem.pidOf draft.name ∉ pids := by
      intro hmem
      rw [ih.isNew _ hmem] at hplaced
      cases hplaced
    have hothers : ∀ other, other ≠ Problem.pidOf draft.name →
        t.problem? other = s.problem? other := by
      intro other hne
      rw [hget, if_neg hne]
    refine ⟨.cons ?_ ih.held, List.nodup_cons.2 ⟨hfresh, ih.nodup⟩, ?_, ?_, ?_, ?_⟩
    · exact ⟨doc, draft.name, _, hdoc, hdraft.holds.name, rfl, (ih.others _ hfresh).trans hplaced,
        hdraft.toDocument_create⟩
    · intro other hother
      rcases List.mem_cons.1 hother with rfl | hmem
      · exact hfree.pid
      · rw [← hothers other fun hsame => hfresh (hsame ▸ hmem)]
        exact ih.isNew other hmem
    · intro other hother
      rw [List.mem_cons, not_or] at hother
      rw [ih.others other hother.2, hothers other hother.1]
    · rw [ih.users, ht]
    · rw [ih.submissions, ht]

/-! ## Texts -/

/-- What becomes of the items becomes of the text. -/
theorem run_importText_of_array {text : String} (htext : Json.parse? text = some (.array items))
    (s : Store) :
    (importText setup text).run .none s =
      (((insertAll setup items).run .none s).1.map .many,
        ((insertAll setup items).run .none s).2) := by
  unfold importText
  simp only [htext, bind_eq, pure_eq]
  rw [run_bind]
  rcases (insertAll setup items).run .none s with ⟨_ | _, _⟩ <;> rfl

/-- A text with an object is one insertion. -/
theorem run_importText_of_object {text : String} {v : Json} (htext : Json.parse? text = some v)
    (hdoc : v.document? = some doc) (s : Store) :
    (importText setup text).run .none s =
      (((insert setup doc).run .none s).1.map .single, ((insert setup doc).run .none s).2) := by
  unfold importText
  cases v with
  | object fields =>
    simp only [htext, hdoc, bind_eq, pure_eq]
    rw [run_bind]
    rcases (insert setup doc).run .none s with ⟨_ | _, _⟩ <;> rfl
  | _ => cases hdoc

theorem run_importText_of_malformed {text : String} (htext : Json.parse? text = none) (s : Store) :
    (importText setup text).run .none s = (.error .malformedJson, s) := by
  unfold importText
  rw [htext]
  rfl

/-- A text that is neither a list nor an object is refused. -/
theorem run_importText_of_shape {text : String} {v : Json} (htext : Json.parse? text = some v)
    (harray : v.array? = none) (hdoc : v.document? = none) (s : Store) :
    (importText setup text).run .none s = (.error .importedShape, s) := by
  unfold importText
  cases v with
  | array items => cases harray
  | _ =>
    simp only [htext, hdoc]
    rfl

/-! ## Imports -/

/-- **An import is one insertion after another.**  An import of a list succeeds if and only if all
items are objects that are inserted one after another; otherwise it fails as the first item does
that is not one, and leaves what the items before that item have led to.  The identifiers are those
of the items' names in their order, all distinct.  An import of an object is one insertion.  Any
other text is a fault of the input, and changes nothing. -/
theorem import_item_by_item (setup : Setup) (text : String) (s : Store) :
    (∀ items, Json.parse? text = some (.array items) →
      (∀ imported s', (importText setup text).run .none s = (.ok imported, s') ↔
        ∃ pids, imported = .many pids ∧ InsertsAll setup items s pids s') ∧
      ∀ e s', (importText setup text).run .none s = (.error e, s') ↔
        ∃ before item after pids, items = before ++ item :: after ∧
          InsertsAll setup before s pids s' ∧ IsStuck setup item s' e) ∧
    (∀ items pids s', InsertsAll setup items s pids s' → AreInserted items s pids s') ∧
    (∀ v doc, Json.parse? text = some v → v.document? = some doc →
      (importText setup text).run .none s =
        (((insert setup doc).run .none s).1.map .single, ((insert setup doc).run .none s).2)) ∧
    (Json.parse? text = none →
      ∃ e, e.kind = .validation ∧ (importText setup text).run .none s = (.error e, s)) ∧
    ∀ v, Json.parse? text = some v → v.array? = none → v.document? = none →
      ∃ e, e.kind = .validation ∧ (importText setup text).run .none s = (.error e, s) := by
  refine ⟨fun items htext => ?_, fun items pids s' h => h.areInserted,
    fun v doc htext hdoc => run_importText_of_object htext hdoc s,
    fun htext => ⟨_, rfl, run_importText_of_malformed htext s⟩,
    fun v htext harray hdoc => ⟨_, rfl, run_importText_of_shape htext harray hdoc s⟩⟩
  rw [run_importText_of_array htext]
  constructor
  · intro imported s'
    simp only [← run_insertAll_eq_ok_iff]
    rcases (insertAll setup items).run .none s with ⟨e | pids, t⟩ <;> simp [Except.map, eq_comm]
  · intro e s'
    rw [← run_insertAll_eq_error_iff]
    rcases (insertAll setup items).run .none s with ⟨e' | pids, t⟩ <;> simp [Except.map]

end Lifecycle

/-! ## A list with twins -/

theorem Json.eq_array_of_array? {v : Json} {items : List Json} (h : v.array? = some items) :
    v = .array items := by
  cases v <;> cases h
  rfl

/-- The value of a text, from its characters.  They are all that the kernel has to look at. -/
theorem Json.parse?_ofList (cs : List Char) :
    parse? (String.ofList cs) =
      let b := ((cs.foldl Token.Scanner.step .start).finish.foldl Tree.Builder.step .start).finish
      if b.trailing then none
      else (b.whole.value (some (parseLayers? cs.length)) depthLimit).toOption := by
  unfold parse? parseLayers? Tree.read Token.scan
  rw [String.foldl_eq_foldl_toList, String.toList_ofList, String.length_ofList]
  generalize ((cs.foldl Token.Scanner.step .start).finish.foldl Tree.Builder.step .start).finish = b
  obtain ⟨pending, expected, whole, trailing, failed⟩ := b
  cases trailing <;> rfl

namespace Sample

/-- A problem in JSON, with a name and little else. -/
def bareText (name : String) : List Char :=
  ["\x7b\"name\":\"", name, "\",\"score\":1,\"category\":", "\"\",\"grader\":\"hidden\",",
    "\"description\":\"\",\"threshold\":0\x7d"].flatMap String.toList

/-- Two problems of one name, and a number. -/
def twins : String :=
  String.ofList ('[' :: bareText "Vault" ++ ',' :: bareText "Vault" ++ ",42]".toList)

end Sample

namespace Lifecycle

/-- The second of the twins is refused.  The first stays stored beside the problem that was there,
and the number is not looked at.  One twin alone is inserted like its document; a list that is cut
off and a number alone are refused. -/
theorem import_item_by_item_of_twins :
    (∃ s', (importText Sample.setup Sample.twins).run .none Sample.store =
        (.error (.nameTaken "Vault"), s') ∧ s'.problems.size = 2 ∧
      ∃ before item after pids, Json.parse? Sample.twins = some (.array (before ++ item :: after)) ∧
        AreInserted before Sample.store pids s' ∧
        IsStuck Sample.setup item s' (.nameTaken "Vault")) ∧
      (∃ doc, let inserted := (insert Sample.setup doc).run .none Sample.store
        (importText Sample.setup (String.ofList (Sample.bareText "Vault"))).run .none Sample.store =
          (inserted.1.map .single, inserted.2)) ∧
      (∃ e, e.kind = .validation ∧
        (importText Sample.setup "[").run .none Sample.store = (.error e, Sample.store)) ∧
      ∃ e, e.kind = .validation ∧
        (importText Sample.setup "42").run .none Sample.store = (.error e, Sample.store) := by
  have htwins : ((Json.parse? Sample.twins).bind Json.array?).isSome = true := by
    unfold Sample.twins
    rw [Json.parse?_ofList]
    decide +kernel
  have hrun : (match (importText Sample.setup Sample.twins).run .none Sample.store with
      | (.error e, s') => decide (e = .nameTaken "Vault") && decide (s'.problems.size = 2)
      | (.ok _, _) => false) = true := by
    unfold importText Sample.twins
    rw [Json.parse?_ofList]
    decide +kernel
  refine ⟨?_, ?_, ?_, ?_⟩
  · rcases hout : (importText Sample.setup Sample.twins).run .none Sample.store with ⟨e | _, s'⟩
    · rw [hout] at hrun
      obtain ⟨he, hsize⟩ := Bool.and_eq_true_iff.1 hrun
      obtain rfl := of_decide_eq_true he
      obtain ⟨items, hitems⟩ := Option.isSome_iff_exists.1 htwins
      obtain ⟨v, hv, harray⟩ := Option.bind_eq_some_iff.1 hitems
      obtain rfl := Json.eq_array_of_array? harray
      obtain ⟨hlist, hinserted, -⟩ := import_item_by_item Sample.setup Sample.twins Sample.store
      obtain ⟨before, item, after, pids, rfl, hall, hstuck⟩ := ((hlist items hv).2 _ _).1 hout
      exact ⟨s', rfl, of_decide_eq_true hsize, before, item, after, pids, hv,
        hinserted _ _ _ hall, hstuck⟩
    · rw [hout] at hrun
      cases hrun
  · have htwin : ((Json.parse? (String.ofList (Sample.bareText "Vault"))).bind
        Json.document?).isSome = true := by
      rw [Json.parse?_ofList]
      decide +kernel
    obtain ⟨doc, hdoc⟩ := Option.isSome_iff_exists.1 htwin
    obtain ⟨v, hv, hdocument⟩ := Option.bind_eq_some_iff.1 hdoc
    obtain ⟨-, -, hobject, -⟩ := import_item_by_item Sample.setup
      (String.ofList (Sample.bareText "Vault")) Sample.store
    exact ⟨doc, hobject v doc hv hdocument⟩
  · have hopen : (Json.parse? (String.ofList ['['])).isNone = true := by
      rw [Json.parse?_ofList]
      decide +kernel
    obtain ⟨-, -, -, hmalformed, -⟩ := import_item_by_item Sample.setup "[" Sample.store
    exact hmalformed (Option.isNone_iff_eq_none.1 hopen)
  · have hnumber : (Json.parse? (String.ofList ['4', '2'])).bind Json.int64? = some 42 := by
      rw [Json.parse?_ofList]
      decide +kernel
    obtain ⟨v, hv, hint⟩ := Option.bind_eq_some_iff.1 hnumber
    obtain rfl := Json.eq_ofInt64_of_int64? hint
    obtain ⟨-, -, -, -, hshape⟩ := import_item_by_item Sample.setup "42" Sample.store
    exact hshape _ hv rfl rfl

end Lifecycle

end CaptureTheFlag
