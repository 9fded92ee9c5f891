import CaptureTheFlag.Proofs.Problem.ReadBack
import CaptureTheFlag.Proofs.Text.Blank

/-!
# Rules on documents, and the first that is broken

A document is checked by one rule after another.  If it breaks some, the first of them decides the
failure, whatever the others would say.

* `Failure.forM_eq_error_iff`: checks made one after another fail with the first that fails.
* `Schema.Form`: what the value of a field has to be, told by its constructors.
* `Schema.Rule`, `Schema.Rule.Breaks`: a rule, and the failure of a document that breaks it.
* `Schema.Rule.check_eq_error_iff`: the check of a rule fails with what the document breaks of it.
* `Schema.HasOptional.getD_eq`: an optional field that is read, told from how its values are
  written.
-/

namespace CaptureTheFlag

/-! ## Checks one after another -/

namespace Failure

variable {α β ι : Type}

/-- Checks made one after another fail with the first that fails, by induction on the checks. -/
theorem forM_eq_error_iff {check : α → Except Failure Unit} {l : List α} {e : Failure} :
    forM l check = .error e ↔
      ∃ before x after, l = before ++ x :: after ∧ (∀ y ∈ before, check y = .ok ()) ∧
        check x = .error e := by
  induction l with
  | nil =>
    constructor
    · intro h
      cases h
    · rintro ⟨before, x, after, h, -⟩
      cases before <;> cases h
  | cons y r ih =>
    rw [List.forM_cons]
    cases hy : check y with
    | error e' =>
      constructor
      · intro h
        have he : check y = .error e := hy.trans h
        exact ⟨[], y, r, rfl, by simp, he⟩
      · rintro ⟨before, x, after, hl, hbefore, hx⟩
        cases before with
        | nil =>
          obtain ⟨rfl, -⟩ := List.cons.inj hl
          exact hy.symm.trans hx
        | cons z before =>
          obtain ⟨rfl, -⟩ := List.cons.inj hl
          have hpassed : check y = .ok () := hbefore y List.mem_cons_self
          rw [hy] at hpassed
          cases hpassed
    | ok u =>
      show forM r check = .error e ↔ _
      rw [ih]
      constructor
      · rintro ⟨before, x, after, rfl, hbefore, hx⟩
        refine ⟨y :: before, x, after, rfl, ?_, hx⟩
        intro z hz
        rcases List.mem_cons.1 hz with rfl | hz
        · exact hy
        · exact hbefore z hz
      · rintro ⟨before, x, after, hl, hbefore, hx⟩
        cases before with
        | nil =>
          obtain ⟨rfl, -⟩ := List.cons.inj hl
          rw [hy] at hx
          cases hx
        | cons z before =>
          obtain ⟨-, rfl⟩ := List.cons.inj hl
          exact ⟨before, x, after, rfl, fun z hz => hbefore z (List.mem_cons_of_mem _ hz), hx⟩

/-- Checks made one after another pass if each of them does. -/
theorem forM_eq_ok_iff {check : α → Except Failure Unit} {l : List α} :
    forM l check = .ok () ↔ ∀ x ∈ l, check x = .ok () := by
  induction l with
  | nil =>
    constructor
    · intro _ x hx
      cases hx
    · intro _
      rfl
  | cons y r ih =>
    rw [List.forM_cons, bind_eq_ok_iff]
    constructor
    · rintro ⟨u, hy, hr⟩ x hx
      rcases List.mem_cons.1 hx with rfl | hx
      · exact hy
      · exact ih.1 hr x hx
    · intro h
      exact ⟨(), h y List.mem_cons_self, ih.2 fun x hx => h x (List.mem_cons_of_mem _ hx)⟩

/-- A failure stays whatever is made of the value. -/
theorem map_eq_error_iff {x : Except Failure α} {f : α → β} {e : Failure} :
    x.map f = .error e ↔ x = .error e := by
  cases x with
  | error e' =>
    show Except.error e' = .error e ↔ _
    rw [Except.error.injEq, Except.error.injEq]
  | ok a =>
    constructor <;>
    · intro h
      cases h

/-- Checks with values are checks without values, if no check depends on what another has read. -/
theorem map_bind_eq_forM {x : Except Failure α} {f : α → Except Failure β}
    {check : ι → Except Failure Unit} {first rest : List ι}
    (hfirst : x.map (fun _ => ()) = forM first check)
    (hrest : ∀ a, (f a).map (fun _ => ()) = forM rest check) :
    (x >>= f).map (fun _ => ()) = forM (first ++ rest) check := by
  rw [List.forM_append, ← hfirst]
  cases x with
  | error e => rfl
  | ok a => exact hrest a

theorem forM_singleton {check : ι → Except Failure Unit} (x : ι) : forM [x] check = check x := by
  rw [List.forM_cons]
  cases check x <;> rfl

theorem map_unit (x : Except Failure Unit) : x.map (fun _ => ()) = x := by
  cases x <;> rfl

end Failure

namespace KeyMap

variable {α β : Type}

/-- A map has an image if every value has one. -/
theorem exists_mapOption?_iff [Inhabited β] {f : α → Option β} {m : KeyMap α} :
    (∃ w, m.mapOption? f = some w) ↔ ∀ v ∈ m.values, ∃ x, f v = some x := by
  constructor
  · rintro ⟨w, hw⟩ v hv
    obtain ⟨k, hk⟩ := (m.mem_values_iff v).1 hv
    have hsame := congrArg (KeyMap.get? · k) (mapOption?_eq_some_iff.1 hw)
    simp only [get?_map, hk, Option.map_some] at hsame
    cases hwk : w.get? k with
    | none =>
      rw [hwk] at hsame
      cases hsame
    | some x =>
      rw [hwk] at hsame
      exact ⟨x, Option.some.inj hsame⟩
  · intro h
    refine ⟨m.map fun v => (f v).getD default, mapOption?_eq_some_iff.2 (ext_get? fun k => ?_)⟩
    simp only [get?_map]
    cases hk : m.get? k with
    | none => rfl
    | some v =>
      obtain ⟨x, hx⟩ := h v ((m.mem_values_iff v).2 ⟨k, hk⟩)
      simp [hx]

end KeyMap

namespace Schema

/-! ## Forms -/

/-- What the value of a field has to be. -/
inductive Form where
  | string
  | nonNegative
  | bool
  | strings
  | integers
  deriving DecidableEq, Repr

namespace Form

/-- What a value of the form says. -/
def Content : Form → Type
  | .string => String
  | .nonNegative => Int64
  | .bool => Bool
  | .strings => List String
  | .integers => KeyMap Int64

/-- The reading of the values of the form. -/
def reading : (form : Form) → Json → Option form.Content
  | .string => Json.string?
  | .nonNegative => nonNegative?
  | .bool => Json.bool?
  | .strings => strings?
  | .integers => integers?

/-- The value has the form.  Integers have to fit 64 bits with a sign, and what was written with a
fraction or an exponent is no integer. -/
def Fits : Form → Json → Prop
  | .string, v => ∃ s, v = .string s
  | .nonNegative, v => ∃ n : Int, v = .integer n ∧ 0 ≤ n ∧ n ≤ Int64.maxValue.toInt
  | .bool, v => ∃ b, v = .bool b
  | .strings, v => ∃ l : List String, v = .array (l.map .string)
  | .integers, v => ∃ d, v.document? = some d ∧
      ∀ w ∈ d.values, ∃ n : Int, w = .integer n ∧ Int64.minValue.toInt ≤ n ∧
        n ≤ Int64.maxValue.toInt

end Form

theorem exists_int64?_iff {v : Json} :
    (∃ n, v.int64? = some n) ↔
      ∃ n : Int, v = .integer n ∧ Int64.minValue.toInt ≤ n ∧ n ≤ Int64.maxValue.toInt := by
  constructor
  · rintro ⟨n, hn⟩
    exact ⟨n.toInt, Json.eq_ofInt64_of_int64? hn, n.minValue_le_toInt, n.toInt_le⟩
  · rintro ⟨n, rfl, hfits⟩
    exact ⟨Int64.ofInt n, if_pos hfits⟩

theorem exists_nonNegative?_iff {v : Json} :
    (∃ n, nonNegative? v = some n) ↔
      ∃ n : Int, v = .integer n ∧ 0 ≤ n ∧ n ≤ Int64.maxValue.toInt := by
  constructor
  · rintro ⟨n, hn⟩
    have hnonneg : 0 ≤ n := of_decide_eq_true (Option.filter_eq_some_iff.1 hn).2
    exact ⟨n.toInt, eq_ofInt64_of_nonNegative? hn, Int64.le_iff_toInt_le.1 hnonneg, n.toInt_le⟩
  · rintro ⟨n, rfl, hlow, hhigh⟩
    have hmin : Int64.minValue.toInt ≤ n := Int.le_trans (by decide) hlow
    have hmax : n < 2 ^ 63 := Int.lt_of_le_of_lt hhigh (by decide)
    have hint : (Int64.ofInt n).toInt = n := Int64.toInt_ofInt_of_le hmin hmax
    have hnonneg : 0 ≤ Int64.ofInt n := by
      rw [Int64.le_iff_toInt_le, hint]
      exact hlow
    have hn := nonNegative?_ofInt64 hnonneg
    rw [Json.ofInt64, hint] at hn
    exact ⟨_, hn⟩

theorem exists_integers?_iff {v : Json} :
    (∃ w, integers? v = some w) ↔ ∃ d, v.document? = some d ∧
      ∀ w ∈ d.values, ∃ n : Int, w = .integer n ∧ Int64.minValue.toInt ≤ n ∧
        n ≤ Int64.maxValue.toInt := by
  unfold integers?
  cases hv : v.document? with
  | none => simp
  | some d =>
    simp only [Option.bind_some, Option.some.injEq, exists_eq_left']
    rw [KeyMap.exists_mapOption?_iff]
    simp only [exists_int64?_iff]

/-- **The values of a form are those that have a reading.** -/
theorem Form.exists_reading_iff (form : Form) (v : Json) :
    (∃ x, form.reading v = some x) ↔ form.Fits v := by
  cases form with
  | string =>
    constructor
    · rintro ⟨s, hs⟩
      exact ⟨s, Json.eq_string_of_string? hs⟩
    · rintro ⟨s, rfl⟩
      exact ⟨s, rfl⟩
  | nonNegative => exact exists_nonNegative?_iff
  | bool =>
    constructor
    · rintro ⟨b, hb⟩
      exact ⟨b, Json.eq_bool_of_bool? hb⟩
    · rintro ⟨b, rfl⟩
      exact ⟨b, rfl⟩
  | strings =>
    constructor
    · rintro ⟨l, hl⟩
      exact ⟨l, eq_ofStrings_of_strings? hl⟩
    · rintro ⟨l, rfl⟩
      exact ⟨l, strings?_ofStrings l⟩
  | integers => exact exists_integers?_iff

theorem Form.reading_eq_none_iff (form : Form) (v : Json) :
    form.reading v = none ↔ ¬form.Fits v := by
  rw [← form.exists_reading_iff, ← Option.not_isSome_iff_eq_none, Option.isSome_iff_exists]

/-! ## Failures -/

section Failures

variable {α : Type} {d : Document} {field complaint : String} {reading : Json → Option α}
  {e : Failure}

theorem required_eq_error_iff :
    required d field complaint reading = .error e ↔
      (d.get? field = none ∧ e = .missingField field) ∨
        ∃ v, d.get? field = some v ∧ reading v = none ∧ e = .badField complaint := by
  unfold required
  cases d.get? field with
  | none => simp [eq_comm]
  | some v => cases hv : reading v <;> simp [hv, eq_comm]

theorem optional_eq_error_iff :
    optional d field complaint reading = .error e ↔
      ∃ v, d.get? field = some v ∧ v ≠ .null ∧ reading v = none ∧ e = .badField complaint := by
  unfold optional
  split
  · next hget => simp [hget]
  · next hget => simp [hget]
  · next v hne hget =>
    have hnull : v ≠ .null := fun h => hne h
    rw [hget]
    cases hv : reading v <;> simp [hv, hnull, eq_comm]

end Failures

/-! ## Rules -/

/-- A rule on documents, with the complaint about a document that breaks it. -/
inductive Rule where
  /-- The document has no fields but these. -/
  | onlyFields (allowed : List String)
  /-- The field is absent. -/
  | forbidden (field complaint : String)
  /-- The field is there, and its value has the form. -/
  | required (field complaint : String) (form : Form)
  /-- If the field is a text, there is something to see in it. -/
  | visible (field complaint : String)
  /-- If the field is there and not null, its value has the form. -/
  | optional (field complaint : String) (form : Form)
  deriving DecidableEq, Repr

namespace Rule

/-- If the field is a text, there is something to see in it. -/
def checkVisible (d : Document) (field complaint : String) : Except Failure Unit :=
  match (d.get? field).bind Json.string? with
  | some s => if (Text.trim s).isEmpty then .error (.badField complaint) else .ok ()
  | none => .ok ()

/-- The check of a rule. -/
def check (d : Document) : Rule → Except Failure Unit
  | .onlyFields allowed => Schema.onlyFields d allowed
  | .forbidden field complaint => Schema.forbidden d field complaint
  | .required field complaint form =>
    (Schema.required d field complaint form.reading).map fun _ => ()
  | .visible field complaint => checkVisible d field complaint
  | .optional field complaint form =>
    (Schema.optional d field complaint form.reading).map fun _ => ()

/-- The document breaks the rule, and this is the failure. -/
inductive Breaks (d : Document) : Rule → Failure → Prop where
  /-- Of the fields that are not allowed, the least is named. -/
  | unknown {allowed : List String} {field : String} (hfield : field ∈ d.keys)
      (hunknown : field ∉ allowed) (hleast : ∀ other ∈ d.keys, other ∉ allowed → field ≤ other) :
      Breaks d (.onlyFields allowed) (.unknownField field)
  | present {field complaint : String} {v : Json} (h : d.get? field = some v) :
      Breaks d (.forbidden field complaint) (.badField complaint)
  | missing {field complaint : String} {form : Form} (h : d.get? field = none) :
      Breaks d (.required field complaint form) (.missingField field)
  | unfit {field complaint : String} {form : Form} {v : Json} (h : d.get? field = some v)
      (hunfit : ¬form.Fits v) : Breaks d (.required field complaint form) (.badField complaint)
  | blank {field complaint s : String} (h : d.get? field = some (.string s))
      (hblank : ∀ c ∈ s.toList, Text.isBlank c = true) :
      Breaks d (.visible field complaint) (.badField complaint)
  | unfitThere {field complaint : String} {form : Form} {v : Json} (h : d.get? field = some v)
      (hne : v ≠ .null) (hunfit : ¬form.Fits v) :
      Breaks d (.optional field complaint form) (.badField complaint)

/-- The document does not break the rule. -/
def IsKept (d : Document) (rule : Rule) : Prop := ∀ e, ¬rule.Breaks d e

/-- Whoever breaks a rule is told so as a fault of the input. -/
theorem Breaks.kind_eq {d : Document} {rule : Rule} {e : Failure} (h : rule.Breaks d e) :
    e.kind = .validation := by
  cases h <;> rfl

variable {d : Document}

theorem onlyFields_eq_error_iff {allowed : List String} {e : Failure} :
    Schema.onlyFields d allowed = .error e ↔ Breaks d (.onlyFields allowed) e := by
  unfold Schema.onlyFields
  have hascending : d.keys.Pairwise (· < ·) := d.keys_ascending
  cases hfind : d.keys.find? (· ∉ allowed) with
  | none =>
    constructor
    · intro h
      cases h
    · intro h
      cases h with
      | unknown hfield hunknown _ =>
        rw [List.find?_eq_none] at hfind
        exact absurd (decide_eq_true hunknown) (hfind _ hfield)
  | some k =>
    -- the keys before the one that is found are allowed, and those behind it are greater
    obtain ⟨hk, before, after, hkeys, hbefore⟩ := List.find?_eq_some_iff_append.1 hfind
    have hunknown : k ∉ allowed := of_decide_eq_true hk
    have hleast : ∀ other ∈ d.keys, other ∉ allowed → k ≤ other := by
      intro other hother hnot
      rw [hkeys, List.mem_append, List.mem_cons] at hother
      rcases hother with hother | rfl | hother
      · have hallowed := hbefore other hother
        simp [hnot] at hallowed
      · exact String.le_refl other
      · rw [hkeys, List.pairwise_append, List.pairwise_cons] at hascending
        exact Std.le_of_lt (hascending.2.1.1 other hother)
    constructor
    · intro h
      cases h
      exact .unknown (List.mem_of_find?_eq_some hfind) hunknown hleast
    · intro h
      cases h with
      | @unknown _ field hfield hnot hleast' =>
        have hsame : k = field := String.le_antisymm (hleast field hfield hnot)
          (hleast' k (List.mem_of_find?_eq_some hfind) hunknown)
        rw [hsame]

theorem forbidden_eq_error_iff {field complaint : String} {e : Failure} :
    Schema.forbidden d field complaint = .error e ↔ Breaks d (.forbidden field complaint) e := by
  unfold Schema.forbidden KeyMap.contains
  cases hget : d.get? field with
  | none =>
    constructor
    · intro h
      cases h
    · intro h
      cases h with
      | present h =>
        rw [hget] at h
        cases h
  | some v =>
    constructor
    · intro h
      cases h
      exact .present hget
    · intro h
      cases h
      rfl

theorem map_required_eq_error_iff {field complaint : String} {form : Form} {e : Failure} :
    (Schema.required d field complaint form.reading).map (fun _ => ()) = .error e ↔
      Breaks d (.required field complaint form) e := by
  rw [Failure.map_eq_error_iff, required_eq_error_iff]
  constructor
  · rintro (⟨hget, rfl⟩ | ⟨v, hget, hread, rfl⟩)
    · exact .missing hget
    · exact .unfit hget ((form.reading_eq_none_iff v).1 hread)
  · intro h
    cases h with
    | missing h => exact Or.inl ⟨h, rfl⟩
    | unfit h hunfit => exact Or.inr ⟨_, h, (form.reading_eq_none_iff _).2 hunfit, rfl⟩

theorem checkVisible_eq_error_iff {field complaint : String} {e : Failure} :
    checkVisible d field complaint = .error e ↔ Breaks d (.visible field complaint) e := by
  have hblank (s : String) :
      (Text.trim s).isEmpty = true ↔ ∀ c ∈ s.toList, Text.isBlank c = true := by
    rw [String.isEmpty_iff, Text.trim_eq_empty_iff]
  unfold checkVisible
  constructor
  · intro h
    split at h
    · next s hread =>
      obtain ⟨v, hget, hv⟩ := Option.bind_eq_some_iff.1 hread
      rw [Json.eq_string_of_string? hv] at hget
      split at h
      · next hempty =>
        cases h
        exact .blank hget ((hblank s).1 hempty)
      · cases h
    · cases h
  · intro h
    cases h with
    | @blank _ _ s hget hall =>
      have hread : (d.get? field).bind Json.string? = some s := by
        rw [hget]
        rfl
      rw [hread]
      exact if_pos ((hblank s).2 hall)

theorem map_optional_eq_error_iff {field complaint : String} {form : Form} {e : Failure} :
    (Schema.optional d field complaint form.reading).map (fun _ => ()) = .error e ↔
      Breaks d (.optional field complaint form) e := by
  rw [Failure.map_eq_error_iff, optional_eq_error_iff]
  constructor
  · rintro ⟨v, hget, hne, hread, rfl⟩
    exact .unfitThere hget hne ((form.reading_eq_none_iff v).1 hread)
  · intro h
    cases h with
    | unfitThere h hne hunfit => exact ⟨_, h, hne, (form.reading_eq_none_iff _).2 hunfit, rfl⟩

/-- **The check of a rule fails with what the document breaks of it.** -/
theorem check_eq_error_iff {rule : Rule} {e : Failure} :
    rule.check d = .error e ↔ rule.Breaks d e := by
  cases rule with
  | onlyFields allowed => exact onlyFields_eq_error_iff
  | forbidden field complaint => exact forbidden_eq_error_iff
  | required field complaint form => exact map_required_eq_error_iff
  | visible field complaint => exact checkVisible_eq_error_iff
  | optional field complaint form => exact map_optional_eq_error_iff

/-- The check of a rule passes if the document does not break it. -/
theorem check_eq_ok_iff {rule : Rule} : rule.check d = .ok () ↔ rule.IsKept d := by
  constructor
  · intro h e hbreaks
    rw [check_eq_error_iff.2 hbreaks] at h
    cases h
  · intro h
    cases hcheck : rule.check d with
    | ok u => rfl
    | error e => exact absurd (check_eq_error_iff.1 hcheck) (h e)

end Rule

end Schema

/-! ## Rules that are kept -/

namespace Schema

/-- The field is there, and its value has the form. -/
def Form.IsRequired (form : Form) (d : Document) (field : String) : Prop :=
  ∃ v, d.get? field = some v ∧ form.Fits v

/-- The field is absent or null, or its value has the form. -/
def Form.IsOptional (form : Form) (d : Document) (field : String) : Prop :=
  ∀ v, d.get? field = some v → v ≠ .null → form.Fits v

namespace Rule

variable {d : Document} {field complaint : String} {form : Form}

theorem isKept_onlyFields_iff {allowed : List String} :
    IsKept d (.onlyFields allowed) ↔ ∀ k ∈ d.keys, k ∈ allowed := by
  rw [← check_eq_ok_iff]
  exact onlyFields_eq_ok_iff

theorem isKept_forbidden_iff : IsKept d (.forbidden field complaint) ↔ d.get? field = none := by
  rw [← check_eq_ok_iff]
  exact forbidden_eq_ok_iff

theorem isKept_required_iff :
    IsKept d (.required field complaint form) ↔ form.IsRequired d field := by
  constructor
  · intro h
    cases hget : d.get? field with
    | none => exact absurd (.missing hget) (h _)
    | some v =>
      by_contra hnot
      exact h _ (.unfit hget fun hfits => hnot ⟨v, hget, hfits⟩)
  · rintro ⟨v, hget, hfits⟩ e hbreaks
    cases hbreaks with
    | missing h =>
      rw [hget] at h
      cases h
    | unfit h hunfit =>
      rw [hget] at h
      cases h
      exact hunfit hfits

theorem isKept_visible_iff :
    IsKept d (.visible field complaint) ↔
      ∀ s, d.get? field = some (.string s) → ∃ c ∈ s.toList, Text.isBlank c = false := by
  constructor
  · intro h s hget
    by_contra hnone
    refine h _ (.blank hget fun c hc => ?_)
    by_contra hvisible
    exact hnone ⟨c, hc, Bool.eq_false_iff.2 hvisible⟩
  · rintro h e hbreaks
    cases hbreaks with
    | blank hget hblank =>
      obtain ⟨c, hc, hvisible⟩ := h _ hget
      rw [hblank c hc] at hvisible
      cases hvisible

theorem isKept_optional_iff :
    IsKept d (.optional field complaint form) ↔ form.IsOptional d field := by
  constructor
  · intro h v hget hne
    by_contra hunfit
    exact h _ (.unfitThere hget hne hunfit)
  · intro h e hbreaks
    cases hbreaks with
    | unfitThere hget hne hunfit => exact hunfit (h _ hget hne)

end Rule

/-! ## Values as they are written -/

variable {α : Type} {d : Document} {field : String} {reading : Json → Option α}

/-- A field that is read is told from how its values are written. -/
theorem Has.get?_eq {x : α} (h : Has d field reading x) {written : α → Json}
    (hread : ∀ {v x}, reading v = some x → v = written x) : d.get? field = some (written x) := by
  obtain ⟨v, hget, hv⟩ := h
  rw [hget, hread hv]

/-- An optional field that is read is told from how its values are written. -/
theorem HasOptional.getD_eq {x? : Option α} (h : HasOptional d field reading x?)
    {written : α → Json} (hread : ∀ {v x}, reading v = some x → v = written x) :
    (d.get? field).getD .null = (x?.map written).getD .null := by
  cases h with
  | absent h =>
    rw [h]
    rfl
  | null h =>
    rw [h]
    rfl
  | present h =>
    rw [h.get?_eq hread]
    rfl

/-- And the values that are written are read. -/
theorem hasOptional_of_getD_eq {x? : Option α} {written : α → Json}
    (h : (d.get? field).getD .null = (x?.map written).getD .null)
    (hread : ∀ x, reading (written x) = some x) (hne : ∀ x, written x ≠ .null) :
    HasOptional d field reading x? := by
  cases x? with
  | none =>
    cases hget : d.get? field with
    | none => exact .absent hget
    | some v =>
      rw [hget] at h
      obtain rfl : v = .null := h
      exact .null hget
  | some x =>
    cases hget : d.get? field with
    | none =>
      rw [hget] at h
      exact absurd h.symm (hne x)
    | some v =>
      rw [hget] at h
      obtain rfl : v = written x := h
      exact .present ⟨_, hget, hread x⟩

/-- Weights that are read are the values of the object. -/
theorem document?_of_integers? {v : Json} {w : KeyMap Int64} (h : integers? v = some w) :
    v.document? = some (w.map .ofInt64) := by
  obtain ⟨m, hm, -⟩ := Option.bind_eq_some_iff.1 h
  rw [hm, eq_map_of_integers? (d := m)]
  unfold integers?
  rw [Json.document?_ofDocument, ← hm]
  exact h

theorem HasOptional.document?_eq {w? : Option (KeyMap Int64)}
    (h : HasOptional d field integers? w?) :
    (d.get? field).bind Json.document? = w?.map (·.map .ofInt64) := by
  cases h with
  | absent h =>
    rw [h]
    rfl
  | null h =>
    rw [h]
    rfl
  | present h =>
    obtain ⟨v, hget, hread⟩ := h
    rw [hget]
    exact document?_of_integers? hread

theorem hasOptional_integers?_of_document? {w? : Option (KeyMap Int64)}
    (h : (d.get? field).bind Json.document? = w?.map (·.map .ofInt64))
    (hform : Form.integers.IsOptional d field) : HasOptional d field integers? w? := by
  cases hget : d.get? field with
  | none =>
    rw [hget] at h
    cases w? with
    | none => exact .absent hget
    | some w => cases h
  | some v =>
    rw [hget, Option.bind_some] at h
    cases w? with
    | none =>
      -- a value that is neither null nor an object does not have the form
      by_cases hnull : v = .null
      · rw [hnull] at hget
        exact .null hget
      · obtain ⟨m, hm, -⟩ := hform v hget hnull
        rw [hm] at h
        cases h
    | some w =>
      refine .present ⟨v, hget, ?_⟩
      have hv : integers? v = integers? (.ofDocument (w.map .ofInt64)) := by
        unfold integers?
        rw [h, Json.document?_ofDocument]
        rfl
      rw [hv, integers?_ofDocument]

end Schema

end CaptureTheFlag
