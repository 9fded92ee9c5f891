/-!
# Maps with text keys

A finite map from texts, kept as its list of entries in strictly ascending order of the keys.  The
order of texts is that of their code points, which is also the order of their octets in UTF-8.
Two maps with the same entries are therefore equal, and every walk through a map visits the keys in
that one order.

* `get?_insert`, `get?_erase`: what a look-up finds after a change.
* `mem_entries_iff`: the entries are what look-ups find.
* `ext_get?`: a map is determined by its look-ups.
* `get?_foldl_insert`, `mapOption?_eq_some_iff`: what maps put together from others hold.
-/

namespace CaptureTheFlag

/-- A finite map from texts to values. -/
structure KeyMap (α : Type) where
  /-- The entries in ascending order of their keys. -/
  entries : List (String × α)
  ascending : entries.Pairwise fun a b => a.1 < b.1
  deriving DecidableEq

namespace KeyMap

variable {α β : Type}

/-! ## Operations on entries -/

/-- The value beside a key. -/
def lookup? (k : String) : List (String × α) → Option α
  | [] => none
  | (k', v) :: r => if k = k' then some v else lookup? k r

/-- The entries with one more, in its place; an entry with the same key gives way. -/
def place (k : String) (v : α) : List (String × α) → List (String × α)
  | [] => [(k, v)]
  | (k', v') :: r =>
    if k < k' then (k, v) :: (k', v') :: r
    else if k = k' then (k, v) :: r
    else (k', v') :: place k v r

theorem mem_place {k : String} {v : α} {e : String × α} {l : List (String × α)} :
    e ∈ place k v l → e = (k, v) ∨ e ∈ l := by
  induction l with
  | nil => simp [place]
  | cons head tail ih =>
    obtain ⟨k', v'⟩ := head
    grind [place]

theorem place_ascending {l : List (String × α)} (k : String) (v : α)
    (h : l.Pairwise fun a b => a.1 < b.1) :
    (place k v l).Pairwise fun a b => a.1 < b.1 := by
  induction l with
  | nil => simp [place]
  | cons head tail ih =>
    obtain ⟨k', v'⟩ := head
    obtain ⟨hhead, htail⟩ := List.pairwise_cons.1 h
    unfold place
    split
    · exact List.pairwise_cons.2 ⟨by grind, h⟩
    · split
      · exact List.pairwise_cons.2 ⟨by grind, htail⟩
      · refine List.pairwise_cons.2 ⟨fun e he => ?_, ih htail⟩
        rcases mem_place he with rfl | he
        · grind
        · exact hhead e he

/-! ## The operations -/

/-- The map without entries. -/
def empty : KeyMap α := ⟨[], .nil⟩

instance : EmptyCollection (KeyMap α) := ⟨empty⟩

instance : Inhabited (KeyMap α) := ⟨empty⟩

/-- The value under a key. -/
def get? (m : KeyMap α) (k : String) : Option α := lookup? k m.entries

/-- There is a value under the key. -/
def contains (m : KeyMap α) (k : String) : Bool := (m.get? k).isSome

/-- The map with the value under the key. -/
def insert (m : KeyMap α) (k : String) (v : α) : KeyMap α :=
  ⟨place k v m.entries, place_ascending k v m.ascending⟩

/-- The map with nothing under the key. -/
def erase (m : KeyMap α) (k : String) : KeyMap α :=
  ⟨m.entries.filter fun e => e.1 ≠ k, m.ascending.filter _⟩

/-- The keys in ascending order. -/
def keys (m : KeyMap α) : List String := m.entries.map (·.1)

/-- The values in ascending order of their keys. -/
def values (m : KeyMap α) : List α := m.entries.map (·.2)

def isEmpty (m : KeyMap α) : Bool := m.entries.isEmpty

def size (m : KeyMap α) : Nat := m.entries.length

/-- The map of a list of pairs; of two pairs with one key, the later counts. -/
def ofList (l : List (String × α)) : KeyMap α :=
  l.foldl (fun m e => m.insert e.1 e.2) empty

/-- The map with each value replaced by its image. -/
def map (f : α → β) (m : KeyMap α) : KeyMap β :=
  ⟨m.entries.map fun e => (e.1, f e.2), by
    simpa [List.pairwise_map] using m.ascending⟩

/-- The map with each value replaced by its image, if every value has one. -/
def mapOption? (f : α → Option β) (m : KeyMap α) : Option (KeyMap β) :=
  (m.entries.mapM fun e => (f e.2).map fun v => (e.1, v)).map ofList

/-! ## Look-ups -/

@[simp] theorem get?_empty (k : String) : (empty : KeyMap α).get? k = none := rfl

theorem lookup?_place (k k' : String) (v : α) (l : List (String × α)) :
    lookup? k' (place k v l) = if k' = k then some v else lookup? k' l := by
  induction l with
  | nil => simp [place, lookup?]
  | cons head tail ih =>
    obtain ⟨k'', v''⟩ := head
    grind [place, lookup?]

@[simp] theorem get?_insert (m : KeyMap α) (k k' : String) (v : α) :
    (m.insert k v).get? k' = if k' = k then some v else m.get? k' :=
  lookup?_place k k' v m.entries

theorem lookup?_filter_ne (k k' : String) (l : List (String × α)) :
    lookup? k' (l.filter fun e => e.1 ≠ k) = if k' = k then none else lookup? k' l := by
  induction l with
  | nil => simp [lookup?]
  | cons head tail ih =>
    obtain ⟨k'', v''⟩ := head
    grind [lookup?]

@[simp] theorem get?_erase (m : KeyMap α) (k k' : String) :
    (m.erase k).get? k' = if k' = k then none else m.get? k' :=
  lookup?_filter_ne k k' m.entries

theorem lookup?_eq_some_iff {l : List (String × α)} {k : String} {v : α}
    (h : l.Pairwise fun a b => a.1 < b.1) : lookup? k l = some v ↔ (k, v) ∈ l := by
  induction l with
  | nil => simp [lookup?]
  | cons head tail ih =>
    obtain ⟨k', v'⟩ := head
    obtain ⟨hhead, htail⟩ := List.pairwise_cons.1 h
    have := ih htail
    unfold lookup?
    split
    · subst k
      constructor
      · rintro ⟨rfl⟩
        exact List.mem_cons_self
      · intro hm
        rcases List.mem_cons.1 hm with he | hm
        · simp [(Prod.mk.inj he).2]
        · exact absurd (hhead _ hm) (by grind)
    · rw [this]
      grind

/-- The entries are what look-ups find. -/
theorem mem_entries_iff (m : KeyMap α) (k : String) (v : α) :
    (k, v) ∈ m.entries ↔ m.get? k = some v :=
  (lookup?_eq_some_iff m.ascending).symm

/-- The values are what look-ups find. -/
theorem mem_values_iff (m : KeyMap α) (v : α) : v ∈ m.values ↔ ∃ k, m.get? k = some v := by
  unfold values
  rw [List.mem_map]
  constructor
  · rintro ⟨⟨k, w⟩, he, rfl⟩
    exact ⟨k, (m.mem_entries_iff k w).1 he⟩
  · rintro ⟨k, hk⟩
    exact ⟨(k, v), (m.mem_entries_iff k v).2 hk, rfl⟩

/-- A map is determined by its entries. -/
theorem ext_entries {m m' : KeyMap α} (h : m.entries = m'.entries) : m = m' := by
  cases m; cases m'; simp_all

/-- Two strictly ascending lists with the same members are equal. -/
theorem eq_of_mem_iff {l l' : List (String × α)} (h : l.Pairwise fun a b => a.1 < b.1)
    (h' : l'.Pairwise fun a b => a.1 < b.1) (hm : ∀ e, e ∈ l ↔ e ∈ l') : l = l' := by
  induction l generalizing l' with
  | nil =>
    cases l' with
    | nil => rfl
    | cons e r => exact absurd ((hm e).2 List.mem_cons_self) (by simp)
  | cons e r ih =>
    cases l' with
    | nil => exact absurd ((hm e).1 List.mem_cons_self) (by simp)
    | cons e' r' =>
      obtain ⟨he, hr⟩ := List.pairwise_cons.1 h
      obtain ⟨he', hr'⟩ := List.pairwise_cons.1 h'
      have heq : e = e' := by
        have h₁ := (hm e).1 List.mem_cons_self
        have h₂ := (hm e').2 List.mem_cons_self
        grind
      subst heq
      have : r = r' := ih hr hr' fun x => by
        have := hm x
        grind
      rw [this]

/-- A map is determined by its look-ups. -/
theorem ext_get? {m m' : KeyMap α} (h : ∀ k, m.get? k = m'.get? k) : m = m' :=
  ext_entries <| eq_of_mem_iff m.ascending m'.ascending fun ⟨k, v⟩ => by
    rw [mem_entries_iff, mem_entries_iff, h]

/-- What is put in and taken out again is gone, with what was there before. -/
theorem erase_insert (m : KeyMap α) (k : String) (v : α) : (m.insert k v).erase k = m.erase k := by
  refine ext_get? fun k' => ?_
  rw [get?_erase, get?_erase, get?_insert]
  split <;> rfl

theorem erase_erase (m : KeyMap α) (k : String) : (m.erase k).erase k = m.erase k := by
  refine ext_get? fun k' => ?_
  rw [get?_erase, get?_erase]
  split <;> rfl

theorem erase_of_get?_eq_none {m : KeyMap α} {k : String} (h : m.get? k = none) :
    m.erase k = m := by
  refine ext_get? fun k' => ?_
  rw [get?_erase]
  split
  · next hsame => rw [hsame, h]
  · rfl

/-! ## Keys -/

theorem contains_iff (m : KeyMap α) (k : String) : m.contains k = true ↔ ∃ v, m.get? k = some v :=
  Option.isSome_iff_exists

theorem contains_eq_false_iff (m : KeyMap α) (k : String) :
    m.contains k = false ↔ m.get? k = none := by
  unfold contains
  rw [Option.isSome_eq_false_iff, Option.isNone_iff_eq_none]

/-- The keys are those under which look-ups find something. -/
theorem mem_keys_iff (m : KeyMap α) (k : String) : k ∈ m.keys ↔ ∃ v, m.get? k = some v := by
  unfold keys
  rw [List.mem_map]
  constructor
  · rintro ⟨⟨k', v⟩, he, rfl⟩
    exact ⟨v, (m.mem_entries_iff k' v).1 he⟩
  · rintro ⟨v, hv⟩
    exact ⟨(k, v), (m.mem_entries_iff k v).2 hv, rfl⟩

/-- The keys stand in strictly ascending order. -/
theorem keys_ascending (m : KeyMap α) : m.keys.Pairwise (· < ·) :=
  List.pairwise_map.2 m.ascending

theorem keys_map (f : α → β) (m : KeyMap α) : (m.map f).keys = m.keys := by
  unfold keys map
  rw [List.map_map]
  rfl

theorem get?_map (f : α → β) (m : KeyMap α) (k : String) : (m.map f).get? k = (m.get? k).map f := by
  show lookup? k (m.entries.map fun e => (e.1, f e.2)) = (lookup? k m.entries).map f
  induction m.entries with
  | nil => rfl
  | cons e r ih =>
    show (if k = e.1 then some (f e.2) else lookup? k (r.map _)) =
      Option.map f (if k = e.1 then some e.2 else lookup? k r)
    split
    · rfl
    · exact ih

/-! ## Maps of lists -/

theorem lookup?_cons (k k' : String) (v : α) (l : List (String × α)) :
    lookup? k ((k', v) :: l) = if k = k' then some v else lookup? k l := rfl

/-- Entries are put in one after another, each under an image of its key and with an image of its
value.  Under the image of a key that no other entry shares, the entry of the key decides what is
found; and if there is none, it is what was there before. -/
theorem get?_foldl_insert_image (g : String → String) (f : String → β → α) (m : KeyMap α)
    {l : List (String × β)} (h : l.Pairwise fun a b => a.1 < b.1) {k : String}
    (hk : ∀ e ∈ l, g e.1 = g k → e.1 = k) :
    (l.foldl (fun m e => m.insert (g e.1) (f e.1 e.2)) m).get? (g k) =
      ((lookup? k l).map (f k)).or (m.get? (g k)) := by
  induction l generalizing m with
  | nil => rfl
  | cons e r ih =>
    obtain ⟨k', v⟩ := e
    obtain ⟨he, hr⟩ := List.pairwise_cons.1 h
    rw [List.foldl_cons, ih _ hr fun e he => hk e (List.mem_cons_of_mem _ he), get?_insert,
      lookup?_cons]
    by_cases hkk : k = k'
    case pos =>
      subst hkk
      -- the key does not come again
      have hnone : lookup? k r = none := by
        cases hl : lookup? k r with
        | none => rfl
        | some v' => exact absurd (he _ ((lookup?_eq_some_iff hr).1 hl)) (String.lt_irrefl k)
      rw [if_pos rfl, if_pos rfl, hnone]
      rfl
    case neg =>
      have himage : g k ≠ g k' := fun h => hkk (hk _ List.mem_cons_self h.symm).symm
      rw [if_neg himage, if_neg hkk]

/-- If the keys stay, the entry decides what is found under its key, and elsewhere is what was there
before. -/
theorem get?_foldl_insert (f : String → β → α) (m : KeyMap α) {l : List (String × β)}
    (h : l.Pairwise fun a b => a.1 < b.1) (k : String) :
    (l.foldl (fun m e => m.insert e.1 (f e.1 e.2)) m).get? k =
      ((lookup? k l).map (f k)).or (m.get? k) :=
  get?_foldl_insert_image id f m h fun _ _ hk => hk

/-- The map of a map's entries is the map. -/
@[simp] theorem ofList_entries (m : KeyMap α) : ofList m.entries = m := by
  refine ext_get? fun k => ?_
  have h := get?_foldl_insert (fun _ v => v) empty m.ascending k
  rw [get?_empty, Option.or_none, Option.map_id'] at h
  exact h

theorem mem_keys_foldl_insert {l : List (String × α)} {m : KeyMap α} {k : String}
    (h : k ∈ (l.foldl (fun m e => m.insert e.1 e.2) m).keys) : k ∈ m.keys ∨ ∃ e ∈ l, e.1 = k := by
  induction l generalizing m with
  | nil => exact Or.inl h
  | cons e r ih =>
    rcases ih h with hk | ⟨e', he', hk⟩
    · rw [mem_keys_iff] at hk
      obtain ⟨v, hv⟩ := hk
      rw [get?_insert] at hv
      by_cases hke : k = e.1
      · exact Or.inr ⟨e, List.mem_cons_self, hke.symm⟩
      · rw [if_neg hke] at hv
        exact Or.inl ((mem_keys_iff m k).2 ⟨v, hv⟩)
    · exact Or.inr ⟨e', List.mem_cons_of_mem _ he', hk⟩

/-- The keys of the map of a list are keys in the list. -/
theorem mem_keys_ofList {l : List (String × α)} {k : String} (h : k ∈ (ofList l).keys) :
    ∃ e ∈ l, e.1 = k := by
  rcases mem_keys_foldl_insert h with hk | he
  · cases hk
  · exact he

theorem mapM_image_eq_some_iff {f : α → Option β} {l : List (String × α)}
    {l' : List (String × β)} :
    l.mapM (fun e => (f e.2).map fun v => (e.1, v)) = some l' ↔
      l.map (fun e => (e.1, f e.2)) = l'.map fun e => (e.1, some e.2) := by
  induction l generalizing l' with
  | nil => cases l' <;> simp
  | cons e r ih =>
    rw [List.mapM_cons, Option.bind_eq_bind, Option.bind_eq_some_iff]
    simp only [Option.bind_eq_bind, Option.bind_eq_some_iff, Option.map_eq_some_iff, ih]
    cases l' with
    | nil => simp
    | cons e' r' =>
      obtain ⟨k', v'⟩ := e'
      constructor
      · rintro ⟨_, ⟨v, hv, rfl⟩, r'', hr, heq⟩
        cases heq
        rw [List.map_cons, List.map_cons, hr, hv]
      · intro h
        rw [List.map_cons, List.map_cons] at h
        obtain ⟨he, hr⟩ := List.cons.inj h
        obtain ⟨rfl, hv⟩ := Prod.mk.inj he
        exact ⟨_, ⟨v', hv, rfl⟩, r', hr, rfl⟩

/-- The map of the images, if every value has one: side by side, the two maps have the same keys,
and every value has its image. -/
theorem mapOption?_eq_some_iff {f : α → Option β} {m : KeyMap α} {w : KeyMap β} :
    m.mapOption? f = some w ↔ m.map f = w.map some := by
  unfold mapOption?
  rw [Option.map_eq_some_iff]
  constructor
  · rintro ⟨l, hl, rfl⟩
    rw [mapM_image_eq_some_iff] at hl
    have hkeys : l.map (·.1) = m.entries.map (·.1) := by
      have h := congrArg (List.map (·.1)) hl
      rw [List.map_map, List.map_map] at h
      exact h.symm
    have hascending : l.Pairwise fun a b => a.1 < b.1 := by
      rw [← List.pairwise_map (f := Prod.fst) (R := (· < ·)), hkeys, List.pairwise_map]
      exact m.ascending
    exact ext_entries (hl.trans (congrArg (fun w => entries (map some w))
      (ofList_entries ⟨l, hascending⟩).symm))
  · intro h
    exact ⟨w.entries, mapM_image_eq_some_iff.2 (congrArg entries h), ofList_entries w⟩

/-- Taking the images keeps the keys. -/
theorem keys_of_mapOption? {f : α → Option β} {m : KeyMap α} {w : KeyMap β}
    (h : m.mapOption? f = some w) : w.keys = m.keys := by
  rw [← keys_map some w, ← mapOption?_eq_some_iff.1 h, keys_map]

end KeyMap

end CaptureTheFlag
