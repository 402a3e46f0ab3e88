import Mathlib.Data.List.Nodup

/-! # Stores of records under unique keys

The records stand in the order of their insertion. A record may carry a version, which tells a
copy that was read from the record that is stored by now. -/

structure KeyedStore (κ ρ : Type*) (key : ρ → κ) where
  records : List ρ
  nodup : (records.map key).Nodup

namespace KeyedStore

variable {κ ρ : Type*} [DecidableEq κ] {key : ρ → κ}

def empty : KeyedStore κ ρ key := ⟨[], List.nodup_nil⟩

def get (store : KeyedStore κ ρ key) (k : κ) : Option ρ :=
  store.records.find? fun record => decide (key record = k)

theorem get_eq_some {store : KeyedStore κ ρ key} {k : κ} {record : ρ} :
    store.get k = some record ↔ record ∈ store.records ∧ key record = k := by
  constructor
  · intro h
    have hkey := List.find?_some h
    exact ⟨List.mem_of_find?_eq_some h, of_decide_eq_true hkey⟩
  · rintro ⟨hmem, rfl⟩
    cases hget : store.get (key record) with
    | none =>
      have hne := List.find?_eq_none.mp hget record hmem
      exact absurd (decide_eq_true rfl) hne
    | some other =>
      have hother := List.mem_of_find?_eq_some hget
      have hkey := List.find?_some hget
      rw [List.inj_on_of_nodup_map store.nodup hother hmem (of_decide_eq_true hkey)]

theorem get_eq_none {store : KeyedStore κ ρ key} {k : κ} :
    store.get k = none ↔ ∀ record ∈ store.records, key record ≠ k := by
  simp [get]

theorem get_of_mem {store : KeyedStore κ ρ key} {record : ρ} (h : record ∈ store.records) :
    store.get (key record) = some record := get_eq_some.mpr ⟨h, rfl⟩

theorem find?_reverse_eq_some {records : List ρ} (hnodup : (records.map key).Nodup) {k : κ}
    {record : ρ} : (records.reverse.find? fun other => decide (key other = k)) = some record ↔
      record ∈ records ∧ key record = k := by
  have hreverse : (records.reverse.map key).Nodup := by
    rwa [List.map_reverse, List.nodup_reverse]
  have hget := @get_eq_some κ ρ _ key ⟨records.reverse, hreverse⟩ k record
  rwa [List.mem_reverse] at hget

theorem key_of_get {store : KeyedStore κ ρ key} {k : κ} {record : ρ}
    (h : store.get k = some record) : key record = k := (get_eq_some.mp h).2

def insert (store : KeyedStore κ ρ key) (record : ρ) (h : store.get (key record) = none) :
    KeyedStore κ ρ key where
  records := store.records ++ [record]
  nodup := by
    rw [List.map_append, List.map_singleton, List.nodup_append]
    refine ⟨store.nodup, List.nodup_singleton _, ?_⟩
    intro k hk other hother heq
    obtain ⟨stored, hstored, rfl⟩ := List.mem_map.mp hk
    rw [List.mem_singleton] at hother
    exact get_eq_none.mp h stored hstored (heq.trans hother)

theorem mem_insert {store : KeyedStore κ ρ key} {record other : ρ}
    {h : store.get (key record) = none} :
    other ∈ (store.insert record h).records ↔ other ∈ store.records ∨ other = record := by
  simp [insert]

theorem get_insert {store : KeyedStore κ ρ key} {record : ρ}
    (h : store.get (key record) = none) (k : κ) :
    (store.insert record h).get k = if k = key record then some record else store.get k := by
  by_cases hk : k = key record
  · rw [if_pos hk, get_eq_some]
    exact ⟨mem_insert.mpr (.inr rfl), hk.symm⟩
  · rw [if_neg hk, get, insert, List.find?_append]
    have hne : ¬key record = k := fun heq => hk heq.symm
    simp [get, hne]

theorem isSome_get_insert {store : KeyedStore κ ρ key} {record : ρ} {k : κ}
    (h : store.get (key record) = none) (hk : (store.get k).isSome) :
    ((store.insert record h).get k).isSome := by
  rw [get_insert]
  split_ifs
  · rfl
  · exact hk

/-! ## Replacement -/

def replace (store : KeyedStore κ ρ key) (record : ρ) : KeyedStore κ ρ key where
  records := store.records.map fun other => if key other = key record then record else other
  nodup := by
    have hkeys : (store.records.map fun other =>
        if key other = key record then record else other).map key = store.records.map key := by
      rw [List.map_map]
      apply List.map_congr_left
      intro other _
      rw [Function.comp_apply]
      split_ifs with heq
      · exact heq.symm
      · rfl
    rw [hkeys]
    exact store.nodup

theorem get_replace {store : KeyedStore κ ρ key} {record : ρ}
    (h : store.get (key record) ≠ none) (k : κ) :
    (store.replace record).get k = if k = key record then some record else store.get k := by
  by_cases hk : k = key record
  · obtain ⟨stored, hstored⟩ := Option.ne_none_iff_exists'.mp h
    obtain ⟨hmem, hkey⟩ := get_eq_some.mp hstored
    rw [if_pos hk, get_eq_some]
    refine ⟨List.mem_map.mpr ⟨stored, hmem, if_pos hkey⟩, hk.symm⟩
  · rw [if_neg hk]
    apply Option.ext
    intro other
    rw [get_eq_some, get_eq_some, replace, List.mem_map]
    constructor
    · rintro ⟨⟨stored, hmem, rfl⟩, hkey⟩
      split_ifs at hkey ⊢ with heq
      · exact absurd hkey.symm hk
      · exact ⟨hmem, hkey⟩
    · rintro ⟨hmem, hkey⟩
      exact ⟨⟨other, hmem, if_neg (hkey ▸ hk)⟩, hkey⟩

theorem mem_replace {store : KeyedStore κ ρ key} {record other : ρ}
    (h : other ∈ (store.replace record).records) : other ∈ store.records ∨ other = record := by
  obtain ⟨stored, hmem, rfl⟩ := List.mem_map.mp h
  split_ifs
  · exact .inr rfl
  · exact .inl hmem

theorem isSome_get_replace {store : KeyedStore κ ρ key} {record : ρ} {k : κ}
    (h : store.get (key record) ≠ none) (hk : (store.get k).isSome) :
    ((store.replace record).get k).isSome := by
  rw [get_replace h]
  split_ifs
  · rfl
  · exact hk

theorem mem_replace_iff {store : KeyedStore κ ρ key} {record other : ρ}
    (h : store.get (key record) ≠ none) :
    other ∈ (store.replace record).records ↔
      other = record ∨ other ∈ store.records ∧ key other ≠ key record := by
  have hget := get_replace h (key other)
  constructor
  · intro hother
    rw [get_of_mem hother] at hget
    split_ifs at hget with hkey
    · exact .inl (Option.some.inj hget)
    · exact .inr ⟨(get_eq_some.mp hget.symm).1, hkey⟩
  · rintro (rfl | ⟨hother, hkey⟩)
    · rw [if_pos rfl] at hget
      exact (get_eq_some.mp hget).1
    · rw [if_neg hkey, get_of_mem hother] at hget
      exact (get_eq_some.mp hget).1

theorem exists_records_replace {store : KeyedStore κ ρ key} {record stored : ρ}
    (h : store.get (key record) = some stored) :
    ∃ before after, store.records = before ++ stored :: after ∧
      (store.replace record).records = before ++ record :: after := by
  obtain ⟨hmem, hkey⟩ := get_eq_some.mp h
  obtain ⟨before, after, hrecords⟩ := List.append_of_mem hmem
  have hnodup := store.nodup
  rw [hrecords, List.map_append, List.map_cons, hkey] at hnodup
  have hothers : ∀ other ∈ before ++ after, key other ≠ key record := by
    intro other hother heq
    have hmiddle := List.nodup_middle.mp hnodup
    rw [← List.map_append] at hmiddle
    exact (List.nodup_cons.mp hmiddle).1 (heq ▸ List.mem_map_of_mem hother)
  have hkeep : ∀ others : List ρ, (∀ other ∈ others, key other ≠ key record) →
      (others.map fun other => if key other = key record then record else other) = others := by
    intro others hne
    rw [List.map_congr_left fun other hother => if_neg (hne other hother), List.map_id']
  refine ⟨before, after, hrecords, ?_⟩
  change store.records.map _ = _
  rw [hrecords, List.map_append, List.map_cons, if_pos hkey,
    hkeep before fun other hother => hothers other (List.mem_append_left after hother),
    hkeep after fun other hother => hothers other (List.mem_append_right before hother)]

theorem countP_replace {store : KeyedStore κ ρ key} {record stored : ρ} (p : ρ → Bool)
    (h : store.get (key record) = some stored) :
    (store.replace record).records.countP p + (if p stored then 1 else 0) =
      store.records.countP p + (if p record then 1 else 0) := by
  obtain ⟨before, after, hrecords, hreplaced⟩ := exists_records_replace h
  rw [hrecords, hreplaced, List.countP_append, List.countP_append, List.countP_cons,
    List.countP_cons]
  omega

def erase (store : KeyedStore κ ρ key) (k : κ) : KeyedStore κ ρ key where
  records := store.records.filter fun record => decide (key record ≠ k)
  nodup := store.nodup.sublist (List.filter_sublist.map key)

theorem mem_erase {store : KeyedStore κ ρ key} {k : κ} {record : ρ} :
    record ∈ (store.erase k).records ↔ record ∈ store.records ∧ key record ≠ k := by
  simp [erase]

theorem get_erase {store : KeyedStore κ ρ key} {k other : κ} :
    (store.erase k).get other = if other = k then none else store.get other := by
  apply Option.ext
  intro record
  rw [get_eq_some, mem_erase]
  split_ifs with h
  · simp only [reduceCtorEq, iff_false]
    rintro ⟨⟨_, hne⟩, hkey⟩
    exact hne (hkey.trans h)
  · rw [get_eq_some]
    constructor
    · rintro ⟨⟨hmem, _⟩, hkey⟩
      exact ⟨hmem, hkey⟩
    · rintro ⟨hmem, hkey⟩
      exact ⟨⟨hmem, hkey ▸ h⟩, hkey⟩

variable (version : ρ → ℕ)

/-- The record stored under the key of a copy is the copy itself or a later version. -/
def IsCopy (store : KeyedStore κ ρ key) (copy : ρ) : Prop :=
  ∃ stored, store.get (key copy) = some stored ∧ (version copy < version stored ∨ stored = copy)

variable {version}

theorem isCopy_of_mem {store : KeyedStore κ ρ key} {record : ρ} (h : record ∈ store.records) :
    store.IsCopy version record := ⟨record, get_of_mem h, .inr rfl⟩

theorem IsCopy.eq {store : KeyedStore κ ρ key} {copy stored : ρ} (h : store.IsCopy version copy)
    (hget : store.get (key copy) = some stored) (hversion : version stored = version copy) :
    stored = copy := by
  obtain ⟨other, hother, hle⟩ := h
  obtain rfl := Option.some.inj (hother.symm.trans hget)
  exact hle.resolve_left (by omega)

theorem IsCopy.insert {store : KeyedStore κ ρ key} {copy record : ρ} (h : store.IsCopy version copy)
    (hnone : store.get (key record) = none) : (store.insert record hnone).IsCopy version copy := by
  obtain ⟨stored, hstored, hle⟩ := h
  refine ⟨stored, ?_, hle⟩
  have hne : key copy ≠ key record := by
    intro heq
    rw [heq, hnone] at hstored
    cases hstored
  rw [get_insert, if_neg hne, hstored]

theorem IsCopy.replace {store : KeyedStore κ ρ key} {copy record stored : ρ}
    (h : store.IsCopy version copy) (hget : store.get (key record) = some stored)
    (hversion : version stored < version record) : (store.replace record).IsCopy version copy := by
  have hne : store.get (key record) ≠ none := by
    rw [hget]
    exact Option.some_ne_none stored
  obtain ⟨other, hother, hle⟩ := h
  by_cases heq : key copy = key record
  · refine ⟨record, ?_, .inl ?_⟩
    · rw [get_replace hne, if_pos heq]
    · rw [heq, hget] at hother
      obtain rfl := Option.some.inj hother
      rcases hle with hlt | rfl
      · exact Nat.lt_trans hlt hversion
      · exact hversion
  · refine ⟨other, ?_, hle⟩
    rw [get_replace hne, if_neg heq, hother]

end KeyedStore
