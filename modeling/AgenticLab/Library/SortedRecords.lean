import AgenticLab.Library.KeyedStore
import Mathlib.Data.List.Sort

/-! # Lists of records in the order of their keys

Such a list is a map from keys to records, and the only one in this order. -/

namespace SortedRecords

variable {κ ρ : Type*} [LinearOrder κ] {key : ρ → κ} {records others : List ρ}

def contents (key : ρ → κ) (records : List ρ) (k : κ) : Option ρ :=
  records.find? fun record => decide (key record = k)

theorem contents_eq_some (h : (records.map key).Nodup) {k : κ} {record : ρ} :
    contents key records k = some record ↔ record ∈ records ∧ key record = k :=
  @KeyedStore.get_eq_some κ ρ _ key ⟨records, h⟩ k record

@[simp] theorem contents_cons (first : ρ) (rest : List ρ) (k : κ) :
    contents key (first :: rest) k = if key first = k then some first else contents key rest k := by
  by_cases h : key first = k <;> simp [contents, h]

theorem contents_eq_none {k : κ} (h : k ∉ records.map key) : contents key records k = none := by
  rw [contents, List.find?_eq_none]
  intro record hmem hkey
  exact h (List.mem_map.mpr ⟨record, hmem, of_decide_eq_true hkey⟩)

theorem contents_filter (keep : κ → Prop) [DecidablePred keep] (records : List ρ) (k : κ) :
    contents key (records.filter fun record => decide (keep (key record))) k =
      if keep k then contents key records k else none := by
  induction records with
  | nil => simp [contents]
  | cons first rest ih =>
    by_cases hkeep : keep (key first)
    · have hstays : (first :: rest).filter (fun record => decide (keep (key record))) =
          first :: rest.filter fun record => decide (keep (key record)) := by simp [hkeep]
      rw [hstays, contents_cons, contents_cons, ih]
      by_cases hk : key first = k
      · simp [← hk, hkeep]
      · simp [hk]
    · have hgoes : (first :: rest).filter (fun record => decide (keep (key record))) =
          rest.filter fun record => decide (keep (key record)) := by simp [hkeep]
      rw [hgoes, contents_cons, ih]
      by_cases hk : key first = k
      · simp [← hk, hkeep]
      · simp [hk]

/-- In the order of their keys, no two alike. -/
def Sorted (key : ρ → κ) (records : List ρ) : Prop := records.Pairwise fun a b => key a < key b

theorem Sorted.nodup_keys (h : Sorted key records) : (records.map key).Nodup := by
  rw [List.Nodup, List.pairwise_map]
  exact h.imp fun hlt => hlt.ne

theorem Sorted.nodup (h : Sorted key records) : records.Nodup := h.nodup_keys.of_map key

theorem sorted_of_nodup (hle : records.Pairwise fun a b => key a ≤ key b)
    (h : (records.map key).Nodup) : Sorted key records :=
  hle.imp₂ (fun _ _ hab hne => lt_of_le_of_ne hab hne) (List.pairwise_map.mp h)

theorem sorted_insertionSort (h : (records.map key).Nodup) :
    Sorted key (records.insertionSort fun a b => key a ≤ key b) := by
  have htotal : Std.Total fun a b : ρ => key a ≤ key b := ⟨fun a b => le_total (key a) (key b)⟩
  have htrans : IsTrans ρ fun a b => key a ≤ key b := ⟨fun _ _ _ => le_trans⟩
  refine sorted_of_nodup (List.pairwise_insertionSort _ _) ?_
  exact ((List.perm_insertionSort _ records).map key).nodup_iff.mpr h

theorem Sorted.eq_of_contents (h : Sorted key records) (hothers : Sorted key others)
    (hsame : contents key records = contents key others) : records = others := by
  have hmem : ∀ record, record ∈ records ↔ record ∈ others := by
    intro record
    have hfirst : contents key records (key record) = some record ↔ _ :=
      contents_eq_some h.nodup_keys
    have hsecond : contents key others (key record) = some record ↔ _ :=
      contents_eq_some hothers.nodup_keys
    rw [hsame] at hfirst
    simpa using hfirst.symm.trans hsecond
  have hperm := (List.perm_ext_iff_of_nodup h.nodup hothers.nodup).mpr hmem
  refine @List.Perm.eq_of_pairwise ρ (fun a b => key a < key b) _ _ ?_ h hothers hperm
  intro a b _ _ hab hba
  exact absurd hab hba.asymm

theorem Sorted.of_key {key' : ρ → κ} (h : Sorted key records)
    (hkey : ∀ a ∈ records, ∀ b ∈ records, key a < key b → key' a < key' b) : Sorted key' records :=
  h.imp_of_mem fun ha hb hab => hkey _ ha _ hb hab

/-- The first of the sorted records with a property comes before all others that have it. -/
theorem find?_insertionSort_eq_some {r : ρ → ρ → Prop} [DecidableRel r]
    (htotal : ∀ a b, r a b ∨ r b a) (htrans : ∀ a b c, r a b → r b c → r a c)
    (hantisymm : ∀ a ∈ records, ∀ b ∈ records, r a b → r b a → a = b) {p : ρ → Bool} {record : ρ} :
    (records.insertionSort r).find? p = some record ↔
      record ∈ records ∧ p record = true ∧ ∀ other ∈ records, p other = true → r record other := by
  have hTotal : Std.Total r := ⟨htotal⟩
  have hTrans : IsTrans ρ r := ⟨htrans⟩
  have hsorted := List.pairwise_insertionSort r records
  constructor
  · intro h
    obtain ⟨hp, before, after, hrecords, hbefore⟩ := List.find?_eq_some_iff_append.mp h
    refine ⟨(List.mem_insertionSort r).mp (List.mem_of_find?_eq_some h), hp, ?_⟩
    intro other hother hpother
    rw [← List.mem_insertionSort r, hrecords, List.mem_append, List.mem_cons] at hother
    rw [hrecords] at hsorted
    obtain hother | rfl | hother := hother
    · simpa [hpother] using hbefore other hother
    · exact (htotal other other).elim id id
    · exact (List.pairwise_cons.mp (List.pairwise_append.mp hsorted).2.1).1 other hother
  · rintro ⟨hmem, hp, hfirst⟩
    cases hfound : (records.insertionSort r).find? p with
    | none =>
      have hnone := List.find?_eq_none.mp hfound record ((List.mem_insertionSort r).mpr hmem)
      exact absurd hp hnone
    | some other =>
      obtain ⟨hother, before, after, hrecords, hbefore⟩ := List.find?_eq_some_iff_append.mp hfound
      have hmemOther : other ∈ records :=
        (List.mem_insertionSort r).mp (List.mem_of_find?_eq_some hfound)
      have hplace := (List.mem_insertionSort r).mpr hmem
      rw [hrecords, List.mem_append, List.mem_cons] at hplace
      rw [hrecords] at hsorted
      obtain hplace | rfl | hplace := hplace
      · simpa [hp] using hbefore record hplace
      · rfl
      · have hle := (List.pairwise_cons.mp (List.pairwise_append.mp hsorted).2.1).1 record hplace
        rw [hantisymm record hmem other hmemOther (hfirst other hmemOther hother) hle]

end SortedRecords
