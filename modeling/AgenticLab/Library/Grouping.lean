import Mathlib.Data.List.Nodup

/-! # Values collected under their keys

The groups stand in the order in which their keys come up first. -/

namespace Grouping

variable {κ α β : Type*} [DecidableEq κ]

def append (key : κ) (value : β) : List (κ × List β) → List (κ × List β)
  | [] => [(key, [value])]
  | (other, values) :: groups =>
    if other = key then (other, values ++ [value]) :: groups
    else (other, values) :: append key value groups

variable {key : κ} {value : β} {groups : List (κ × List β)}

theorem keys_append : (append key value groups).map Prod.fst =
    if key ∈ groups.map Prod.fst then groups.map Prod.fst else groups.map Prod.fst ++ [key] := by
  induction groups with
  | nil => rfl
  | cons group groups ih =>
    obtain ⟨other, values⟩ := group
    rw [append]
    by_cases hother : other = key
    · simp [hother]
    · have hne : key ≠ other := fun h => hother h.symm
      rw [if_neg hother, List.map_cons, ih]
      simp only [List.map_cons, List.mem_cons, hne, false_or]
      split_ifs <;> rfl

theorem mem_append (hnodup : (groups.map Prod.fst).Nodup) {group : κ × List β}
    (h : group ∈ append key value groups) :
    group ∈ groups ∧ group.1 ≠ key ∨
      group.1 = key ∧ ∃ values, group.2 = values ++ [value] ∧
        ((key, values) ∈ groups ∨ values = [] ∧ key ∉ groups.map Prod.fst) := by
  induction groups with
  | nil =>
    obtain rfl := List.mem_singleton.mp h
    exact .inr ⟨rfl, [], rfl, .inr ⟨rfl, List.not_mem_nil⟩⟩
  | cons first groups ih =>
    obtain ⟨other, values⟩ := first
    obtain ⟨hfirst, hrest⟩ := List.nodup_cons.mp hnodup
    rw [append] at h
    split_ifs at h with hother
    · rcases List.mem_cons.mp h with rfl | hmem
      · exact .inr ⟨hother, values, rfl, .inl (hother ▸ List.mem_cons_self)⟩
      · refine .inl ⟨List.mem_cons_of_mem _ hmem, fun hkey => hfirst ?_⟩
        exact List.mem_map.mpr ⟨group, hmem, hkey.trans hother.symm⟩
    · rcases List.mem_cons.mp h with rfl | hmem
      · exact .inl ⟨List.mem_cons_self, hother⟩
      · rcases ih hrest hmem with ⟨hold, hne⟩ | ⟨hkey, kept, hgroup, hkept | ⟨hnil, hnew⟩⟩
        · exact .inl ⟨List.mem_cons_of_mem _ hold, hne⟩
        · exact .inr ⟨hkey, kept, hgroup, .inl (List.mem_cons_of_mem _ hkept)⟩
        · refine .inr ⟨hkey, kept, hgroup, .inr ⟨hnil, ?_⟩⟩
          exact List.not_mem_cons_of_ne_of_not_mem (fun heq => hother heq.symm) hnew

theorem flatten_append : ((append key value groups).map Prod.snd).flatten.Perm
    ((groups.map Prod.snd).flatten ++ [value]) := by
  induction groups with
  | nil => exact .refl _
  | cons group groups ih =>
    obtain ⟨other, values⟩ := group
    rw [append]
    split_ifs
    · simp only [List.map_cons, List.flatten_cons, List.append_assoc]
      exact List.Perm.append_left _ List.perm_append_comm
    · simp only [List.map_cons, List.flatten_cons, List.append_assoc]
      exact ih.append_left _

/-- What the groups are behind the items of `seen`, each with its key and its value. -/
structure Grouped (key : α → κ) (value : α → β) (seen : List α) (groups : List (κ × List β)) :
    Prop where
  nodup : (groups.map Prod.fst).Nodup
  members : ∀ group ∈ groups, group.2 = (seen.filter fun item => key item = group.1).map value
  keys : ∀ k, k ∈ groups.map Prod.fst ↔ ∃ item ∈ seen, key item = k
  perm : (groups.map Prod.snd).flatten.Perm (seen.map value)

variable {key : α → κ} {value : α → β} {seen : List α}

theorem grouped_nil (key : α → κ) (value : α → β) : Grouped key value [] [] :=
  ⟨List.nodup_nil, nofun, by simp, .refl _⟩

theorem Grouped.append (h : Grouped key value seen groups) (item : α) :
    Grouped key value (seen ++ [item]) (append (key item) (value item) groups) := by
  refine ⟨?_, ?_, ?_, ?_⟩
  · rw [keys_append]
    split_ifs with hmem
    · exact h.nodup
    · rw [List.nodup_append]
      refine ⟨h.nodup, List.nodup_singleton _, ?_⟩
      rintro a ha b hb rfl
      exact hmem (List.mem_singleton.mp hb ▸ ha)
  · intro group hgroup
    rw [List.filter_append, List.map_append]
    rcases mem_append h.nodup hgroup with ⟨hold, hne⟩ | ⟨hkey, values, hvalues, hfrom⟩
    · have hnot : ¬key item = group.1 := fun heq => hne heq.symm
      simp [h.members group hold, hnot]
    · have hbefore : values = (seen.filter fun other => key other = key item).map value := by
        rcases hfrom with hold | ⟨hnil, hnew⟩
        · exact h.members _ hold
        · rw [hnil, List.filter_eq_nil_iff.mpr, List.map_nil]
          intro other hother hsame
          exact hnew ((h.keys _).mpr ⟨other, hother, of_decide_eq_true hsame⟩)
      rw [hvalues, hbefore, hkey]
      simp
  · intro k
    rw [keys_append]
    split_ifs with hmem
    · rw [h.keys]
      constructor
      · rintro ⟨other, hother, hk⟩
        exact ⟨other, List.mem_append_left _ hother, hk⟩
      · rintro ⟨other, hother, hk⟩
        rcases List.mem_append.mp hother with hold | hnew
        · exact ⟨other, hold, hk⟩
        · obtain rfl := List.mem_singleton.mp hnew
          exact (h.keys k).mp (hk ▸ hmem)
    · rw [List.mem_append, h.keys]
      simp [or_and_right, exists_or, eq_comm]
  · refine flatten_append.trans ?_
    rw [List.map_append]
    exact h.perm.append_right _

def groupBy (key : α → κ) (items : List α) : List (κ × List α) :=
  items.foldl (fun groups item => append (key item) item groups) []

theorem Grouped.foldl {groups : List (κ × List α)} (h : Grouped key id seen groups)
    (items : List α) :
    Grouped key id (seen ++ items)
      (items.foldl (fun groups item => Grouping.append (key item) item groups) groups) := by
  induction items generalizing seen groups with
  | nil => simpa using h
  | cons item items ih =>
    rw [List.append_cons]
    exact ih (h.append item)

theorem grouped_groupBy (key : α → κ) (items : List α) :
    Grouped key id items (groupBy key items) := (grouped_nil key id).foldl items

end Grouping
