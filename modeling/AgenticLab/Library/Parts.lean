import Mathlib.Data.List.Nodup

/-! # Lists made of one part for each label -/

namespace AgenticLab.Parts

universe u v w x

variable {α : Type u} {β : Type v} {γ : Type w} {κ : Type x}
  {label : γ → κ} {parts : γ → List α} {items : List γ} {item : γ}

theorem label_ne_of_nodup (hnodup : ((item :: items).map label).Nodup) {other : γ}
    (hother : other ∈ items) : label other ≠ label item := fun heq =>
  (List.nodup_cons.mp hnodup).1 (List.mem_map.mpr ⟨other, hother, heq⟩)

variable {key : α → κ} {k : κ} {first second : List α}

theorem key_ne_of_mem_flatMap (hparts : ∀ item, ∀ element ∈ parts item, key element = label item)
    (hnodup : ((item :: items).map label).Nodup) :
    ∀ element ∈ items.flatMap parts, key element ≠ label item := by
  intro element hmem
  obtain ⟨other, hother, hpart⟩ := List.mem_flatMap.mp hmem
  rw [hparts other element hpart]
  exact label_ne_of_nodup hnodup hother

variable [DecidableEq κ]

def part (key : α → κ) (k : κ) (elements : List α) : List α :=
  elements.filter fun element => key element = k

theorem mem_part {element : α} : element ∈ part key k first ↔ element ∈ first ∧ key element = k := by
  rw [part, List.mem_filter, decide_eq_true_iff]

theorem part_append_of_eq (hfirst : ∀ element ∈ first, key element = k)
    (hsecond : ∀ element ∈ second, key element ≠ k) : part key k (first ++ second) = first := by
  rw [part, List.filter_append, List.filter_eq_self.mpr, List.filter_eq_nil_iff.mpr,
    List.append_nil]
  · intro element hmem
    simpa using hsecond element hmem
  · intro element hmem
    simpa using hfirst element hmem

theorem part_append_of_ne (hfirst : ∀ element ∈ first, key element ≠ k) :
    part key k (first ++ second) = part key k second := by
  rw [part, List.filter_append, List.filter_eq_nil_iff.mpr, List.nil_append, part]
  intro element hmem
  simpa using hfirst element hmem

theorem part_flatMap (hparts : ∀ item, ∀ element ∈ parts item, key element = label item)
    (hnodup : (items.map label).Nodup) (hitem : item ∈ items) :
    part key (label item) (items.flatMap parts) = parts item := by
  induction items with
  | nil => exact absurd hitem List.not_mem_nil
  | cons other items ih =>
    rw [List.flatMap_cons]
    rcases List.mem_cons.mp hitem with rfl | hrest
    · exact part_append_of_eq (hparts item) (key_ne_of_mem_flatMap hparts hnodup)
    · rw [part_append_of_ne, ih (List.nodup_cons.mp hnodup).2 hrest]
      intro element hmem
      rw [hparts other element hmem]
      exact (label_ne_of_nodup hnodup hrest).symm

theorem flatMap_part_append (f : γ → List α → List β)
    (hfirst : ∀ element ∈ first, key element = label item)
    (hnodup : ((item :: items).map label).Nodup) :
    items.flatMap (fun other => f other (part key (label other) (first ++ second))) =
      items.flatMap fun other => f other (part key (label other) second) := by
  refine List.flatMap_congr fun other hother => ?_
  rw [part_append_of_ne]
  intro element hmem
  rw [hfirst element hmem]
  exact (label_ne_of_nodup hnodup hother).symm

theorem flatMap_part_eq (hparts : ∀ item, ∀ element ∈ parts item, key element = label item)
    (hnodup : (items.map label).Nodup) {elements : List α}
    (h : List.Sublist elements (items.flatMap parts)) :
    (items.flatMap fun item => part key (label item) elements) = elements := by
  induction items generalizing elements with
  | nil => exact (List.sublist_nil.mp h).symm
  | cons item items ih =>
    rw [List.flatMap_cons] at h
    obtain ⟨first, second, rfl, hfirst, hsecond⟩ := List.sublist_append_iff.mp h
    have hfirstkey : ∀ element ∈ first, key element = label item :=
      fun element hmem => hparts item element (hfirst.subset hmem)
    have hrest : (items.flatMap fun other => part key (label other) (first ++ second)) = second :=
      (flatMap_part_append (fun _ elements => elements) hfirstkey hnodup).trans
        (ih (List.nodup_cons.mp hnodup).2 hsecond)
    rw [List.flatMap_cons, part_append_of_eq hfirstkey, hrest]
    exact fun element hmem => key_ne_of_mem_flatMap hparts hnodup element (hsecond.subset hmem)

end AgenticLab.Parts
