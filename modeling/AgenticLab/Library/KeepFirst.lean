import Mathlib.Data.List.Nodup

/-! # Keeping the first of what clashes -/

namespace AgenticLab.KeepFirst

universe u

variable {α : Type u} (clash : α → α → Prop) [DecidableRel clash]

def keep (kept : List α) : List α → List α
  | [] => kept
  | element :: elements =>
    if ∃ earlier ∈ kept, clash earlier element then keep kept elements
    else keep (kept ++ [element]) elements

variable {clash} {kept elements : List α}

theorem keep_append (first second : List α) :
    keep clash kept (first ++ second) = keep clash (keep clash kept first) second := by
  induction first generalizing kept with
  | nil => rfl
  | cons element first ih =>
    rw [List.cons_append, keep, keep]
    split
    · exact ih
    · exact ih

theorem isPrefix_keep : kept <+: keep clash kept elements := by
  induction elements generalizing kept with
  | nil => exact List.prefix_rfl
  | cons element elements ih =>
    rw [keep]
    split
    · exact ih
    · exact (List.prefix_append kept [element]).trans ih

theorem sublist_keep : List.Sublist (keep clash kept elements) (kept ++ elements) := by
  induction elements generalizing kept with
  | nil => simp [keep]
  | cons element elements ih =>
    rw [keep]
    split
    · exact ih.trans ((List.sublist_cons_self element elements).append_left kept)
    · have hrest := @ih (kept ++ [element])
      simpa using hrest

theorem sublist_of_keep_eq {more : List α} (h : keep clash kept elements = kept ++ more) :
    List.Sublist more elements := by
  have hsublist : List.Sublist (keep clash kept elements) (kept ++ elements) := sublist_keep
  rw [h] at hsublist
  exact List.append_sublist_append_left kept |>.mp hsublist

theorem keep_nil_sublist : List.Sublist (keep clash [] elements) elements :=
  sublist_of_keep_eq (List.nil_append _).symm

theorem pairwise_keep (h : kept.Pairwise fun earlier later => ¬clash earlier later) :
    (keep clash kept elements).Pairwise fun earlier later => ¬clash earlier later := by
  induction elements generalizing kept with
  | nil => exact h
  | cons element elements ih =>
    rw [keep]
    split
    case isTrue => exact ih h
    case isFalse hfree =>
      refine ih (List.pairwise_append.mpr ⟨h, List.pairwise_singleton _ _, ?_⟩)
      intro earlier hearlier later hlater
      rw [List.mem_singleton.mp hlater]
      exact fun hclash => hfree ⟨earlier, hearlier, hclash⟩

/-- An element is missing exactly when it clashes with one that is kept before it. -/
theorem not_mem_keep_iff {before after : List α} {element : α}
    (hnodup : (before ++ element :: after).Nodup) :
    element ∉ keep clash [] (before ++ element :: after) ↔
      ∃ earlier ∈ before, earlier ∈ keep clash [] (before ++ element :: after) ∧
        clash earlier element := by
  have hparts := List.nodup_append.mp hnodup
  have hbefore : element ∉ before := fun h => hparts.2.2 element h element List.mem_cons_self rfl
  have hsublist : List.Sublist (keep clash [] before) ([] ++ before) := sublist_keep
  have hsubset : ∀ x, x ∈ keep clash [] before → x ∈ before := fun x hx => hsublist.subset hx
  have hafter : element ∉ after := (List.nodup_cons.mp hparts.2.1).1
  rw [keep_append, keep]
  have hearlier : ∀ x ∈ before, ∀ start : List α, (∀ y ∈ start, y ∈ keep clash [] before ∨
      y = element) → x ∈ keep clash start after → x ∈ keep clash [] before := by
    intro x hx start hstart hmem
    rcases List.mem_append.mp (sublist_keep.subset hmem) with h | h
    · rcases hstart x h with hkept | rfl
      · exact hkept
      · exact absurd hx hbefore
    · exact absurd rfl (hparts.2.2 x hx x (List.mem_cons_of_mem _ h))
  split
  case isTrue hclash =>
    refine iff_of_true (fun hmem => ?_) ?_
    · rcases List.mem_append.mp (sublist_keep.subset hmem) with h | h
      · exact hbefore (hsubset element h)
      · exact hafter h
    · obtain ⟨earlier, hkept, hclash⟩ := hclash
      exact ⟨earlier, hsubset earlier hkept, isPrefix_keep.subset hkept, hclash⟩
  case isFalse hfree =>
    refine iff_of_false (fun h => h (isPrefix_keep.subset (List.mem_append_right _ ?_))) ?_
    · exact List.mem_singleton_self element
    · rintro ⟨earlier, hmem, hkept, hclash⟩
      refine hfree ⟨earlier, hearlier earlier hmem _ (fun y hy => ?_) hkept, hclash⟩
      rcases List.mem_append.mp hy with h | h
      · exact .inl h
      · exact .inr (List.mem_singleton.mp h)

end AgenticLab.KeepFirst
