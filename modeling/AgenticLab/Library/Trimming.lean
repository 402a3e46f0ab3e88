import Mathlib.Data.List.DropRight

/-! # Trimming a text on both sides -/

namespace AgenticLab.Trimming

variable {α : Type*} {space narrow : α → Bool}

/-- `text` is `core` between parts that hold spaces only. -/
structure Trim (space : α → Bool) (text lead core trail : List α) : Prop where
  text_eq : text = lead ++ (core ++ trail)
  lead_space : ∀ element ∈ lead, space element = true
  trail_space : ∀ element ∈ trail, space element = true
  head_text : ∃ first rest, core = first :: rest ∧ space first = false
  last_text : ∃ front last, core = front ++ [last] ∧ space last = false

theorem rdropWhile_append_of_all {text trail : List α}
    (h : ∀ element ∈ trail, space element = true) :
    (text ++ trail).rdropWhile space = text.rdropWhile space := by
  rw [List.rdropWhile, List.reverse_append, List.dropWhile_append_of_pos, List.rdropWhile]
  intro element hmem
  exact h element (List.mem_reverse.mp hmem)

theorem rdropWhile_concat_append {front trail : List α} {last : α} (h : space last = false) :
    (front ++ [last] ++ trail).rdropWhile space = front ++ [last] ++ trail.rdropWhile space := by
  induction trail using List.reverseRecOn with
  | nil => simp [h]
  | append_singleton trail element ih =>
    rw [← List.append_assoc, List.rdropWhile_concat, List.rdropWhile_concat]
    split_ifs
    · exact ih
    · exact List.append_assoc _ _ _

theorem exists_trim {text : List α} (h : ∃ element ∈ text, space element = false) :
    ∃ lead core trail, Trim space text lead core trail := by
  obtain ⟨element, hmem, hspace⟩ := h
  have hrest : text.dropWhile space ≠ [] := by
    intro hnil
    rw [List.dropWhile_eq_nil_iff.mp hnil element hmem] at hspace
    exact absurd hspace (by decide)
  obtain ⟨first, rest, hfirst⟩ := List.exists_cons_of_ne_nil hrest
  have hhead : space first = false := by
    have hnot := List.head?_dropWhile_not space text
    rw [hfirst] at hnot
    simpa using hnot
  have hcore : (text.dropWhile space).rdropWhile space ≠ [] := by
    rw [Ne, List.rdropWhile_eq_nil_iff]
    intro hall
    rw [hall first (hfirst ▸ List.mem_cons_self)] at hhead
    exact absurd hhead (by decide)
  refine ⟨text.takeWhile space, (text.dropWhile space).rdropWhile space,
    (text.dropWhile space).rtakeWhile space, ?_, ?_, ?_, ?_, ?_⟩
  · rw [List.rdropWhile_append_rtakeWhile, List.takeWhile_append_dropWhile]
  · exact fun _ => List.mem_takeWhile_imp
  · exact fun _ => List.mem_rtakeWhile_imp
  · obtain ⟨head, tail, hcons⟩ := List.exists_cons_of_ne_nil hcore
    have hprefix := List.rdropWhile_prefix space (text.dropWhile space)
    rw [hcons, hfirst] at hprefix
    have heq := (List.cons_prefix_cons.mp hprefix).1
    exact ⟨head, tail, hcons, heq ▸ hhead⟩
  · refine ⟨_, _, (List.dropLast_append_getLast hcore).symm, ?_⟩
    exact Bool.eq_false_iff.mpr (List.rdropWhile_last_not space _ hcore)

namespace Trim

variable {text lead core trail : List α}

theorem dropWhile_eq (h : Trim space text lead core trail) :
    text.dropWhile space = core ++ trail := by
  obtain ⟨first, rest, rfl, hfirst⟩ := h.head_text
  rw [h.text_eq, List.dropWhile_append_of_pos h.lead_space, List.cons_append]
  exact List.dropWhile_cons_of_neg (by simp [hfirst])

theorem rdropWhile (h : Trim space text lead core trail)
    (hnarrow : ∀ element, narrow element = true → space element = true) :
    Trim space (text.rdropWhile narrow) lead core (trail.rdropWhile narrow) := by
  refine ⟨?_, h.lead_space, ?_, h.head_text, h.last_text⟩
  · obtain ⟨front, last, rfl, hlast⟩ := h.last_text
    have hkeep : narrow last = false := by
      by_contra hne
      rw [hnarrow last (Bool.not_eq_false _ |>.mp hne)] at hlast
      exact absurd hlast (by decide)
    rw [h.text_eq, ← List.append_assoc, ← List.append_assoc, rdropWhile_concat_append hkeep]
    simp
  · intro element hmem
    exact h.trail_space element ((List.rdropWhile_prefix narrow trail).subset hmem)

theorem rdropWhile_eq (h : Trim space text lead core trail) :
    text.rdropWhile space = lead ++ core := by
  obtain ⟨front, last, rfl, hlast⟩ := h.last_text
  rw [h.text_eq, ← List.append_assoc, rdropWhile_append_of_all h.trail_space, ← List.append_assoc]
  exact List.rdropWhile_concat_neg _ _ _ (by simp [hlast])

end Trim

end AgenticLab.Trimming
