import Mathlib.Data.List.Basic

/-! # The shortest prefix with a property -/

namespace AgenticLab.Prefixes

universe u

variable {α : Type u}

structure IsLeast (goal : List α → Prop) (elements chosen : List α) : Prop where
  initial : chosen <+: elements
  reached : goal chosen
  least : ∀ other, other <+: elements → goal other → chosen.length ≤ other.length

variable {goal : List α → Prop} {elements chosen : List α}

theorem isLeast_nil (h : goal []) : IsLeast goal elements [] where
  initial := List.nil_prefix
  reached := h
  least _ _ _ := Nat.zero_le _

theorem IsLeast.cons {element : α} (hnil : ¬goal [])
    (h : IsLeast (fun rest => goal (element :: rest)) elements chosen) :
    IsLeast goal (element :: elements) (element :: chosen) where
  initial := List.cons_prefix_cons.mpr ⟨rfl, h.initial⟩
  reached := h.reached
  least other hother hgoal := by
    cases other with
    | nil => exact absurd hgoal hnil
    | cons first rest =>
      obtain ⟨rfl, hrest⟩ := List.cons_prefix_cons.mp hother
      exact Nat.succ_le_succ (h.least rest hrest hgoal)

theorem IsLeast.not_of_concat {chosen : List α} {last : α}
    (h : IsLeast goal elements (chosen ++ [last])) : ¬goal chosen := by
  intro hgoal
  have hlength := h.least chosen ((List.prefix_append chosen [last]).trans h.initial) hgoal
  rw [List.length_append, List.length_singleton] at hlength
  omega

theorem IsLeast.eq_nil (h : IsLeast goal elements chosen) (hnil : goal []) : chosen = [] :=
  List.eq_nil_of_length_eq_zero (Nat.le_zero.mp (h.least [] List.nil_prefix hnil))

end AgenticLab.Prefixes
