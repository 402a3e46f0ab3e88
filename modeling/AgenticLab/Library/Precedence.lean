import Mathlib.Data.Set.Finite.Basic
import Mathlib.Order.WellFounded

/-! # Orders that respect prerequisites

`needs a` lists what has to come ahead of `a`. -/

namespace Precedence

variable {α : Type*} (needs : α → List α)

/-- Everything listed comes behind its prerequisites, some of which are already `done`. -/
def Ordered : List α → List α → Prop
  | _, [] => True
  | done, a :: rest => needs a ⊆ done ∧ Ordered (done ++ [a]) rest

/-- Nothing needs itself, directly or through others. -/
def Acyclic : Prop := ∀ a, ¬Relation.TransGen (fun a b => b ∈ needs a) a a

variable {needs}

theorem ordered_append {done xs ys : List α} :
    Ordered needs done (xs ++ ys) ↔ Ordered needs done xs ∧ Ordered needs (done ++ xs) ys := by
  induction xs generalizing done with
  | nil => simp [Ordered]
  | cons x xs ih => simp [Ordered, ih, and_assoc]

variable {order : List α}

theorem Ordered.concat {a : α} (h : Ordered needs [] order)
    (hneeds : needs a ⊆ order) : Ordered needs [] (order ++ [a]) :=
  ordered_append.mpr ⟨h, hneeds, trivial⟩

theorem Ordered.needs_subset {order before after : List α} {a : α}
    (h : Ordered needs [] order) (heq : order = before ++ a :: after) : needs a ⊆ before := by
  subst heq
  exact (ordered_append.mp h).2.1

variable [DecidableEq α]

theorem Ordered.idxOf_lt {a b : α} (h : Ordered needs [] order)
    (ha : a ∈ order) (hb : b ∈ needs a) : order.idxOf b < order.idxOf a := by
  obtain ⟨before, after, heq, hfirst⟩ := List.eq_append_cons_of_mem ha
  have hbefore : b ∈ before := h.needs_subset heq hb
  rw [heq, List.idxOf_append_of_mem hbefore, List.idxOf_append_of_notMem hfirst,
    List.idxOf_cons_self, Nat.add_zero]
  exact List.idxOf_lt_length_of_mem hbefore

omit [DecidableEq α] in
/-- Among finitely many elements with a property one needs none of the others. -/
theorem Acyclic.exists_minimal {nodes : List α} {P : α → Prop} (h : Acyclic needs)
    (hclosed : ∀ a ∈ nodes, needs a ⊆ nodes) (hP : ∃ a ∈ nodes, P a) :
    ∃ a ∈ nodes, P a ∧ ∀ b ∈ needs a, ¬P b := by
  let later : {a // a ∈ nodes} → {a // a ∈ nodes} → Prop := fun b a =>
    Relation.TransGen (fun a b => b ∈ needs a) a.val b.val
  have : Finite {a // a ∈ nodes} := Multiset.finite_toSet (nodes : Multiset α)
  have : IsTrans {a // a ∈ nodes} later := ⟨fun _ _ _ hba hcb => hcb.trans hba⟩
  have : Std.Irrefl later := ⟨fun a => h a.val⟩
  have hwf : WellFounded later := Finite.wellFounded_of_trans_of_irrefl later
  obtain ⟨a, ha, hPa⟩ := hP
  obtain ⟨least, hleast, hmin⟩ := hwf.has_min {a | P a.val} ⟨⟨a, ha⟩, hPa⟩
  refine ⟨least.val, least.property, hleast, fun b hb hPb => ?_⟩
  exact hmin ⟨b, hclosed least.val least.property hb⟩ hPb (.single hb)

theorem Ordered.acyclic (h : Ordered needs [] order)
    (hall : ∀ a, needs a ≠ [] → a ∈ order) : Acyclic needs := by
  have hlt : ∀ a b, Relation.TransGen (fun a b => b ∈ needs a) a b →
      order.idxOf b < order.idxOf a := by
    intro a b hab
    induction hab with
    | single hstep => exact h.idxOf_lt (hall a (List.ne_nil_of_mem hstep)) hstep
    | tail _ hstep ih => exact (h.idxOf_lt (hall _ (List.ne_nil_of_mem hstep)) hstep).trans ih
  exact fun a ha => lt_irrefl _ (hlt a a ha)

/-- A queue of elements whose prerequisites are done, and those that have been taken from it. -/
structure Frontier (needs : α → List α) (nodes ready order : List α) : Prop where
  nodup : (order ++ ready).Nodup
  subset : order ++ ready ⊆ nodes
  ordered : Ordered needs [] order
  mem_iff : ∀ a ∈ nodes, a ∈ order ++ ready ↔ needs a ⊆ order

namespace Frontier

variable {nodes ready order : List α}

/-- The first element of the queue is taken, and those that only waited for it join the queue. -/
theorem step {a : α} {released : List α} (h : Frontier needs nodes (a :: ready) order)
    (hnodup : released.Nodup)
    (hreleased : ∀ b, b ∈ released ↔ b ∈ nodes ∧ a ∈ needs b ∧ needs b ⊆ order ++ [a]) :
    Frontier needs nodes (ready ++ released) (order ++ [a]) := by
  have heq : (order ++ [a]) ++ (ready ++ released) = (order ++ a :: ready) ++ released := by simp
  have hneeds : needs a ⊆ order :=
    (h.mem_iff a (h.subset (by simp))).mp (by simp)
  have hfresh : ∀ b ∈ order ++ a :: ready, b ∉ released := by
    intro b hb hmem
    obtain ⟨hnode, hwaits, _⟩ := (hreleased b).mp hmem
    have hdone := (h.mem_iff b hnode).mp hb hwaits
    exact (List.disjoint_of_nodup_append h.nodup) hdone List.mem_cons_self
  refine ⟨?_, ?_, h.ordered.concat hneeds, fun b hb => ?_⟩
  · rw [heq]
    exact List.nodup_append'.mpr ⟨h.nodup, hnodup, fun b hb hmem => hfresh b hb hmem⟩
  · rw [heq]
    exact List.append_subset.mpr ⟨h.subset, fun b hb => ((hreleased b).mp hb).1⟩
  · rw [heq, List.mem_append, h.mem_iff b hb, hreleased]
    constructor
    · intro hmem
      rcases hmem with hdone | ⟨_, _, hdone⟩
      · exact List.subset_append_of_subset_left [a] hdone
      · exact hdone
    · intro hdone
      by_cases hwaits : a ∈ needs b
      · exact .inr ⟨hb, hwaits, hdone⟩
      · left
        intro c hc
        rcases List.mem_append.mp (hdone hc) with hmem | hmem
        · exact hmem
        · rw [List.mem_singleton.mp hmem] at hc
          exact absurd hc hwaits

theorem perm_of_acyclic (h : Frontier needs nodes [] order) (hnodes : nodes.Nodup)
    (hclosed : ∀ a ∈ nodes, needs a ⊆ nodes) (hacyclic : Acyclic needs) : order.Perm nodes := by
  have hsubset : order ⊆ nodes := by simpa using h.subset
  refine (List.perm_ext_iff_of_nodup (by simpa using h.nodup) hnodes).mpr
    fun a => ⟨fun ha => hsubset ha, fun ha => ?_⟩
  by_contra hnot
  obtain ⟨least, hnode, hwaits, hneeds⟩ :=
    hacyclic.exists_minimal (P := fun a => a ∉ order) hclosed ⟨a, ha, hnot⟩
  have hdone : least ∈ order ++ [] := (h.mem_iff least hnode).mpr fun b hb =>
    not_not.mp (hneeds b hb)
  exact hwaits (by simpa using hdone)

end Frontier

end Precedence
