import Mathlib.Data.List.Nodup

/-! # Runs of a system that takes one action after another -/

namespace Runs

variable {σ α : Type*}

/-- The states reached from `start` by actions that are allowed where they are taken. -/
inductive Reachable (step : σ → α → σ) (allowed : σ → α → Prop) (start : σ) : σ → Prop
  | start : Reachable step allowed start start
  | step {s : σ} {a : α} : Reachable step allowed start s → allowed s a →
      Reachable step allowed start (step s a)

variable {step : σ → α → σ} {allowed : σ → α → Prop} {start : σ}

/-- What holds at the start and is kept by every allowed action holds in every state. -/
theorem Reachable.invariant (inv : σ → Prop) (hstart : inv start)
    (hstep : ∀ s a, inv s → allowed s a → inv (step s a)) {s : σ}
    (h : Reachable step allowed start s) : inv s := by
  induction h with
  | start => exact hstart
  | step _ ha ih => exact hstep _ _ ih ha

/-- Actions taken in order, none of them refused. -/
def run (step : σ → α → σ) (start : σ) (actions : List α) : σ := actions.foldl step start

variable {actions : List α}

theorem reachable_run_of_allowed
    (h : ∀ a ∈ actions, ∀ s, allowed s a) : Reachable step allowed start (run step start actions) := by
  suffices hrest : ∀ s, Reachable step allowed start s →
      Reachable step allowed start (run step s actions) from hrest start .start
  induction actions with
  | nil => exact fun s hs => hs
  | cons a actions ih =>
    intro s hs
    exact ih (fun b hb => h b (List.mem_cons_of_mem a hb)) (step s a)
      (hs.step (h a List.mem_cons_self s))

def Admits (step : σ → α → σ) (allowed : σ → α → Prop) : σ → List α → Prop
  | _, [] => True
  | s, a :: actions => allowed s a ∧ Admits step allowed (step s a) actions

theorem reachable_run_of_admits (h : Admits step allowed start actions) :
    Reachable step allowed start (run step start actions) := by
  suffices hrest : ∀ s, Reachable step allowed start s → Admits step allowed s actions →
      Reachable step allowed start (run step s actions) from hrest start .start h
  clear h
  induction actions with
  | nil => exact fun s hs _ => hs
  | cons a actions ih => exact fun s hs h => ih (step s a) (hs.step h.1) h.2

theorem reachable_run (actions : List α) :
    Reachable step (fun _ _ => True) start (run step start actions) :=
  reachable_run_of_allowed fun _ _ _ => trivial

end Runs

/-! # Taking turns between two lists -/

namespace AgenticLab.Interleaving

universe u v

variable {α : Type u} {β : Type v}

def zipLongest : List α → List α → List (Option α × Option α)
  | [], second => second.map fun element => (none, some element)
  | element :: first, [] => (element :: first).map fun element => (some element, none)
  | element :: first, other :: second => (some element, some other) :: zipLongest first second

def interleave : List α → List α → List α
  | [], second => second
  | element :: first, [] => element :: first
  | element :: first, other :: second => element :: other :: interleave first second

theorem interleave_perm (first second : List α) :
    (interleave first second).Perm (first ++ second) := by
  fun_induction interleave first second with
  | case1 second => exact .refl _
  | case2 element first => simp
  | case3 element first other second ih =>
    have hmiddle : (other :: (first ++ second)).Perm (first ++ other :: second) :=
      List.perm_middle.symm
    exact ((ih.cons other).trans hmiddle).cons element

variable {first second : List α}

theorem filterMap_interleave_left (f : α → Option β) (h : ∀ element ∈ second, f element = none) :
    (interleave first second).filterMap f = first.filterMap f := by
  fun_induction interleave first second with
  | case1 second => simpa using h
  | case2 element first => rfl
  | case3 element first other second ih =>
    have hother := h other List.mem_cons_self
    have hrest := ih fun element hmem => h element (List.mem_cons_of_mem other hmem)
    simp [List.filterMap_cons, hother, hrest]

theorem filterMap_interleave_right (f : α → Option β) (h : ∀ element ∈ first, f element = none) :
    (interleave first second).filterMap f = second.filterMap f := by
  fun_induction interleave first second with
  | case1 second => rfl
  | case2 element first => simpa using h
  | case3 element first other second ih =>
    have helement := h element List.mem_cons_self
    have hrest := ih fun other hmem => h other (List.mem_cons_of_mem element hmem)
    simp [List.filterMap_cons, helement, hrest]

end AgenticLab.Interleaving
