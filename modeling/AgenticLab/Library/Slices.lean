import Mathlib.Algebra.Order.Group.Nat
import Mathlib.Data.List.Basic
import Mathlib.Data.List.TakeDrop

/-! # Slices of lists

A slice is named by the positions where it starts and stops. -/

namespace Slices

variable {α : Type*} {xs : List α}

/-- `xs[start:stop]` -/
def slice (xs : List α) (start stop : ℕ) : List α := (xs.drop start).take (stop - start)

theorem length_slice {start stop : ℕ} (h : stop ≤ xs.length) :
    (slice xs start stop).length = stop - start := by
  simp only [slice, List.length_take, List.length_drop]
  omega

end Slices

/-! # Overlapping windows

A list is read through windows of one size. Each starts a fixed number of elements ahead of the
end of the one before it. -/

namespace Windows

open Slices (slice)

/-- The ranges of the windows, from `start` to the first that reaches the end. -/
def windows (size overlap length : ℕ) (h : overlap < size) (start : ℕ) : List (ℕ × ℕ) :=
  if length ≤ start then []
  else if length ≤ start + size then [(start, length)]
  else (start, start + size) :: windows size overlap length h (start + size - overlap)
termination_by length - start

variable {size overlap length : ℕ} {h : overlap < size} {start : ℕ}

/-- One window is followed by another. -/
structure Follows (size overlap : ℕ) (before after : ℕ × ℕ) : Prop where
  full : before.2 = before.1 + size
  overlap : after.1 + overlap = before.2
  further : before.2 < after.2

theorem Follows.start_lt {before after : ℕ × ℕ} (hsize : overlap < size)
    (hfollows : Follows size overlap before after) : before.1 < after.1 := by
  have hfull := hfollows.full
  have hoverlap := hfollows.overlap
  omega

theorem windows_of_lt (hstart : start < length) :
    windows size overlap length h start =
      (start, min (start + size) length) ::
        if length ≤ start + size then [] else
          windows size overlap length h (start + size - overlap) := by
  rw [windows, if_neg (by omega)]
  by_cases hlast : length ≤ start + size
  · rw [if_pos hlast, if_pos hlast, Nat.min_eq_right hlast]
  · rw [if_neg hlast, if_neg hlast, Nat.min_eq_left (by omega)]

theorem bounds {window : ℕ × ℕ} (hmem : window ∈ windows size overlap length h start) :
    start ≤ window.1 ∧ window.1 < window.2 ∧ window.2 ≤ length ∧
      window.2 - window.1 ≤ size := by
  induction start using windows.induct size overlap length h with
  | case1 start hend =>
    rw [windows, if_pos hend] at hmem
    exact absurd hmem List.not_mem_nil
  | case2 start hstart hlast =>
    rw [windows, if_neg hstart, if_pos hlast] at hmem
    rw [List.mem_singleton.mp hmem]
    omega
  | case3 start hstart hmore ih =>
    rw [windows, if_neg hstart, if_neg hmore] at hmem
    rcases List.mem_cons.mp hmem with rfl | hlater
    · dsimp only
      omega
    · have hbounds := ih hlater
      omega

theorem isChain : (windows size overlap length h start).IsChain (Follows size overlap) := by
  induction start using windows.induct size overlap length h with
  | case1 start hend =>
    rw [windows, if_pos hend]
    exact .nil
  | case2 start hstart hlast =>
    rw [windows, if_neg hstart, if_pos hlast]
    exact .singleton _
  | case3 start hstart hmore ih =>
    rw [windows, if_neg hstart, if_neg hmore, windows_of_lt (by omega)]
    rw [windows_of_lt (by omega)] at ih
    refine .cons_cons ⟨rfl, ?_, ?_⟩ ih
    · dsimp only
      omega
    · dsimp only
      omega

theorem covers {position : ℕ} (hstart : start ≤ position) (hend : position < length) :
    ∃ window ∈ windows size overlap length h start,
      window.1 ≤ position ∧ position < window.2 := by
  induction start using windows.induct size overlap length h with
  | case1 start hdone => omega
  | case2 start hnot hlast =>
    rw [windows, if_neg hnot, if_pos hlast]
    exact ⟨_, List.mem_singleton_self _, hstart, hend⟩
  | case3 start hnot hmore ih =>
    rw [windows, if_neg hnot, if_neg hmore]
    by_cases hfirst : position < start + size
    · exact ⟨_, List.mem_cons_self, hstart, hfirst⟩
    · obtain ⟨window, hmem, hcovers⟩ := ih (by omega)
      exact ⟨window, List.mem_cons_of_mem _ hmem, hcovers⟩

/-- The first window with what each later one adds to it. -/
def reassemble {α : Type*} (overlap : ℕ) : List (List α) → List α
  | [] => []
  | first :: rest => first ++ (rest.map (List.drop overlap)).flatten

theorem reassemble_cons_cons {α : Type*} {first next : List α} {rest : List (List α)}
    (hnext : overlap ≤ next.length) :
    reassemble overlap (first :: next :: rest) =
      first ++ (reassemble overlap (next :: rest)).drop overlap := by
  simp [reassemble, List.drop_append_of_le_length hnext]

theorem reassemble_windows {α : Type*} {xs : List α} (hlength : xs.length = length)
    (hstart : start < length) :
    reassemble overlap ((windows size overlap length h start).map
      fun window => slice xs window.1 window.2) = xs.drop start := by
  induction start using windows.induct size overlap length h with
  | case1 start hdone => omega
  | case2 start hnot hlast =>
    rw [windows, if_neg hnot, if_pos hlast]
    simp [reassemble, slice, ← hlength]
  | case3 start hnot hmore ih =>
    have hrest := ih (by omega)
    have hsplit : xs.drop start =
        slice xs start (start + size) ++ xs.drop (start + size) := by
      rw [slice, Nat.add_sub_cancel_left, ← List.drop_drop, List.take_append_drop]
    rw [windows, if_neg hnot, if_neg hmore, hsplit]
    rw [windows_of_lt (by omega)] at hrest ⊢
    rw [List.map_cons] at hrest ⊢
    rw [List.map_cons, reassemble_cons_cons, hrest, List.drop_drop, Nat.sub_add_cancel (by omega)]
    rw [Slices.length_slice (by dsimp only; omega)]
    dsimp only
    omega

end Windows
