import Mathlib.Algebra.Order.Group.Nat
import Mathlib.Data.List.TakeWhile

/-! # Patterns over a text

A pattern that is tried at a position ends at the positions that a backtracking matcher visits, in
the order in which it visits them. The first of them is where the match ends. -/

namespace Patterns

variable {α : Type*}

inductive Pattern (α : Type*) where
  | empty
  | one (accepts : α → Bool)
  | seq (first second : Pattern α)
  /-- The second alternative is tried where the first one fails. -/
  | either (first second : Pattern α)
  /-- As many characters as possible are tried first. -/
  | many (accepts : α → Bool)
  /-- As few characters as possible are tried first. -/
  | few (accepts : α → Bool)
  | ahead (pattern : Pattern α)
  | textEnd

/-- The text has a character at `position` that is accepted. -/
def AcceptsAt (text : List α) (accepts : α → Bool) (position : ℕ) : Prop :=
  (text[position]?).any accepts = true

instance (text : List α) (accepts : α → Bool) (position : ℕ) :
    Decidable (AcceptsAt text accepts position) := inferInstanceAs (Decidable (_ = true))

/-- How many characters from `position` on are accepted. -/
def runLength (text : List α) (accepts : α → Bool) (position : ℕ) : ℕ :=
  ((text.drop position).takeWhile accepts).length

def ends (text : List α) : Pattern α → ℕ → List ℕ
  | .empty, position => [position]
  | .one accepts, position => if AcceptsAt text accepts position then [position + 1] else []
  | .seq first second, position => (ends text first position).flatMap (ends text second)
  | .either first second, position => ends text first position ++ ends text second position
  | .many accepts, position =>
    ((List.range (runLength text accepts position + 1)).map (position + ·)).reverse
  | .few accepts, position => (List.range (runLength text accepts position + 1)).map (position + ·)
  | .ahead pattern, position => if (ends text pattern position).isEmpty then [] else [position]
  | .textEnd, position => if position = text.length then [position] else []

example : ends ['a', 'a', 'b'] (.many (· == 'a')) 0 = [2, 1, 0] := by
  rw [ends]
  decide

/-- The longest end comes first. -/

def matchEnd? (text : List α) (pattern : Pattern α) (position : ℕ) : Option ℕ :=
  (ends text pattern position).head?

/-- The matches from left to right, each of them sought behind the one before, for a pattern that
matches no empty text. -/
def findAll (text : List α) (pattern : Pattern α) (position : ℕ) : List (ℕ × ℕ) :=
  if text.length < position then []
  else
    match matchEnd? text pattern position with
    | none => findAll text pattern (position + 1)
    | some stop =>
      if position < stop then (position, stop) :: findAll text pattern stop
      else findAll text pattern (position + 1)
termination_by text.length + 1 - position

/-- The text from `position` on, less what the matches cover. -/
def removeAll (text : List α) : List (ℕ × ℕ) → ℕ → List α
  | [], position => text.drop position
  | (start, stop) :: found, position =>
    (text.take start).drop position ++ removeAll text found stop

/-! ## Where a pattern ends -/

variable {text : List α} {accepts : α → Bool} {first second pattern : Pattern α}
  {position start stop : ℕ}

theorem le_length_takeWhile {xs : List α} {count : ℕ} :
    count ≤ (xs.takeWhile accepts).length ↔ ∀ index < count, AcceptsAt xs accepts index := by
  induction xs generalizing count with
  | nil =>
    cases count with
    | zero => simp
    | succ count =>
      have hnone : ¬AcceptsAt ([] : List α) accepts 0 := by simp [AcceptsAt]
      simp only [List.takeWhile_nil, List.length_nil]
      exact ⟨fun h => absurd h (by omega), fun h => absurd (h 0 (by omega)) hnone⟩
  | cons x xs ih =>
    cases count with
    | zero => simp
    | succ count =>
      have hhead : AcceptsAt (x :: xs) accepts 0 ↔ accepts x = true := by simp [AcceptsAt]
      have htail : ∀ index, AcceptsAt (x :: xs) accepts (index + 1) ↔
          AcceptsAt xs accepts index := by simp [AcceptsAt]
      rw [List.takeWhile_cons]
      split_ifs with hx
      · rw [List.length_cons, Nat.add_le_add_iff_right, ih]
        constructor
        · intro h index hindex
          cases index with
          | zero => exact hhead.mpr hx
          | succ index => exact (htail index).mpr (h index (by omega))
        · intro h index hindex
          exact (htail index).mp (h (index + 1) (by omega))
      · constructor
        · intro h
          exact absurd h (by simp)
        · intro h
          exact absurd (hhead.mp (h 0 (by omega))) hx

theorem sub_le_runLength (h : start ≤ stop) : stop - start ≤ runLength text accepts start ↔
    ∀ place, start ≤ place → place < stop → AcceptsAt text accepts place := by
  rw [runLength, le_length_takeWhile]
  have hdrop : ∀ index, AcceptsAt (text.drop start) accepts index ↔
      AcceptsAt text accepts (start + index) := by simp [AcceptsAt]
  constructor
  · intro hall place hstart hstop
    have hplace := (hdrop (place - start)).mp (hall (place - start) (by omega))
    rwa [Nat.add_sub_cancel' hstart] at hplace
  · intro hall index hindex
    exact (hdrop index).mpr (hall (start + index) (by omega) (by omega))

@[simp] theorem mem_ends_empty : stop ∈ ends text .empty start ↔ stop = start := by simp [ends]

@[simp] theorem mem_ends_one :
    stop ∈ ends text (.one accepts) start ↔ AcceptsAt text accepts start ∧ stop = start + 1 := by
  rw [ends]
  split_ifs with h <;> simp [h]

@[simp] theorem mem_ends_seq : stop ∈ ends text (.seq first second) start ↔
    ∃ middle ∈ ends text first start, stop ∈ ends text second middle := by simp [ends]

@[simp] theorem mem_ends_either : stop ∈ ends text (.either first second) start ↔
    stop ∈ ends text first start ∨ stop ∈ ends text second start := by simp [ends]

@[simp] theorem mem_ends_few : stop ∈ ends text (.few accepts) start ↔
    start ≤ stop ∧ ∀ place, start ≤ place → place < stop → AcceptsAt text accepts place := by
  rw [ends, List.mem_map]
  constructor
  · rintro ⟨count, hcount, rfl⟩
    refine ⟨Nat.le_add_right start count, (sub_le_runLength (Nat.le_add_right start count)).mp ?_⟩
    rw [List.mem_range] at hcount
    omega
  · rintro ⟨hle, hall⟩
    have hrun := (sub_le_runLength hle).mpr hall
    exact ⟨stop - start, List.mem_range.mpr (by omega), Nat.add_sub_cancel' hle⟩

@[simp] theorem mem_ends_many : stop ∈ ends text (.many accepts) start ↔
    start ≤ stop ∧ ∀ place, start ≤ place → place < stop → AcceptsAt text accepts place := by
  rw [ends, List.mem_reverse]
  exact mem_ends_few

@[simp] theorem mem_ends_ahead : stop ∈ ends text (.ahead pattern) start ↔
    stop = start ∧ ∃ place, place ∈ ends text pattern start := by
  rw [ends]
  cases ends text pattern start with
  | nil => simp
  | cons place places => simp

@[simp] theorem mem_ends_textEnd :
    stop ∈ ends text .textEnd start ↔ stop = start ∧ start = text.length := by
  rw [ends]
  split_ifs with h <;> simp [h]

theorem mem_ends_of_matchEnd? (h : matchEnd? text pattern start = some stop) :
    stop ∈ ends text pattern start := List.mem_of_mem_head? h

theorem findAll_bounds {found : ℕ × ℕ} (h : found ∈ findAll text pattern start) :
    start ≤ found.1 ∧ found.1 < found.2 ∧ matchEnd? text pattern found.1 = some found.2 := by
  fun_induction findAll text pattern start with
  | case1 => exact absurd h List.not_mem_nil
  | case2 position _ _ ih =>
    obtain ⟨hle, hlt, hmatch⟩ := ih h
    exact ⟨by omega, hlt, hmatch⟩
  | case3 position _ stop hmatch hlt ih =>
    obtain rfl | hrest := List.mem_cons.mp h
    · exact ⟨le_refl _, hlt, hmatch⟩
    · obtain ⟨hle, hlt', hmatch'⟩ := ih hrest
      exact ⟨by omega, hlt', hmatch'⟩
  | case4 position _ stop _ _ ih =>
    obtain ⟨hle, hlt, hmatch⟩ := ih h
    exact ⟨by omega, hlt, hmatch⟩

theorem pairwise_findAll (text : List α) (pattern : Pattern α) (start : ℕ) :
    (findAll text pattern start).Pairwise fun a b => a.2 ≤ b.1 := by
  fun_induction findAll text pattern start with
  | case1 => exact .nil
  | case2 position _ _ ih => exact ih
  | case3 position _ stop _ _ ih =>
    exact List.pairwise_cons.mpr ⟨fun found hfound => (findAll_bounds hfound).1, ih⟩
  | case4 position _ stop _ _ ih => exact ih

theorem findAll_complete (hstart : start ≤ position) (hlength : position ≤ text.length) :
    (∃ found ∈ findAll text pattern start, found.1 ≤ position ∧ position < found.2) ∨
      ∀ stop, matchEnd? text pattern position = some stop → stop ≤ position := by
  fun_induction findAll text pattern start with
  | case1 start hlt => omega
  | case2 start _ hnone ih =>
    obtain rfl | hlt := Nat.eq_or_lt_of_le hstart
    · refine .inr fun stop hstop => ?_
      rw [hnone] at hstop
      cases hstop
    · exact ih hlt
  | case3 start _ stop hmatch hlt ih =>
    by_cases hinside : position < stop
    · exact .inl ⟨_, List.mem_cons_self, hstart, hinside⟩
    · obtain ⟨found, hfound, hplace⟩ | hnone := ih (by omega)
      · exact .inl ⟨found, List.mem_cons_of_mem _ hfound, hplace⟩
      · exact .inr hnone
  | case4 start _ stop hmatch hle ih =>
    obtain rfl | hlt := Nat.eq_or_lt_of_le hstart
    · refine .inr fun other hother => ?_
      rw [hmatch] at hother
      obtain rfl := Option.some.inj hother
      omega
    · exact ih hlt

theorem mem_removeAll {found : List (ℕ × ℕ)} {character : α}
    (hordered : found.Pairwise fun a b => a.2 ≤ b.1)
    (hfound : ∀ range ∈ found, start ≤ range.1 ∧ range.1 ≤ range.2) :
    character ∈ removeAll text found start ↔ ∃ place, start ≤ place ∧
      text[place]? = some character ∧ ∀ range ∈ found, ¬(range.1 ≤ place ∧ place < range.2) := by
  induction found generalizing start with
  | nil =>
    rw [removeAll, List.mem_iff_getElem?]
    simp only [List.getElem?_drop, List.not_mem_nil, false_implies, implies_true, and_true]
    constructor
    · rintro ⟨index, hindex⟩
      exact ⟨start + index, Nat.le_add_right start index, hindex⟩
    · rintro ⟨place, hle, hplace⟩
      exact ⟨place - start, by rwa [Nat.add_sub_cancel' hle]⟩
  | cons range found ih =>
    obtain ⟨first, stop⟩ := range
    have hrange := hfound (first, stop) List.mem_cons_self
    have hlater : ∀ other ∈ found, stop ≤ other.1 ∧ other.1 ≤ other.2 := fun other hmem =>
      ⟨List.rel_of_pairwise_cons hordered hmem, (hfound other (List.mem_cons_of_mem _ hmem)).2⟩
    rw [removeAll, List.mem_append, ih hordered.of_cons hlater]
    constructor
    · rintro (hbefore | ⟨place, hle, hplace, hfree⟩)
      · obtain ⟨index, hindex⟩ := List.mem_iff_getElem?.mp hbefore
        rw [List.getElem?_drop, List.getElem?_take] at hindex
        split_ifs at hindex with hlt
        refine ⟨start + index, Nat.le_add_right start index, hindex, fun other hmem => ?_⟩
        rcases List.mem_cons.mp hmem with rfl | hrest
        · exact fun hinside => absurd hinside.1 (by omega)
        · have hother := (hlater other hrest).1
          exact fun hinside => absurd hinside.1 (by omega)
      · refine ⟨place, by omega, hplace, fun other hmem => ?_⟩
        rcases List.mem_cons.mp hmem with rfl | hrest
        · exact fun hinside => absurd hinside.2 (by omega)
        · exact hfree other hrest
    · rintro ⟨place, hle, hplace, hfree⟩
      have hfirst := hfree (first, stop) List.mem_cons_self
      by_cases hlt : place < first
      · refine .inl (List.mem_iff_getElem?.mpr ⟨place - start, ?_⟩)
        rw [List.getElem?_drop, Nat.add_sub_cancel' hle, List.getElem?_take, if_pos hlt, hplace]
      · refine .inr ⟨place, by omega, hplace, fun other hmem => ?_⟩
        exact hfree other (List.mem_cons_of_mem _ hmem)

end Patterns
