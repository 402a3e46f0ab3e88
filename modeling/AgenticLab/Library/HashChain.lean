import Mathlib.Data.List.Induction

/-! # Chains: lists that grow at the end, each element fitting what stands before it -/

namespace HashChain

variable {α γ : Type*}

inductive Chain (fits : List α → α → Prop) : List α → Prop
  | nil : Chain fits []
  | snoc {xs : List α} {x : α} : Chain fits xs → fits xs x → Chain fits (xs ++ [x])

variable {fits : List α → α → Prop} {xs : List α}

theorem chain_concat {x : α} : Chain fits (xs ++ [x]) ↔ Chain fits xs ∧ fits xs x := by
  constructor
  · intro h
    generalize hys : xs ++ [x] = ys at h
    cases h with
    | nil => simp at hys
    | snoc hchain hfits =>
      obtain ⟨rfl, rfl⟩ := List.append_singleton_inj.mp hys
      exact ⟨hchain, hfits⟩
  · rintro ⟨hchain, hfits⟩
    exact hchain.snoc hfits

theorem Chain.of_append {xs ys : List α} (h : Chain fits (xs ++ ys)) : Chain fits xs := by
  induction ys using List.reverseRecOn with
  | nil => rwa [List.append_nil] at h
  | append_singleton ys y ih =>
    rw [← List.append_assoc] at h
    exact ih (chain_concat.mp h).1

theorem Chain.fits_getElem (h : Chain fits xs) {i : ℕ} (hi : i < xs.length) :
    fits (xs.take i) xs[i] := by
  induction h with
  | nil => simp at hi
  | @snoc xs x hchain hfits ih =>
    by_cases hlast : i < xs.length
    · rw [List.take_append_of_le_length (Nat.le_of_lt hlast), List.getElem_append_left hlast]
      exact ih hlast
    · have hi' : i = xs.length := by
        rw [List.length_append, List.length_singleton] at hi
        omega
      subst hi'
      simpa using hfits

/-- A property of pairs holds between all elements when it holds between each element and the
ones before it. -/
theorem Chain.pairwise {r : α → α → Prop} (h : Chain fits xs)
    (hfits : ∀ ys y, fits ys y → ∀ z ∈ ys, r z y) : xs.Pairwise r := by
  induction h with
  | nil => exact .nil
  | @snoc xs x _ hx ih =>
    rw [List.pairwise_append]
    refine ⟨ih, List.pairwise_singleton r x, ?_⟩
    intro z hz y hy
    rw [List.mem_singleton.mp hy]
    exact hfits xs x hx z hz

theorem getLast?_concat_map {x : α} (f : α → γ) : (xs ++ [x]).getLast?.map f = some (f x) := by
  simp

/-- The last link of a chain fixes the whole chain when no two elements share a link. -/
theorem Chain.eq_of_getLast?_eq {link : α → γ} {previous : α → Option γ}
    (hprevious : ∀ xs x, fits xs x → previous x = xs.getLast?.map link) {xs ys : List α}
    (hxs : Chain fits xs) (hys : Chain fits ys)
    (hinjective : ∀ x ∈ xs, ∀ y ∈ ys, link x = link y → x = y) (hlength : xs.length = ys.length)
    (hlast : xs.getLast?.map link = ys.getLast?.map link) : xs = ys := by
  induction hxs generalizing ys with
  | nil => exact (List.length_eq_zero_iff.mp hlength.symm).symm
  | @snoc xs x hchain hx ih =>
    cases hys with
    | nil => simp at hlength
    | @snoc ys y hys' hy =>
      rw [getLast?_concat_map, getLast?_concat_map] at hlast
      have hxy : x = y := hinjective x (by simp) y (by simp) (Option.some.inj hlast)
      subst hxy
      have hrest : xs = ys := by
        apply ih hys'
        · intro a ha b hb
          exact hinjective a (by simp [ha]) b (by simp [hb])
        · simpa using hlength
        · rw [← hprevious xs x hx, ← hprevious ys x hy]
      rw [hrest]

end HashChain
