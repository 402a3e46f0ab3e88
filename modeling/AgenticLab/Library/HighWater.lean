import Mathlib.Order.Basic

/-! # High-water marks

A history of marks, each a level reached under a key with the value found there, is kept
ascending by remembering marks that stand above it. -/

namespace HighWater

structure Mark (κ ι ν : Type*) where
  key : κ
  level : ι
  value : ν

variable {κ ι ν : Type*} [Preorder ι]

def Mark.le (a b : Mark κ ι ν) : Prop := a.level < b.level ∨ (a.level = b.level ∧ a.value = b.value)

theorem Mark.le_refl (a : Mark κ ι ν) : a.le a := .inr ⟨rfl, rfl⟩

theorem Mark.le_trans {a b c : Mark κ ι ν} (hab : a.le b) (hbc : b.le c) : a.le c := by
  rcases hab with hab | ⟨hab, hvalue⟩
  · rcases hbc with hbc | ⟨hbc, _⟩
    · exact .inl (hab.trans hbc)
    · exact .inl (hbc ▸ hab)
  · rw [Mark.le, hab, hvalue]
    exact hbc

/-- Under each key the levels never fall, and equal levels carry equal values. -/
def Ascending (history : List (Mark κ ι ν)) : Prop :=
  history.Pairwise fun a b => a.key = b.key → a.le b

def Below (marks others : Set (Mark κ ι ν)) : Prop :=
  ∀ a ∈ marks, ∃ b ∈ others, a.key = b.key ∧ a.le b

theorem Below.of_subset {marks others : Set (Mark κ ι ν)} (h : ∀ a ∈ marks, a ∈ others) :
    Below marks others := fun a ha => ⟨a, h a ha, rfl, a.le_refl⟩

theorem Below.trans {marks others more : Set (Mark κ ι ν)} (h : Below marks others)
    (hmore : Below others more) : Below marks more := by
  intro a ha
  obtain ⟨b, hb, hkey, hle⟩ := h a ha
  obtain ⟨c, hc, hkey', hle'⟩ := hmore b hb
  exact ⟨c, hc, hkey.trans hkey', Mark.le_trans hle hle'⟩

structure Guarded (kept : Set (Mark κ ι ν)) (history : List (Mark κ ι ν)) : Prop where
  ascending : Ascending history
  below : Below {a | a ∈ history} kept

theorem Guarded.nil (kept : Set (Mark κ ι ν)) : Guarded kept [] := ⟨.nil, nofun⟩

variable {kept others : Set (Mark κ ι ν)} {history : List (Mark κ ι ν)}

theorem Guarded.keep
    (h : Guarded kept history) (hothers : Below kept others) : Guarded others history :=
  ⟨h.ascending, h.below.trans hothers⟩

/-- A mark above all that are kept under its key may follow, and is kept from then on. -/
theorem Guarded.accept
    {a : Mark κ ι ν} (h : Guarded kept history) (habove : ∀ b ∈ kept, b.key = a.key → b.le a)
    (hothers : Below kept others) (ha : Below {a} others) : Guarded others (history ++ [a]) where
  ascending := by
    rw [Ascending, List.pairwise_append]
    refine ⟨h.ascending, List.pairwise_singleton _ a, ?_⟩
    intro c hc d hd hkey
    obtain rfl := List.mem_singleton.mp hd
    obtain ⟨b, hb, hkey', hle⟩ := h.below c hc
    exact Mark.le_trans hle (habove b hb (hkey'.symm.trans hkey))
  below := by
    intro c hc
    rcases List.mem_append.mp hc with hc | hc
    · exact h.below.trans hothers c hc
    · exact ha c (List.mem_singleton.mp hc)

end HighWater
