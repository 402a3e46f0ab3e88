import Mathlib.Algebra.Order.Ring.Rat

/-! # Rationals with the special values of floats

Sums are exact, and no comparison with `nan` holds. -/

inductive FloatValue where
  | finite (value : ℚ)
  | infinity
  | negativeInfinity
  | nan
  deriving DecidableEq

namespace FloatValue

protected def add : FloatValue → FloatValue → FloatValue
  | finite a, finite b => finite (a + b)
  | nan, _ => nan
  | _, nan => nan
  | infinity, negativeInfinity => nan
  | negativeInfinity, infinity => nan
  | infinity, _ => infinity
  | _, infinity => infinity
  | negativeInfinity, _ => negativeInfinity
  | _, negativeInfinity => negativeInfinity

protected def le : FloatValue → FloatValue → Bool
  | finite a, finite b => a ≤ b
  | nan, _ => false
  | _, nan => false
  | negativeInfinity, _ => true
  | _, infinity => true
  | _, _ => false

instance : Add FloatValue := ⟨FloatValue.add⟩

instance : LE FloatValue := ⟨fun a b => FloatValue.le a b = true⟩

instance : LT FloatValue := ⟨fun a b => a ≤ b ∧ a ≠ b⟩

instance : OfNat FloatValue n := ⟨finite n⟩

instance (a b : FloatValue) : Decidable (a ≤ b) :=
  inferInstanceAs (Decidable (FloatValue.le a b = true))

instance (a b : FloatValue) : Decidable (a < b) := inferInstanceAs (Decidable (a ≤ b ∧ a ≠ b))

theorem zero_eq : (0 : FloatValue) = finite 0 := rfl

@[simp] theorem finite_add_finite (a b : ℚ) : finite a + finite b = finite (a + b) := rfl

@[simp] theorem infinity_add_finite (b : ℚ) : infinity + finite b = infinity := rfl

@[simp] theorem finite_add_infinity (a : ℚ) : finite a + infinity = infinity := rfl

@[simp] theorem infinity_add_infinity : infinity + infinity = infinity := rfl

@[simp] theorem finite_le_finite {a b : ℚ} : finite a ≤ finite b ↔ a ≤ b := decide_eq_true_iff

@[simp] theorem finite_le_infinity (a : ℚ) : finite a ≤ infinity := rfl

@[simp] theorem infinity_le_infinity : infinity ≤ infinity := rfl

@[simp] theorem not_infinity_le_finite (b : ℚ) : ¬infinity ≤ finite b := nofun

@[simp] theorem not_nan_le (b : FloatValue) : ¬nan ≤ b := by
  cases b <;> nofun

@[simp] theorem not_le_nan (a : FloatValue) : ¬a ≤ nan := by
  cases a <;> nofun

@[simp] theorem not_finite_le_negativeInfinity (a : ℚ) : ¬finite a ≤ negativeInfinity := nofun

@[simp] theorem not_infinity_le_negativeInfinity : ¬infinity ≤ negativeInfinity := nofun

@[simp] theorem negativeInfinity_le_finite (b : ℚ) : negativeInfinity ≤ finite b := rfl

@[simp] theorem negativeInfinity_le_infinity : negativeInfinity ≤ infinity := rfl

@[simp] theorem negativeInfinity_le_self : negativeInfinity ≤ negativeInfinity := rfl

variable {a b : FloatValue}

theorem lt_iff : a < b ↔ a ≤ b ∧ a ≠ b := Iff.rfl

theorem zero_le_iff {a : FloatValue} : 0 ≤ a ↔ (∃ q, 0 ≤ q ∧ a = finite q) ∨ a = infinity := by
  cases a with
  | finite q => simp [zero_eq]
  | infinity => simp [zero_eq]
  | negativeInfinity => exact iff_of_false nofun (by simp)
  | nan => simp

theorem zero_le_add (ha : 0 ≤ a) (hb : 0 ≤ b) : 0 ≤ a + b := by
  rcases zero_le_iff.mp ha with ⟨q, hq, rfl⟩ | rfl
  · rcases zero_le_iff.mp hb with ⟨r, hr, rfl⟩ | rfl
    · exact zero_le_iff.mpr (.inl ⟨q + r, add_nonneg hq hr, rfl⟩)
    · exact zero_le_iff.mpr (.inr rfl)
  · rcases zero_le_iff.mp hb with ⟨r, hr, rfl⟩ | rfl
    · exact zero_le_iff.mpr (.inr rfl)
    · exact zero_le_iff.mpr (.inr rfl)

theorem le_add_right (ha : 0 ≤ a) (hb : 0 ≤ b) : a ≤ a + b := by
  rcases zero_le_iff.mp ha with ⟨q, hq, rfl⟩ | rfl
  · rcases zero_le_iff.mp hb with ⟨r, hr, rfl⟩ | rfl
    · simpa using hr
    · simp
  · rcases zero_le_iff.mp hb with ⟨r, hr, rfl⟩ | rfl
    · simp
    · simp

theorem le_refl {a : FloatValue} (ha : 0 ≤ a) : a ≤ a := by
  rcases zero_le_iff.mp ha with ⟨q, _, rfl⟩ | rfl <;> simp

variable {a b c : FloatValue}

theorem le_trans (hab : a ≤ b) (hbc : b ≤ c) : a ≤ c := by
  cases a <;> cases b <;> cases c <;> simp_all
  exact hab.trans hbc

theorem add_le_add_right (ha : 0 ≤ a) (hc : 0 ≤ c) (hab : a ≤ b) : a + c ≤ b + c := by
  rcases zero_le_iff.mp ha with ⟨q, _, rfl⟩ | rfl
  · rcases zero_le_iff.mp hc with ⟨r, _, rfl⟩ | rfl
    · cases b <;> simp_all
    · cases b <;> simp_all
  · rcases zero_le_iff.mp hc with ⟨r, _, rfl⟩ | rfl
    · cases b <;> simp_all
    · cases b <;> simp_all

theorem le_of_not_lt (ha : a ≠ nan) (hb : b ≠ nan) (h : ¬b < a) : a ≤ b := by
  cases a <;> cases b <;> simp_all [lt_iff]
  rename_i q r
  by_contra hlt
  have hle : r ≤ q := (not_le.mp hlt).le
  exact hlt (h hle ▸ le_rfl)

end FloatValue
