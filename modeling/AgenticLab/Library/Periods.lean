import Mathlib.Data.List.Chain
import Mathlib.Order.WithBot

/-! # Periods that may have no end

A list in the order of the starts is free of overlaps when no two neighbours overlap. -/

namespace Periods

variable {τ : Type*} [LinearOrder τ]

variable (τ) in
/-- From `start` on, through `stop`. -/
structure Period where
  start : τ
  stop : WithTop τ
  start_le_stop : start ≤ stop

namespace Period

def Covers (period : Period τ) (time : τ) : Prop := period.start ≤ time ∧ time ≤ period.stop

def Overlaps (first second : Period τ) : Prop := ∃ time, first.Covers time ∧ second.Covers time

def Before (first second : Period τ) : Prop := first.stop < second.start

variable {first second third : Period τ}

theorem Overlaps.symm (h : first.Overlaps second) : second.Overlaps first :=
  h.imp fun _ hcovers => hcovers.symm

theorem Before.trans (h : first.Before second) (hnext : second.Before third) :
    first.Before third := (h.trans_le second.start_le_stop).trans hnext

theorem before_iff (h : first.start ≤ second.start) :
    first.Before second ↔ ¬first.Overlaps second := by
  constructor
  · rintro hbefore ⟨time, ⟨_, hstop⟩, hstart, _⟩
    have hlt := hstop.trans_lt hbefore
    exact absurd (WithTop.coe_lt_coe.mp hlt) (not_lt.mpr hstart)
  · intro hapart
    by_contra hnot
    exact hapart ⟨second.start, ⟨h, not_lt.mp hnot⟩, le_refl _, second.start_le_stop⟩

end Period

variable {α : Type*} {period : α → Period τ} {items : List α}

theorem isChain_before_iff
    (hsorted : items.Pairwise fun a b => (period a).start ≤ (period b).start) :
    (items.IsChain fun a b => (period a).Before (period b)) ↔
      items.Pairwise fun a b => ¬(period a).Overlaps (period b) := by
  have htrans : IsTrans α fun a b => (period a).Before (period b) :=
    ⟨fun _ _ _ => Period.Before.trans⟩
  rw [List.isChain_iff_pairwise]
  constructor
  · intro h
    exact h.imp₂ (fun _ _ hbefore hle => (Period.before_iff hle).mp hbefore) hsorted
  · intro h
    exact h.imp₂ (fun _ _ hapart hle => (Period.before_iff hle).mpr hapart) hsorted

end Periods
