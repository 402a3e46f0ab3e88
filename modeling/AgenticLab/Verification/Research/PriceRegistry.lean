import AgenticLab.Model.Research.PriceRegistry

/-! # Effective prices are unambiguous -/

namespace AgenticLab

open Periods (Period)

def ModelPriceEntry.lastDay (entry : ModelPriceEntry) : WithTop Date :=
  match entry.effectiveThrough with
  | none => ⊤
  | some through => through

def ModelPriceEntry.period (entry : ModelPriceEntry) : Period Date where
  start := entry.effectiveFrom
  stop := entry.lastDay
  start_le_stop := by
    have hthrough := entry.through_ge
    unfold ModelPriceEntry.lastDay
    split
    · exact le_top
    · rename_i through heq
      exact WithTop.coe_le_coe.mpr (hthrough through heq)

namespace DeterministicPriceRegistry

variable {casefold : Casefold} {entries : List ModelPriceEntry}

theorem isEffective_iff {entry : ModelPriceEntry} {pricingDate : Date} :
    isEffective entry pricingDate = true ↔ entry.period.Covers pricingDate := by
  rw [isEffective, Bool.and_eq_true, decide_eq_true_iff]
  refine and_congr Iff.rfl ?_
  change _ ↔ (pricingDate : WithTop Date) ≤ entry.lastDay
  unfold ModelPriceEntry.lastDay
  cases entry.effectiveThrough with
  | none => simp
  | some through => simp

theorem checkNeighbours_eq_ok_iff : checkNeighbours entries = .ok () ↔
    entries.IsChain fun first second => first.period.Before second.period := by
  fun_induction checkNeighbours entries with
  | case1 previous current rest hthrough =>
    simp [Period.Before, ModelPriceEntry.period, ModelPriceEntry.lastDay, hthrough]
  | case2 previous current rest through hthrough ih =>
    rw [raiseIf_bind_eq_ok, ih, List.isChain_cons_cons, not_le]
    simp [Period.Before, ModelPriceEntry.period, ModelPriceEntry.lastDay, hthrough]
  | case3 entries hshort =>
    refine iff_of_true rfl ?_
    match entries, hshort with
    | [], _ => exact .nil
    | [entry], _ => exact .singleton entry
    | first :: second :: rest, hshort => exact absurd rfl (hshort first second rest)

theorem checkNeighbours_mergeSort_iff :
    checkNeighbours (entries.mergeSort startsBefore) = .ok () ↔
      entries.Pairwise fun first second => ¬first.period.Overlaps second.period := by
  have hsorted : (entries.mergeSort startsBefore).Pairwise fun first second =>
      first.period.start ≤ second.period.start := by
    refine (List.pairwise_mergeSort ?_ ?_ entries).imp of_decide_eq_true
    · intro first second third hfirst hsecond
      exact decide_eq_true ((of_decide_eq_true hfirst).trans (of_decide_eq_true hsecond))
    · intro first second
      rw [Bool.or_eq_true]
      exact (le_total first.effectiveFrom second.effectiveFrom).imp decide_eq_true decide_eq_true
  rw [checkNeighbours_eq_ok_iff, Periods.isChain_before_iff hsorted]
  exact (List.mergeSort_perm entries startsBefore).pairwise_iff
    fun hapart hoverlaps => hapart hoverlaps.symm

theorem checkGroups_eq_ok_iff {groups : List (Identity × List ModelPriceEntry)} :
    checkGroups groups = .ok () ↔ ∀ group ∈ groups,
      group.2.Pairwise fun first second => ¬first.period.Overlaps second.period := by
  induction groups with
  | nil => exact iff_of_true rfl nofun
  | cons group groups ih =>
    rw [List.forall_mem_cons, ← ih, ← checkNeighbours_mergeSort_iff]
    constructor
    · intro h
      obtain ⟨_, hfirst, hrest⟩ := bind_eq_ok.mp h
      exact ⟨hfirst, hrest⟩
    · rintro ⟨hfirst, hrest⟩
      exact bind_eq_ok.mpr ⟨(), hfirst, hrest⟩

variable (casefold) in
def Unambiguous (entries : List ModelPriceEntry) : Prop :=
  entries.Pairwise fun first second => identity casefold first = identity casefold second →
    ¬first.period.Overlaps second.period

theorem validateNonoverlappingPeriods_eq_ok_iff :
    validateNonoverlappingPeriods casefold entries = .ok () ↔ Unambiguous casefold entries := by
  have hgrouped := Grouping.grouped_groupBy (identity casefold) entries
  rw [validateNonoverlappingPeriods, checkGroups_eq_ok_iff]
  constructor
  · intro h
    rw [Unambiguous, List.pairwise_iff_forall_sublist]
    intro first second hsublist hidentity
    have hmem : first ∈ entries := hsublist.subset List.mem_cons_self
    obtain ⟨group, hgroup, hkey⟩ :=
      List.mem_map.mp ((hgrouped.keys (identity casefold first)).mpr ⟨first, hmem, rfl⟩)
    have hpairwise := h group hgroup
    rw [hgrouped.members group hgroup, List.map_id, List.pairwise_filter] at hpairwise
    exact List.pairwise_iff_forall_sublist.mp hpairwise hsublist (by simp [hkey])
      (by simp [hkey, hidentity])
  · intro h group hgroup
    rw [hgrouped.members group hgroup, List.map_id, List.pairwise_filter]
    refine h.imp ?_
    intro first second hapart hfirst hsecond
    exact hapart ((of_decide_eq_true hfirst).trans (of_decide_eq_true hsecond).symm)

theorem create_eq_ok_iff {registry : List ModelPriceEntry} :
    create casefold entries = .ok registry ↔ entries ≠ [] ∧
      (entries.map fun entry => casefold entry.priceEntryId).Nodup ∧
      Unambiguous casefold entries ∧ registry = entries := by
  rw [create, raiseIf_bind_eq_ok, raiseIf_bind_eq_ok, not_not, bind_eq_ok,
    ← validateNonoverlappingPeriods_eq_ok_iff]
  constructor
  · rintro ⟨hnil, hids, _, hperiods, hregistry⟩
    exact ⟨hnil, hids, hperiods, (Except.ok.inj hregistry).symm⟩
  · rintro ⟨hnil, hids, hperiods, rfl⟩
    exact ⟨hnil, hids, (), hperiods, rfl⟩

variable (casefold) in
def Prices (entry : ModelPriceEntry) (usage : ProviderUsageEvent) (pricingDate : Date) : Prop :=
  identity casefold entry = usageIdentity casefold usage ∧ entry.period.Covers pricingDate

theorem find_of_unambiguous (h : Unambiguous casefold entries) (usage : ProviderUsageEvent)
    (pricingDate : Date) :
    (∃ entry ∈ entries, Prices casefold entry usage pricingDate ∧
        (∀ other ∈ entries, Prices casefold other usage pricingDate → other = entry) ∧
        find casefold entries usage pricingDate = .ok entry) ∨
      (∀ entry ∈ entries, ¬Prices casefold entry usage pricingDate) ∧
        find casefold entries usage pricingDate = .error priceNotFoundError := by
  have hmem : ∀ entry, entry ∈ entries.filter (fun entry =>
      identity casefold entry == usageIdentity casefold usage && isEffective entry pricingDate) ↔
      entry ∈ entries ∧ Prices casefold entry usage pricingDate := by
    intro entry
    rw [List.mem_filter, Bool.and_eq_true, beq_iff_eq, isEffective_iff, Prices]
  have hpairwise := List.Pairwise.filter (fun entry =>
    identity casefold entry == usageIdentity casefold usage && isEffective entry pricingDate) h
  unfold find
  generalize entries.filter (fun entry =>
    identity casefold entry == usageIdentity casefold usage && isEffective entry pricingDate) =
      found at hmem hpairwise ⊢
  match found, hmem, hpairwise with
  | [], hmem, _ => exact .inr ⟨fun entry hentry hprices =>
    List.not_mem_nil ((hmem entry).mpr ⟨hentry, hprices⟩), rfl⟩
  | [entry], hmem, _ =>
    obtain ⟨hentry, hprices⟩ := (hmem entry).mp (List.mem_singleton_self entry)
    refine .inl ⟨entry, hentry, hprices, ?_, rfl⟩
    intro other hother hotherPrices
    exact List.mem_singleton.mp ((hmem other).mpr ⟨hother, hotherPrices⟩)
  | first :: second :: rest, hmem, hpairwise =>
    obtain ⟨_, hfirst, hfirstCovers⟩ := (hmem first).mp List.mem_cons_self
    obtain ⟨_, hsecond, hsecondCovers⟩ :=
      (hmem second).mp (List.mem_cons_of_mem _ List.mem_cons_self)
    have hapart := List.rel_of_pairwise_cons hpairwise List.mem_cons_self
    exact absurd ⟨pricingDate, hfirstCovers, hsecondCovers⟩ (hapart (hfirst.trans hsecond.symm))

/-- The constructor accepts what is unambiguous, and lookups in what it accepted have at most one
answer. -/
theorem prices_unambiguous (entries : List ModelPriceEntry) :
    ((∃ registry, create casefold entries = .ok registry) ↔ entries ≠ [] ∧
        (entries.map fun entry => casefold entry.priceEntryId).Nodup ∧
        Unambiguous casefold entries) ∧
      ∀ registry, create casefold entries = .ok registry →
        ∀ usage pricingDate,
          (∃ entry ∈ registry, Prices casefold entry usage pricingDate ∧
              (∀ other ∈ registry, Prices casefold other usage pricingDate → other = entry) ∧
              find casefold registry usage pricingDate = .ok entry) ∨
            (∀ entry ∈ registry, ¬Prices casefold entry usage pricingDate) ∧
              find casefold registry usage pricingDate = .error priceNotFoundError := by
  constructor
  · simp only [create_eq_ok_iff]
    constructor
    · rintro ⟨_, hnil, hids, hperiods, _⟩
      exact ⟨hnil, hids, hperiods⟩
    · rintro ⟨hnil, hids, hperiods⟩
      exact ⟨entries, hnil, hids, hperiods, rfl⟩
  · intro registry hcreate usage pricingDate
    obtain ⟨_, _, hperiods, rfl⟩ := create_eq_ok_iff.mp hcreate
    exact find_of_unambiguous hperiods usage pricingDate

end DeterministicPriceRegistry

end AgenticLab
