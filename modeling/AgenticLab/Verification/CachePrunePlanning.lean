import AgenticLab.Library.LeastPrefix
import AgenticLab.Model.CachePrunePlanning

/-! # Plans take the least oldest-first prefix -/

namespace AgenticLab.PersistentCacheMaintenance

open Prefixes

theorem entryIsOlder_trans (first second third : CacheEntryInfo)
    (hfirst : entryIsOlder first second = true) (hsecond : entryIsOlder second third = true) :
    entryIsOlder first third = true :=
  decide_eq_true (le_trans (of_decide_eq_true hfirst) (of_decide_eq_true hsecond))

theorem entryIsOlder_total (first second : CacheEntryInfo) :
    (entryIsOlder first second || entryIsOlder second first) = true := by
  simp only [entryIsOlder, isOlder, Bool.or_eq_true, decide_eq_true_eq]
  exact le_total _ _

theorem pairwise_orderedEntries (status : CacheStatus) :
    (orderedEntries status).Pairwise fun first second => entryIsOlder first second = true :=
  List.pairwise_mergeSort entryIsOlder_trans entryIsOlder_total status.entries

variable {removed : List CacheEntryInfo}

theorem mergeSort_candidates {status : CacheStatus} (h : removed <+: orderedEntries status) :
    (removed.map candidateOf).mergeSort candidateIsOlder = removed.map candidateOf := by
  refine List.mergeSort_of_pairwise ?_
  have hremoved := (pairwise_orderedEntries status).sublist h.sublist
  exact List.pairwise_map.mpr hremoved

/-! ## The loop -/

def entryBytes (entries : List CacheEntryInfo) : ℕ :=
  (entries.map fun entry => entry.sizeBytes).sum

@[simp] theorem entryBytes_nil : entryBytes [] = 0 := rfl

@[simp] theorem entryBytes_cons (entry : CacheEntryInfo) (entries : List CacheEntryInfo) :
    entryBytes (entry :: entries) = entry.sizeBytes + entryBytes entries := List.sum_cons

theorem entryBytes_concat (entries : List CacheEntryInfo) (entry : CacheEntryInfo) :
    entryBytes (entries ++ [entry]) = entryBytes entries + entry.sizeBytes := by
  simp [entryBytes]

def Selection.addAll (selection : Selection) (entries : List CacheEntryInfo) : Selection where
  selected := selection.selected ++ entries.map candidateOf
  selectedBytes := selection.selectedBytes + entryBytes entries
  remainingBytes := selection.remainingBytes - entryBytes entries

@[simp] theorem Selection.addAll_nil (selection : Selection) : selection.addAll [] = selection := by
  simp [Selection.addAll]

theorem Selection.addAll_cons (selection : Selection) (entry : CacheEntryInfo)
    (entries : List CacheEntryInfo) :
    selection.addAll (entry :: entries) = (selection.add entry).addAll entries := by
  simp only [Selection.addAll, Selection.add, entryBytes_cons, List.map_cons, List.append_assoc,
    List.singleton_append, Selection.mk.injEq, true_and]
  omega

def Reaches (bytes target : ℤ) (removed : List CacheEntryInfo) : Prop :=
  bytes - entryBytes removed ≤ target

variable {bytes target : ℤ}

theorem reaches_cons {entry : CacheEntryInfo} :
    Reaches bytes target (entry :: removed) ↔ Reaches (bytes - entry.sizeBytes) target removed := by
  simp only [Reaches, entryBytes_cons]
  omega

theorem reaches_nil : Reaches bytes target [] ↔ bytes ≤ target := by
  simp [Reaches]

theorem selectEntries_least {target : ℤ} {entries : List CacheEntryInfo} {selection : Selection}
    (habove : ¬Reaches selection.remainingBytes target [])
    (hall : Reaches selection.remainingBytes target entries) :
    ∃ removed, IsLeast (Reaches selection.remainingBytes target) entries removed ∧
      selectEntries target entries selection = selection.addAll removed := by
  induction entries generalizing selection with
  | nil => exact absurd hall habove
  | cons entry entries ih =>
    have hgoal : (fun removed => Reaches selection.remainingBytes target (entry :: removed)) =
        Reaches (selection.add entry).remainingBytes target := by
      funext removed
      exact propext reaches_cons
    rw [selectEntries]
    split
    case isTrue hreached =>
      refine ⟨[entry], IsLeast.cons habove ?_, by simp [Selection.addAll_cons]⟩
      rw [hgoal]
      exact isLeast_nil (reaches_nil.mpr hreached)
    case isFalse hmore =>
      obtain ⟨removed, hleast, hselect⟩ :=
        ih (fun h => hmore (reaches_nil.mp h)) (reaches_cons.mp hall)
      refine ⟨entry :: removed, IsLeast.cons habove ?_, ?_⟩
      · rw [hgoal]
        exact hleast
      · rw [hselect, Selection.addAll_cons]

theorem entryBytes_orderedEntries (status : CacheStatus) :
    entryBytes (orderedEntries status) = status.validEntryBytes :=
  (((List.mergeSort_perm status.entries entryIsOlder).map _).sum_eq).trans status.bytes_eq

theorem select_least (status : CacheStatus) (target : ℕ) :
    ∃ removed, IsLeast (Reaches status.validEntryBytes target) (orderedEntries status) removed ∧
      select status target = Selection.addAll ⟨[], 0, status.validEntryBytes⟩ removed := by
  unfold select
  split
  case isTrue habove =>
    refine @selectEntries_least target _ ⟨[], 0, status.validEntryBytes⟩ (fun h => ?_) ?_
    · exact absurd (reaches_nil.mp h) (not_le.mpr habove)
    · change (status.validEntryBytes : ℤ) - entryBytes (orderedEntries status) ≤ target
      rw [entryBytes_orderedEntries]
      omega
  case isFalse hbelow =>
    exact ⟨[], isLeast_nil (reaches_nil.mpr (not_lt.mp hbelow)), (Selection.addAll_nil _).symm⟩

def planOf (status : CacheStatus) (target : ℕ) (removed : List CacheEntryInfo) :
    CachePrunePlanFields where
  cacheKind := status.cacheKind
  directory := status.directory
  targetEntryBytesTotal := target
  observedValidEntryCount := status.entries.length
  observedValidEntryBytes := entryBytes status.entries
  selectedEntryCount := removed.length
  selectedEntryBytes := entryBytes removed
  expectedRemainingValidEntryCount := status.entries.length - removed.length
  expectedRemainingValidEntryBytes := entryBytes status.entries - entryBytes removed
  candidates := removed.map candidateOf

section

variable {status : CacheStatus} {target : ℕ} {removed : List CacheEntryInfo}

theorem length_le_of_isPrefix (h : removed <+: orderedEntries status) :
    removed.length ≤ status.entries.length := by
  have hlength := h.length_le
  rwa [orderedEntries, List.length_mergeSort] at hlength

theorem entryBytes_le_of_isPrefix (h : removed <+: orderedEntries status) :
    entryBytes removed ≤ entryBytes status.entries := by
  have hbytes : entryBytes (orderedEntries status) = entryBytes status.entries :=
    (entryBytes_orderedEntries status).trans status.bytes_eq.symm
  obtain ⟨kept, hkept⟩ := h
  rw [← hbytes, ← hkept, entryBytes, entryBytes, List.map_append, List.sum_append]
  exact Nat.le_add_right _ _

theorem validateTarget_planOf
    (h : IsLeast (Reaches (entryBytes status.entries) target) (orderedEntries status) removed) :
    (planOf status target removed).validateTarget = .ok () := by
  unfold CachePrunePlanFields.validateTarget
  split
  case isTrue hbelow =>
    have hnil : removed = [] := h.eq_nil (reaches_nil.mpr hbelow)
    simp [planOf, hnil]
  case isFalse habove =>
    rcases List.eq_nil_or_concat' removed with rfl | ⟨front, last, rfl⟩
    · exact absurd (reaches_nil.mp h.reached) habove
    · have hreached : (entryBytes status.entries : ℤ) - entryBytes (front ++ [last]) ≤ target :=
        h.reached
      have hneeded : ¬(entryBytes status.entries : ℤ) - entryBytes front ≤ target :=
        h.not_of_concat
      have hlast : (planOf status target (front ++ [last])).candidates.getLast? =
          some (candidateOf last) := by
        simp [planOf]
      rw [hlast]
      refine raiseIf_bind_eq_ok.mpr ⟨not_lt.mpr hreached, raiseIf_eq_ok.mpr ?_⟩
      change ¬(entryBytes status.entries : ℤ) - entryBytes (front ++ [last]) + last.sizeBytes ≤
        target
      rw [entryBytes_concat] at hreached ⊢
      omega

theorem validate_planOf
    (h : IsLeast (Reaches (entryBytes status.entries) target) (orderedEntries status) removed) :
    (planOf status target removed).validate = .ok () := by
  have hlength := length_le_of_isPrefix h.initial
  have hbytes := entryBytes_le_of_isPrefix h.initial
  have hkind : ∀ entry ∈ removed, entry.cacheKind = status.cacheKind := by
    intro entry hentry
    exact status.kind_eq entry (List.mem_mergeSort.mp (h.initial.subset hentry))
  have hsizes : ((removed.map candidateOf).map fun candidate => candidate.sizeBytes).sum =
      entryBytes removed := by
    rw [List.map_map]
    rfl
  refine raiseIf_bind_eq_ok.mpr ⟨?target, raiseIf_bind_eq_ok.mpr ⟨?remainingCount,
    raiseIf_bind_eq_ok.mpr ⟨?remainingBytes, raiseIf_bind_eq_ok.mpr ⟨?count,
    raiseIf_bind_eq_ok.mpr ⟨?bytes, raiseIf_bind_eq_ok.mpr ⟨?kind,
    raiseIf_bind_eq_ok.mpr ⟨?order, raiseIf_bind_eq_ok.mpr ⟨?countLeft,
    raiseIf_bind_eq_ok.mpr ⟨?bytesLeft, validateTarget_planOf h⟩⟩⟩⟩⟩⟩⟩⟩⟩
  case target => exact not_lt.mpr (Int.natCast_nonneg target)
  case remainingCount =>
    change ¬((status.entries.length : ℤ) - removed.length < 0)
    omega
  case remainingBytes =>
    change ¬((entryBytes status.entries : ℤ) - entryBytes removed < 0)
    omega
  case count => exact not_not.mpr (List.length_map _)
  case bytes => exact not_not.mpr hsizes
  case kind =>
    rintro ⟨candidate, hcandidate, hne⟩
    obtain ⟨entry, hentry, rfl⟩ := List.mem_map.mp hcandidate
    exact hne (hkind entry hentry)
  case order => exact not_not.mpr (mergeSort_candidates h.initial).symm
  case countLeft => exact not_not.mpr rfl
  case bytesLeft => exact not_not.mpr rfl

end

/-- Every plan succeeds and takes the least prefix of the entries in the order of their times and
keys whose removal leaves at most the target. -/
theorem planPrune_takes_least_prefix (status : CacheStatus) (target : ℕ) :
    ∃ ordered removed, ordered.Perm status.entries ∧
      ordered.Pairwise (fun first second => entryIsOlder first second = true) ∧
      IsLeast (Reaches (entryBytes status.entries) target) ordered removed ∧
      planPrune status target = .ok (planOf status target removed) := by
  obtain ⟨removed, hleast, hselect⟩ := select_least status target
  have hbytes : entryBytes status.entries = status.validEntryBytes := status.bytes_eq
  rw [← hbytes] at hleast
  refine ⟨orderedEntries status, removed, List.mergeSort_perm _ _, pairwise_orderedEntries status,
    hleast, ?_⟩
  rw [planPrune, raiseIf_bind_eq_ok]
  refine ⟨not_lt.mpr (Int.natCast_nonneg target), bind_eq_ok.mpr ⟨(), ?_, ?_⟩⟩
  · convert validate_planOf hleast using 2
    simp only [hselect, planOf, Selection.addAll, List.nil_append, List.length_map, Nat.zero_add,
      hbytes, status.count_eq]
  · simp only [hselect, planOf, Selection.addAll, List.nil_append, List.length_map, Nat.zero_add,
      hbytes, status.count_eq]
    rfl

end AgenticLab.PersistentCacheMaintenance
