import AgenticLab.Model.PersistentCacheMaintenance
import Mathlib.Data.Prod.Lex
import Mathlib.Data.String.Basic

/-! # Planning what to prune

`plan_prune` of `app/persistent_cache_maintenance.py` with what it reads and builds of
`app/schemas/persistent_cache_status.py`. -/

namespace AgenticLab

deriving instance DecidableEq for CachePruneCandidate

structure CacheEntryInfo where
  cacheKind : CacheKind
  filename : String
  entryKey : Sha256Digest
  sizeBytes : ℕ
  mtimeNs : ℕ
  filename_eq : filename = entryFilename entryKey

/-- What `plan_prune` reads of a status. -/
structure CacheStatus where
  cacheKind : CacheKind
  directory : String
  entries : List CacheEntryInfo
  validEntryCount : ℕ
  validEntryBytes : ℕ
  count_eq : entries.length = validEntryCount
  bytes_eq : (entries.map fun entry => entry.sizeBytes).sum = validEntryBytes
  kind_eq : ∀ entry ∈ entries, entry.cacheKind = cacheKind

/-- The arguments of `CachePrunePlan`. -/
structure CachePrunePlanFields where
  cacheKind : CacheKind
  directory : String
  targetEntryBytesTotal : ℤ
  observedValidEntryCount : ℕ
  observedValidEntryBytes : ℕ
  selectedEntryCount : ℕ
  selectedEntryBytes : ℕ
  expectedRemainingValidEntryCount : ℤ
  expectedRemainingValidEntryBytes : ℤ
  candidates : List CachePruneCandidate

namespace PersistentCacheMaintenance

/-- The order of the keys `(mtime_ns, entry_key)`. -/
def isOlder (first second : ℕ × String) : Bool :=
  decide (toLex first ≤ toLex second)

def candidateIsOlder (first second : CachePruneCandidate) : Bool :=
  isOlder (first.mtimeNs, first.entryKey.val) (second.mtimeNs, second.entryKey.val)

def entryIsOlder (first second : CacheEntryInfo) : Bool :=
  isOlder (first.mtimeNs, first.entryKey.val) (second.mtimeNs, second.entryKey.val)

end PersistentCacheMaintenance

namespace CachePrunePlanFields

open PersistentCacheMaintenance

/-- The `ge=0` of a field. -/
def requireNatural (fieldName : String) (value : ℤ) : Except Raised Unit :=
  raiseIf (value < 0)
    ⟨.validationError, fieldName ++ ": Input should be greater than or equal to 0"⟩

/-- The end of `validate_plan`: whether the candidates are those that the target asks for. -/
def validateTarget (fields : CachePrunePlanFields) : Except Raised Unit :=
  if fields.observedValidEntryBytes ≤ fields.targetEntryBytesTotal then
    raiseIf (fields.candidates ≠ [])
      ⟨.validationError, "entries must not be selected at or below target"⟩
  else
    match fields.candidates.getLast? with
    | none => .error ⟨.validationError, "entries must be selected above target"⟩
    | some last => do
        raiseIf (fields.targetEntryBytesTotal < fields.expectedRemainingValidEntryBytes)
          ⟨.validationError, "selected entries do not reach target"⟩
        raiseIf (fields.expectedRemainingValidEntryBytes + last.sizeBytes ≤
            fields.targetEntryBytesTotal)
          ⟨.validationError, "plan selects more entries than required"⟩

/-- The fields of the model, then `validate_plan`. -/
def validate (fields : CachePrunePlanFields) : Except Raised Unit := do
  requireNatural "target_entry_bytes_total" fields.targetEntryBytesTotal
  requireNatural "expected_remaining_valid_entry_count" fields.expectedRemainingValidEntryCount
  requireNatural "expected_remaining_valid_entry_bytes" fields.expectedRemainingValidEntryBytes
  raiseIf (fields.candidates.length ≠ fields.selectedEntryCount)
    ⟨.validationError, "selected entry count must match candidates"⟩
  raiseIf ((fields.candidates.map fun candidate => candidate.sizeBytes).sum ≠
      fields.selectedEntryBytes)
    ⟨.validationError, "selected entry bytes must match candidates"⟩
  raiseIf (∃ candidate ∈ fields.candidates, candidate.cacheKind ≠ fields.cacheKind)
    ⟨.validationError, "candidate cache kind must match plan"⟩
  raiseIf (fields.candidates ≠ fields.candidates.mergeSort candidateIsOlder)
    ⟨.validationError, "prune candidates must use deterministic selection order"⟩
  raiseIf (fields.expectedRemainingValidEntryCount ≠
      fields.observedValidEntryCount - fields.selectedEntryCount)
    ⟨.validationError, "expected remaining entry count is inconsistent"⟩
  raiseIf (fields.expectedRemainingValidEntryBytes ≠
      fields.observedValidEntryBytes - fields.selectedEntryBytes)
    ⟨.validationError, "expected remaining entry bytes are inconsistent"⟩
  fields.validateTarget

end CachePrunePlanFields

namespace PersistentCacheMaintenance

def orderedEntries (status : CacheStatus) : List CacheEntryInfo :=
  status.entries.mergeSort entryIsOlder

def candidateOf (entry : CacheEntryInfo) : CachePruneCandidate :=
  ⟨entry.cacheKind, entry.filename, entry.entryKey, entry.sizeBytes, entry.mtimeNs,
    entry.filename_eq⟩

/-- The variables of the loop of `plan_prune`. -/
structure Selection where
  selected : List CachePruneCandidate
  selectedBytes : ℕ
  remainingBytes : ℤ

def Selection.add (selection : Selection) (entry : CacheEntryInfo) : Selection where
  selected := selection.selected ++ [candidateOf entry]
  selectedBytes := selection.selectedBytes + entry.sizeBytes
  remainingBytes := selection.remainingBytes - entry.sizeBytes

/-- The loop of `plan_prune`. -/
def selectEntries (target : ℤ) : List CacheEntryInfo → Selection → Selection
  | [], selection => selection
  | entry :: entries, selection =>
    if (selection.add entry).remainingBytes ≤ target then selection.add entry
    else selectEntries target entries (selection.add entry)

/-- The candidates and the sums that `plan_prune` has behind its loop. -/
def select (status : CacheStatus) (target : ℤ) : Selection :=
  let selection : Selection := ⟨[], 0, status.validEntryBytes⟩
  if target < status.validEntryBytes then
    selectEntries target (orderedEntries status) selection
  else selection

def planPrune (status : CacheStatus) (targetEntryBytesTotal : ℤ) :
    Except Raised CachePrunePlanFields := do
  raiseIf (targetEntryBytesTotal < 0) ⟨.valueError, "target_entry_bytes_total must be non-negative"⟩
  let selection := select status targetEntryBytesTotal
  let fields : CachePrunePlanFields := {
    cacheKind := status.cacheKind
    directory := status.directory
    targetEntryBytesTotal := targetEntryBytesTotal
    observedValidEntryCount := status.validEntryCount
    observedValidEntryBytes := status.validEntryBytes
    selectedEntryCount := selection.selected.length
    selectedEntryBytes := selection.selectedBytes
    expectedRemainingValidEntryCount := status.validEntryCount - selection.selected.length
    expectedRemainingValidEntryBytes := selection.remainingBytes
    candidates := selection.selected }
  fields.validate
  return fields

end PersistentCacheMaintenance

end AgenticLab
