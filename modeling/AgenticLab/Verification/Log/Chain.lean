import AgenticLab.Library.HashChain
import AgenticLab.Verification.Log.Encoding

/-! # What verification accepts: files that hold a chain of entries -/

namespace AgenticLab.TransparencyLog

open HashChain

abbrev Entry := TransparencyLogEntryPayload

variable (p : Platform)

/-- What an entry must be to follow `entries` in a log. -/
structure Follows (entries : List Entry) (entry : Entry) : Prop where
  sequence : entry.unsigned.sequence.val = entries.length + 1
  previous : entry.unsigned.previousEntryHash = entries.getLast?.map (·.entryHash)
  entryHash : calculateTransparencyEntryHash p entry.unsigned = .ok entry.entryHash
  identifier : ∀ other ∈ entries,
    other.unsigned.artifactIdentifier ≠ entry.unsigned.artifactIdentifier

abbrev EntryChain (entries : List Entry) : Prop := Chain (Follows p) entries

/-! ## The loop -/

def scanOf (entries : List Entry) : Scan := entries.foldl Scan.add Scan.start

@[simp] theorem scanOf_nil : scanOf [] = Scan.start := rfl

@[simp] theorem scanOf_concat (entries : List Entry) (entry : Entry) :
    scanOf (entries ++ [entry]) = (scanOf entries).add entry := by
  simp [scanOf]

def keyed (entry : Entry) : String × TransparencyLogInclusionResult :=
  (entry.unsigned.artifactIdentifier, inclusionOf entry)

theorem scanOf_entries (entries : List Entry) : (scanOf entries).entries = entries.map keyed := by
  induction entries using List.reverseRecOn with
  | nil => rfl
  | append_singleton entries entry ih => simp [Scan.add, ih, keyed]

theorem scanOf_entryHashes (entries : List Entry) :
    (scanOf entries).entryHashes = entries.map (·.entryHash) := by
  induction entries using List.reverseRecOn with
  | nil => rfl
  | append_singleton entries entry ih => simp [Scan.add, ih]

theorem scanOf_sequence (entries : List Entry) : (scanOf entries).sequence = entries.length := by
  induction entries using List.reverseRecOn with
  | nil => rfl
  | append_singleton entries entry ih => simp [Scan.add, ih]

theorem scanOf_previousHash (entries : List Entry) :
    (scanOf entries).previousHash = entries.getLast?.map (·.entryHash) := by
  induction entries using List.reverseRecOn with
  | nil => rfl
  | append_singleton entries entry _ => simp [Scan.add]

variable {entries : List Entry} {identifier : String}

theorem lookup_keyed_eq_none :
    (entries.map keyed).lookup identifier = none ↔
      ∀ other ∈ entries, other.unsigned.artifactIdentifier ≠ identifier := by
  rw [List.lookup_eq_none_iff, List.forall_mem_map]
  refine forall₂_congr fun other _ => ?_
  rw [keyed, bne_iff_ne]
  exact ne_comm

theorem isSome_lookup_keyed :
    ¬((entries.map keyed).lookup identifier).isSome = true ↔
      ∀ other ∈ entries, other.unsigned.artifactIdentifier ≠ identifier := by
  rw [Bool.not_eq_true, Option.isSome_eq_false_iff, Option.isNone_iff_eq_none, lookup_keyed_eq_none]

variable {scan : Scan}

theorem checkEntry_scanOf {entry : Entry} :
    checkEntry p (scanOf entries) entry = .ok scan ↔
      Follows p entries entry ∧ scan = scanOf (entries ++ [entry]) := by
  rw [checkEntry, scanOf_sequence, scanOf_previousHash, scanOf_entries, scanOf_concat]
  simp only [raiseIf_bind_eq_ok, ne_eq, not_not]
  rw [bind_eq_ok]
  constructor
  · rintro ⟨hsequence, hfirst, hlater, calculated, hcalculated, hrest⟩
    obtain ⟨rfl, hfresh, hscan⟩ := by
      simpa only [raiseIf_bind_eq_ok, isSome_lookup_keyed, not_not] using hrest
    refine ⟨⟨hsequence, ?_, hcalculated, hfresh⟩, (Except.ok.inj hscan).symm⟩
    cases entries using List.reverseRecOn with
    | nil => simpa using hfirst
    | append_singleton => simpa using hlater
  · rintro ⟨hfollows, rfl⟩
    refine ⟨hfollows.sequence, ?_, fun h => h.2 hfollows.previous, entry.entryHash,
      hfollows.entryHash, ?_⟩
    · rintro ⟨hone, hprevious⟩
      have hnil : entries = [] := by simpa using hone
      rw [hfollows.previous, hnil] at hprevious
      exact hprevious rfl
    · simp only [raiseIf_bind_eq_ok, isSome_lookup_keyed, not_not]
      exact ⟨trivial, hfollows.identifier, rfl⟩

structure LineHolds (line : List UInt8) (entry : Entry) : Prop where
  ends : line.getLast? = some TextFile.lineFeed
  notBlank : isBlankLine line = false
  length : line.length ≤ maxTransparencyEntryBytes
  read : readEntry p line = .ok entry

theorem verifyLine_scanOf {line : List UInt8} :
    verifyLine p (scanOf entries) line = .ok scan ↔
      entries.length < maxTransparencyLogEntries ∧
        ∃ entry, LineHolds p line entry ∧ Follows p entries entry ∧
          scan = scanOf (entries ++ [entry]) := by
  rw [verifyLine, scanOf_sequence]
  simp only [raiseIf_bind_eq_ok, not_or, ne_eq, not_not, Bool.not_eq_true, not_lt]
  simp only [bind_eq_ok, checkEntry_scanOf]
  constructor
  · rintro ⟨⟨hends, hblank⟩, hlength, hcount, entry, hread, hfollows⟩
    exact ⟨hcount, entry, ⟨hends, hblank, hlength, hread⟩, hfollows⟩
  · rintro ⟨hcount, entry, hline, hfollows⟩
    exact ⟨⟨hline.ends, hline.notBlank⟩, hline.length, hcount, entry, hline.read, hfollows⟩

theorem forall₂_concat {α β : Type*} {r : α → β → Prop} {xs : List α} {ys : List β} {x : α}
    {y : β} : List.Forall₂ r (xs ++ [x]) (ys ++ [y]) ↔ List.Forall₂ r xs ys ∧ r x y := by
  rw [← List.forall₂_reverse_iff, List.reverse_append, List.reverse_append]
  simp [and_comm]

variable {lines : List (List UInt8)}

theorem foldlM_verifyLine :
    lines.foldlM (verifyLine p) Scan.start = .ok scan ↔
      ∃ entries, List.Forall₂ (LineHolds p) lines entries ∧ EntryChain p entries ∧
        entries.length ≤ maxTransparencyLogEntries ∧ scan = scanOf entries := by
  induction lines using List.reverseRecOn generalizing scan with
  | nil =>
    rw [List.foldlM_nil, pure_eq_ok, Except.ok.injEq]
    constructor
    · rintro rfl
      exact ⟨[], .nil, .nil, Nat.zero_le _, rfl⟩
    · rintro ⟨entries, hlines, -, -, rfl⟩
      cases hlines
      rfl
  | append_singleton lines line ih =>
    rw [List.foldlM_append, bind_eq_ok]
    constructor
    · rintro ⟨before, hbefore, hline⟩
      obtain ⟨entries, hlines, hchain, -, rfl⟩ := ih.mp hbefore
      rw [List.foldlM_cons, bind_eq_ok] at hline
      obtain ⟨after, hafter, hlast⟩ := hline
      obtain ⟨hcount, entry, hentry, hfollows, rfl⟩ := (verifyLine_scanOf p).mp hafter
      refine ⟨entries ++ [entry], List.rel_append hlines (.cons hentry .nil),
        hchain.snoc hfollows, by rwa [List.length_append], (Except.ok.inj hlast).symm⟩
    · rintro ⟨entries, hlines, hchain, hcount, rfl⟩
      cases entries using List.reverseRecOn with
      | nil => exact absurd (List.forall₂_nil_right_iff.mp hlines) (by simp)
      | append_singleton entries entry =>
        obtain ⟨hlines, hlast⟩ := forall₂_concat.mp hlines
        obtain ⟨hchain, hfollows⟩ := chain_concat.mp hchain
        have hcount' : entries.length < maxTransparencyLogEntries := by
          rwa [List.length_append] at hcount
        refine ⟨scanOf entries, ih.mpr ⟨entries, hlines, hchain, hcount'.le, rfl⟩, ?_⟩
        rw [List.foldlM_cons, (verifyLine_scanOf p).mpr ⟨hcount', entry, hlast, hfollows, rfl⟩]
        rfl

/-- The files hold the log `entries`. -/
inductive Represents : LogFiles → List Entry → Prop
  | empty : Represents ⟨.absent, .absent⟩ []
  | filled {content : List UInt8} {stateNode : FileNode} {state : TransparencyLogStatePayload}
      {entries : List Entry} (hsize : content.length ≤ maxTransparencyLogBytes)
      (hlines : List.Forall₂ (LineHolds p) (TextFile.rawLines content) entries)
      (hchain : EntryChain p entries) (hnonempty : entries ≠ [])
      (hcount : entries.length ≤ maxTransparencyLogEntries)
      (hstate : loadTransparencyLogState p.datetimes stateNode = .ok (some state))
      (hsequence : state.lastSequence.val = entries.length)
      (hlast : some state.lastEntryHash = entries.getLast?.map (·.entryHash)) :
      Represents ⟨.regular content, stateNode⟩ entries

def resultOf : List Entry → TransparencyLogVerificationResult
  | [] => emptyResult
  | entry :: entries => (scanOf (entry :: entries)).result

@[simp] theorem resultOf_entryCount (entries : List Entry) :
    (resultOf entries).entryCount = entries.length := by
  cases entries with
  | nil => rfl
  | cons entry entries => exact scanOf_sequence _

@[simp] theorem resultOf_lastEntryHash (entries : List Entry) :
    (resultOf entries).lastEntryHash = entries.getLast?.map (·.entryHash) := by
  cases entries with
  | nil => rfl
  | cons entry entries => exact scanOf_previousHash _

@[simp] theorem resultOf_entriesByIdentifier (entries : List Entry) :
    (resultOf entries).entriesByIdentifier = entries.map keyed := by
  cases entries with
  | nil => rfl
  | cons entry entries => exact scanOf_entries _

@[simp] theorem resultOf_entryHashes (entries : List Entry) :
    (resultOf entries).entryHashes = entries.map (·.entryHash) := by
  cases entries with
  | nil => rfl
  | cons entry entries => exact scanOf_entryHashes _

variable {files : LogFiles}

theorem verify_eq_ok {result : TransparencyLogVerificationResult} :
    verifyTransparencyLogUnlocked p files = .ok result ↔
      ∃ entries, Represents p files entries ∧ result = resultOf entries := by
  obtain ⟨log, stateNode⟩ := files
  rw [verifyTransparencyLogUnlocked, bind_eq_ok]
  constructor
  · rintro ⟨state, hstate, hresult⟩
    cases log with
    | symlink => simp at hresult
    | directory => simp at hresult
    | absent =>
      cases state with
      | some state => simp at hresult
      | none =>
        obtain rfl := StateFormat.load_eq_none.mp hstate
        exact ⟨[], .empty, (Except.ok.inj hresult).symm⟩
    | regular content =>
      cases state with
      | none => simp at hresult
      | some state =>
        simp only [raiseIf_bind_eq_ok, not_lt] at hresult
        obtain ⟨hsize, hresult⟩ := hresult
        obtain ⟨scan, hscan, hresult⟩ := bind_eq_ok.mp hresult
        obtain ⟨entries, hlines, hchain, hcount, rfl⟩ := (foldlM_verifyLine p).mp hscan
        simp only [raiseIf_bind_eq_ok, scanOf_sequence, scanOf_previousHash, not_or, ne_eq,
          not_not] at hresult
        obtain ⟨hpositive, ⟨hsequence, hlast⟩, hresult⟩ := hresult
        have hnonempty : entries ≠ [] := fun h => hpositive (by rw [h]; rfl)
        refine ⟨entries, .filled hsize hlines hchain hnonempty hcount hstate hsequence hlast, ?_⟩
        cases entries with
        | nil => exact absurd rfl hnonempty
        | cons entry entries => exact (Except.ok.inj hresult).symm
  · rintro ⟨entries, hfiles, rfl⟩
    cases hfiles with
    | empty => exact ⟨none, rfl, rfl⟩
    | @filled content _ state _ hsize hlines hchain hnonempty hcount hstate hsequence hlast =>
      refine ⟨some state, hstate, ?_⟩
      simp only [raiseIf_bind_eq_ok, not_lt]
      refine ⟨hsize, bind_eq_ok.mpr ⟨scanOf entries,
        (foldlM_verifyLine p).mpr ⟨entries, hlines, hchain, hcount, rfl⟩, ?_⟩⟩
      simp only [raiseIf_bind_eq_ok, scanOf_sequence, scanOf_previousHash, not_or, ne_eq, not_not]
      refine ⟨fun h => hnonempty (List.length_eq_zero_iff.mp h), ⟨hsequence, hlast⟩, ?_⟩
      cases entries with
      | nil => exact absurd rfl hnonempty
      | cons entry entries => rfl

variable {p}

theorem Represents.chain (h : Represents p files entries) : EntryChain p entries := by
  cases h with
  | empty => exact .nil
  | filled _ _ hchain => exact hchain

def logEntries (p : Platform) : FileNode → List Entry
  | .regular content => (TextFile.rawLines content).filterMap fun line => (readEntry p line).toOption
  | _ => []

theorem filterMap_readEntry (h : List.Forall₂ (LineHolds p) lines entries) :
    (lines.filterMap fun line => (readEntry p line).toOption) = entries := by
  induction h with
  | nil => rfl
  | cons hline _ ih => rw [List.filterMap_cons, hline.read, ih]; rfl

theorem Represents.logEntries_eq
    (h : Represents p files entries) : logEntries p files.log = entries := by
  cases h with
  | empty => rfl
  | filled _ hlines => exact filterMap_readEntry hlines

theorem verify_eq_ok_of_represents (h : Represents p files entries) :
    verifyTransparencyLogUnlocked p files = .ok (resultOf entries) :=
  (verify_eq_ok p).mpr ⟨entries, h, rfl⟩

end AgenticLab.TransparencyLog
