import AgenticLab.Library.Runs
import AgenticLab.Verification.Log.Registration

/-! # The log only grows -/

namespace AgenticLab.TransparencyLog

open HashChain

section

variable {p : Platform} {files : LogFiles} {entries : List Entry}
  {artifact : VerifiedTransparencyArtifact} {recordedAt : UtcDatetime}

def registerCall (p : Platform) (files : LogFiles)
    (call : VerifiedTransparencyArtifact × UtcDatetime) : LogFiles :=
  (registerVerifiedArtifact p files call.1 call.2 none).2

theorem registerCall_represents (h : Represents p files entries)
    (call : VerifiedTransparencyArtifact × UtcDatetime) :
    ∃ entries', Represents p (registerCall p files call) entries' ∧ entries <+: entries' := by
  cases hpending : pendingAppend? p files call.1 call.2 with
  | none =>
    rw [registerCall, registerVerifiedArtifact_of_pendingAppend?_eq_none hpending]
    exact ⟨entries, h, List.prefix_refl entries⟩
  | some pending =>
    obtain ⟨before, hbefore, -, -, hafter⟩ := registerVerifiedArtifact_of_pending hpending
    obtain rfl : entries = before := h.logEntries_eq.symm.trans hbefore.logEntries_eq
    exact ⟨_, hafter, List.prefix_append entries _⟩

def registerAll (p : Platform) (calls : List (VerifiedTransparencyArtifact × UtcDatetime)) :
    LogFiles :=
  Runs.run (registerCall p) ⟨.absent, .absent⟩ calls

theorem run_registerCall_represents (h : Represents p files entries)
    (calls : List (VerifiedTransparencyArtifact × UtcDatetime)) :
    ∃ entries', Represents p (Runs.run (registerCall p) files calls) entries' ∧
      entries <+: entries' := by
  refine (Runs.reachable_run calls).invariant
    (fun after => ∃ entries', Represents p after entries' ∧ entries <+: entries')
    ⟨entries, h, List.prefix_refl entries⟩ ?_
  rintro after call ⟨entries', hafter, hprefix⟩ -
  obtain ⟨entries'', hcall, hprefix'⟩ := registerCall_represents hafter call
  exact ⟨entries'', hcall, hprefix.trans hprefix'⟩

theorem registerAll_represents (calls : List (VerifiedTransparencyArtifact × UtcDatetime)) :
    ∃ entries, Represents p (registerAll p calls) entries := by
  obtain ⟨entries, h, -⟩ := run_registerCall_represents (p := p) .empty calls
  exact ⟨entries, h⟩

theorem lookup_of_prefix {entries' : List Entry} {identifier : String}
    {inclusion : TransparencyLogInclusionResult} (h : entries <+: entries')
    (hlookup : (entries.map keyed).lookup identifier = some inclusion) :
    (entries'.map keyed).lookup identifier = some inclusion := by
  obtain ⟨rest, rfl⟩ := h
  rw [List.map_append, List.lookup_append, hlookup]
  rfl

end

/-- The shape of a log that `verify_transparency_log` accepts with `result`. -/
structure WellFormedLog (p : Platform) (files : LogFiles)
    (result : TransparencyLogVerificationResult) : Prop where
  accepted : verifyTransparencyLog p files = .ok result
  sequences : (logEntries p files.log).map (·.unsigned.sequence.val) =
    List.range' 1 result.entryCount
  first : ∀ entry ∈ (logEntries p files.log).head?, entry.unsigned.previousEntryHash = none
  linked : ∀ i (h : i + 1 < (logEntries p files.log).length),
    (logEntries p files.log)[i + 1].unsigned.previousEntryHash =
      some (logEntries p files.log)[i].entryHash
  identifiers : ((logEntries p files.log).map (·.unsigned.artifactIdentifier)).Nodup
  hashes : result.entryHashes = (logEntries p files.log).map (·.entryHash)

section

variable {p : Platform} {files : LogFiles} {entries : List Entry}

theorem EntryChain.sequences (h : EntryChain p entries) :
    entries.map (·.unsigned.sequence.val) = List.range' 1 entries.length := by
  apply List.ext_getElem
  · simp
  · intro i hi _
    rw [List.length_map] at hi
    have hfits := (h.fits_getElem hi).sequence
    rw [List.length_take, Nat.min_eq_left hi.le] at hfits
    rw [List.getElem_map, List.getElem_range', hfits]
    omega

theorem EntryChain.linked (h : EntryChain p entries) {i : ℕ} (hi : i + 1 < entries.length) :
    entries[i + 1].unsigned.previousEntryHash = some entries[i].entryHash := by
  rw [(h.fits_getElem hi).previous, List.getLast?_take]
  simp [List.getElem?_eq_getElem (Nat.lt_of_succ_lt hi)]

theorem EntryChain.identifiers (h : EntryChain p entries) :
    (entries.map (·.unsigned.artifactIdentifier)).Nodup := by
  rw [List.nodup_iff_pairwise_ne, List.pairwise_map]
  exact h.pairwise fun _ _ hfits => hfits.identifier

theorem EntryChain.first (h : EntryChain p entries) :
    ∀ entry ∈ entries.head?, entry.unsigned.previousEntryHash = none := by
  intro entry hentry
  cases entries with
  | nil => simp at hentry
  | cons first rest =>
    obtain rfl := Option.some.inj hentry
    exact (h.fits_getElem (i := 0) (by simp)).previous

theorem Represents.wellFormedLog (h : Represents p files entries) :
    WellFormedLog p files (resultOf entries) := by
  obtain rfl := h.logEntries_eq
  exact {
    accepted := verify_eq_ok_of_represents h
    sequences := by rw [resultOf_entryCount, EntryChain.sequences h.chain]
    first := EntryChain.first h.chain
    linked := fun i hi => EntryChain.linked h.chain hi
    identifiers := EntryChain.identifiers h.chain
    hashes := resultOf_entryHashes _ }

/-- No two of the given entries differ and still get the same entry hash. -/
def EntryHashCollisionFree (p : Platform) (first second : List Entry) : Prop :=
  ∀ a ∈ first, ∀ b ∈ second, calculateTransparencyEntryHash p a.unsigned =
    calculateTransparencyEntryHash p b.unsigned → a.unsigned = b.unsigned

variable {entry : Entry}

theorem EntryChain.calculated (h : EntryChain p entries) (hentry : entry ∈ entries) :
    calculateTransparencyEntryHash p entry.unsigned = .ok entry.entryHash := by
  obtain ⟨i, hi, rfl⟩ := List.getElem_of_mem hentry
  exact (h.fits_getElem hi).entryHash

theorem EntryChain.eq_of_last_eq {second : List Entry} (hfirst : EntryChain p entries)
    (hsecond : EntryChain p second) (hfree : EntryHashCollisionFree p entries second)
    (hlength : entries.length = second.length)
    (hlast : entries.getLast?.map (·.entryHash) = second.getLast?.map (·.entryHash)) :
    entries = second := by
  refine hfirst.eq_of_getLast?_eq (fun _ _ hfits => hfits.previous) hsecond ?_ hlength hlast
  intro a ha b hb hhash
  have hcalculated : calculateTransparencyEntryHash p a.unsigned =
      calculateTransparencyEntryHash p b.unsigned := by
    rw [hfirst.calculated ha, hsecond.calculated hb, hhash]
  obtain ⟨aUnsigned, aHash⟩ := a
  obtain ⟨bUnsigned, bHash⟩ := b
  obtain rfl := hfree _ ha _ hb hcalculated
  obtain rfl := hhash
  rfl

/-! ## Runs -/

theorem registerAll_concat (calls : List (VerifiedTransparencyArtifact × UtcDatetime))
    (call : VerifiedTransparencyArtifact × UtcDatetime) :
    registerAll p (calls ++ [call]) = registerCall p (registerAll p calls) call := by
  rw [registerAll, Runs.run, List.foldl_append]
  rfl

theorem registerAll_append (calls later : List (VerifiedTransparencyArtifact × UtcDatetime)) :
    registerAll p (calls ++ later) = Runs.run (registerCall p) (registerAll p calls) later :=
  List.foldl_append

variable {artifact : VerifiedTransparencyArtifact}

theorem registerAll_again {calls later : List (VerifiedTransparencyArtifact × UtcDatetime)}
    {recordedAt : UtcDatetime} {result : TransparencyLogAppendResult}
    (h : (registerVerifiedArtifact p (registerAll p calls) artifact recordedAt none).1 = .ok result)
    (again : UtcDatetime) :
    ∃ verification,
      registerVerifiedArtifact p (registerAll p (calls ++ (artifact, recordedAt) :: later))
          artifact again none =
        (.ok ⟨result.inclusion, false, verification⟩,
          registerAll p (calls ++ (artifact, recordedAt) :: later)) := by
  obtain ⟨hverify, hrequire⟩ := registerVerifiedArtifact_eq_ok h
  obtain ⟨entries, hentries, hresult⟩ := (verify_eq_ok p).mp hverify
  obtain ⟨hlookup, htype, hdigest⟩ := requireTransparencyEntry_eq_ok hrequire
  rw [hresult, resultOf_entriesByIdentifier] at hlookup
  have hfiles : registerAll p (calls ++ (artifact, recordedAt) :: later) =
      Runs.run (registerCall p) (registerCall p (registerAll p calls) (artifact, recordedAt))
        later := by
    rw [registerAll_append]
    rfl
  obtain ⟨entries', hentries', hprefix⟩ := run_registerCall_represents hentries later
  rw [hfiles]
  have hlookup' := lookup_of_prefix hprefix hlookup
  have hrequire' : requireTransparencyEntry (resultOf entries') artifact = .ok result.inclusion :=
    requireTransparencyEntry_of_lookup (by rw [resultOf_entriesByIdentifier, hlookup']) htype
      hdigest
  refine ⟨resultOf entries', ?_⟩
  refine (registerVerifiedArtifact_of_lookup hentries' hlookup').trans ?_
  rw [hrequire']
  rfl

theorem lookup_keyed_of_mem (h : EntryChain p entries) (hentry : entry ∈ entries) :
    (entries.map keyed).lookup entry.unsigned.artifactIdentifier = some (inclusionOf entry) := by
  obtain ⟨front, back, rfl⟩ := List.append_of_mem hentry
  have hchain : EntryChain p (front ++ [entry] ++ back) := by rwa [List.append_assoc]
  have hfollows := (chain_concat.mp hchain.of_append).2
  exact lookup_of_prefix ⟨back, by simp⟩ (lookup_keyed_concat hfollows)

theorem registerVerifiedArtifact_conflict (h : Represents p files entries)
    (hentry : entry ∈ entries)
    (hidentifier : entry.unsigned.artifactIdentifier = artifact.artifactIdentifier)
    (hconflict : entry.unsigned.artifactType ≠ artifact.artifactType ∨
      entry.unsigned.artifactSha256.val ≠ artifact.artifactSha256) (recordedAt : UtcDatetime) :
    ∃ failure, registerVerifiedArtifact p files artifact recordedAt none =
      (.error failure, files) := by
  have hlookup := lookup_keyed_of_mem h.chain hentry
  rw [hidentifier] at hlookup
  obtain ⟨failure, hfailure⟩ := requireTransparencyEntry_of_conflict
    (by rw [resultOf_entriesByIdentifier, hlookup]) hconflict
  refine ⟨failure, (registerVerifiedArtifact_of_lookup h hlookup).trans ?_⟩
  rw [hfailure]
  rfl

end

/-- Behind every sequence of registrations the log is accepted, chained and free of repeated
identifiers; one more registration keeps its entries in front; an artifact registered before
gets its first inclusion back and a conflicting one an error, and both leave the files alone.
Two accepted logs of one length and one last hash hold the same entries. -/
theorem transparencyLog_append_only (p : Platform) :
    (∀ calls, ∃ result, WellFormedLog p (registerAll p calls) result) ∧
    (∀ calls call, ∃ before after,
      verifyTransparencyLog p (registerAll p calls) = .ok before ∧
      verifyTransparencyLog p (registerAll p (calls ++ [call])) = .ok after ∧
      before.entryHashes <+: after.entryHashes) ∧
    (∀ calls artifact recordedAt result later again,
      (registerVerifiedArtifact p (registerAll p calls) artifact recordedAt none).1 = .ok result →
      ∃ verification,
        registerVerifiedArtifact p (registerAll p (calls ++ (artifact, recordedAt) :: later))
            artifact again none =
          (.ok ⟨result.inclusion, false, verification⟩,
            registerAll p (calls ++ (artifact, recordedAt) :: later))) ∧
    (∀ calls (artifact : VerifiedTransparencyArtifact) recordedAt,
      ∀ entry ∈ logEntries p (registerAll p calls).log,
      entry.unsigned.artifactIdentifier = artifact.artifactIdentifier →
      entry.unsigned.artifactSha256.val ≠ artifact.artifactSha256 →
      ∃ failure, registerVerifiedArtifact p (registerAll p calls) artifact recordedAt none =
        (.error failure, registerAll p calls)) ∧
    (∀ first second firstResult secondResult,
      verifyTransparencyLog p first = .ok firstResult →
      verifyTransparencyLog p second = .ok secondResult →
      EntryHashCollisionFree p (logEntries p first.log) (logEntries p second.log) →
      firstResult.entryCount = secondResult.entryCount →
      firstResult.lastEntryHash = secondResult.lastEntryHash →
      logEntries p first.log = logEntries p second.log) := by
  refine ⟨?_, ?_, ?_, ?_, ?_⟩
  · intro calls
    obtain ⟨entries, hentries⟩ := registerAll_represents (p := p) calls
    exact ⟨resultOf entries, hentries.wellFormedLog⟩
  · intro calls call
    obtain ⟨entries, hentries⟩ := registerAll_represents (p := p) calls
    obtain ⟨entries', hcall, hprefix⟩ := registerCall_represents hentries call
    refine ⟨resultOf entries, resultOf entries', verify_eq_ok_of_represents hentries, ?_, ?_⟩
    · rw [registerAll_concat]
      exact verify_eq_ok_of_represents hcall
    · rw [resultOf_entryHashes, resultOf_entryHashes]
      exact hprefix.map _
  · intro calls artifact recordedAt result later again h
    exact registerAll_again h again
  · intro calls artifact recordedAt entry hentry hidentifier hdigest
    obtain ⟨entries, hentries⟩ := registerAll_represents (p := p) calls
    rw [hentries.logEntries_eq] at hentry
    exact registerVerifiedArtifact_conflict hentries hentry hidentifier (.inr hdigest) recordedAt
  · intro first second firstResult secondResult hfirst hsecond hfree hcount hlast
    obtain ⟨entries, hentries, rfl⟩ := (verify_eq_ok p).mp hfirst
    obtain ⟨entries', hentries', rfl⟩ := (verify_eq_ok p).mp hsecond
    rw [hentries.logEntries_eq, hentries'.logEntries_eq] at hfree ⊢
    rw [resultOf_entryCount, resultOf_entryCount] at hcount
    rw [resultOf_lastEntryHash, resultOf_lastEntryHash] at hlast
    exact EntryChain.eq_of_last_eq hentries.chain hentries'.chain hfree hcount hlast

/-- A root transition registered on first use, and again. -/
theorem transparencyLog_append_only_sample :
    ∃ result verification,
      (registerVerifiedArtifact referencePlatform (registerAll referencePlatform [])
        sampleTransition sampleTime none).1 = .ok result ∧
      registerVerifiedArtifact referencePlatform
          (registerAll referencePlatform [(sampleTransition, sampleTime)]) sampleTransition
          sampleTime none =
        (.ok ⟨result.inclusion, false, verification⟩,
          registerAll referencePlatform [(sampleTransition, sampleTime)]) := by
  obtain ⟨entry, line, hpending⟩ := sampleTransition_pending
  obtain ⟨entries, -, -, hresult, -⟩ := registerVerifiedArtifact_of_pending hpending
  obtain ⟨-, -, hagain, -, -⟩ := transparencyLog_append_only referencePlatform
  obtain ⟨verification, hverification⟩ := hagain [] _ _ _ [] sampleTime hresult
  exact ⟨_, verification, hresult, hverification⟩

end AgenticLab.TransparencyLog
