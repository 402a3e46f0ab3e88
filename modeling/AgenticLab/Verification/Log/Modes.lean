import AgenticLab.Verification.Log.Registration

/-! # What the callers' modes ask of the log -/

namespace AgenticLab.TransparencyLog

variable {p : Platform} {files : LogFiles} {artifact : VerifiedTransparencyArtifact}
  {recordedAt : UtcDatetime} {mode : TransparencyLogMode} {fault : Option RegisterFault}

/-- The log holds the artifact, or an undisturbed registration appends it. -/
def LogAccepts (p : Platform) (files : LogFiles) (artifact : VerifiedTransparencyArtifact)
    (recordedAt : UtcDatetime) (mode : TransparencyLogMode) (fault : Option RegisterFault) : Prop :=
  fault ≠ some .lock ∧ fault ≠ some .readBefore ∧
    ((∃ verification inclusion, verifyTransparencyLogUnlocked p files = .ok verification ∧
        requireTransparencyEntry verification artifact = .ok inclusion) ∨
      (mode = .registerIfMissing ∧ fault = none ∧
        ∃ pending, pendingAppend? p files artifact recordedAt = some pending))

theorem registerVerifiedArtifact_unchanged :
    (registerVerifiedArtifact p files artifact recordedAt fault).2 = files ∨
      (fault ≠ some .lock ∧ fault ≠ some .readBefore ∧
        ∃ pending, pendingAppend? p files artifact recordedAt = some pending) := by
  by_cases hlock : fault = some .lock
  · exact .inl (registerVerifiedArtifact_of_stopped (.inl hlock))
  by_cases hread : fault = some .readBefore
  · exact .inl (registerVerifiedArtifact_of_stopped (.inr hread))
  cases hpending : pendingAppend? p files artifact recordedAt with
  | none => exact .inl (registerVerifiedArtifact_of_pendingAppend?_eq_none hpending)
  | some pending => exact .inr ⟨hlock, hread, pending, rfl⟩

/-- What a registration raises that is disturbed behind its first verification. -/
def IsWriteFault (failure : Raised) : Prop :=
  failure = writeFailure ∨ failure = stateExportFailure ∨ failure = readFailure

variable {line : List UInt8}

theorem registerVerifiedArtifact_of_fault {entry : Entry}
    (h : pendingAppend? p files artifact recordedAt = some (entry, line))
    (hlock : fault ≠ some .lock) (hread : fault ≠ some .readBefore) (hfault : fault ≠ none) :
    ∃ failure, (registerVerifiedArtifact p files artifact recordedAt fault).1 = .error failure ∧
      IsWriteFault failure := by
  obtain ⟨entries, hfiles, hlookup, hprepare, _⟩ := pendingAppend?_eq_some h
  have hprepared := prepareEntry_eq_ok hlookup hprepare
  rw [registerVerifiedArtifact_of_pendingAppend?_eq_some h hlock hread, writeEntry_of_pending h]
  cases fault with
  | none => exact absurd rfl hfault
  | some fault =>
    cases fault with
    | lock => exact absurd rfl hlock
    | readBefore => exact absurd rfl hread
    | appendBeforeOpen => exact ⟨writeFailure, rfl, .inl rfl⟩
    | appendAfterOpen => exact ⟨writeFailure, rfl, .inl rfl⟩
    | stateExport exportFault =>
      obtain ⟨content, hexport, _⟩ :=
        exportTransparencyLogState_of_prepared hfiles hprepared (some exportFault)
      simp only [RegisterFault.export?, hexport]
      exact ⟨stateExportFailure, rfl, .inr (.inl rfl)⟩
    | readAfter =>
      obtain ⟨content, hexport, _⟩ :=
        exportTransparencyLogState_of_prepared hfiles hprepared none
      simp only [RegisterFault.export?, hexport]
      exact ⟨readFailure, rfl, .inr (.inr rfl)⟩

/-- Behind an append that fails, or whose state or final verification fails, no result is
returned. -/
theorem registerVerifiedArtifact_isOk_of_pending {entry : Entry}
    (h : pendingAppend? p files artifact recordedAt = some (entry, line))
    (hlock : fault ≠ some .lock) (hread : fault ≠ some .readBefore) :
    (∃ result, (registerVerifiedArtifact p files artifact recordedAt fault).1 = .ok result) ↔
      fault = none := by
  constructor
  · rintro ⟨result, hresult⟩
    by_contra hfault
    obtain ⟨failure, hfailure, _⟩ := registerVerifiedArtifact_of_fault h hlock hread hfault
    rw [hfailure] at hresult
    cases hresult
  · rintro rfl
    obtain ⟨_, _, _, hresult, _⟩ := registerVerifiedArtifact_of_pending h
    exact ⟨_, hresult⟩

theorem requireTransparencyEntry_of_lookup_eq_none
    {verification : TransparencyLogVerificationResult} {inclusion : TransparencyLogInclusionResult}
    (h : verification.entriesByIdentifier.lookup artifact.artifactIdentifier = none) :
    requireTransparencyEntry verification artifact ≠ .ok inclusion := by
  intro hrequire
  have hlookup := (requireTransparencyEntry_eq_ok hrequire).1
  rw [h] at hlookup
  cases hlookup

theorem registerVerifiedArtifact_isOk_iff :
    (∃ result, (registerVerifiedArtifact p files artifact recordedAt fault).1 = .ok result) ↔
      LogAccepts p files artifact recordedAt .registerIfMissing fault := by
  cases hverify : lockAndVerify p files fault with
  | error failure =>
    unfold registerVerifiedArtifact
    simp only [hverify, reduceCtorEq, exists_false, false_iff]
    rintro ⟨hlock, hread, ⟨verification, _, hunlocked, _⟩ | ⟨_, _, ⟨entry, line⟩, hpending⟩⟩
    · have hok := lockAndVerify_eq_ok.mpr ⟨hlock, hread, hunlocked⟩
      rw [hverify] at hok
      cases hok
    · obtain ⟨entries, hfiles, _⟩ := pendingAppend?_eq_some hpending
      have hok := lockAndVerify_eq_ok.mpr ⟨hlock, hread, verify_eq_ok_of_represents hfiles⟩
      rw [hverify] at hok
      cases hok
  | ok verification =>
    obtain ⟨hlock, hread, hunlocked⟩ := lockAndVerify_eq_ok.mp hverify
    cases hlookup : verification.entriesByIdentifier.lookup artifact.artifactIdentifier with
    | some inclusion =>
      have hpending : pendingAppend? p files artifact recordedAt = none := by
        simp [pendingAppend?, hunlocked, hlookup]
      unfold registerVerifiedArtifact
      simp only [hverify, hlookup, LogAccepts, hpending, reduceCtorEq, exists_false, and_false,
        or_false, hunlocked, Except.ok.injEq]
      constructor
      · rintro ⟨result, hresult⟩
        obtain ⟨found, hfound, _⟩ := bind_eq_ok.mp hresult
        exact ⟨hlock, hread, verification, found, rfl, hfound⟩
      · rintro ⟨_, _, _, found, rfl, hfound⟩
        exact ⟨_, bind_eq_ok.mpr ⟨found, hfound, rfl⟩⟩
    | none =>
      have hrequire : ¬∃ verification inclusion,
          verifyTransparencyLogUnlocked p files = .ok verification ∧
            requireTransparencyEntry verification artifact = .ok inclusion := by
        rintro ⟨_, inclusion, hverified, hrequired⟩
        obtain rfl := Except.ok.inj (hunlocked.symm.trans hverified)
        exact requireTransparencyEntry_of_lookup_eq_none hlookup hrequired
      cases hpending : pendingAppend? p files artifact recordedAt with
      | some pending =>
        rw [registerVerifiedArtifact_isOk_of_pending hpending hlock hread]
        constructor
        · intro hnone
          exact ⟨hlock, hread, .inr ⟨rfl, hnone, pending, hpending⟩⟩
        · rintro ⟨_, _, hrequired | ⟨_, hnone, _⟩⟩
          · exact absurd hrequired hrequire
          · exact hnone
      | none =>
        constructor
        · rintro ⟨result, hresult⟩
          have hafter := registerVerifiedArtifact_eq_ok hresult
          rw [registerVerifiedArtifact_of_pendingAppend?_eq_none hpending] at hafter
          exact absurd ⟨_, _, hafter⟩ hrequire
        · rintro ⟨_, _, hrequired | ⟨_, _, pending, hsome⟩⟩
          · exact absurd hrequired hrequire
          · rw [hpending] at hsome
            cases hsome

theorem inclusionForMode_isOk_iff :
    (∃ inclusion, (inclusionForMode p files artifact recordedAt mode fault).1 = .ok inclusion) ↔
      LogAccepts p files artifact recordedAt mode fault := by
  cases mode with
  | registerIfMissing =>
    rw [← registerVerifiedArtifact_isOk_iff]
    constructor
    · rintro ⟨inclusion, hinclusion⟩
      obtain ⟨result, hresult, _⟩ := bind_eq_ok.mp hinclusion
      exact ⟨result, hresult⟩
    · rintro ⟨result, hresult⟩
      exact ⟨result.inclusion, bind_eq_ok.mpr ⟨result, hresult, rfl⟩⟩
  | requireExisting =>
    constructor
    · rintro ⟨inclusion, hinclusion⟩
      obtain ⟨verification, hverify, hrequire⟩ := bind_eq_ok.mp hinclusion
      obtain ⟨hlock, hread, hunlocked⟩ := lockAndVerify_eq_ok.mp hverify
      exact ⟨hlock, hread, .inl ⟨verification, inclusion, hunlocked, hrequire⟩⟩
    · rintro ⟨hlock, hread, ⟨verification, inclusion, hunlocked, hrequire⟩ | ⟨hmode, _⟩⟩
      · exact ⟨inclusion, bind_eq_ok.mpr ⟨verification,
          lockAndVerify_eq_ok.mpr ⟨hlock, hread, hunlocked⟩, hrequire⟩⟩
      · cases hmode

end AgenticLab.TransparencyLog
