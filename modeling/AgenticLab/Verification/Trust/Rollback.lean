import AgenticLab.Library.HighWater
import AgenticLab.Library.Runs
import AgenticLab.Verification.Trust.Transition

/-! # Generations of accepted manifests over whole runs -/

namespace AgenticLab

open HighWater

abbrev ManifestMark := Mark (KeyId × Sha256Digest) ℕ Sha256Digest

def SigningKeyManifest.VerifiedSigningKeyManifest.mark
    (verified : SigningKeyManifest.VerifiedSigningKeyManifest) : ManifestMark where
  key := (verified.result.rootKeyId, verified.result.rootKeyFingerprint)
  level := verified.result.generation.val
  value := verified.result.manifestSha256

namespace ManifestTrustState

open SigningKeyManifest RootTrustState

def ManifestTrustStatePayload.mark (state : ManifestTrustStatePayload) : ManifestMark where
  key := (state.rootKeyId, state.rootKeyFingerprint)
  level := state.highestGeneration.val
  value := state.manifestSha256

@[simp] theorem buildManifestTrustState_mark (verified : VerifiedSigningKeyManifest)
    (verifiedAt : UtcDatetime) : (buildManifestTrustState verified verifiedAt).mark = verified.mark :=
  rfl

variable {verified : VerifiedSigningKeyManifest} {minimum : ℤ}
  {decision : ManifestTrustStateDecision}

/-- An accepted manifest follows the stored state: it repeats its generation and digest, or it
is new and has to be stored. -/
theorem evaluateManifestTrustState_eq_ok {stored : Option ManifestTrustStatePayload}
    (h : evaluateManifestTrustState verified stored minimum = .ok decision) :
    (∀ state ∈ stored, state.mark.key = verified.mark.key ∧ state.mark.le verified.mark) ∧
      ((decision.shouldUpdate = false ∧ ∃ state ∈ stored, verified.mark.le state.mark) ∨
        (decision.shouldUpdate = true ∧
          ∀ state ∈ stored, state.mark.level < verified.mark.level)) := by
  rw [evaluateManifestTrustState, raiseIf_bind_eq_ok] at h
  simp only [raiseIf_bind_eq_ok] at h
  obtain ⟨_, hminimum, h⟩ := h
  cases stored with
  | none =>
    simp only [pure_eq_ok, Except.ok.injEq] at h
    subst h
    exact ⟨fun _ h => absurd h (Option.not_mem_none _),
      .inr ⟨rfl, fun _ h => absurd h (Option.not_mem_none _)⟩⟩
  | some state =>
    simp only [raiseIf_bind_eq_ok, not_not] at h
    obtain ⟨hkeyId, hfingerprint, h⟩ := h
    have hkey : state.mark.key = verified.mark.key := Prod.ext hkeyId.symm hfingerprint.symm
    split_ifs at h with hgeneration
    · simp only [raiseIf_bind_eq_ok, not_not, pure_eq_ok, Except.ok.injEq] at h
      obtain ⟨hdigest, rfl⟩ := h
      have hlevel : verified.mark.level = state.mark.level := congrArg Subtype.val hgeneration
      refine ⟨?_, .inl ⟨rfl, state, rfl, .inr ⟨hlevel, hdigest⟩⟩⟩
      rintro _ ⟨rfl⟩
      exact ⟨hkey, .inr ⟨hlevel.symm, hdigest.symm⟩⟩
    · simp only [pure_eq_ok, Except.ok.injEq] at h
      subst h
      have hlevel : state.mark.level < verified.mark.level := by
        have hne : verified.result.generation.val ≠ state.highestGeneration.val :=
          fun heq => hgeneration (Subtype.ext heq)
        have hle : (state.highestGeneration.val : ℤ) ≤ verified.result.generation.val :=
          (le_max_right _ _).trans (not_lt.mp hminimum)
        exact lt_of_le_of_ne (by exact_mod_cast hle) hne.symm
      refine ⟨?_, .inr ⟨rfl, ?_⟩⟩
      · rintro _ ⟨rfl⟩
        exact ⟨hkey, .inl hlevel⟩
      · rintro _ ⟨rfl⟩
        exact hlevel

variable {datetimes : DatetimeCodec} {requireExisting : Bool} {fault : Option StateFault}
  {node : FileNode}

theorem decideManifestTrustState_eq_ok
    (h : decideManifestTrustState datetimes node verified minimum requireExisting fault =
      .ok decision) :
    ∃ stored, loadManifestTrustState datetimes node = .ok stored ∧
      evaluateManifestTrustState verified stored minimum = .ok decision := by
  rw [decideManifestTrustState] at h
  simp only [raiseIf_bind_eq_ok] at h
  obtain ⟨_, _, h⟩ := h
  obtain ⟨stored, hload, h⟩ := bind_eq_ok.mp h
  exact ⟨stored, hload, (raiseIf_bind_eq_ok.mp h).2⟩

/-- An update leaves the file alone, the manifest refused or already stored in it, or it puts
the manifest's state in place behind a stored state that the manifest follows. -/
theorem applyManifestTrustStateAt_update
    {verifiedAt : UtcDatetime}
    {applied : Except Raised ManifestTrustStateDecision} {after : FileNode}
    (h : applyManifestTrustStateAt datetimes node verified verifiedAt minimum .update
      requireExisting fault = (applied, after)) :
    (after = node ∧ applied.isOk = false) ∨
      ∃ decision stored,
        decideManifestTrustState datetimes node verified minimum requireExisting fault =
          .ok decision ∧
        loadManifestTrustState datetimes node = .ok stored ∧
        (∀ state ∈ stored, state.mark.key = verified.mark.key ∧ state.mark.le verified.mark) ∧
        ((after = node ∧ ∃ state ∈ stored, verified.mark.le state.mark) ∨
          loadManifestTrustState datetimes after =
            .ok (some (buildManifestTrustState verified verifiedAt))) := by
  unfold applyManifestTrustStateAt at h
  cases hdecide : decideManifestTrustState datetimes node verified minimum requireExisting fault with
  | error failure =>
    rw [hdecide] at h
    cases h
    exact .inl ⟨rfl, rfl⟩
  | ok decision =>
    obtain ⟨stored, hload, hevaluate⟩ := decideManifestTrustState_eq_ok hdecide
    obtain ⟨hfollows, hdecision⟩ := evaluateManifestTrustState_eq_ok hevaluate
    rw [hdecide] at h
    rcases hdecision with ⟨hshould, hrepeated⟩ | ⟨hshould, _⟩
    · simp only [hshould, Bool.false_eq_true, and_false, if_false, Prod.mk.injEq] at h
      exact .inr ⟨decision, stored, rfl, hload, hfollows, .inl ⟨h.2.symm, hrepeated⟩⟩
    · simp only [hshould, and_self, if_true, Prod.mk.injEq] at h
      obtain ⟨rfl, rfl⟩ := h
      rcases (manifestTrustStateFormat_lawful datetimes).exportTo_cases node
        (buildManifestTrustState verified verifiedAt) (StateFault.replace? fault) with
        ⟨⟨failure, hraised⟩, hsame⟩ | ⟨_, _, hstored⟩
      · refine .inl ⟨hsame, ?_⟩
        rw [exportManifestTrustState, hraised]
        rfl
      · exact .inr ⟨decision, stored, rfl, hload, hfollows, .inr hstored⟩

variable {sha256 : Sha256} {rootState : RootTrustStatePayload sha256}

theorem retireManifestTrustState_files {files after : ManifestStateFiles}
    {retired : Except Raised Unit}
    (h : retireManifestTrustState datetimes files rootState fault = (retired, after)) :
    after = files ∨ (files.retired rootState.currentRootEpoch.val = .absent ∧
      after = files.rename rootState.currentRootEpoch.val) := by
  unfold retireManifestTrustState at h
  cases hcheck : checkRetirement datetimes files rootState fault with
  | error failure =>
    rw [hcheck] at h
    exact .inl (Prod.mk.inj h).2.symm
  | ok _ =>
    have hfree : files.retired rootState.currentRootEpoch.val = .absent := by
      rw [checkRetirement] at hcheck
      simp only [raiseIf_bind_eq_ok] at hcheck
      obtain ⟨stored, _, hcheck⟩ := bind_eq_ok.mp hcheck.2.2
      cases stored with
      | none => cases hcheck
      | some state =>
        simp only [raiseIf_bind_eq_ok, raiseIf_eq_ok] at hcheck
        cases hnode : files.retired rootState.currentRootEpoch.val with
        | absent => rfl
        | symlink => simp [hnode, FileNode.isPresent] at hcheck
        | directory => simp [hnode, FileNode.isPresent] at hcheck
        | regular => simp [hnode, FileNode.isPresent] at hcheck
    rw [hcheck] at h
    cases hfault : StateFault.replace? fault with
    | none =>
      simp only [hfault, Prod.mk.injEq] at h
      exact .inr ⟨hfree, h.2.symm⟩
    | some replaceFault =>
      cases replaceFault with
      | beforeReplace =>
        simp only [hfault, Prod.mk.injEq] at h
        exact .inl h.2.symm
      | afterReplace =>
        simp only [hfault, Prod.mk.injEq] at h
        exact .inr ⟨hfree, h.2.symm⟩

/-! ## Runs -/

inductive TrustAction (p : TrustPlatform) where
  | apply (verified : VerifiedSigningKeyManifest) (verifiedAt : UtcDatetime) (minimum : ℤ)
      (requireExisting : Bool) (fault : Option StateFault)
  | retire (currentRootState : RootTrustStatePayload p.sha256) (fault : Option StateFault)
  | transition (files : RootTransition.RootTransitionFiles p.sha256)
      (reread : Option (RootTransition.RootTransitionManifestPayload p.sha256))
      (applicationTime : UtcDatetime) (activeManifest : Option FileNode)
      (fault : Option StateFault)

structure TrustRun where
  rootState : FileNode
  files : ManifestStateFiles
  accepted : List VerifiedSigningKeyManifest

section

variable (p : TrustPlatform)

def TrustRun.step (s : TrustRun) : TrustAction p → TrustRun
  | .apply verified verifiedAt minimum requireExisting fault =>
    let (applied, after) := applyManifestTrustStateAt p.datetimes s.files.state verified
      verifiedAt minimum .update requireExisting fault
    { s with
      files := { s.files with state := after }
      accepted := if applied.isOk then s.accepted ++ [verified] else s.accepted }
  | .retire currentRootState fault =>
    { s with files := (retireManifestTrustState p.datetimes s.files currentRootState fault).2 }
  | .transition files reread applicationTime activeManifest fault =>
    { s with rootState :=
        (applyRootTransition p s.rootState files reread applicationTime activeManifest fault).2 }

def TrustRun.start (rootState state : FileNode) : TrustRun where
  rootState := rootState
  files := ⟨state, fun _ => .absent⟩
  accepted := []

/-- A manifest passes the checks of an update that finds no state file, although it is behind a
retired state of its root key. -/
def ResumesBehind (s : TrustRun) : TrustAction p → Prop
  | .apply verified _ minimum requireExisting fault =>
    s.files.state = .absent ∧
      (∃ decision, decideManifestTrustState p.datetimes s.files.state verified minimum
        requireExisting fault = .ok decision) ∧
      ∃ epoch state, loadManifestTrustState p.datetimes (s.files.retired epoch) =
          .ok (some state) ∧
        state.mark.key = verified.mark.key ∧ ¬state.mark.le verified.mark
  | _ => False

end

def keptMarks (datetimes : DatetimeCodec) (files : ManifestStateFiles) : Set ManifestMark :=
  {mark | ∃ node state, (node = files.state ∨ ∃ epoch, node = files.retired epoch) ∧
    loadManifestTrustState datetimes node = .ok (some state) ∧ state.mark = mark}

/-- Every accepted manifest is below a state that is still on disk, and the active state is not
behind a retired one of its root key. -/
structure RollbackInvariant (p : TrustPlatform) (s : TrustRun) : Prop where
  guarded : Guarded (keptMarks p.datetimes s.files) (s.accepted.map (·.mark))
  ahead : ∀ state, loadManifestTrustState p.datetimes s.files.state = .ok (some state) →
    ∀ epoch retired, loadManifestTrustState p.datetimes (s.files.retired epoch) =
      .ok (some retired) → retired.mark.key = state.mark.key → retired.mark.le state.mark

theorem rollbackInvariant_start (p : TrustPlatform) (rootState state : FileNode) :
    RollbackInvariant p (TrustRun.start rootState state) where
  guarded := Guarded.nil _
  ahead := by
    intro _ _ epoch retired hretired
    cases hretired

section

variable {p : TrustPlatform} {s : TrustRun} {stored : Option ManifestTrustStatePayload}

theorem below_keptMarks_of_stored {files : ManifestStateFiles} {after : FileNode}
    {state : ManifestTrustStatePayload}
    (hload : loadManifestTrustState datetimes files.state = .ok stored)
    (hfollows : ∀ old ∈ stored, old.mark.key = state.mark.key ∧ old.mark.le state.mark)
    (hafter : loadManifestTrustState datetimes after = .ok (some state)) :
    Below (keptMarks datetimes files) (keptMarks datetimes { files with state := after }) ∧
      state.mark ∈ keptMarks datetimes { files with state := after } := by
  have hmem : state.mark ∈ keptMarks datetimes { files with state := after } :=
    ⟨after, state, .inl rfl, hafter, rfl⟩
  refine ⟨?_, hmem⟩
  rintro _ ⟨node, old, hnode, hold, rfl⟩
  rcases hnode with rfl | ⟨epoch, rfl⟩
  · obtain ⟨hkey, hle⟩ := hfollows old (Except.ok.inj (hload.symm.trans hold))
    exact ⟨state.mark, hmem, hkey, hle⟩
  · exact ⟨old.mark, ⟨_, old, .inr ⟨epoch, rfl⟩, hold, rfl⟩, rfl, old.mark.le_refl⟩

theorem RollbackInvariant.kept_le (h : RollbackInvariant p s)
    {verified : VerifiedSigningKeyManifest}
    (hload : loadManifestTrustState p.datetimes s.files.state = .ok stored)
    (hfollows : ∀ old ∈ stored, old.mark.key = verified.mark.key ∧ old.mark.le verified.mark)
    (hretired : stored = none → ∀ epoch retired,
      loadManifestTrustState p.datetimes (s.files.retired epoch) = .ok (some retired) →
        retired.mark.key = verified.mark.key → retired.mark.le verified.mark) :
    ∀ kept ∈ keptMarks p.datetimes s.files, kept.key = verified.mark.key →
      kept.le verified.mark := by
  rintro _ ⟨node, old, hnode, hold, rfl⟩ hkey
  rcases hnode with rfl | ⟨epoch, rfl⟩
  · exact (hfollows old (Except.ok.inj (hload.symm.trans hold))).2
  · cases stored with
    | none => exact hretired rfl epoch old hold hkey
    | some state =>
      obtain ⟨hstateKey, hstate⟩ := hfollows state rfl
      exact Mark.le_trans (h.ahead state hload epoch old hold (hkey.trans hstateKey.symm)) hstate

theorem RollbackInvariant.apply (h : RollbackInvariant p s) (verified : VerifiedSigningKeyManifest)
    (verifiedAt : UtcDatetime) (minimum : ℤ) (requireExisting : Bool) (fault : Option StateFault)
    (hallowed : ¬ResumesBehind p s (.apply verified verifiedAt minimum requireExisting fault)) :
    RollbackInvariant p (s.step p (.apply verified verifiedAt minimum requireExisting fault)) := by
  cases hcall : applyManifestTrustStateAt p.datetimes s.files.state verified verifiedAt minimum
    .update requireExisting fault with
  | mk applied after =>
    simp only [TrustRun.step, hcall]
    rcases applyManifestTrustStateAt_update hcall with ⟨rfl, hraised⟩ |
      ⟨decision, stored, hdecide, hload, hfollows, hafter⟩
    · rw [hraised]
      exact h
    · have hretired : stored = none → ∀ epoch retired,
          loadManifestTrustState p.datetimes (s.files.retired epoch) = .ok (some retired) →
            retired.mark.key = verified.mark.key → retired.mark.le verified.mark := by
        rintro rfl epoch retired hretired hkey
        by_contra hbehind
        exact hallowed ⟨StateFormat.load_eq_none.mp hload, ⟨decision, hdecide⟩, epoch, retired,
          hretired, hkey, hbehind⟩
      have hkept := h.kept_le hload hfollows hretired
      rcases hafter with ⟨rfl, state, hstate, hle⟩ | hafter
      · -- the stored state already stands for the manifest
        refine ⟨?_, h.ahead⟩
        split_ifs
        · rw [List.map_append]
          apply h.guarded.accept hkept (Below.of_subset fun _ hmark => hmark)
          rintro _ rfl
          exact ⟨state.mark, ⟨_, state, .inl rfl, hload.trans (congrArg _ hstate), rfl⟩,
            (hfollows state hstate).1.symm, hle⟩
        · exact h.guarded
      · have hbuilt : ∀ old ∈ stored,
            old.mark.key = (buildManifestTrustState verified verifiedAt).mark.key ∧
              old.mark.le (buildManifestTrustState verified verifiedAt).mark := hfollows
        obtain ⟨hbelow, hmem⟩ := below_keptMarks_of_stored hload hbuilt hafter
        refine ⟨?_, ?_⟩
        · split_ifs
          · rw [List.map_append]
            exact h.guarded.accept hkept hbelow (Below.of_subset (by rintro _ rfl; exact hmem))
          · exact h.guarded.keep hbelow
        · intro state hstate epoch retired hold hkey
          obtain rfl : buildManifestTrustState verified verifiedAt = state :=
            Option.some.inj (Except.ok.inj (hafter.symm.trans hstate))
          exact hkept _ ⟨_, retired, .inr ⟨epoch, rfl⟩, hold, rfl⟩ hkey

theorem RollbackInvariant.retire (h : RollbackInvariant p s)
    (rootState : RootTrustStatePayload p.sha256) (fault : Option StateFault) :
    RollbackInvariant p (s.step p (.retire rootState fault)) := by
  cases hcall : retireManifestTrustState p.datetimes s.files rootState fault with
  | mk retired after =>
    simp only [TrustRun.step, hcall]
    rcases retireManifestTrustState_files hcall with rfl | ⟨hfree, rfl⟩
    · exact h
    · refine ⟨h.guarded.keep (Below.of_subset ?_), nofun⟩
      rintro _ ⟨node, state, hnode, hload, rfl⟩
      refine ⟨node, state, .inr ?_, hload, rfl⟩
      rcases hnode with rfl | ⟨epoch, rfl⟩
      · exact ⟨rootState.currentRootEpoch.val, by simp [ManifestStateFiles.rename]⟩
      · have hepoch : epoch ≠ rootState.currentRootEpoch.val := by
          rintro rfl
          rw [hfree] at hload
          cases hload
        exact ⟨epoch, by simp [ManifestStateFiles.rename, hepoch]⟩

theorem RollbackInvariant.step (h : RollbackInvariant p s) (action : TrustAction p)
    (hallowed : ¬ResumesBehind p s action) : RollbackInvariant p (s.step p action) := by
  cases action with
  | apply verified verifiedAt minimum requireExisting fault =>
    exact h.apply verified verifiedAt minimum requireExisting fault hallowed
  | retire rootState fault => exact h.retire rootState fault
  | transition files reread applicationTime activeManifest fault => exact ⟨h.guarded, h.ahead⟩

end

/-- Under each root key the generations of the accepted manifests never decrease, and equal
generations have equal digests, as long as none resumes behind a retired state. -/
theorem accepted_ascending {p : TrustPlatform} {rootState state : FileNode} {s : TrustRun}
    (h : Runs.Reachable (TrustRun.step p) (fun s action => ¬ResumesBehind p s action)
      (TrustRun.start rootState state) s) : Ascending (s.accepted.map (·.mark)) :=
  (h.invariant (RollbackInvariant p) (rollbackInvariant_start p rootState state)
    fun _ action hinv hallowed => hinv.step action hallowed).guarded.ascending

/-! ## Manifests on both sides of a retirement -/

variable {state : ManifestTrustStatePayload}

theorem exists_text (h : (Nat.toDigits 10 state.highestGeneration.val).length ≤ maxStrDigits) :
    ∃ text, (manifestTrustStateFormat datetimes).text state = .ok text := by
  refine ⟨_, jsonDumps_eq_ok.mpr ⟨?_, rfl⟩⟩
  have hone : (Nat.toDigits 10 1).length ≤ maxStrDigits := by decide
  simp only [manifestTrustStateFormat, stateMembers, Json.Value.intsWithin,
    Json.membersIntsWithin, Bool.and_true, Bool.true_and, Bool.and_eq_true, decide_eq_true_eq]
  exact ⟨hone, h⟩

theorem applyManifestTrustStateAt_absent (datetimes : DatetimeCodec)
    (hdigits : (Nat.toDigits 10 verified.result.generation.val).length ≤ maxStrDigits)
    (verifiedAt : UtcDatetime) :
    ∃ decision after, applyManifestTrustStateAt datetimes .absent verified verifiedAt 1 .update
        false none = (.ok decision, after) ∧
      loadManifestTrustState datetimes after =
        .ok (some (buildManifestTrustState verified verifiedAt)) := by
  have hgeneration : ¬(verified.result.generation.val : ℤ) < 1 := by
    have hpositive := verified.result.generation.property
    omega
  have hdecide : decideManifestTrustState datetimes .absent verified 1 false none =
      .ok ⟨none, 1, true, false⟩ := by
    have hminimum : effectiveMinimum none 1 = 1 := rfl
    simp [decideManifestTrustState, loadManifestTrustState, evaluateManifestTrustState, raiseIf,
      hminimum, hgeneration]
  obtain ⟨text, htext⟩ : ∃ text, (manifestTrustStateFormat datetimes).text
      (buildManifestTrustState verified verifiedAt) = .ok text := exists_text hdigits
  have hnode : FileNode.absent.isSymlinkOrDir = false := rfl
  have hexport := StateFormat.exportTo_of_text hnode htext none
  refine ⟨⟨none, 1, true, true⟩, .regular (TextFile.encode (text ++ ['\n'])), ?_,
    (manifestTrustStateFormat_lawful datetimes).load_text htext⟩
  unfold applyManifestTrustStateAt
  rw [hdecide]
  simp only [and_self, if_true, exportManifestTrustState, StateFault.replace?, hexport]
  rfl

theorem retireManifestTrustState_of_load (files : ManifestStateFiles)
    (hload : loadManifestTrustState datetimes files.state = .ok (some state))
    (hkey : state.mark.key = (rootState.currentRootKeyId,
      rootState.currentRootPublicKeyFingerprint))
    (hfree : files.retired rootState.currentRootEpoch.val = .absent) :
    retireManifestTrustState datetimes files rootState none =
      (.ok (), files.rename rootState.currentRootEpoch.val) := by
  have hkeyId : state.rootKeyId = rootState.currentRootKeyId := congrArg Prod.fst hkey
  have hfingerprint : state.rootKeyFingerprint = rootState.currentRootPublicKeyFingerprint :=
    congrArg Prod.snd hkey
  have hcheck : checkRetirement datetimes files rootState none = .ok () := by
    simp [checkRetirement, hload, raiseIf, hkeyId, hfingerprint, hfree, FileNode.isPresent]
  rw [retireManifestTrustState, hcheck]
  rfl

def aroundRetirement (p : TrustPlatform) (rootNode : FileNode)
    (rootState : RootTrustStatePayload p.sha256) (first second : VerifiedSigningKeyManifest)
    (verifiedAt : UtcDatetime) : TrustRun :=
  Runs.run (TrustRun.step p) (TrustRun.start rootNode .absent)
    [.apply first verifiedAt 1 false none, .retire rootState none,
      .apply second verifiedAt 1 false none]

section

variable (p : TrustPlatform) (rootNode : FileNode) (rootState : RootTrustStatePayload p.sha256)
  (first second : VerifiedSigningKeyManifest)

theorem accepted_around_retirement
    (hkey : first.mark.key = (rootState.currentRootKeyId,
      rootState.currentRootPublicKeyFingerprint))
    (hfirst : (Nat.toDigits 10 first.result.generation.val).length ≤ maxStrDigits)
    (hsecond : (Nat.toDigits 10 second.result.generation.val).length ≤ maxStrDigits)
    (verifiedAt : UtcDatetime) :
    (aroundRetirement p rootNode rootState first second verifiedAt).accepted =
      [first, second] := by
  obtain ⟨decision, after, happly, hload⟩ :=
    applyManifestTrustStateAt_absent p.datetimes hfirst verifiedAt
  obtain ⟨decision', after', happly', _⟩ :=
    applyManifestTrustStateAt_absent p.datetimes hsecond verifiedAt
  have hretire := retireManifestTrustState_of_load ⟨after, fun _ => .absent⟩ hload hkey rfl
  simp [aroundRetirement, Runs.run, TrustRun.step, TrustRun.start, happly, hretire,
    ManifestStateFiles.rename, happly', Except.isOk, Except.toBool]

theorem not_ascending_around_retirement
    (hkey : first.mark.key = (rootState.currentRootKeyId,
      rootState.currentRootPublicKeyFingerprint)) (hsame : first.mark.key = second.mark.key)
    (hfirst : (Nat.toDigits 10 first.result.generation.val).length ≤ maxStrDigits)
    (hsecond : (Nat.toDigits 10 second.result.generation.val).length ≤ maxStrDigits)
    (hbehind : ¬first.mark.le second.mark) (verifiedAt : UtcDatetime) :
    ¬Ascending ((aroundRetirement p rootNode rootState first second verifiedAt).accepted.map
      (·.mark)) := by
  rw [accepted_around_retirement p rootNode rootState first second hkey hfirst hsecond]
  intro h
  exact hbehind ((List.pairwise_cons.mp h).1 second.mark (by simp) hsame)

theorem reachable_around_retirement
    (hkey : first.mark.key = (rootState.currentRootKeyId,
      rootState.currentRootPublicKeyFingerprint))
    (hfirst : (Nat.toDigits 10 first.result.generation.val).length ≤ maxStrDigits)
    (hle : first.mark.le second.mark) (verifiedAt : UtcDatetime) :
    Runs.Reachable (TrustRun.step p) (fun s action => ¬ResumesBehind p s action)
      (TrustRun.start rootNode .absent)
      (aroundRetirement p rootNode rootState first second verifiedAt) := by
  obtain ⟨decision, after, happly, hload⟩ :=
    applyManifestTrustStateAt_absent p.datetimes hfirst verifiedAt
  have hretire := retireManifestTrustState_of_load ⟨after, fun _ => .absent⟩ hload hkey rfl
  simp only [aroundRetirement, Runs.run, List.foldl_cons, List.foldl_nil]
  refine .step (.step (.step .start ?_) id) ?_
  · rintro ⟨_, _, epoch, state, hstate, _⟩
    cases hstate
  · rintro ⟨_, _, epoch, state, hstate, _, hbehind⟩
    simp only [TrustRun.step, TrustRun.start, happly, hretire, ManifestStateFiles.rename] at hstate
    by_cases hepoch : epoch = rootState.currentRootEpoch.val
    · rw [hepoch, Function.update_self, hload] at hstate
      obtain rfl := Option.some.inj (Except.ok.inj hstate)
      exact hbehind hle
    · rw [Function.update_of_ne hepoch] at hstate
      cases hstate

end

def sampleArchiveKey : PublicKeyB64 := ⟨"JUO5L/EJVRFHatyDadtt3JM2ZaEZeN2hQE7hBmypVZ0=", by decide⟩

theorem isValidKeyId_archive : isValidKeyId "archive-a" = true := by decide

def sampleVerified (generation : PositiveInt) (manifestSha256 : Sha256Digest) :
    VerifiedSigningKeyManifest where
  result := {
    manifestVersion := signingKeyManifestVersion
    generation := generation
    issuedAt := ⟨2026, 7, 1, 0, 0, 0, 0, isCalendarTime_from⟩
    validFrom := ⟨2026, 7, 1, 0, 0, 0, 0, isCalendarTime_from⟩
    validUntil := ⟨2027, 7, 1, 0, 0, 0, 0, isCalendarTime_until⟩
    rootKeyId := sampleRootState.currentRootKeyId
    rootKeyFingerprint := sampleRootState.currentRootPublicKeyFingerprint
    activeKeyId := ⟨"archive-a", isValidKeyId_archive⟩
    keyCount := ⟨1, Nat.one_pos⟩
    manifestSha256 := manifestSha256 }
  trustStore := [{
    keyId := ⟨"archive-a", isValidKeyId_archive⟩
    publicKeyBytes := sampleArchiveKey.bytes
    publicKeyFingerprint := fingerprintPublicKey hashlibSha256 sampleArchiveKey.bytes
    status := .active
    validFrom := ⟨2026, 7, 1, 0, 0, 0, 0, isCalendarTime_from⟩
    validUntil := none
    revokedAt := none }]

def sampleDigestA : Sha256Digest :=
  ⟨"0123456789abcdef0123456789abcdef0123456789abcdef0123456789abcdef", isValid_ascending⟩

def sampleDigestB : Sha256Digest :=
  ⟨"fedcba9876543210fedcba9876543210fedcba9876543210fedcba9876543210", isValid_descending⟩

theorem accepted_ascending_around_retirement :
    (aroundRetirement (referenceTrustPlatform []) sampleRootNode sampleRootState
        (sampleVerified ⟨1, by decide⟩ sampleDigestA) (sampleVerified ⟨2, by decide⟩ sampleDigestB)
        sampleRootState.updatedAt).accepted.length = 2 ∧
      Ascending ((aroundRetirement (referenceTrustPlatform []) sampleRootNode sampleRootState
        (sampleVerified ⟨1, by decide⟩ sampleDigestA) (sampleVerified ⟨2, by decide⟩ sampleDigestB)
        sampleRootState.updatedAt).accepted.map (·.mark)) := by
  refine ⟨?_, accepted_ascending (reachable_around_retirement _ _ _ _ _ rfl (by decide)
    (.inl (by decide)) _)⟩
  rw [accepted_around_retirement _ _ _ _ _ rfl (by decide) (by decide)]
  rfl

/-- Behind a retirement a manifest of a lower generation is accepted for the same root key. -/
theorem accepted_falls_behind_retirement :
    loadRootTrustState (referenceTrustPlatform []) sampleRootNode = .ok (some sampleRootState) ∧
      ¬Ascending ((aroundRetirement (referenceTrustPlatform []) sampleRootNode sampleRootState
        (sampleVerified ⟨2, by decide⟩ sampleDigestB) (sampleVerified ⟨1, by decide⟩ sampleDigestA)
        sampleRootState.updatedAt).accepted.map (·.mark)) := by
  refine ⟨loadRootTrustState_sampleRootNode [], not_ascending_around_retirement _ _ _
    (sampleVerified ⟨2, by decide⟩ sampleDigestB) (sampleVerified ⟨1, by decide⟩ sampleDigestA) rfl
    rfl (by decide) (by decide) ?_ _⟩
  rintro (hlevel | ⟨hlevel, _⟩)
  · exact absurd hlevel (by decide)
  · exact absurd hlevel (by decide)

end ManifestTrustState

end AgenticLab
