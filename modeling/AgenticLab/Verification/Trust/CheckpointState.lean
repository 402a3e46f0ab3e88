import AgenticLab.Library.Runs
import AgenticLab.Model.CheckpointState
import AgenticLab.Verification.StateFile

/-! # The witnessed state of a log only moves forward -/

namespace AgenticLab.TransparencyCheckpointState

theorem name_isShort (value : Name) : value.val.length ≤ 512 := value.property.2.trans (by decide)

variable (datetimes : DatetimeCodec)

theorem stateFromJson_members (state : TransparencyCheckpointStatePayload) :
    stateFromJson datetimes (.obj (stateMembers datetimes state)) = some state := by
  have hkeys : (stateMembers datetimes state).map Prod.fst = stateFieldNames := rfl
  rw [stateFromJson, objectFields?_eq hkeys]
  have hversion : (stateMembers datetimes state).literal? "state_version"
      (.int transparencyCheckpointStateVersion) = some () := literal?_of_lookup rfl
  have htype : (stateMembers datetimes state).literal? "state_type"
      (.str transparencyCheckpointStateType) = some () := literal?_of_lookup rfl
  have hlog : ((stateMembers datetimes state).str? "log_id").bind name? = some state.logId := by
    rw [str?_of_lookup rfl, Option.bind_some, name?_val]
  have hsize : (stateMembers datetimes state).positiveInt? "highest_tree_size" =
      some state.highestTreeSize := positiveInt?_of_lookup rfl
  have hroot : (stateMembers datetimes state).digest? "highest_root_hash" =
      some state.highestRootHash := digest?_of_lookup rfl
  have hdigest : (stateMembers datetimes state).digest? "highest_checkpoint_sha256" =
      some state.highestCheckpointSha256 := digest?_of_lookup rfl
  have hkey : ((stateMembers datetimes state).str? "log_signing_key_id").bind name? =
      some state.logSigningKeyId := by
    rw [str?_of_lookup rfl, Option.bind_some, name?_val]
  have hupdated : (stateMembers datetimes state).datetime? datetimes "updated_at" =
      some state.updatedAt := datetime?_of_lookup rfl
  simp only [Option.bind_eq_bind, Option.bind_some, Option.pure_def, hversion, htype, hlog, hsize,
    hroot, hdigest, hkey, hupdated]

def stateAtoms (state : TransparencyCheckpointStatePayload) : List (String × Json.Atom) :=
  [("state_version", .int transparencyCheckpointStateVersion),
    ("state_type", .str transparencyCheckpointStateType),
    ("log_id", .str state.logId.val),
    ("highest_tree_size", .int state.highestTreeSize.val),
    ("highest_root_hash", .str state.highestRootHash.val),
    ("highest_checkpoint_sha256", .str state.highestCheckpointSha256.val),
    ("log_signing_key_id", .str state.logSigningKeyId.val),
    ("updated_at", .str (datetimes.format state.updatedAt))]

theorem transparencyCheckpointStateFormat_lawful :
    (transparencyCheckpointStateFormat datetimes).Lawful where
  fromJson_members := stateFromJson_members datetimes
  keysUnique := fun _ => rfl
  fits := by
    refine StateFormat.fits_of_atoms (stateAtoms datetimes) stateFieldNames (fun _ => rfl)
      (fun _ => rfl) (by decide) (by decide) ?_ (Nat.le_refl _)
    intro state
    have hlog := name_isShort state.logId
    have hroot := digest_isShort state.highestRootHash
    have hdigest := digest_isShort state.highestCheckpointSha256
    have hkey := name_isShort state.logSigningKeyId
    have hupdated := datetimes.format_length state.updatedAt
    simp only [stateAtoms, List.forall_mem_cons, List.not_mem_nil, false_imp_iff, implies_true,
      Json.Atom.isShort, decide_eq_true_eq, and_true, true_and]
    exact ⟨by decide, hlog, hroot, hdigest, hkey, hupdated.trans (by decide)⟩

/-! ## One call -/

structure Forward (earlier later : TransparencyCheckpointStatePayload) : Prop where
  logId : later.logId = earlier.logId
  logSigningKeyId : later.logSigningKeyId = earlier.logSigningKeyId
  treeSize : earlier.highestTreeSize.val ≤ later.highestTreeSize.val
  sameSize : later.highestTreeSize.val = earlier.highestTreeSize.val →
    later.highestRootHash = earlier.highestRootHash ∧
      later.highestCheckpointSha256 = earlier.highestCheckpointSha256

theorem Forward.refl (state : TransparencyCheckpointStatePayload) : Forward state state :=
  ⟨rfl, rfl, Nat.le_refl _, fun _ => ⟨rfl, rfl⟩⟩

theorem Forward.trans {first second third : TransparencyCheckpointStatePayload}
    (h : Forward first second) (hnext : Forward second third) : Forward first third where
  logId := hnext.logId.trans h.logId
  logSigningKeyId := hnext.logSigningKeyId.trans h.logSigningKeyId
  treeSize := h.treeSize.trans hnext.treeSize
  sameSize := by
    intro hsize
    have hle := h.treeSize
    have hle' := hnext.treeSize
    have hsecond := hnext.sameSize (by omega)
    have hfirst := h.sameSize (by omega)
    exact ⟨hsecond.1.trans hfirst.1, hsecond.2.trans hfirst.2⟩

structure Proves (proof : TransparencyConsistencyProofVerificationResult)
    (earlier later : TransparencyCheckpointStatePayload) : Prop where
  oldTreeSize : proof.oldTreeSize = earlier.highestTreeSize.val
  oldRootHash : proof.oldRootHash = earlier.highestRootHash.val
  newTreeSize : proof.newTreeSize = later.highestTreeSize.val
  newRootHash : proof.newRootHash = later.highestRootHash.val

structure Shows (checkpoint : TransparencyCheckpointVerificationResult)
    (state : TransparencyCheckpointStatePayload) : Prop where
  logId : state.logId.val = checkpoint.logId
  treeSize : (state.highestTreeSize.val : ℤ) = checkpoint.treeSize
  rootHash : state.highestRootHash.val = checkpoint.rootHash
  checkpointSha256 : state.highestCheckpointSha256.val = checkpoint.checkpointSha256
  logSigningKeyId : state.logSigningKeyId.val = checkpoint.logSigningKeyId

theorem name?_eq_some {value : String} {name : Name} (h : name? value = some name) :
    name.val = value := by
  unfold name? at h
  split_ifs at h
  cases h
  rfl

variable {checkpoint : TransparencyCheckpointVerificationResult} {updatedAt : UtcDatetime}

theorem buildTransparencyCheckpointState_eq_ok {state : TransparencyCheckpointStatePayload}
    (h : buildTransparencyCheckpointState checkpoint updatedAt = .ok state) :
    Shows checkpoint state := by
  unfold buildTransparencyCheckpointState at h
  split at h
  · rename_i built hbuilt
    cases h
    obtain ⟨logId, hlog, hbuilt⟩ := Option.bind_eq_some_iff.mp hbuilt
    obtain ⟨size, hsize, hbuilt⟩ := Option.bind_eq_some_iff.mp hbuilt
    obtain ⟨root, hroot, hbuilt⟩ := Option.bind_eq_some_iff.mp hbuilt
    obtain ⟨digest, hdigest, hbuilt⟩ := Option.bind_eq_some_iff.mp hbuilt
    obtain ⟨key, hkey, hbuilt⟩ := Option.bind_eq_some_iff.mp hbuilt
    cases hbuilt
    exact ⟨name?_eq_some hlog, positiveInt?_eq_some hsize, sha256Digest?_eq_some hroot,
      sha256Digest?_eq_some hdigest, name?_eq_some hkey⟩
  · cases h

variable {consistencyProof : Option TransparencyConsistencyProofVerificationResult}

theorem replaces_eq_true {stored : TransparencyCheckpointStatePayload}
    (h : replaces stored checkpoint consistencyProof = .ok true) :
    stored.logId.val = checkpoint.logId ∧
      stored.logSigningKeyId.val = checkpoint.logSigningKeyId ∧
      (stored.highestTreeSize.val : ℤ) < checkpoint.treeSize ∧
      ∃ proof ∈ consistencyProof, proof.oldTreeSize = stored.highestTreeSize.val ∧
        proof.oldRootHash = stored.highestRootHash.val ∧
        proof.newTreeSize = checkpoint.treeSize ∧ proof.newRootHash = checkpoint.rootHash := by
  unfold replaces at h
  obtain ⟨hlog, h⟩ := raiseIf_bind_eq_ok.mp h
  obtain ⟨hrollback, h⟩ := raiseIf_bind_eq_ok.mp h
  rw [not_or, not_not, not_not] at hlog
  by_cases hsize : checkpoint.treeSize = stored.highestTreeSize.val
  · rw [if_pos hsize] at h
    obtain ⟨sameRoot, _, h⟩ := bind_eq_ok.mp h
    obtain ⟨sameDigest, _, h⟩ := bind_eq_ok.mp h
    obtain ⟨_, h⟩ := raiseIf_bind_eq_ok.mp h
    cases h
  · rw [if_neg hsize] at h
    cases consistencyProof with
    | none => cases h
    | some proof =>
      obtain ⟨hproof, _⟩ := raiseIf_bind_eq_ok.mp h
      simp only [not_or, not_not] at hproof
      exact ⟨hlog.1, hlog.2, by omega, proof, rfl, hproof⟩

structure Succeeds (consistencyProof : Option TransparencyConsistencyProofVerificationResult)
    (stored current : TransparencyCheckpointStatePayload) : Prop where
  forward : Forward stored current
  proved : ∃ proof ∈ consistencyProof, Proves proof stored current

variable {fault : Option StateFault} {result : TransparencyCheckpointStateApplyResult}

theorem decideCheckpoint_eq_ok {node : FileNode}
    (h : decideCheckpoint datetimes node checkpoint consistencyProof updatedAt fault = .ok result) :
    loadTransparencyCheckpointState datetimes node = .ok result.storedState ∧
      (result.stateUpdated = true →
        ∀ stored ∈ result.storedState, Succeeds consistencyProof stored result.currentState) := by
  unfold decideCheckpoint at h
  obtain ⟨_, h⟩ := raiseIf_bind_eq_ok.mp h
  obtain ⟨_, h⟩ := raiseIf_bind_eq_ok.mp h
  obtain ⟨storedState, hload, h⟩ := bind_eq_ok.mp h
  cases storedState with
  | none =>
    obtain ⟨current, _, h⟩ := bind_eq_ok.mp h
    cases h
    exact ⟨hload, fun _ _ hnone => nomatch hnone⟩
  | some stored =>
    obtain ⟨replaced, hreplaces, h⟩ := bind_eq_ok.mp h
    cases replaced with
    | false =>
      cases h
      exact ⟨hload, nofun⟩
    | true =>
      obtain ⟨current, hbuild, h⟩ := bind_eq_ok.mp h
      cases h
      refine ⟨hload, ?_⟩
      intro _ state hstate
      cases hstate
      have hshows := buildTransparencyCheckpointState_eq_ok hbuild
      obtain ⟨hlog, hkey, hsize, proof, hproof, hold, hroot, hnew, hnewRoot⟩ :=
        replaces_eq_true hreplaces
      have hcurrent := hshows.treeSize
      have hgrown : stored.highestTreeSize.val < current.highestTreeSize.val := by omega
      exact ⟨⟨Subtype.ext (hshows.logId.trans hlog.symm),
        Subtype.ext (hshows.logSigningKeyId.trans hkey.symm), hgrown.le,
        fun heq => absurd heq hgrown.ne'⟩,
        proof, hproof, hold, hroot, hnew.trans hcurrent.symm,
        hnewRoot.trans hshows.rootHash.symm⟩

/-- The arguments of a call of `apply_verified_checkpoint_to_state`, and where it meets an
operating system error. -/
structure Call where
  checkpoint : TransparencyCheckpointVerificationResult
  consistencyProof : Option TransparencyConsistencyProofVerificationResult
  updatedAt : UtcDatetime
  fault : Option StateFault

def Call.apply (node : FileNode) (call : Call) :
    Except Raised TransparencyCheckpointStateApplyResult × FileNode :=
  applyVerifiedCheckpointToState datetimes node call.checkpoint call.consistencyProof
    call.updatedAt call.fault

theorem replace?_eq_afterReplace (hbefore : StateFault.replace? fault ≠ some .beforeReplace)
    (hnone : StateFault.replace? fault ≠ none) : fault = some (.replace .afterReplace) := by
  cases fault with
  | none => exact absurd rfl hnone
  | some fault =>
    cases fault with
    | lock => exact absurd rfl hnone
    | read => exact absurd rfl hnone
    | replace fault =>
      cases fault with
      | beforeReplace => exact absurd rfl hbefore
      | afterReplace => rfl

theorem apply_of_updates {node : FileNode} {call : Call}
    (hdecide : decideCheckpoint datetimes node call.checkpoint call.consistencyProof
      call.updatedAt call.fault = .ok result) (hupdated : result.stateUpdated = true) :
    call.apply datetimes node =
      (do
        (exportTransparencyCheckpointState datetimes node result.currentState
          (StateFault.replace? call.fault)).1
        return result,
      (exportTransparencyCheckpointState datetimes node result.currentState
        (StateFault.replace? call.fault)).2) := by
  rw [Call.apply, applyVerifiedCheckpointToState, hdecide]
  exact if_pos hupdated

theorem apply_cases (node : FileNode) (call : Call) :
    (call.apply datetimes node).2 = node ∨
      ∃ stored current, loadTransparencyCheckpointState datetimes node = .ok stored ∧
        loadTransparencyCheckpointState datetimes (call.apply datetimes node).2 =
          .ok (some current) ∧
        (∀ state ∈ stored, Succeeds call.consistencyProof state current) ∧
        ∀ failure, (call.apply datetimes node).1 = .error failure →
          call.fault = some (.replace .afterReplace) := by
  cases hdecide : decideCheckpoint datetimes node call.checkpoint call.consistencyProof
      call.updatedAt call.fault with
  | error failure =>
    rw [Call.apply, applyVerifiedCheckpointToState, hdecide]
    exact .inl rfl
  | ok result =>
    obtain ⟨hload, hsucceeds⟩ := decideCheckpoint_eq_ok datetimes hdecide
    by_cases hupdated : result.stateUpdated = true
    · rw [apply_of_updates datetimes hdecide hupdated]
      rcases (transparencyCheckpointStateFormat_lawful datetimes).exportTo_cases node
        result.currentState (StateFault.replace? call.fault) with
        ⟨_, hnode⟩ | ⟨hbefore, hexported, hstored⟩
      · exact .inl hnode
      · refine .inr ⟨_, _, hload, hstored, hsucceeds hupdated, ?_⟩
        intro failure hraised
        refine replace?_eq_afterReplace hbefore ?_
        intro hnone
        rw [exportTransparencyCheckpointState, hexported.mpr hnone] at hraised
        cases hraised
    · rw [Call.apply, applyVerifiedCheckpointToState, hdecide]
      exact .inl (congrArg Prod.snd (if_neg hupdated))

def fileAfter (start : FileNode) (calls : List Call) : FileNode :=
  Runs.run (fun node call => (call.apply datetimes node).2) start calls

theorem forward_of_load (start : FileNode) (calls : List Call)
    (stored : TransparencyCheckpointStatePayload)
    (h : loadTransparencyCheckpointState datetimes start = .ok (some stored)) :
    ∃ current, loadTransparencyCheckpointState datetimes (fileAfter datetimes start calls) =
      .ok (some current) ∧ Forward stored current := by
  induction calls generalizing start stored with
  | nil => exact ⟨stored, h, .refl stored⟩
  | cons call calls ih =>
    rcases apply_cases datetimes start call with
      hsame | ⟨before, current, hbefore, hafter, hsucceeds, _⟩
    · have hload : loadTransparencyCheckpointState datetimes (call.apply datetimes start).2 =
          .ok (some stored) := by rw [hsame, h]
      exact ih _ stored hload
    · obtain rfl : before = some stored := Except.ok.inj (hbefore.symm.trans h)
      obtain ⟨later, hlater, hforward⟩ := ih _ current hafter
      exact ⟨later, hlater, (hsucceeds stored rfl).forward.trans hforward⟩

structure MovesForward (start : FileNode) (earlier later : List Call) (call : Call) : Prop where
  forward : ∀ stored,
    loadTransparencyCheckpointState datetimes (fileAfter datetimes start earlier) =
      .ok (some stored) →
    ∃ current, loadTransparencyCheckpointState datetimes
      (fileAfter datetimes start (earlier ++ later)) = .ok (some current) ∧ Forward stored current
  grown : ∀ stored current,
    loadTransparencyCheckpointState datetimes (fileAfter datetimes start earlier) =
      .ok (some stored) →
    loadTransparencyCheckpointState datetimes (fileAfter datetimes start (earlier ++ [call])) =
      .ok (some current) →
    stored.highestTreeSize.val < current.highestTreeSize.val →
    ∃ proof ∈ call.consistencyProof, Proves proof stored current
  raised : ∀ failure,
    (call.apply datetimes (fileAfter datetimes start earlier)).1 = .error failure →
    fileAfter datetimes start (earlier ++ [call]) = fileAfter datetimes start earlier ∨
      call.fault = some (.replace .afterReplace) ∧
        ∃ current, loadTransparencyCheckpointState datetimes
          (fileAfter datetimes start (earlier ++ [call])) = .ok (some current)

/-- Whatever calls are made in whatever order, the state moves forward. -/
theorem movesForward (start : FileNode) (earlier later : List Call) (call : Call) :
    MovesForward datetimes start earlier later call := by
  have happend : ∀ more, fileAfter datetimes start (earlier ++ more) =
      fileAfter datetimes (fileAfter datetimes start earlier) more := fun _ => List.foldl_append
  have hlast : fileAfter datetimes start (earlier ++ [call]) =
      (call.apply datetimes (fileAfter datetimes start earlier)).2 := happend [call]
  have hcases := apply_cases datetimes (fileAfter datetimes start earlier) call
  constructor
  · intro stored hstored
    rw [happend]
    exact forward_of_load datetimes _ later stored hstored
  · intro stored current hstored hcurrent hgrown
    rw [hlast] at hcurrent
    rcases hcases with hsame | ⟨before, after, hbefore, hafter, hsucceeds, _⟩
    · rw [hsame, hstored] at hcurrent
      cases hcurrent
      exact absurd hgrown (Nat.lt_irrefl _)
    · obtain rfl : before = some stored := Except.ok.inj (hbefore.symm.trans hstored)
      obtain rfl : after = current := Option.some.inj (Except.ok.inj (hafter.symm.trans hcurrent))
      exact (hsucceeds stored rfl).proved
  · intro failure hraised
    rw [hlast]
    rcases hcases with hsame | ⟨before, after, _, hafter, _, hfault⟩
    · exact .inl hsame
    · exact .inr ⟨hfault failure hraised, after, hafter⟩

theorem buildTransparencyCheckpointState_of_state (state : TransparencyCheckpointStatePayload) :
    buildTransparencyCheckpointState ⟨state.logId.val, state.highestTreeSize.val,
      state.highestRootHash.val, state.logSigningKeyId.val, state.highestCheckpointSha256.val⟩
      state.updatedAt = .ok state := by
  simp [buildTransparencyCheckpointState, name?_val]

def sampleCheckpointState : TransparencyCheckpointStatePayload where
  logId := ⟨"log", log_length⟩
  highestTreeSize := ⟨1, Nat.one_pos⟩
  highestRootHash :=
    ⟨"0123456789abcdef0123456789abcdef0123456789abcdef0123456789abcdef", isValid_ascending⟩
  highestCheckpointSha256 :=
    ⟨"fedcba9876543210fedcba9876543210fedcba9876543210fedcba9876543210", isValid_descending⟩
  logSigningKeyId := ⟨"log-key", logKey_length⟩
  updatedAt := ⟨2026, 7, 1, 0, 0, 0, 0, isCalendarTime_from⟩

/-- The first checkpoint, when the directory cannot be synced behind `os.replace`. -/
theorem load_exports_sample : let format := transparencyCheckpointStateFormat utcDatetimes
    format.load (format.exportTo .absent sampleCheckpointState none).2 =
      .ok (format.cellAfter none (sampleCheckpointState, none)) :=
  (transparencyCheckpointStateFormat_lawful utcDatetimes).load_exports StateFormat.load_absent
    [(sampleCheckpointState, none)]

def sampleUnsyncedCall : Call where
  checkpoint := ⟨sampleCheckpointState.logId.val, sampleCheckpointState.highestTreeSize.val,
    sampleCheckpointState.highestRootHash.val, sampleCheckpointState.logSigningKeyId.val,
    sampleCheckpointState.highestCheckpointSha256.val⟩
  consistencyProof := none
  updatedAt := sampleCheckpointState.updatedAt
  fault := some (.replace .afterReplace)

theorem apply_sampleUnsyncedCall :
    ∃ content, sampleUnsyncedCall.apply utcDatetimes .absent =
      (.error exportFailure, .regular content) := by
  have hbuild := buildTransparencyCheckpointState_of_state sampleCheckpointState
  have hdecide : decideCheckpoint utcDatetimes .absent sampleUnsyncedCall.checkpoint none
      sampleCheckpointState.updatedAt (some (.replace .afterReplace)) =
      .ok ⟨none, sampleCheckpointState, true⟩ := by
    refine raiseIf_bind_eq_ok.mpr ⟨nofun, raiseIf_bind_eq_ok.mpr ⟨nofun, ?_⟩⟩
    exact bind_eq_ok.mpr ⟨none, rfl, bind_eq_ok.mpr ⟨_, hbuild, rfl⟩⟩
  have htext : (transparencyCheckpointStateFormat utcDatetimes).text sampleCheckpointState =
      .ok _ := jsonDumps_eq_ok.mpr ⟨by decide +kernel, rfl⟩
  have hexport := StateFormat.exportTo_of_text (rfl : FileNode.absent.isSymlinkOrDir = false) htext
    (StateFault.replace? sampleUnsyncedCall.fault)
  have happly : sampleUnsyncedCall.apply utcDatetimes .absent = _ :=
    apply_of_updates utcDatetimes hdecide rfl
  rw [exportTransparencyCheckpointState, hexport] at happly
  exact ⟨_, happly⟩

theorem failed_apply_stores :
    ¬∀ (node : FileNode) (call : Call) (failure : Raised),
      (call.apply utcDatetimes node).1 = .error failure →
        (call.apply utcDatetimes node).2 = node := by
  intro h
  obtain ⟨content, hcall⟩ := apply_sampleUnsyncedCall
  have hunchanged := h .absent sampleUnsyncedCall exportFailure (congrArg Prod.fst hcall)
  rw [hcall] at hunchanged
  cases hunchanged

end AgenticLab.TransparencyCheckpointState
