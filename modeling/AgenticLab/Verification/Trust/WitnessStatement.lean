import AgenticLab.Library.HighWater
import AgenticLab.Library.Runs
import AgenticLab.Model.WitnessStatement
import AgenticLab.Verification.StateFile

/-! # A witness that keeps its state never equivocates -/

namespace AgenticLab.WitnessStatement

open TransparencyCheckpointState (Name name? name?_val TransparencyCheckpointVerificationResult)
open WitnessQuorum
open HighWater

section

variable (datetimes : DatetimeCodec)

theorem witnessId_isShort (value : WitnessId) : value.val.length ≤ 512 := by
  have h := value.property
  simp only [isValidWitnessId, Bool.and_eq_true, decide_eq_true_eq] at h
  omega

theorem stateFromJson_members (state : TransparencyWitnessStatePayload) :
    stateFromJson datetimes (.obj (stateMembers datetimes state)) = some state := by
  have hkeys : (stateMembers datetimes state).map Prod.fst = stateFieldNames := rfl
  rw [stateFromJson, objectFields?_eq hkeys]
  have hversion : (stateMembers datetimes state).literal? "state_version"
      (.int transparencyWitnessStateVersion) = some () := literal?_of_lookup rfl
  have htype : (stateMembers datetimes state).literal? "state_type"
      (.str transparencyWitnessStateType) = some () := literal?_of_lookup rfl
  have hlog : ((stateMembers datetimes state).str? "log_id").bind name? = some state.logId := by
    rw [str?_of_lookup rfl, Option.bind_some, name?_val]
  have hwitness : ((stateMembers datetimes state).str? "witness_id").bind witnessId? =
      some state.witnessId := by
    rw [str?_of_lookup rfl, Option.bind_some, witnessId?_val]
  have hsize : (stateMembers datetimes state).positiveInt? "highest_tree_size" =
      some state.highestTreeSize := positiveInt?_of_lookup rfl
  have hroot : (stateMembers datetimes state).digest? "highest_root_hash" =
      some state.highestRootHash := digest?_of_lookup rfl
  have hdigest : (stateMembers datetimes state).digest? "highest_checkpoint_sha256" =
      some state.highestCheckpointSha256 := digest?_of_lookup rfl
  have hkey : ((stateMembers datetimes state).str? "log_signing_key_id").bind name? =
      some state.logSigningKeyId := by
    rw [str?_of_lookup rfl, Option.bind_some, name?_val]
  have hupdated : (stateMembers datetimes state).datetime? datetimes "updated_at" =
      some state.updatedAt := datetime?_of_lookup rfl
  simp only [Option.bind_eq_bind, Option.bind_some, Option.pure_def, hversion, htype, hlog,
    hwitness, hsize, hroot, hdigest, hkey, hupdated]

def stateAtoms (state : TransparencyWitnessStatePayload) : List (String × Json.Atom) :=
  [("state_version", .int transparencyWitnessStateVersion),
    ("state_type", .str transparencyWitnessStateType),
    ("log_id", .str state.logId.val),
    ("witness_id", .str state.witnessId.val),
    ("highest_tree_size", .int state.highestTreeSize.val),
    ("highest_root_hash", .str state.highestRootHash.val),
    ("highest_checkpoint_sha256", .str state.highestCheckpointSha256.val),
    ("log_signing_key_id", .str state.logSigningKeyId.val),
    ("updated_at", .str (datetimes.format state.updatedAt))]

theorem transparencyWitnessStateFormat_lawful :
    (transparencyWitnessStateFormat datetimes).Lawful where
  fromJson_members := stateFromJson_members datetimes
  keysUnique := fun _ => rfl
  fits := by
    refine StateFormat.fits_of_atoms (stateAtoms datetimes) stateFieldNames (fun _ => rfl)
      (fun _ => rfl) (by decide) (by decide) ?_ (Nat.le_refl _)
    intro state
    have hlog := state.logId.property.2.trans (by decide : 128 ≤ 512)
    have hwitness := witnessId_isShort state.witnessId
    have hroot := digest_isShort state.highestRootHash
    have hdigest := digest_isShort state.highestCheckpointSha256
    have hkey := state.logSigningKeyId.property.2.trans (by decide : 128 ≤ 512)
    have hupdated := datetimes.format_length state.updatedAt
    simp only [stateAtoms, List.forall_mem_cons, List.not_mem_nil, false_imp_iff, implies_true,
      Json.Atom.isShort, decide_eq_true_eq, and_true, true_and]
    exact ⟨by decide, hlog, hwitness, hroot, hdigest, hkey, hupdated.trans (by decide)⟩

end

abbrev WitnessMark := Mark Unit ℕ (Name × Sha256Digest)

def TransparencyWitnessStatePayload.mark (state : TransparencyWitnessStatePayload) : WitnessMark :=
  ⟨(), state.highestTreeSize.val, (state.logId, state.highestRootHash)⟩

def statementMark (envelope : TransparencyWitnessStatementEnvelope) : WitnessMark :=
  ⟨(), envelope.statement.treeSize.val, (envelope.statement.logId, envelope.statement.rootHash)⟩

variable {p : TrustPlatform} {key : TransparencyWitnessPrivateKey}

def keptMarks (p : TrustPlatform) (node : FileNode) : Set WitnessMark :=
  {mark | ∃ state, loadTransparencyWitnessState p.datetimes node = .ok (some state) ∧
    state.mark = mark}

/-! ## One call -/

variable {checkpoint : TransparencyCheckpointVerificationResult} {fields : CheckpointFields}

theorem checkpointFields?_eq_some (h : checkpointFields? checkpoint = some fields) :
    fields.logId.val = checkpoint.logId ∧ (fields.treeSize.val : ℤ) = checkpoint.treeSize ∧
      fields.rootHash.val = checkpoint.rootHash := by
  obtain ⟨logId, hlog, h⟩ := Option.bind_eq_some_iff.mp h
  obtain ⟨treeSize, hsize, h⟩ := Option.bind_eq_some_iff.mp h
  obtain ⟨rootHash, hroot, h⟩ := Option.bind_eq_some_iff.mp h
  obtain ⟨_, _, h⟩ := Option.bind_eq_some_iff.mp h
  obtain ⟨_, _, h⟩ := Option.bind_eq_some_iff.mp h
  cases h
  simp only [name?, positiveInt?, sha256Digest?, Option.dite_none_right_eq_some] at hlog hsize hroot
  obtain ⟨_, hlog⟩ := hlog
  obtain ⟨hpos, hsize⟩ := hsize
  obtain ⟨_, hroot⟩ := hroot
  cases hlog
  cases hsize
  cases hroot
  exact ⟨rfl, Int.toNat_of_nonneg (by omega), rfl⟩

variable {witnessId : WitnessId} {stored : Option TransparencyWitnessStatePayload}
  {statement : TransparencyWitnessStatementPayload}

theorem buildWitnessStatement_eq_ok {observedAt : UtcDatetime} {digest : Option Sha256Digest}
    (h : buildWitnessStatement checkpoint witnessId observedAt stored digest = .ok statement) :
    ∃ fields, checkpointFields? checkpoint = some fields ∧ statement.logId = fields.logId ∧
      statement.treeSize = fields.treeSize ∧ statement.rootHash = fields.rootHash := by
  unfold buildWitnessStatement at h
  split at h
  · rename_i fields hfields
    cases h
    exact ⟨fields, hfields, rfl, rfl, rfl⟩
  · cases h

variable {state : TransparencyWitnessStatePayload}

theorem buildTransparencyWitnessState_eq_ok {updatedAt : UtcDatetime}
    (h : buildTransparencyWitnessState checkpoint witnessId updatedAt = .ok state) :
    ∃ fields, checkpointFields? checkpoint = some fields ∧ state.logId = fields.logId ∧
      state.highestTreeSize = fields.treeSize ∧ state.highestRootHash = fields.rootHash := by
  unfold buildTransparencyWitnessState at h
  split at h
  · rename_i fields hfields
    cases h
    exact ⟨fields, hfields, rfl, rfl, rfl⟩
  · cases h

variable {envelope : TransparencyWitnessStatementEnvelope}

theorem signStatement_eq_ok (h : signStatement p key statement = .ok envelope) :
    envelope.statement = statement ∧
      ∃ message, statementMessage p.datetimes statement = .ok message := by
  obtain ⟨message, hmessage, h⟩ := bind_eq_ok.mp h
  dsimp only at h
  split at h
  · cases h
    exact ⟨rfl, message, hmessage⟩
  · cases h

theorem text_of_statementMessage {datetimes : DatetimeCodec}
    {message : List UInt8} (hmessage : statementMessage datetimes statement = .ok message)
    (hsize : state.highestTreeSize = statement.treeSize) :
    ∃ text, (transparencyWitnessStateFormat datetimes).text state = .ok text := by
  obtain ⟨canonical, hcanonical, _⟩ := bind_eq_ok.mp hmessage
  obtain ⟨text, htext, _⟩ := bind_eq_ok.mp hcanonical
  obtain ⟨hints, _⟩ := jsonDumps_eq_ok.mp htext
  rw [Json.intsWithin_sortKeys] at hints
  have htree := Json.intsWithin_of_mem hints ("tree_size", .atom (.int statement.treeSize.val))
    (by simp [statementMembers])
  have hone : (Json.Value.atom (.int 1)).intsWithin maxStrDigits = true := by decide
  refine ⟨_, jsonDumps_eq_ok.mpr ⟨?_, rfl⟩⟩
  simp only [transparencyWitnessStateFormat, stateMembers, Json.Value.intsWithin,
    Json.membersIntsWithin, Bool.and_eq_true, hsize] at htree hone ⊢
  simp only [transparencyWitnessStateVersion, Nat.cast_one, hone, htree, and_self]

theorem validateCheckpointAgainstState_eq_ok {stored : TransparencyWitnessStatePayload}
    (h : validateCheckpointAgainstState checkpoint stored witnessId = .ok ())
    (hfields : checkpointFields? checkpoint = some fields) :
    stored.mark.le ⟨(), fields.treeSize.val, (fields.logId, fields.rootHash)⟩ := by
  obtain ⟨hlog, h⟩ := raiseIf_bind_eq_ok.mp h
  obtain ⟨hrollback, h⟩ := raiseIf_bind_eq_ok.mp h
  have hsplit := raiseIf_eq_ok.mp h
  obtain ⟨hlogId, hsize, hroot⟩ := checkpointFields?_eq_some hfields
  rw [not_or, not_not] at hlog
  by_cases heq : checkpoint.treeSize = stored.highestTreeSize.val
  · have hsame : stored.highestRootHash.val = checkpoint.rootHash := by
      by_contra hne
      exact hsplit ⟨heq, .inl hne⟩
    refine .inr ⟨?_, Prod.ext (Subtype.ext (hlog.1.trans hlogId.symm))
      (Subtype.ext (hsame.trans hroot.symm))⟩
    change stored.highestTreeSize.val = fields.treeSize.val
    omega
  · refine .inl ?_
    change stored.highestTreeSize.val < fields.treeSize.val
    omega

/-- What a call is to export, seen from the stored state. -/
def Follows (p : TrustPlatform) (node : FileNode) : StatementPlan → Prop
  | .existing _ => True
  | .again envelope => ∃ state, loadTransparencyWitnessState p.datetimes node = .ok (some state) ∧
      statementMark envelope = state.mark
  | .new envelope current => statementMark envelope = current.mark ∧
      (∀ mark ∈ keptMarks p node, mark.le current.mark) ∧
      ∃ text, (transparencyWitnessStateFormat p.datetimes).text current = .ok text

variable {node : FileNode} {call : WitnessCall} {plan : StatementPlan}

theorem planNew_follows
    (hload : loadTransparencyWitnessState p.datetimes node = .ok stored)
    (hvalid : ∀ state ∈ stored,
      validateCheckpointAgainstState checkpoint state key.witnessId = .ok ())
    (h : planNew p key call stored checkpoint = .ok plan) : Follows p node plan := by
  obtain ⟨digest, _, h⟩ := bind_eq_ok.mp h
  obtain ⟨statement, hstatement, h⟩ := bind_eq_ok.mp h
  obtain ⟨envelope, hsign, h⟩ := bind_eq_ok.mp h
  obtain ⟨current, hcurrent, h⟩ := bind_eq_ok.mp h
  cases h
  obtain ⟨fields, hfields, hlog, hsize, hroot⟩ := buildWitnessStatement_eq_ok hstatement
  obtain ⟨fields', hfields', hlog', hsize', hroot'⟩ := buildTransparencyWitnessState_eq_ok hcurrent
  obtain rfl : fields' = fields := Option.some.inj (hfields'.symm.trans hfields)
  obtain ⟨hsame, message, hmessage⟩ := signStatement_eq_ok hsign
  have hmark : current.mark = ⟨(), fields'.treeSize.val, (fields'.logId, fields'.rootHash)⟩ := by
    rw [TransparencyWitnessStatePayload.mark, hlog', hsize', hroot']
  refine ⟨?_, ?_, text_of_statementMessage hmessage (hsize'.trans hsize.symm)⟩
  · rw [hmark, statementMark, hsame, hlog, hsize, hroot]
  · intro mark hkept
    obtain ⟨state, hstate, rfl⟩ := hkept
    have hstored := Except.ok.inj (hload.symm.trans hstate)
    rw [hmark]
    exact validateCheckpointAgainstState_eq_ok (hvalid state hstored) hfields

theorem stateMatchesCheckpoint_eq_true {stored : TransparencyWitnessStatePayload}
    (h : stateMatchesCheckpoint checkpoint stored witnessId = true) :
    stored.logId.val = checkpoint.logId ∧
      (stored.highestTreeSize.val : ℤ) = checkpoint.treeSize ∧
      stored.highestRootHash.val = checkpoint.rootHash := by
  simp only [stateMatchesCheckpoint, Bool.and_eq_true, decide_eq_true_eq] at h
  exact ⟨h.1.1.1.1.1, h.1.1.1.2, h.1.1.2⟩

theorem planStatement_follows
    (h : planStatement p key node call = .ok plan) : Follows p node plan := by
  obtain ⟨checkpoint, hcheckpoint, h⟩ := bind_eq_ok.mp h
  obtain ⟨_, h⟩ := raiseIf_bind_eq_ok.mp h
  obtain ⟨_, h⟩ := raiseIf_bind_eq_ok.mp h
  obtain ⟨stored, hload, h⟩ := bind_eq_ok.mp h
  cases stored with
  | none => exact planNew_follows hload nofun h
  | some state =>
    obtain ⟨_, hvalid, h⟩ := bind_eq_ok.mp h
    by_cases hmatches : stateMatchesCheckpoint checkpoint state key.witnessId = true
    · rw [if_pos hmatches] at h
      cases hexisting : call.existing with
      | some file =>
        rw [hexisting] at h
        obtain ⟨envelope, _, h⟩ := bind_eq_ok.mp h
        cases h
        trivial
      | none =>
        rw [hexisting] at h
        obtain ⟨statement, hstatement, h⟩ := bind_eq_ok.mp h
        obtain ⟨envelope, hsign, h⟩ := bind_eq_ok.mp h
        cases h
        obtain ⟨fields, hfields, hlog, hsize, hroot⟩ := buildWitnessStatement_eq_ok hstatement
        obtain ⟨hlogId, htree, hrootHash⟩ := checkpointFields?_eq_some hfields
        obtain ⟨hlog', hsize', hroot'⟩ := stateMatchesCheckpoint_eq_true hmatches
        have hlogs : fields.logId = state.logId := Subtype.ext (hlogId.trans hlog'.symm)
        have hsizes : fields.treeSize = state.highestTreeSize := Subtype.ext (by omega)
        have hroots : fields.rootHash = state.highestRootHash :=
          Subtype.ext (hrootHash.trans hroot'.symm)
        refine ⟨state, hload, ?_⟩
        rw [statementMark, (signStatement_eq_ok hsign).1, hlog, hsize, hroot, hlogs, hsizes, hroots]
        rfl
    · rw [if_neg hmatches] at h
      refine planNew_follows hload ?_ h
      intro _ hstate
      cases hstate
      exact hvalid

/-! ## Runs -/

/-- A call that does not stop between its statement and the state that is to follow it: either
it has no fault there, or the stored state shows the checkpoint already. -/
def Durable (p : TrustPlatform) (key : TransparencyWitnessPrivateKey) (disk : WitnessDisk)
    (call : WitnessCall) : Prop :=
  (call.fault ≠ some (.statement .afterReplace) ∧ call.fault ≠ some (.state .beforeReplace)) ∨
    ∃ state checkpoint, loadTransparencyWitnessState p.datetimes disk.state = .ok (some state) ∧
      call.checkpoint = .ok checkpoint ∧
      stateMatchesCheckpoint checkpoint state key.witnessId = true

/-- No two statements of one size about different roots of a log, and none behind a larger one. -/
def NoEquivocation (emitted : List TransparencyWitnessStatementEnvelope) : Prop :=
  emitted.Pairwise fun earlier later =>
    earlier.statement.treeSize.val ≤ later.statement.treeSize.val ∧
      (earlier.statement.logId = later.statement.logId →
        earlier.statement.treeSize = later.statement.treeSize →
        earlier.statement.rootHash = later.statement.rootHash)

abbrev Kept (p : TrustPlatform) (disk : WitnessDisk) : Prop :=
  Guarded (keptMarks p disk.state) (disk.emitted.map statementMark)

variable {disk : WitnessDisk}

theorem Kept.noEquivocation (h : Kept p disk) : NoEquivocation disk.emitted := by
  refine (List.pairwise_map.mp h.ascending).imp ?_
  intro earlier later hle
  rcases hle rfl with hlt | ⟨heq, hvalue⟩
  · exact ⟨hlt.le, fun _ hsize => absurd (congrArg Subtype.val hsize) hlt.ne⟩
  · exact ⟨heq.le, fun _ _ => congrArg Prod.snd hvalue⟩

theorem exportStatement_cases (disk : WitnessDisk) (call : WitnessCall)
    (envelope : TransparencyWitnessStatementEnvelope) :
    (∃ failure, exportStatement disk call envelope = (.error failure, disk)) ∨
      (∃ failure, call.fault = some (.statement .afterReplace) ∧
        exportStatement disk call envelope =
          (.error failure, { disk with emitted := disk.emitted ++ [envelope] })) ∨
      exportStatement disk call envelope =
        (.ok (), { disk with emitted := disk.emitted ++ [envelope] }) := by
  unfold exportStatement
  split
  · exact .inl ⟨_, rfl⟩
  · cases hfault : call.fault with
    | none => exact .inr (.inr rfl)
    | some fault =>
      cases fault with
      | lock => exact .inr (.inr rfl)
      | read => exact .inr (.inr rfl)
      | state fault => exact .inr (.inr rfl)
      | statement fault =>
        cases fault with
        | beforeReplace => exact .inl ⟨_, rfl⟩
        | afterReplace => exact .inr (.inl ⟨_, rfl, rfl⟩)

theorem keptMarks_of_load (h : loadTransparencyWitnessState p.datetimes node = .ok (some state)) :
    keptMarks p node = {state.mark} := by
  ext mark
  constructor
  · intro hmark
    obtain ⟨other, hother, rfl⟩ := hmark
    obtain rfl : other = state := Option.some.inj (Except.ok.inj (hother.symm.trans h))
    rfl
  · intro hmark
    exact ⟨state, h, hmark.symm⟩

theorem Kept.again (h : Kept p disk)
    (hload : loadTransparencyWitnessState p.datetimes disk.state = .ok (some state))
    (hmark : statementMark envelope = state.mark) :
    Kept p { disk with emitted := disk.emitted ++ [envelope] } := by
  have hkept := keptMarks_of_load hload
  rw [Kept, List.map_append]
  refine h.accept ?_ (.of_subset fun _ hmem => hmem) ?_
  · intro mark hmem _
    rw [hkept] at hmem
    rw [Set.mem_singleton_iff.mp hmem, hmark]
    exact Mark.le_refl _
  · exact .of_subset fun mark hmem => by
      rw [Set.mem_singleton_iff.mp hmem, hmark, hkept]
      rfl

variable {current : TransparencyWitnessStatePayload}

theorem Kept.new (h : Kept p disk) (hmark : statementMark envelope = current.mark)
    (habove : ∀ mark ∈ keptMarks p disk.state, mark.le current.mark)
    (hload : loadTransparencyWitnessState p.datetimes node = .ok (some current)) :
    Kept p ⟨node, disk.emitted ++ [envelope]⟩ := by
  have hkept := keptMarks_of_load hload
  rw [Kept, List.map_append]
  refine h.accept ?_ ?_ ?_
  · intro mark hmem _
    rw [hmark]
    exact habove mark hmem
  · intro mark hmem
    exact ⟨current.mark, hkept ▸ rfl, rfl, habove mark hmem⟩
  · exact .of_subset fun mark hmem => by
      rw [Set.mem_singleton_iff.mp hmem, hmark, hkept]
      rfl

theorem exportTo_state {text : List Char} (hnode : node.isSymlinkOrDir = false)
    (htext : (transparencyWitnessStateFormat p.datetimes).text current = .ok text)
    (hfault : call.fault ≠ some (.state .beforeReplace)) :
    loadTransparencyWitnessState p.datetimes
      ((transparencyWitnessStateFormat p.datetimes).exportTo node current
        (WitnessFault.state? call.fault)).2 = .ok (some current) := by
  rw [StateFormat.exportTo_of_text hnode htext]
  have hload := (transparencyWitnessStateFormat_lawful p.datetimes).load_text htext
  cases hstate : WitnessFault.state? call.fault with
  | none => exact hload
  | some fault =>
    cases fault with
    | afterReplace => exact hload
    | beforeReplace =>
      refine absurd ?_ hfault
      unfold WitnessFault.state? at hstate
      split at hstate
      · cases hstate
        assumption
      · cases hstate

theorem fault_of_durable (hdurable : Durable p key disk call)
    (hplan : planStatement p key disk.state call = .ok (.new envelope current)) :
    call.fault ≠ some (.statement .afterReplace) ∧ call.fault ≠ some (.state .beforeReplace) := by
  rcases hdurable with hfault | ⟨state, checkpoint, hload, hcheckpoint, hmatches⟩
  · exact hfault
  · obtain ⟨checkpoint', hcheckpoint', hplan⟩ := bind_eq_ok.mp hplan
    obtain ⟨_, hplan⟩ := raiseIf_bind_eq_ok.mp hplan
    obtain ⟨_, hplan⟩ := raiseIf_bind_eq_ok.mp hplan
    obtain ⟨stored, hload', hplan⟩ := bind_eq_ok.mp hplan
    obtain rfl : checkpoint' = checkpoint := Except.ok.inj (hcheckpoint'.symm.trans hcheckpoint)
    obtain rfl : stored = some state := Except.ok.inj (hload'.symm.trans hload)
    obtain ⟨_, _, hplan⟩ := bind_eq_ok.mp hplan
    rw [if_pos hmatches] at hplan
    cases hexisting : call.existing with
    | some file =>
      rw [hexisting] at hplan
      obtain ⟨_, _, hplan⟩ := bind_eq_ok.mp hplan
      cases hplan
    | none =>
      rw [hexisting] at hplan
      obtain ⟨_, _, hplan⟩ := bind_eq_ok.mp hplan
      obtain ⟨_, _, hplan⟩ := bind_eq_ok.mp hplan
      cases hplan

theorem isSymlinkOrDir_of_plan
    (h : planStatement p key node call = .ok plan) : node.isSymlinkOrDir = false := by
  obtain ⟨_, _, h⟩ := bind_eq_ok.mp h
  obtain ⟨_, h⟩ := raiseIf_bind_eq_ok.mp h
  obtain ⟨_, h⟩ := raiseIf_bind_eq_ok.mp h
  obtain ⟨_, hload, _⟩ := bind_eq_ok.mp h
  exact StateFormat.isSymlinkOrDir_of_load hload

def witnessStep (p : TrustPlatform) (key : TransparencyWitnessPrivateKey) (disk : WitnessDisk)
    (call : WitnessCall) : WitnessDisk :=
  (createTransparencyWitnessStatement p key disk call).2

theorem Kept.step (h : Kept p disk)
    (hdurable : Durable p key disk call) : Kept p (witnessStep p key disk call) := by
  unfold witnessStep createTransparencyWitnessStatement
  cases hplan : planStatement p key disk.state call with
  | error failure => exact h
  | ok plan =>
    have hfollows := planStatement_follows hplan
    cases plan with
    | existing envelope => exact h
    | again envelope =>
      obtain ⟨state, hload, hmark⟩ := hfollows
      rcases exportStatement_cases disk call envelope with
        ⟨failure, hexport⟩ | ⟨failure, _, hexport⟩ | hexport
      · simpa only [hexport] using h
      · simpa only [hexport] using h.again hload hmark
      · simpa only [hexport] using h.again hload hmark
    | new envelope current =>
      obtain ⟨hmark, habove, text, htext⟩ := hfollows
      obtain ⟨hstatement, hstate⟩ := fault_of_durable hdurable hplan
      rcases exportStatement_cases disk call envelope with
        ⟨failure, hexport⟩ | ⟨failure, hfault, _⟩ | hexport
      · simpa only [hexport] using h
      · exact absurd hfault hstatement
      · have hload := exportTo_state (isSymlinkOrDir_of_plan hplan) htext hstate
        simpa only [hexport] using h.new hmark habove hload

/-- A witness whose calls never stop between a statement and its state does not equivocate. -/
theorem witness_noEquivocation {node : FileNode} {disk : WitnessDisk}
    (h : Runs.Reachable (witnessStep p key) (Durable p key) ⟨node, []⟩ disk) :
    NoEquivocation disk.emitted :=
  Kept.noEquivocation (h.invariant (Kept p) (Guarded.nil _) fun _ _ hkept hdurable =>
    hkept.step hdurable)

/-! ## A witness that stops between a statement and its state -/

def sampleWitnessKey : TransparencyWitnessPrivateKey where
  witnessId := ⟨"witness-a", by decide⟩
  privateKeyBytes := [157, 97, 177, 157, 239, 253, 90, 96, 186, 132, 74, 244, 146, 236, 44, 196,
    68, 73, 197, 105, 123, 50, 105, 25, 112, 59, 172, 3, 28, 174, 127, 96]
  publicKeyBytes := [215, 90, 152, 1, 130, 177, 10, 183, 213, 75, 254, 211, 201, 100, 7, 58, 14,
    225, 114, 243, 218, 166, 35, 37, 175, 2, 26, 104, 247, 7, 81, 26]

def sampleViewA : CheckpointFields where
  logId := ⟨"log", log_length⟩
  treeSize := ⟨1, Nat.one_pos⟩
  rootHash := ⟨"0123456789abcdef0123456789abcdef0123456789abcdef0123456789abcdef", isValid_ascending⟩
  checkpointSha256 :=
    ⟨"fedcba9876543210fedcba9876543210fedcba9876543210fedcba9876543210", isValid_descending⟩
  logSigningKeyId := ⟨"log-key", logKey_length⟩

def sampleViewB : CheckpointFields where
  logId := ⟨"log", log_length⟩
  treeSize := ⟨1, Nat.one_pos⟩
  rootHash := ⟨"89abcdef89abcdef89abcdef89abcdef89abcdef89abcdef89abcdef89abcdef", by decide⟩
  checkpointSha256 :=
    ⟨"7654321076543210765432107654321076543210765432107654321076543210", by decide⟩
  logSigningKeyId := ⟨"log-key", logKey_length⟩

def sampleObservedAt : UtcDatetime := ⟨2026, 7, 1, 0, 0, 0, 0, isCalendarTime_from⟩

def sampleViewStatement (view : CheckpointFields) : TransparencyWitnessStatementPayload :=
  ⟨view.logId, sampleWitnessKey.witnessId, view.checkpointSha256, view.treeSize, view.rootHash,
    view.logSigningKeyId, sampleObservedAt, none, none⟩

def sampleViewMessage (view : CheckpointFields) : List UInt8 :=
  joinZero [asciiBytes "agentic-ai-lab:transparency-witness-statement:ed25519:v1",
    TextFile.encode ((Json.Value.obj
      (statementMembers utcDatetimes (sampleViewStatement view))).sortKeys.print Json.compact 0)]

def sampleSignatureA : List UInt8 :=
  [185, 170, 25, 76, 1, 251, 148, 232, 173, 56, 184, 84, 34, 225, 97, 162, 39, 66, 236, 159, 2,
    179, 144, 61, 238, 153, 235, 85, 247, 177, 14, 68, 143, 60, 74, 195, 11, 139, 102, 100, 235,
    119, 79, 83, 152, 113, 224, 118, 198, 30, 161, 91, 26, 74, 52, 217, 44, 251, 220, 117, 120,
    249, 210, 12]

def sampleSignatureB : List UInt8 :=
  [224, 38, 11, 69, 45, 157, 121, 107, 71, 80, 36, 35, 114, 112, 154, 87, 170, 6, 74, 104, 87,
    145, 178, 128, 213, 197, 17, 69, 111, 21, 208, 8, 10, 37, 144, 1, 187, 45, 50, 73, 179, 143,
    70, 90, 224, 105, 21, 248, 89, 105, 32, 199, 210, 176, 210, 255, 246, 51, 51, 166, 206, 131,
    138, 4]

def sampleViewPlatform : TrustPlatform := referenceTrustPlatform
  [⟨sampleWitnessKey.privateKeyBytes, sampleWitnessKey.publicKeyBytes,
      sampleViewMessage sampleViewA, sampleSignatureA⟩,
    ⟨sampleWitnessKey.privateKeyBytes, sampleWitnessKey.publicKeyBytes,
      sampleViewMessage sampleViewB, sampleSignatureB⟩]

def sampleStoppedCall (view : CheckpointFields) (fault : Option WitnessFault) : WitnessCall where
  checkpoint := .ok ⟨view.logId.val, view.treeSize.val, view.rootHash.val,
    view.logSigningKeyId.val, view.checkpointSha256.val⟩
  existing := none
  outputRefused := false
  observedAt := sampleObservedAt
  consistencyProof := none
  fault := fault

theorem sampleStoppedCall_noEquivocation :
    NoEquivocation (witnessStep sampleViewPlatform sampleWitnessKey ⟨.absent, []⟩
      (sampleStoppedCall sampleViewA none)).emitted :=
  witness_noEquivocation (.step .start (.inl ⟨nofun, nofun⟩))

theorem checkpointFields?_view (view : CheckpointFields) :
    checkpointFields? ⟨view.logId.val, view.treeSize.val, view.rootHash.val,
      view.logSigningKeyId.val, view.checkpointSha256.val⟩ = some view := by
  simp [checkpointFields?, name?_val]

variable {message signature : List UInt8}

theorem signStatement_of_sign
    (hmessage : statementMessage p.datetimes statement = .ok message)
    (hsign : p.ed25519.sign key.privateKeyBytes message = signature)
    (hvalid : (decodeB64? ed25519SignatureBytes
      (String.ofList (b64encode signature))).isSome = true) :
    signStatement p key statement = .ok ⟨statement, ⟨_, hvalid⟩⟩ := by
  subst hsign
  exact bind_eq_ok.mpr ⟨message, hmessage, dif_pos hvalid⟩

theorem sampleViewPlatform_datetimes : sampleViewPlatform.datetimes = utcDatetimes := rfl

theorem witnessStep_stopped {view : CheckpointFields}
    (hmessage : statementMessage utcDatetimes (sampleViewStatement view) = .ok message)
    (hsign : sampleViewPlatform.ed25519.sign sampleWitnessKey.privateKeyBytes message = signature)
    (hvalid : (decodeB64? ed25519SignatureBytes
      (String.ofList (b64encode signature))).isSome = true)
    (emitted : List TransparencyWitnessStatementEnvelope) :
    witnessStep sampleViewPlatform sampleWitnessKey ⟨.absent, emitted⟩
        (sampleStoppedCall view (some (.statement .afterReplace))) =
      ⟨.absent, emitted ++ [⟨sampleViewStatement view, ⟨_, hvalid⟩⟩]⟩ := by
  have hfields := checkpointFields?_view view
  rw [← sampleViewPlatform_datetimes] at hmessage
  have hsigned : signStatement sampleViewPlatform sampleWitnessKey (sampleViewStatement view) = _ :=
    signStatement_of_sign hmessage hsign hvalid
  have hplan : planStatement sampleViewPlatform sampleWitnessKey .absent
      (sampleStoppedCall view (some (.statement .afterReplace))) =
        .ok (.new ⟨sampleViewStatement view, ⟨_, hvalid⟩⟩
          ⟨view.logId, sampleWitnessKey.witnessId, view.treeSize, view.rootHash,
            view.checkpointSha256, view.logSigningKeyId, sampleObservedAt⟩) := by
    refine bind_eq_ok.mpr ⟨_, rfl, raiseIf_bind_eq_ok.mpr ⟨nofun, raiseIf_bind_eq_ok.mpr
      ⟨nofun, bind_eq_ok.mpr ⟨none, rfl, bind_eq_ok.mpr ⟨none, rfl, bind_eq_ok.mpr
        ⟨sampleViewStatement view, ?_, bind_eq_ok.mpr ⟨_, hsigned, bind_eq_ok.mpr
          ⟨⟨view.logId, sampleWitnessKey.witnessId, view.treeSize, view.rootHash,
            view.checkpointSha256, view.logSigningKeyId, sampleObservedAt⟩, ?_, rfl⟩⟩⟩⟩⟩⟩⟩⟩
    · rw [buildWitnessStatement, hfields]
      rfl
    · rw [buildTransparencyWitnessState, hfields]
      rfl
  rw [witnessStep, createTransparencyWitnessStatement, hplan]
  rfl

theorem equivocates_of_steps {first second : WitnessCall}
    {a b : TransparencyWitnessStatementEnvelope}
    (hfirst : ∀ emitted, witnessStep p key ⟨.absent, emitted⟩ first = ⟨.absent, emitted ++ [a]⟩)
    (hsecond : ∀ emitted, witnessStep p key ⟨.absent, emitted⟩ second = ⟨.absent, emitted ++ [b]⟩)
    (hnot : ¬NoEquivocation [a, b]) :
    ∃ calls, ¬NoEquivocation (Runs.run (witnessStep p key) ⟨.absent, []⟩ calls).emitted := by
  refine ⟨[first, second], fun h => hnot ?_⟩
  rwa [Runs.run, List.foldl_cons, List.foldl_cons, List.foldl_nil, hfirst, hsecond] at h

theorem witness_equivocates :
    ∃ calls, ¬NoEquivocation
      (Runs.run (witnessStep sampleViewPlatform sampleWitnessKey) ⟨.absent, []⟩ calls).emitted := by
  have hmessageA : statementMessage utcDatetimes (sampleViewStatement sampleViewA) =
      .ok (sampleViewMessage sampleViewA) :=
    bind_eq_ok.mpr ⟨_, bind_eq_ok.mpr ⟨_, jsonDumps_eq_ok.mpr ⟨by decide +kernel, rfl⟩, rfl⟩, rfl⟩
  have hmessageB : statementMessage utcDatetimes (sampleViewStatement sampleViewB) =
      .ok (sampleViewMessage sampleViewB) :=
    bind_eq_ok.mpr ⟨_, bind_eq_ok.mpr ⟨_, jsonDumps_eq_ok.mpr ⟨by decide +kernel, rfl⟩, rfl⟩, rfl⟩
  have hdiffer : (sampleViewMessage sampleViewA == sampleViewMessage sampleViewB) = false := by
    decide +kernel
  have hsignA : sampleViewPlatform.ed25519.sign sampleWitnessKey.privateKeyBytes
      (sampleViewMessage sampleViewA) = sampleSignatureA := by
    simp [sampleViewPlatform, Ed25519.ofKnown]
  have hsignB : sampleViewPlatform.ed25519.sign sampleWitnessKey.privateKeyBytes
      (sampleViewMessage sampleViewB) = sampleSignatureB := by
    simp [sampleViewPlatform, Ed25519.ofKnown, List.find?_cons, hdiffer]
  have hvalidA : (decodeB64? ed25519SignatureBytes
      (String.ofList (b64encode sampleSignatureA))).isSome = true := by decide +kernel
  have hvalidB : (decodeB64? ed25519SignatureBytes
      (String.ofList (b64encode sampleSignatureB))).isSome = true := by decide +kernel
  refine equivocates_of_steps (witnessStep_stopped hmessageA hsignA hvalidA)
    (witnessStep_stopped hmessageB hsignB hvalidB) fun h => ?_
  have hroots : sampleViewA.rootHash = sampleViewB.rootHash :=
    (List.pairwise_pair.mp h).2 rfl rfl
  exact absurd hroots (by decide)

end AgenticLab.WitnessStatement
