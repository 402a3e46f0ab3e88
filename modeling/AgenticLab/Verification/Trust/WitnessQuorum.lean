import AgenticLab.Model.WitnessQuorum
import AgenticLab.Verification.StateFile
import Mathlib.Data.List.Dedup

/-! # The quorum of witnesses and the order of their statements -/

namespace AgenticLab.WitnessQuorum

open TransparencyCheckpointState

variable {p : TrustPlatform} {request : QuorumRequest}

structure Agrees (request : QuorumRequest) (envelope : TransparencyWitnessStatementEnvelope) :
    Prop where
  logId : envelope.statement.logId.val = request.checkpoint.logId
  treeSize : (envelope.statement.treeSize.val : ℤ) = request.checkpoint.treeSize
  rootHash : envelope.statement.rootHash.val = request.checkpoint.rootHash
  checkpointSha256 :
    envelope.statement.checkpointSha256.val = request.checkpoint.checkpointSha256

def Verifies (p : TrustPlatform) (request : QuorumRequest)
    (envelope : TransparencyWitnessStatementEnvelope) : Prop :=
  (verifyTransparencyWitnessStatement p request envelope).isOk = true

def resultOf (envelope : TransparencyWitnessStatementEnvelope) :
    TransparencyWitnessStatementVerificationResult :=
  ⟨envelope.statement.witnessId, envelope.statement.logId.val,
    envelope.statement.checkpointSha256.val, envelope.statement.treeSize.val,
    envelope.statement.rootHash.val⟩

variable {envelope : TransparencyWitnessStatementEnvelope}
  {result : TransparencyWitnessStatementVerificationResult}

theorem verifyTransparencyWitnessStatement_eq_ok
    (h : verifyTransparencyWitnessStatement p request envelope = .ok result) :
    result = resultOf envelope ∧ Agrees request envelope := by
  unfold verifyTransparencyWitnessStatement at h
  obtain ⟨hagrees, h⟩ := raiseIf_bind_eq_ok.mp h
  obtain ⟨_, _, h⟩ := bind_eq_ok.mp h
  obtain ⟨_, _, h⟩ := bind_eq_ok.mp h
  obtain ⟨_, _, h⟩ := bind_eq_ok.mp h
  obtain ⟨_, h⟩ := raiseIf_bind_eq_ok.mp h
  cases h
  simp only [not_or, not_not] at hagrees
  exact ⟨rfl, hagrees.1, hagrees.2.2.1, hagrees.2.2.2.1, hagrees.2.1⟩

theorem verifies_iff :
    Verifies p request envelope ↔
      verifyTransparencyWitnessStatement p request envelope = .ok (resultOf envelope) := by
  unfold Verifies
  cases h : verifyTransparencyWitnessStatement p request envelope with
  | error failure => simp [Except.isOk, Except.toBool]
  | ok result =>
    rw [(verifyTransparencyWitnessStatement_eq_ok h).1]
    simp [Except.isOk, Except.toBool]

theorem Verifies.agrees (h : Verifies p request envelope) : Agrees request envelope :=
  (verifyTransparencyWitnessStatement_eq_ok (verifies_iff.mp h)).2

/-! ## The loop -/

def witnessOf (envelope : TransparencyWitnessStatementEnvelope) : WitnessId :=
  envelope.statement.witnessId

/-- What the loop asks of statements, when those of some witnesses have been counted. -/
def Accepted (p : TrustPlatform) (request : QuorumRequest) :
    List WitnessId → List TransparencyWitnessStatementEnvelope → Prop
  | _, [] => True
  | counted, envelope :: envelopes =>
    if witnessOf envelope ∈ counted then
      Agrees request envelope ∧ Accepted p request counted envelopes
    else
      Verifies p request envelope ∧ Accepted p request (counted ++ [witnessOf envelope]) envelopes

def countedAfter (counted : List WitnessId) :
    List TransparencyWitnessStatementEnvelope → List WitnessId
  | [] => counted
  | envelope :: envelopes =>
    if witnessOf envelope ∈ counted then countedAfter counted envelopes
    else countedAfter (counted ++ [witnessOf envelope]) envelopes

/-- Every counted statement is about the checkpoint. -/
def AllAbout (request : QuorumRequest) (validByWitness : ValidByWitness) : Prop :=
  ∀ entry ∈ validByWitness, entry.2.logId = request.checkpoint.logId ∧
    entry.2.treeSize = request.checkpoint.treeSize ∧
    entry.2.rootHash = request.checkpoint.rootHash ∧
    entry.2.checkpointSha256 = request.checkpoint.checkpointSha256

variable {validByWitness : ValidByWitness} {witness : WitnessId}

theorem notMem_of_lookup
    (h : validByWitness.lookup witness = none) : witness ∉ validByWitness.map (·.1) := by
  intro hmem
  obtain ⟨entry, hentry, heq⟩ := List.mem_map.mp hmem
  simpa [heq] using List.lookup_eq_none_iff.mp h entry hentry

theorem mem_of_lookup
    (h : validByWitness.lookup witness = some result) : (witness, result) ∈ validByWitness := by
  obtain ⟨before, after, heq, _⟩ := List.lookup_eq_some_iff.mp h
  rw [heq]
  exact List.mem_append_right _ List.mem_cons_self

theorem collectStatements_spec (p : TrustPlatform) {request : QuorumRequest}
    (validByWitness : ValidByWitness) (envelopes : List TransparencyWitnessStatementEnvelope)
    (habout : AllAbout request validByWitness) :
    (Accepted p request (validByWitness.map (·.1)) envelopes ∧
      ∃ collected, collectStatements p request validByWitness (envelopes.map .ok) =
          .ok collected ∧
        collected.map (·.1) = countedAfter (validByWitness.map (·.1)) envelopes) ∨
      (¬Accepted p request (validByWitness.map (·.1)) envelopes ∧
        ∃ failure, collectStatements p request validByWitness (envelopes.map .ok) =
          .error failure) := by
  induction envelopes generalizing validByWitness with
  | nil => exact .inl ⟨trivial, validByWitness, rfl, rfl⟩
  | cons envelope envelopes ih =>
    rw [List.map_cons, collectStatements, ok_bind]
    dsimp only
    cases hlookup : validByWitness.lookup envelope.statement.witnessId with
    | some existing =>
      have hmem := mem_of_lookup hlookup
      have hcounted : witnessOf envelope ∈ validByWitness.map (·.1) :=
        List.mem_map.mpr ⟨_, hmem, rfl⟩
      obtain ⟨hlog, hsize, hroot, hdigest⟩ := habout _ hmem
      dsimp only at hlog hsize hroot hdigest
      rw [Accepted, if_pos hcounted, countedAfter, if_pos hcounted]
      by_cases hagrees : Agrees request envelope
      · have hsame : ¬(existing.logId ≠ envelope.statement.logId.val ∨
            existing.treeSize ≠ envelope.statement.treeSize.val ∨
            existing.rootHash ≠ envelope.statement.rootHash.val ∨
            existing.checkpointSha256 ≠ envelope.statement.checkpointSha256.val) := by
          simp [hlog, hsize, hroot, hdigest, hagrees.logId, hagrees.treeSize,
            hagrees.rootHash, hagrees.checkpointSha256]
        simp only [raiseIf, if_neg hsame, ok_bind]
        simpa [hagrees] using ih validByWitness habout
      · have hdiffers : existing.logId ≠ envelope.statement.logId.val ∨
            existing.treeSize ≠ envelope.statement.treeSize.val ∨
            existing.rootHash ≠ envelope.statement.rootHash.val ∨
            existing.checkpointSha256 ≠ envelope.statement.checkpointSha256.val := by
          by_contra hsame
          simp only [not_or, not_not] at hsame
          exact hagrees ⟨hsame.1.symm.trans hlog, hsame.2.1.symm.trans hsize,
            hsame.2.2.1.symm.trans hroot, hsame.2.2.2.symm.trans hdigest⟩
        simp only [raiseIf, if_pos hdiffers]
        exact .inr ⟨fun h => hagrees h.1, _, rfl⟩
    | none =>
      have hnew : witnessOf envelope ∉ validByWitness.map (·.1) := notMem_of_lookup hlookup
      rw [Accepted, if_neg hnew, countedAfter, if_neg hnew]
      by_cases hverifies : Verifies p request envelope
      · have hagrees := hverifies.agrees
        have hsame : ¬((resultOf envelope).logId ≠ request.checkpoint.logId ∨
            (resultOf envelope).treeSize ≠ request.checkpoint.treeSize ∨
            (resultOf envelope).rootHash ≠ request.checkpoint.rootHash ∨
            (resultOf envelope).checkpointSha256 ≠ request.checkpoint.checkpointSha256) := by
          simp [resultOf, hagrees.logId, hagrees.treeSize, hagrees.rootHash,
            hagrees.checkpointSha256]
        have hnext : AllAbout request
            (validByWitness ++ [((resultOf envelope).witnessId, resultOf envelope)]) := by
          intro entry hentry
          rcases List.mem_append.mp hentry with hold | hnew
          · exact habout entry hold
          · rw [List.mem_singleton.mp hnew]
            exact ⟨hagrees.logId, hagrees.treeSize, hagrees.rootHash, hagrees.checkpointSha256⟩
        have hrest := ih _ hnext
        rw [List.map_append] at hrest
        simp only [verifies_iff.mp hverifies, ok_bind, raiseIf, if_neg hsame, hverifies, true_and]
        exact hrest
      · refine .inr ⟨fun h => hverifies h.1, ?_⟩
        cases hresult : verifyTransparencyWitnessStatement p request envelope with
        | error failure => exact ⟨failure, rfl⟩
        | ok result =>
          have hok := (verifyTransparencyWitnessStatement_eq_ok hresult).1
          exact absurd (verifies_iff.mpr (hok ▸ hresult)) hverifies

variable {counted : List WitnessId} {envelopes : List TransparencyWitnessStatementEnvelope}

theorem accepted_of_counted
    (h : ∀ envelope ∈ envelopes, Agrees request envelope ∧ witnessOf envelope ∈ counted) :
    Accepted p request counted envelopes := by
  induction envelopes with
  | nil => trivial
  | cons envelope envelopes ih =>
    have hfirst := h envelope List.mem_cons_self
    rw [Accepted, if_pos hfirst.2]
    exact ⟨hfirst.1, ih fun other hother => h other (List.mem_cons_of_mem _ hother)⟩

theorem accepted_append
    {valid others : List TransparencyWitnessStatementEnvelope}
    (hvalid : ∀ envelope ∈ valid, Verifies p request envelope)
    (hothers : ∀ envelope ∈ others, Agrees request envelope ∧
      (witnessOf envelope ∈ counted ∨ ∃ first ∈ valid, witnessOf first = witnessOf envelope)) :
    Accepted p request counted (valid ++ others) := by
  induction valid generalizing counted with
  | nil =>
    refine accepted_of_counted fun envelope henvelope => ?_
    simpa using hothers envelope henvelope
  | cons envelope valid ih =>
    have hfirst := hvalid envelope List.mem_cons_self
    have hrest := fun other hother => hvalid other (List.mem_cons_of_mem envelope hother)
    rw [List.cons_append, Accepted]
    by_cases hcounted : witnessOf envelope ∈ counted
    · rw [if_pos hcounted]
      refine ⟨hfirst.agrees, ih hrest ?_⟩
      intro other hother
      obtain ⟨hagrees, hold | ⟨first, hmem, hsame⟩⟩ := hothers other hother
      · exact ⟨hagrees, .inl hold⟩
      · rcases List.mem_cons.mp hmem with rfl | hmem
        · exact ⟨hagrees, .inl (hsame ▸ hcounted)⟩
        · exact ⟨hagrees, .inr ⟨first, hmem, hsame⟩⟩
    · rw [if_neg hcounted]
      refine ⟨hfirst, ih hrest ?_⟩
      intro other hother
      obtain ⟨hagrees, hold | ⟨first, hmem, hsame⟩⟩ := hothers other hother
      · exact ⟨hagrees, .inl (List.mem_append_left _ hold)⟩
      · rcases List.mem_cons.mp hmem with rfl | hmem
        · exact ⟨hagrees, .inl (List.mem_append_right _ (by simp [hsame]))⟩
        · exact ⟨hagrees, .inr ⟨first, hmem, hsame⟩⟩

/-- Accepted statements are about the checkpoint, and each uncounted witness has one that
verifies. -/
theorem Accepted.each (h : Accepted p request counted envelopes) :
    ∀ envelope ∈ envelopes, Agrees request envelope ∧ (witnessOf envelope ∈ counted ∨
      ∃ first ∈ envelopes, witnessOf first = witnessOf envelope ∧ Verifies p request first) := by
  induction envelopes generalizing counted with
  | nil => exact nofun
  | cons envelope envelopes ih =>
    rw [Accepted] at h
    by_cases hcounted : witnessOf envelope ∈ counted
    · rw [if_pos hcounted] at h
      intro other hother
      rcases List.mem_cons.mp hother with rfl | hother
      · exact ⟨h.1, .inl hcounted⟩
      · obtain ⟨hagrees, hold | ⟨first, hmem, hfirst⟩⟩ := ih h.2 other hother
        · exact ⟨hagrees, .inl hold⟩
        · exact ⟨hagrees, .inr ⟨first, List.mem_cons_of_mem _ hmem, hfirst⟩⟩
    · rw [if_neg hcounted] at h
      intro other hother
      rcases List.mem_cons.mp hother with rfl | hother
      · exact ⟨h.1.agrees, .inr ⟨other, List.mem_cons_self, rfl, h.1⟩⟩
      · obtain ⟨hagrees, hold | ⟨first, hmem, hfirst⟩⟩ := ih h.2 other hother
        · rcases List.mem_append.mp hold with hold | hnew
          · exact ⟨hagrees, .inl hold⟩
          · exact ⟨hagrees, .inr ⟨envelope, List.mem_cons_self,
              (List.mem_singleton.mp hnew).symm, h.1⟩⟩
        · exact ⟨hagrees, .inr ⟨first, List.mem_cons_of_mem _ hmem, hfirst⟩⟩

theorem mem_countedAfter :
    witness ∈ countedAfter counted envelopes ↔
      witness ∈ counted ∨ witness ∈ envelopes.map witnessOf := by
  induction envelopes generalizing counted with
  | nil => simp [countedAfter]
  | cons envelope envelopes ih =>
    rw [countedAfter]
    by_cases hcounted : witnessOf envelope ∈ counted
    · rw [if_pos hcounted, ih, List.map_cons, List.mem_cons]
      constructor
      · rintro (hold | hrest)
        · exact .inl hold
        · exact .inr (.inr hrest)
      · rintro (hold | rfl | hrest)
        · exact .inl hold
        · exact .inl hcounted
        · exact .inr hrest
    · rw [if_neg hcounted, ih, List.map_cons, List.mem_cons, List.mem_append,
        List.mem_singleton, or_assoc]

theorem nodup_countedAfter (envelopes : List TransparencyWitnessStatementEnvelope)
    (h : counted.Nodup) : (countedAfter counted envelopes).Nodup := by
  induction envelopes generalizing counted with
  | nil => exact h
  | cons envelope envelopes ih =>
    rw [countedAfter]
    by_cases hcounted : witnessOf envelope ∈ counted
    · rw [if_pos hcounted]
      exact ih h
    · rw [if_neg hcounted]
      refine ih (List.nodup_append.mpr ⟨h, List.nodup_singleton _, ?_⟩)
      intro witness hwitness other hother heq
      rw [List.mem_singleton.mp hother] at heq
      exact hcounted (heq ▸ hwitness)

theorem countedAfter_perm : (countedAfter [] envelopes).Perm (envelopes.map witnessOf).dedup := by
  refine (List.perm_ext_iff_of_nodup (nodup_countedAfter _ .nil) (List.nodup_dedup _)).mpr ?_
  intro witness
  simp [mem_countedAfter]

/-! ## Verdicts -/

def witnessIds (envelopes : List TransparencyWitnessStatementEnvelope) : List String :=
  ((countedAfter [] envelopes).map (·.val)).insertionSort (· ≤ ·)

structure Passes (p : TrustPlatform) (request : QuorumRequest)
    (envelopes : List TransparencyWitnessStatementEnvelope) : Prop where
  settings : request.validate = .ok ()
  accepted : Accepted p request [] envelopes
  enough : request.minimum ≤ (envelopes.map witnessOf).dedup.length

theorem length_witnessIds (envelopes : List TransparencyWitnessStatementEnvelope) :
    (witnessIds envelopes).length = (envelopes.map witnessOf).dedup.length := by
  rw [witnessIds, List.length_insertionSort, List.length_map, countedAfter_perm.length_eq]

theorem verify_spec (envelopes : List TransparencyWitnessStatementEnvelope) :
    (Passes p request envelopes ∧
      verifyTransparencyWitnessQuorum p request (envelopes.map .ok) =
        .ok ⟨request.minimum, witnessIds envelopes⟩) ∨
      (¬Passes p request envelopes ∧
        ∃ failure, verifyTransparencyWitnessQuorum p request (envelopes.map .ok) =
          .error failure) := by
  unfold verifyTransparencyWitnessQuorum
  cases hsettings : request.validate with
  | error failure =>
    exact .inr ⟨fun h => by simpa [hsettings] using h.settings, failure, rfl⟩
  | ok _ =>
    rw [ok_bind]
    rcases collectStatements_spec p [] envelopes nofun with
      ⟨haccepted, collected, hcollect, hcounted⟩ | ⟨hrefused, failure, hcollect⟩
    · rw [hcollect, ok_bind]
      have hids : (collected.map (·.1.val)).insertionSort (· ≤ ·) = witnessIds envelopes := by
        have hmap : collected.map (·.1.val) = (collected.map (·.1)).map (·.val) := by simp
        rw [hmap, hcounted]
        rfl
      dsimp only
      rw [hids, length_witnessIds]
      by_cases henough : request.minimum ≤ (envelopes.map witnessOf).dedup.length
      · rw [raiseIf, if_neg (not_lt.mpr henough)]
        exact .inl ⟨⟨hsettings, haccepted, henough⟩, rfl⟩
      · rw [raiseIf, if_pos (not_le.mp henough)]
        exact .inr ⟨fun h => henough h.enough, _, rfl⟩
    · rw [hcollect]
      exact .inr ⟨fun h => hrefused h.accepted, failure, rfl⟩

variable {files : List StatementFile}

theorem collectStatements_of_unreadable (p : TrustPlatform) (request : QuorumRequest)
    {failure : Raised} (h : .error failure ∈ files) (validByWitness : ValidByWitness) :
    ∃ raised, collectStatements p request validByWitness files = .error raised := by
  induction files generalizing validByWitness with
  | nil => cases h
  | cons file files ih =>
    rw [collectStatements]
    cases file with
    | error raised => exact ⟨raised, rfl⟩
    | ok envelope =>
      have hrest : .error failure ∈ files := by simpa using h
      rw [ok_bind]
      dsimp only
      cases validByWitness.lookup envelope.statement.witnessId with
      | some existing =>
        dsimp only
        rw [raiseIf]
        split
        · exact ⟨_, rfl⟩
        · exact ih hrest validByWitness
      | none =>
        dsimp only
        cases verifyTransparencyWitnessStatement p request envelope with
        | error raised => exact ⟨raised, rfl⟩
        | ok result =>
          rw [ok_bind, raiseIf]
          split
          · exact ⟨_, rfl⟩
          · exact ih hrest _

theorem verify_of_unreadable (p : TrustPlatform) (request : QuorumRequest)
    {failure : Raised} (h : .error failure ∈ files) :
    ∃ raised, verifyTransparencyWitnessQuorum p request files = .error raised := by
  unfold verifyTransparencyWitnessQuorum
  cases request.validate with
  | error raised => exact ⟨raised, rfl⟩
  | ok _ =>
    obtain ⟨raised, hcollect⟩ := collectStatements_of_unreadable p request h []
    rw [ok_bind, hcollect]
    exact ⟨raised, rfl⟩

theorem eq_map_ok_of_readable (h : ∀ failure, .error failure ∉ files) :
    files = (files.filterMap Except.toOption).map .ok := by
  induction files with
  | nil => rfl
  | cons file files ih =>
    cases file with
    | error failure => exact absurd List.mem_cons_self (h failure)
    | ok envelope =>
      have hrest := ih fun failure hmem => h failure (List.mem_cons_of_mem _ hmem)
      exact congrArg (Except.ok envelope :: ·) hrest

def SameVerdict (first second : Except Raised TransparencyWitnessQuorumResult) : Prop :=
  match first, second with
  | .ok result, .ok other => result.validWitnessIds = other.validWitnessIds
  | .error _, .error _ => True
  | _, _ => False

theorem verdict_depends_on_order {passing failing : List TransparencyWitnessStatementEnvelope}
    (hpasses : Passes p request passing) (hfails : ¬Passes p request failing)
    (hperm : passing.Perm failing) :
    ¬∀ files others : List StatementFile, files.Perm others →
      SameVerdict (verifyTransparencyWitnessQuorum p request files)
        (verifyTransparencyWitnessQuorum p request others) := by
  intro h
  have hsame := h _ _ (hperm.map Except.ok)
  obtain ⟨_, hok⟩ := (verify_spec passing).resolve_right fun h => h.1 hpasses
  obtain ⟨_, failure, herror⟩ := (verify_spec failing).resolve_left fun h => hfails h.1
  rw [hok, herror] at hsame
  exact hsame

/-- Every file is read and is about the checkpoint, every witness has a statement that verifies,
and they are enough; but not all statements verify. -/
structure Mixed (p : TrustPlatform) (request : QuorumRequest) (files : List StatementFile)
    (envelopes : List TransparencyWitnessStatementEnvelope) : Prop where
  read : files = envelopes.map .ok
  settings : request.validate = .ok ()
  agree : ∀ envelope ∈ envelopes, Agrees request envelope
  witnessed : ∀ envelope ∈ envelopes, ∃ first ∈ envelopes,
    witnessOf first = witnessOf envelope ∧ Verifies p request first
  enough : request.minimum ≤ (envelopes.map witnessOf).dedup.length
  unverified : ∃ envelope ∈ envelopes, ¬Verifies p request envelope

variable {envelopes others : List TransparencyWitnessStatementEnvelope}

theorem enough_perm (hperm : envelopes.Perm others) :
    (envelopes.map witnessOf).dedup.length = (others.map witnessOf).dedup.length :=
  (List.Perm.dedup (hperm.map witnessOf)).length_eq

theorem witnessIds_perm
    (hperm : envelopes.Perm others) : witnessIds envelopes = witnessIds others := by
  have hcounted : (countedAfter [] envelopes).Perm (countedAfter [] others) :=
    countedAfter_perm.trans ((List.Perm.dedup (hperm.map witnessOf)).trans countedAfter_perm.symm)
  refine List.Perm.eq_of_sortedLE List.sortedLE_insertionSort List.sortedLE_insertionSort ?_
  exact (List.perm_insertionSort _ _).trans
    ((hcounted.map _).trans (List.perm_insertionSort _ _).symm)

theorem Mixed.orders (h : Mixed p request files envelopes) :
    (∃ passing, envelopes.Perm passing ∧ Passes p request passing) ∧
      ∃ failing, envelopes.Perm failing ∧ ¬Passes p request failing := by
  classical
  obtain ⟨unverified, hmem, hunverified⟩ := h.unverified
  constructor
  · have hperm := (List.filter_append_perm (fun envelope => decide (Verifies p request envelope))
      envelopes).symm
    refine ⟨_, hperm, h.settings, accepted_append ?_ ?_, (enough_perm hperm) ▸ h.enough⟩
    · intro envelope henvelope
      exact of_decide_eq_true (List.mem_filter.mp henvelope).2
    · intro envelope henvelope
      have hmem := (List.mem_filter.mp henvelope).1
      obtain ⟨first, hfirst, hsame, hverifies⟩ := h.witnessed envelope hmem
      exact ⟨h.agree envelope hmem, .inr ⟨first, List.mem_filter.mpr
        ⟨hfirst, decide_eq_true hverifies⟩, hsame⟩⟩
  · obtain ⟨before, after, rfl⟩ := List.append_of_mem hmem
    refine ⟨unverified :: (before ++ after), List.perm_middle, ?_⟩
    intro hpasses
    have haccepted := hpasses.accepted
    rw [Accepted, if_neg List.not_mem_nil] at haccepted
    exact hunverified haccepted.1

theorem passes_of_perm (hpasses : Passes p request envelopes) (hperm : envelopes.Perm others)
    (hmixed : ¬Mixed p request (envelopes.map .ok) envelopes) : Passes p request others := by
  have heach := hpasses.accepted.each
  have hverifies : ∀ envelope ∈ envelopes, Verifies p request envelope := by
    by_contra hnot
    simp only [not_forall] at hnot
    obtain ⟨envelope, hmem, hunverified⟩ := hnot
    refine hmixed ⟨rfl, hpasses.settings, fun other hother => (heach other hother).1, ?_,
      hpasses.enough, envelope, hmem, hunverified⟩
    intro other hother
    exact (heach other hother).2.resolve_left List.not_mem_nil
  refine ⟨hpasses.settings, ?_, (enough_perm hperm) ▸ hpasses.enough⟩
  rw [← List.append_nil others]
  exact accepted_append (fun envelope henvelope => hverifies envelope (hperm.mem_iff.mpr henvelope))
    nofun

theorem mixed_perm (hperm : envelopes.Perm others) (h : Mixed p request (others.map .ok) others) :
    Mixed p request (envelopes.map .ok) envelopes where
  read := rfl
  settings := h.settings
  agree := fun envelope henvelope => h.agree envelope (hperm.mem_iff.mp henvelope)
  witnessed := by
    intro envelope henvelope
    obtain ⟨first, hfirst, hsame⟩ := h.witnessed envelope (hperm.mem_iff.mp henvelope)
    exact ⟨first, hperm.mem_iff.mpr hfirst, hsame⟩
  enough := (enough_perm hperm).symm ▸ h.enough
  unverified := by
    obtain ⟨envelope, henvelope, hunverified⟩ := h.unverified
    exact ⟨envelope, hperm.mem_iff.mpr henvelope, hunverified⟩

/-- The verdict is the same in every order exactly when the statements are not mixed. -/
theorem quorum_order_iff (p : TrustPlatform) (request : QuorumRequest)
    (files : List StatementFile) :
    (∀ others, files.Perm others → SameVerdict (verifyTransparencyWitnessQuorum p request files)
        (verifyTransparencyWitnessQuorum p request others)) ↔
      ¬∃ envelopes, Mixed p request files envelopes := by
  constructor
  · intro hsame hmixed
    obtain ⟨envelopes, hmixed⟩ := hmixed
    obtain ⟨⟨passing, hpassing, hpasses⟩, failing, hfailing, hfails⟩ := hmixed.orders
    have hfirst := hsame _ (hmixed.read ▸ hpassing.map Except.ok)
    have hsecond := hsame _ (hmixed.read ▸ hfailing.map Except.ok)
    obtain ⟨_, hok⟩ := (verify_spec passing).resolve_right fun h => h.1 hpasses
    obtain ⟨_, failure, herror⟩ := (verify_spec failing).resolve_left fun h => hfails h.1
    rw [hok] at hfirst
    rw [herror] at hsecond
    cases hverdict : verifyTransparencyWitnessQuorum p request files with
    | ok result => simp [SameVerdict, hverdict] at hsecond
    | error raised => simp [SameVerdict, hverdict] at hfirst
  · intro hnot others hperm
    by_cases hread : ∃ failure, .error failure ∈ files
    · obtain ⟨failure, hmem⟩ := hread
      obtain ⟨raised, hfiles⟩ := verify_of_unreadable p request hmem
      obtain ⟨raised', hothers⟩ :=
        verify_of_unreadable p request (hperm.mem_iff.mp hmem)
      rw [hfiles, hothers]
      trivial
    · have hfiles := eq_map_ok_of_readable fun failure hmem => hread ⟨failure, hmem⟩
      have hothers := eq_map_ok_of_readable fun failure hmem =>
        hread ⟨failure, hperm.mem_iff.mpr hmem⟩
      have hsame := hperm.filterMap Except.toOption
      generalize files.filterMap Except.toOption = envelopes at hfiles hsame
      generalize others.filterMap Except.toOption = envelopes' at hothers hsame
      rw [hfiles] at hnot
      have hmixed : ¬Mixed p request (envelopes.map .ok) envelopes := fun h => hnot ⟨_, h⟩
      rw [hfiles, hothers]
      rcases verify_spec envelopes with ⟨hpasses, hok⟩ | ⟨hfails, failure, herror⟩
      · have hpasses' := passes_of_perm hpasses hsame hmixed
        obtain ⟨_, hok'⟩ := (verify_spec envelopes').resolve_right fun h => h.1 hpasses'
        rw [hok, hok']
        exact witnessIds_perm hsame
      · have hfails' : ¬Passes p request envelopes' := fun h => hfails (passes_of_perm h hsame.symm
          fun hmixed' => hmixed (mixed_perm hsame hmixed'))
        obtain ⟨_, failure', herror'⟩ := (verify_spec envelopes').resolve_left fun h => hfails' h.1
        rw [herror, herror']
        trivial

/-! ## A statement with a wrong signature behind one that verifies -/

theorem isValidWitnessId_a : isValidWitnessId "witness-a" = true := by decide

theorem revoked_iff_none : TransparencyWitnessStatus.active = .revoked ↔
    (none : Option UtcDatetime).isSome = true := by
  decide

theorem decodeB64?_zeros : (decodeB64? ed25519SignatureBytes
    "AAAAAAAAAAAAAAAAAAAAAAAAAAAAAAAAAAAAAAAAAAAAAAAAAAAAAAAAAAAAAAAAAAAAAAAAAAAAAAAAAAAAAA==").isSome =
      true := by
  decide

def sampleWitnessEntry : TransparencyWitnessTrustEntry where
  witnessId := ⟨"witness-a", isValidWitnessId_a⟩
  publicKeyB64 := ⟨"11qYAYKxCrfVS/7TyWQHOg7hcvPapiMlrwIaaPcHURo=", by decide⟩
  status := .active
  validFrom := ⟨2026, 1, 1, 0, 0, 0, 0, isCalendarTime_newYear⟩
  validUntil := none
  revokedAt := none
  window := nofun
  revocation := nofun
  revoked_iff := revoked_iff_none

def sampleQuorumRequest : QuorumRequest where
  checkpoint := ⟨"log", 1, "0123456789abcdef0123456789abcdef0123456789abcdef0123456789abcdef",
    "log-key", "fedcba9876543210fedcba9876543210fedcba9876543210fedcba9876543210"⟩
  trustStore := {
    logId := ⟨"log", log_length⟩
    minimumQuorum := ⟨1, Nat.one_pos⟩
    witnesses := [sampleWitnessEntry]
    ids_nodup := by simp
    keys_nodup := by simp
    quorum_le := by decide }
  verificationTime := ⟨2026, 7, 2, 0, 0, 0, 0, by decide⟩
  requiredQuorum := none
  revokedWitnessPolicy := .reject
  maximumClockSkew := 300000000

def sampleWitnessStatement : TransparencyWitnessStatementPayload where
  logId := ⟨"log", log_length⟩
  witnessId := ⟨"witness-a", isValidWitnessId_a⟩
  checkpointSha256 :=
    ⟨"fedcba9876543210fedcba9876543210fedcba9876543210fedcba9876543210", isValid_descending⟩
  treeSize := ⟨1, Nat.one_pos⟩
  rootHash := ⟨"0123456789abcdef0123456789abcdef0123456789abcdef0123456789abcdef", isValid_ascending⟩
  logSigningKeyId := ⟨"log-key", logKey_length⟩
  observedAt := ⟨2026, 7, 1, 0, 0, 0, 0, isCalendarTime_from⟩
  previousWitnessed := none
  consistencyProofSha256 := none

def sampleWitnessSignature : SignatureB64 :=
  ⟨"uaoZTAH7lOitOLhUIuFhoidC7J8Cs5A97pnrVfexDkSPPErDC4tmZOt3T1OYceB2xh6hWxpKNNks+9x1ePnSDA==",
    by decide⟩

def sampleWrongSignature : SignatureB64 :=
  ⟨"AAAAAAAAAAAAAAAAAAAAAAAAAAAAAAAAAAAAAAAAAAAAAAAAAAAAAAAAAAAAAAAAAAAAAAAAAAAAAAAAAAAAAA==",
    decodeB64?_zeros⟩

def sampleSigned : TransparencyWitnessStatementEnvelope :=
  ⟨sampleWitnessStatement, sampleWitnessSignature⟩

def sampleUnsigned : TransparencyWitnessStatementEnvelope :=
  ⟨sampleWitnessStatement, sampleWrongSignature⟩

def sampleStatementMessage : List UInt8 :=
  joinZero [asciiBytes "agentic-ai-lab:transparency-witness-statement:ed25519:v1",
    TextFile.encode ((Json.Value.obj
      (statementMembers utcDatetimes sampleWitnessStatement)).sortKeys.print Json.compact 0)]

def sampleWitnessPlatform : TrustPlatform := referenceTrustPlatform [{
  privateKey := [157, 97, 177, 157, 239, 253, 90, 96, 186, 132, 74, 244, 146, 236, 44, 196, 68,
    73, 197, 105, 123, 50, 105, 25, 112, 59, 172, 3, 28, 174, 127, 96]
  publicKey := sampleWitnessEntry.publicKeyB64.bytes
  message := sampleStatementMessage
  signature := sampleWitnessSignature.bytes }]

theorem statementMessage_sample :
    statementMessage utcDatetimes sampleWitnessStatement = .ok sampleStatementMessage :=
  bind_eq_ok.mpr ⟨_, bind_eq_ok.mpr ⟨_, jsonDumps_eq_ok.mpr ⟨by decide +kernel, rfl⟩, rfl⟩, rfl⟩

theorem ensureWitnessTrusted_sample :
    ensureWitnessTrustedForVerification sampleWitnessEntry sampleWitnessStatement.observedAt
      sampleQuorumRequest.verificationTime .reject sampleQuorumRequest.maximumClockSkew = .ok () :=
  raiseIf_bind_eq_ok.mpr ⟨by decide, raiseIf_bind_eq_ok.mpr ⟨by decide, raiseIf_bind_eq_ok.mpr
    ⟨by decide, raiseIf_bind_eq_ok.mpr ⟨by simp [sampleWitnessEntry], if_pos (.inl rfl)⟩⟩⟩⟩

theorem verifies_sampleSigned :
    Verifies sampleWitnessPlatform sampleQuorumRequest sampleSigned := by
  rw [verifies_iff]
  refine raiseIf_bind_eq_ok.mpr ⟨by decide, bind_eq_ok.mpr ⟨sampleWitnessEntry, rfl,
    bind_eq_ok.mpr ⟨(), ensureWitnessTrusted_sample, bind_eq_ok.mpr ⟨_, statementMessage_sample,
      raiseIf_bind_eq_ok.mpr ⟨?_, rfl⟩⟩⟩⟩⟩
  simp [sampleWitnessPlatform, Ed25519.ofKnown, sampleSigned]

theorem not_verifies_sampleUnsigned :
    ¬Verifies sampleWitnessPlatform sampleQuorumRequest sampleUnsigned := by
  intro h
  obtain ⟨_, h⟩ := raiseIf_bind_eq_ok.mp (verifies_iff.mp h)
  obtain ⟨witness, hwitness, h⟩ := bind_eq_ok.mp h
  obtain ⟨_, _, h⟩ := bind_eq_ok.mp h
  obtain ⟨message, _, h⟩ := bind_eq_ok.mp h
  obtain ⟨hverify, _⟩ := raiseIf_bind_eq_ok.mp h
  have hdiffer : (sampleWitnessSignature.bytes == sampleUnsigned.signatureB64.bytes) = false := by
    decide +kernel
  simp [sampleWitnessPlatform, Ed25519.ofKnown, hdiffer] at hverify

theorem agrees_sampleUnsigned : Agrees sampleQuorumRequest sampleUnsigned := ⟨rfl, rfl, rfl, rfl⟩

theorem passes_sample :
    Passes sampleWitnessPlatform sampleQuorumRequest [sampleSigned, sampleUnsigned] where
  settings := raiseIf_bind_eq_ok.mpr ⟨by decide, raiseIf_eq_ok.mpr (by decide)⟩
  accepted := by
    have hcounted : witnessOf sampleUnsigned ∈ [] ++ [witnessOf sampleSigned] := by decide
    rw [Accepted, if_neg List.not_mem_nil, Accepted, if_pos hcounted]
    exact ⟨verifies_sampleSigned, agrees_sampleUnsigned, trivial⟩
  enough := by decide

/-- Behind the signed statement the other one is taken without a look at its signature. -/
theorem quorum_depends_on_order :
    ¬∀ files others : List StatementFile, files.Perm others →
      SameVerdict (verifyTransparencyWitnessQuorum sampleWitnessPlatform sampleQuorumRequest files)
        (verifyTransparencyWitnessQuorum sampleWitnessPlatform sampleQuorumRequest others) := by
  refine verdict_depends_on_order passes_sample (fun h => ?_) (.swap sampleUnsigned sampleSigned [])
  have haccepted := h.accepted
  rw [Accepted, if_neg List.not_mem_nil] at haccepted
  exact not_verifies_sampleUnsigned haccepted.1

end AgenticLab.WitnessQuorum
