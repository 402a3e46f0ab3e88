import AgenticLab.Verification.Application.JobRecord
import AgenticLab.Verification.Application.Methods

/-! # When a cancellation that raises has changed nothing

`request` and `complete` write the request first and the job second. A call is atomic when it
changes nothing if it raises; others may act on the repositories between its operations. -/

namespace AgenticLab

open RepositoryOperation (handle)

variable {casefold : Casefold} {α β : Type}

/-- If the program raises, none of its operations has changed anything. -/
def Atomic (p : ServiceProgram α)
    (others : List (ApplicationRepositories casefold → ApplicationRepositories casefold))
    (s : ApplicationRepositories casefold) : Prop :=
  ∀ failure, (p.runAmong handle others s).result = .error failure →
    ∀ effect ∈ (p.runAmong handle others s).effects, effect.1 = effect.2

def NeverRaises (p : ServiceProgram α)
    (others : List (ApplicationRepositories casefold → ApplicationRepositories casefold))
    (s : ApplicationRepositories casefold) : Prop :=
  ∀ failure, (p.runAmong handle others s).result ≠ .error failure

variable {s : ApplicationRepositories casefold}
  {other : ApplicationRepositories casefold → ApplicationRepositories casefold}
  {others : List (ApplicationRepositories casefold → ApplicationRepositories casefold)}

/-! ## In front of the first write -/

namespace Atomic

theorem lift_iff {x : Except Raised β} {f : β → ServiceProgram α} :
    Atomic ((liftM x : ServiceProgram β) >>= f) others s ↔
      ∀ b, x = .ok b → Atomic (f b) others s := by
  cases x with
  | ok b => exact ⟨fun h _ hb => Except.ok.inj hb ▸ h, fun h => h b rfl⟩
  | error failure =>
    refine iff_of_true ?_ nofun
    intro _ _ effect heffect
    have hnone : effect ∈ ([] : List (_ × _)) := heffect
    cases hnone

theorem check_iff {condition : Prop} [Decidable condition] {failure : Raised}
    {f : Unit → ServiceProgram α} :
    Atomic ((liftM (raiseIf condition failure) : ServiceProgram Unit) >>= f) others s ↔
      (¬condition → Atomic (f ()) others s) := by
  rw [lift_iff]
  exact ⟨fun h hcondition => h () (raiseIf_eq_ok.mpr hcondition),
    fun h _ hcheck => h (raiseIf_eq_ok.mp hcheck)⟩

variable {op : RepositoryOperation} {next : op.Reply → ServiceProgram α}

theorem call_iff (h : (handle op (other s)).2 = other s) :
    Atomic (.call op next) (other :: others) s ↔
      Atomic (next (handle op (other s)).1) others (other s) := by
  unfold Atomic
  simp only [Program.runAmong, h]
  constructor
  · intro hatomic failure hfailure effect heffect
    exact hatomic failure hfailure effect (List.mem_cons_of_mem _ heffect)
  · intro hatomic failure hfailure effect heffect
    rcases List.mem_cons.mp heffect with rfl | hrest
    · rfl
    · exact hatomic failure hfailure effect hrest

theorem raise (failure : Raised) : Atomic (.done (.error failure) : ServiceProgram α) others s := by
  intro _ _ effect heffect
  cases heffect

theorem refused (h : (handle op (other s)).2 = other s)
    (hnext : ∃ failure, next (handle op (other s)).1 = .done (.error failure)) :
    Atomic (.call op next) (other :: others) s := by
  obtain ⟨failure, hnext⟩ := hnext
  rw [call_iff h, hnext]
  exact raise failure

theorem lookup_iff {γ : Type}
    {found : Option γ} {f : γ → ServiceProgram α} {missing : Raised}
    (h : (handle op (other s)).2 = other s)
    (hnext : next (handle op (other s)).1 =
      match found with
      | some record => f record
      | none => .done (.error missing)) :
    Atomic (.call op next) (other :: others) s ↔
      ∀ stored, found = some stored → Atomic (f stored) others (other s) := by
  rw [call_iff h, hnext]
  cases found with
  | none => exact iff_of_true (raise missing) nofun
  | some stored =>
    constructor
    · intro hatomic _ heq
      rw [← Option.some.inj heq]
      exact hatomic
    · exact fun hatomic => hatomic stored rfl

theorem require_iff {jobId : String} {f : ApplicationJobRecord → ServiceProgram α} :
    Atomic (ApplicationJobRepository.require jobId >>= f) (other :: others) s ↔
      ∀ stored, (other s).jobs.getById jobId = some stored →
        Atomic (f stored) others (other s) := by
  apply lookup_iff rfl
  dsimp only [handle]
  cases (other s).jobs.getById jobId <;> rfl

variable {f : ApplicationJobCancellationRequestRecord → ServiceProgram α}

theorem requireCancellation_iff {cancellationRequestId : String} :
    Atomic (ApplicationCancellationRepository.require cancellationRequestId >>= f)
        (other :: others) s ↔
      ∀ stored, (other s).cancellations.getById cancellationRequestId = some stored →
        Atomic (f stored) others (other s) := by
  apply lookup_iff rfl
  dsimp only [handle]
  cases (other s).cancellations.getById cancellationRequestId <;> rfl

theorem findActive_iff {jobId : String}
    {f : Option ApplicationJobCancellationRequestRecord → ServiceProgram α} :
    Atomic (ApplicationCancellationRepository.findActiveByJobId jobId >>= f) (other :: others) s ↔
      Atomic (f ((InMemoryApplicationCancellationRepository.findByJobId (other s).cancellations
        jobId).find? fun record => !record.terminal)) others (other s) :=
  call_iff rfl

theorem write_iff (h : other s ≠ (handle op (other s)).2) :
    Atomic (.call op next) (other :: others) s ↔
      NeverRaises (next (handle op (other s)).1) others (handle op (other s)).2 := by
  constructor
  · intro hatomic failure hfailure
    exact h (hatomic failure hfailure _ List.mem_cons_self)
  · intro hnever failure hfailure
    exact absurd hfailure (hnever failure)

variable {record : ApplicationJobCancellationRequestRecord}

theorem createCancellation_iff :
    Atomic (ApplicationCancellationRepository.create record >>= f) (other :: others) s ↔
      ∀ hnone : (other s).cancellations.get (record.key casefold) = none,
        NeverRaises (f record) others
          ⟨(other s).jobs, (other s).cancellations.insert record hnone⟩ := by
  have hop : ApplicationCancellationRepository.create record >>= f =
      .call (.createCancellation record) fun reply =>
        (liftM reply : ServiceProgram ApplicationJobCancellationRequestRecord) >>= f := rfl
  rw [hop]
  rcases Option.eq_none_or_eq_some ((other s).cancellations.get (record.key casefold)) with
    hget | ⟨stored, hget⟩
  · have hcreate := InMemoryApplicationCancellationRepository.create_of_none hget
    have hchanged : other s ≠ (handle (.createCancellation record) (other s)).2 := by
      simp only [handle, hcreate]
      intro heq
      have hlength := congrArg (fun t => t.cancellations.records.length) heq
      simp [KeyedStore.insert] at hlength
    rw [write_iff hchanged]
    simp only [handle, hcreate]
    exact ⟨fun h _ => h, fun h => h hget⟩
  · have hcreate := InMemoryApplicationCancellationRepository.create_of_some hget
    refine iff_of_true (refused ?_ ?_) fun hnone => ?_
    · simp only [handle, hcreate]
    · simp only [handle, hcreate]
      exact ⟨_, rfl⟩
    · rw [hget] at hnone
      cases hnone

theorem updateCancellation_iff {expectedVersion : ℕ}
    (hversion : record.recordVersion.val = expectedVersion + 1) :
    Atomic (ApplicationCancellationRepository.update record expectedVersion >>= f)
        (other :: others) s ↔
      ((∃ current, (other s).cancellations.get (record.key casefold) = some current ∧
          current.recordVersion.val = expectedVersion) →
        NeverRaises (f record) others
          ⟨(other s).jobs, (other s).cancellations.replace record⟩) := by
  have hop : ApplicationCancellationRepository.update record expectedVersion >>= f =
      .call (.updateCancellation record expectedVersion) fun reply =>
        (liftM reply : ServiceProgram ApplicationJobCancellationRequestRecord) >>= f := rfl
  rw [hop]
  rcases InMemoryApplicationCancellationRepository.update_cases (other s).cancellations record
    expectedVersion with ⟨current, hget, hcurrent, _, hupdate⟩ | ⟨failure, hupdate⟩
  · have hchanged :
        other s ≠ (handle (.updateCancellation record expectedVersion) (other s)).2 := by
      simp only [handle, hupdate]
      intro heq
      have hread := congrArg (fun t => t.cancellations.get (record.key casefold)) heq
      simp only [hget, KeyedStore.get_replace (hget ▸ Option.some_ne_none current)] at hread
      rw [if_pos trivial] at hread
      rw [Option.some.inj hread] at hcurrent
      omega
    rw [write_iff hchanged]
    simp only [handle, hupdate]
    exact ⟨fun h _ => h, fun h => h ⟨current, hget, hcurrent⟩⟩
  · refine iff_of_true (refused ?_ ?_) ?_
    · simp only [handle, hupdate]
    · simp only [handle, hupdate]
      exact ⟨_, rfl⟩
    · rintro ⟨current, hget, rfl⟩
      rw [InMemoryApplicationCancellationRepository.update_of_get hget hversion] at hupdate
      cases hupdate

end Atomic

namespace NeverRaises

theorem lift_iff {x : Except Raised β} {f : β → ServiceProgram α} :
    NeverRaises ((liftM x : ServiceProgram β) >>= f) others s ↔
      ∃ b, x = .ok b ∧ NeverRaises (f b) others s := by
  cases x with
  | error failure => exact iff_of_false (fun h => h failure rfl) nofun
  | ok b =>
    constructor
    · exact fun h => ⟨b, rfl, h⟩
    · rintro ⟨_, heq, h⟩
      rw [← Except.ok.inj heq] at h
      exact h

theorem updateJob_iff (record : ApplicationJobRecord) {expectedVersion : ℕ}
    (hversion : record.recordVersion.val = expectedVersion + 1)
    (other : ApplicationRepositories casefold → ApplicationRepositories casefold)
    (others : List (ApplicationRepositories casefold → ApplicationRepositories casefold))
    (s : ApplicationRepositories casefold) (a : α) :
    NeverRaises (ApplicationJobRepository.update record expectedVersion >>= fun _ => pure a)
        (other :: others) s ↔
      ∃ current, (other s).jobs.get (record.key casefold) = some current ∧
        current.recordVersion.val = expectedVersion := by
  have hop : ApplicationJobRepository.update record expectedVersion >>= (fun _ => pure a) =
      (.call (.updateJob record expectedVersion) fun reply =>
        (liftM reply : ServiceProgram ApplicationJobRecord) >>= fun _ => pure a :
          ServiceProgram α) := rfl
  have hresult : ∀ failure, (Program.runAmong handle (other :: others)
      (ApplicationJobRepository.update record expectedVersion >>= fun _ =>
        (pure a : ServiceProgram α)) s).result = .error failure ↔
      (InMemoryApplicationJobRepository.update (other s).jobs record expectedVersion).1 =
        .error failure := by
    intro failure
    rw [hop, Program.runAmong]
    simp only [handle]
    cases (InMemoryApplicationJobRepository.update (other s).jobs record expectedVersion).1 with
    | ok stored => exact iff_of_false (fun h => by cases h) (fun h => by cases h)
    | error raised =>
      have hdone : ((liftM (.error raised : Except Raised ApplicationJobRecord) :
          ServiceProgram ApplicationJobRecord) >>= fun _ => (pure a : ServiceProgram α)) =
            .done (.error raised) := rfl
      rw [hdone, Program.runAmong]
      simp only [Except.error.injEq]
  unfold NeverRaises
  simp only [ne_eq, hresult]
  rcases InMemoryApplicationJobRepository.update_cases (other s).jobs record expectedVersion with
    ⟨current, hget, hcurrent, _, hupdate⟩ | ⟨failure, hupdate⟩
  · rw [hupdate]
    exact iff_of_true (fun _ h => by cases h) ⟨current, hget, hcurrent⟩
  · refine iff_of_false (fun h => h failure (by rw [hupdate])) ?_
    rintro ⟨current, hget, rfl⟩
    rw [InMemoryApplicationJobRepository.update_of_get hget hversion] at hupdate
    cases hupdate

end NeverRaises

namespace ApplicationCancellationService

open ApplicationJobRecord ApplicationJobStatus

structure Cancellable (job : ApplicationJobRecord) : Prop where
  identity : job.validateIdentity = .ok ()
  aware : ∀ t ∈ job.availableAt :: job.createdAt ::
    (job.queuedAt.toList ++ job.startedAt.toList), t.isNaive = false
  available : job.createdAt ≤ job.availableAt
  ordered : (job.createdAt :: (job.queuedAt.toList ++ job.startedAt.toList)).IsChain (· ≤ ·)
  failure : job.failure = none
  metadata : validateMetadata job.metadata = .ok ()

variable {job : ApplicationJobRecord}

theorem cancellationRequestedJob_valid_iff (cancellation : ApplicationJobCancellation) :
    (cancellationRequestedJob job cancellation).Valid ↔
      Cancellable job ∧ job.finishedAt = none := by
  have htimes : (cancellationRequestedJob job cancellation).finishedAt = none →
      (cancellationRequestedJob job cancellation).times =
        job.queuedAt.toList ++ job.startedAt.toList := times_of_unfinished
  constructor
  · intro h
    have hunfinished : job.finishedAt = none :=
      h.finishedAt_eq_none (by decide : cancellationRequested ∉ terminalStatuses)
    have hfailure : job.failure = none :=
      h.failure_eq_none_iff.mpr (by decide : cancellationRequested ∉ failureStatuses)
    have haware := h.aware
    have hordered := h.ordered
    rw [htimes hunfinished] at haware hordered
    exact ⟨⟨h.identity, haware, h.available, hordered, hfailure, h.metadata⟩, hunfinished⟩
  · rintro ⟨h, hunfinished⟩
    refine ⟨h.identity, ?_, h.available, ?_, ?_, h.metadata⟩
    · rw [htimes hunfinished]
      exact h.aware
    · rw [htimes hunfinished]
      exact h.ordered
    · constructor <;>
        simp [cancellationRequestedJob, hunfinished, h.failure, terminalStatuses, leasedStatuses,
          failureStatuses, cancellationStatuses]

def lastTime (job : ApplicationJobRecord) : Datetime :=
  (job.startedAt <|> job.queuedAt).getD job.createdAt

theorem cancelledJob_valid_iff {now : Datetime} (haware : now.isNaive = false) :
    (cancelledJob job now).Valid ↔
      Cancellable job ∧ job.cancellation.isSome ∧ lastTime job ≤ now := by
  have htimes : (cancelledJob job now).times =
      job.queuedAt.toList ++ job.startedAt.toList ++ [now] := by
    unfold times cancelledJob
    cases job.queuedAt <;> cases job.startedAt <;> rfl
  have hordered : ((cancelledJob job now).createdAt :: (cancelledJob job now).times).IsChain
        (· ≤ ·) ↔
      (job.createdAt :: (job.queuedAt.toList ++ job.startedAt.toList)).IsChain (· ≤ ·) ∧
        lastTime job ≤ now := by
    rw [htimes, lastTime]
    change (job.createdAt :: _).IsChain _ ↔ _
    cases job.queuedAt <;> cases job.startedAt <;> simp [and_assoc]
  constructor
  · intro h
    have hfailure : job.failure = none :=
      h.failure_eq_none_iff.mpr (by decide : cancelled ∉ failureStatuses)
    have hcancellation : job.cancellation.isSome :=
      h.contract.cancellation.mpr (by decide : cancelled ∈ cancellationStatuses)
    obtain ⟨hchain, hlast⟩ := hordered.mp h.ordered
    refine ⟨⟨h.identity, ?_, h.available, hchain, hfailure, h.metadata⟩, hcancellation, hlast⟩
    have hnaive := h.aware
    rw [htimes] at hnaive
    exact fun t ht => hnaive t (List.mem_append_left [now] ht)
  · rintro ⟨h, hcancellation, hlast⟩
    refine ⟨h.identity, ?_, h.available, hordered.mpr ⟨h.ordered, hlast⟩, ?_, h.metadata⟩
    · rw [htimes]
      intro t ht
      rcases List.mem_append.mp (show t ∈ (job.availableAt :: job.createdAt ::
        (job.queuedAt.toList ++ job.startedAt.toList)) ++ [now] from ht) with hold | hnew
      · exact h.aware t hold
      · rw [List.mem_singleton.mp hnew]
        exact haware
    · constructor <;>
        simp [cancelledJob, hcancellation, h.failure, terminalStatuses, leasedStatuses,
          failureStatuses, cancellationStatuses]

theorem cancellable_iff_of_valid (h : job.Valid) (hterminal : job.terminal = false) :
    Cancellable job ∧ job.finishedAt = none ↔ job.status ≠ .retryScheduled := by
  have hstatus : job.status ∉ terminalStatuses := by simpa [terminal] using hterminal
  have hunfinished := h.finishedAt_eq_none hstatus
  have hfailure : job.failure = none ↔ job.status ≠ .retryScheduled := by
    rw [h.failure_eq_none_iff]
    revert hstatus
    cases job.status <;> decide
  have haware := h.aware
  have hordered := h.ordered
  rw [times_of_unfinished hunfinished] at haware hordered
  constructor
  · exact fun hcancellable => hfailure.mp hcancellable.1.failure
  · intro hretry
    exact ⟨⟨h.identity, haware, h.available, hordered, hfailure.mpr hretry, h.metadata⟩,
      hunfinished⟩

def StillCurrent (s : ApplicationRepositories casefold) (job : ApplicationJobRecord) : Prop :=
  ∃ current, s.jobs.get (job.key casefold) = some current ∧
    current.recordVersion = job.recordVersion

theorem neverRaises_replaceJob_iff (job copy : ApplicationJobRecord)
    (hid : copy.jobId = job.jobId) (hversion : copy.recordVersion = job.nextVersion) (a : α) :
    NeverRaises
        (do
          let updatedJob ← copy.modelValidate
          let _ ← ApplicationJobRepository.update updatedJob job.recordVersion.val
          return a) (other :: others) s ↔
      copy.Valid ∧ StillCurrent (other s) job := by
  have hkey : copy.key casefold = job.key casefold := congrArg (normalizeId casefold) hid
  have hcurrent : StillCurrent (other s) job ↔ ∃ current,
      (other s).jobs.get (copy.key casefold) = some current ∧
        current.recordVersion.val = job.recordVersion.val := by
    rw [hkey]
    exact exists_congr fun current => and_congr_right fun _ => Subtype.ext_iff
  have hupdate := NeverRaises.updateJob_iff copy (congrArg Subtype.val hversion) other others s a
  rw [NeverRaises.lift_iff, hcurrent, ← validateRecord_eq_ok]
  constructor
  · rintro ⟨_, hvalidate, hrest⟩
    obtain ⟨hvalid, rfl⟩ := modelValidate_eq_ok.mp hvalidate
    exact ⟨hvalid, hupdate.mp hrest⟩
  · rintro ⟨hvalid, hrest⟩
    exact ⟨copy, modelValidate_eq_ok.mpr ⟨hvalid, rfl⟩, hupdate.mpr hrest⟩

variable {o₁ o₂ o₃ o₄ : ApplicationRepositories casefold → ApplicationRepositories casefold}

/-- A job that a request accepts can be cancelled, and others have not changed it in the
meantime. -/
def RequestGoesThrough
    (o₁ o₂ o₃ o₄ : ApplicationRepositories casefold → ApplicationRepositories casefold)
    (s : ApplicationRepositories casefold) (jobId requestedBy reason : String) (now : Datetime)
    (force : Bool) (cancellationId : String) : Prop :=
  ∀ job, ∀ haccepted : RequestAccepted (o₁ s) (o₂ (o₁ s)) (o₃ (o₂ (o₁ s))) jobId requestedBy
      reason now force cancellationId job,
    Cancellable job ∧ job.finishedAt = none ∧
      StillCurrent (o₄ ⟨(o₃ (o₂ (o₁ s))).jobs, (o₃ (o₂ (o₁ s))).cancellations.insert
        (requestOf job cancellationId requestedBy reason now force) haccepted.fresh⟩) job

/-- A job whose completion is accepted carries its cancellation and can be cancelled by now, and
others have not changed it in the meantime. -/
def CompletionGoesThrough
    (o₁ o₂ o₃ o₄ : ApplicationRepositories casefold → ApplicationRepositories casefold)
    (s : ApplicationRepositories casefold) (cancellationRequestId completedBy : String)
    (now : Datetime) : Prop :=
  ∀ stored job, CompleteAccepted (o₁ s) (o₂ (o₁ s)) (o₃ (o₂ (o₁ s))) cancellationRequestId
      completedBy now stored job →
    Cancellable job ∧ job.cancellation.isSome ∧ lastTime job ≤ now ∧
      StillCurrent (o₄ ⟨(o₃ (o₂ (o₁ s))).jobs, (o₃ (o₂ (o₁ s))).cancellations.replace
        (completedRequest stored completedBy now)⟩) job

theorem request_atomic_iff (jobId requestedBy reason : String) (now : Datetime) (force : Bool)
    (cancellationId : String) :
    Atomic (request jobId requestedBy reason now force cancellationId) [o₁, o₂, o₃, o₄] s ↔
      RequestGoesThrough o₁ o₂ o₃ o₄ s jobId requestedBy reason now force cancellationId := by
  -- The rest of the program behind the checks and the first write
  have hrest : ∀ job, ∀ t : ApplicationRepositories casefold, now.isNaive = false →
      isBlank requestedBy = false → isBlank reason = false → isBlank cancellationId = false →
      (NeverRaises (do
          let cancellation ← newCancellation cancellationId now requestedBy reason force
          let updatedJob ← (cancellationRequestedJob job cancellation).modelValidate
          let _ ← ApplicationJobRepository.update updatedJob job.recordVersion.val
          return requestOf job cancellationId requestedBy reason now force) [o₄] t ↔
        Cancellable job ∧ job.finishedAt = none ∧ StillCurrent (o₄ t) job) := by
    intro job t haware hrequestedBy hreason hid
    obtain ⟨cancellation, hcancellation, _⟩ :=
      exists_newCancellation haware hrequestedBy hreason hid force
    rw [NeverRaises.lift_iff, ← and_assoc, ← cancellationRequestedJob_valid_iff cancellation]
    simp only [hcancellation, Except.ok.injEq, exists_eq_left']
    exact neverRaises_replaceJob_iff job (cancellationRequestedJob job cancellation) rfl rfl _
  unfold request
  constructor
  · intro h job haccepted
    have h := Atomic.check_iff.mp h (by simp [haccepted.aware])
    have h := Atomic.check_iff.mp h (by simp [haccepted.requestedBy_given])
    have h := Atomic.check_iff.mp h (by simp [haccepted.reason_given])
    have h := Atomic.require_iff.mp h job haccepted.stored
    have h := Atomic.check_iff.mp h (by simp [haccepted.nonterminal])
    have h := Atomic.findActive_iff.mp h
    have h := Atomic.check_iff.mp h (by simp [haccepted.inactive])
    have h := Atomic.check_iff.mp h (by simp [haccepted.transition])
    have h := Atomic.lift_iff.mp h cancellationId
      (raiseIf_bind_eq_ok.mpr ⟨by simp [haccepted.id_given], rfl⟩)
    have h := Atomic.lift_iff.mp h _ (requestValidate_eq_ok.mpr ⟨haccepted.valid, rfl⟩)
    have h := Atomic.createCancellation_iff.mp h haccepted.fresh
    exact (hrest job _ haccepted.aware haccepted.requestedBy_given haccepted.reason_given
      haccepted.id_given).mp h
  · intro h
    refine Atomic.check_iff.mpr fun haware => Atomic.check_iff.mpr fun hrequestedBy =>
      Atomic.check_iff.mpr fun hreason => Atomic.require_iff.mpr fun job hstored =>
      Atomic.check_iff.mpr fun hterminal => Atomic.findActive_iff.mpr <|
      Atomic.check_iff.mpr fun hactive => Atomic.check_iff.mpr fun htransition =>
      Atomic.lift_iff.mpr fun id hid => Atomic.lift_iff.mpr fun record hrecord =>
      Atomic.createCancellation_iff.mpr fun hfresh => ?_
    obtain ⟨hblank, hid⟩ := raiseIf_bind_eq_ok.mp hid
    obtain rfl := Except.ok.inj hid
    obtain ⟨hvalid, rfl⟩ := requestValidate_eq_ok.mp hrecord
    have haccepted : RequestAccepted (o₁ s) (o₂ (o₁ s)) (o₃ (o₂ (o₁ s))) jobId requestedBy reason
        now force cancellationId job :=
      ⟨by simpa using haware, by simpa using hrequestedBy, by simpa using hreason, hstored,
        by simpa using hterminal, by simpa using hactive, by simpa using htransition,
        by simpa using hblank, hvalid, hfresh⟩
    exact (hrest job _ haccepted.aware haccepted.requestedBy_given haccepted.reason_given
      haccepted.id_given).mpr (h job haccepted)

theorem complete_atomic_iff (cancellationRequestId completedBy : String) (now : Datetime) :
    Atomic (complete cancellationRequestId completedBy now) [o₁, o₂, o₃, o₄] s ↔
      CompletionGoesThrough o₁ o₂ o₃ o₄ s cancellationRequestId completedBy now := by
  have hrest : ∀ stored job, ∀ t : ApplicationRepositories casefold, now.isNaive = false →
      (NeverRaises (do
          let updatedJob ← (cancelledJob job now).modelValidate
          let _ ← ApplicationJobRepository.update updatedJob job.recordVersion.val
          return completedRequest stored completedBy now) [o₄] t ↔
        Cancellable job ∧ job.cancellation.isSome ∧ lastTime job ≤ now ∧
          StillCurrent (o₄ t) job) := by
    intro stored job t haware
    rw [neverRaises_replaceJob_iff job (cancelledJob job now) rfl rfl,
      cancelledJob_valid_iff haware, and_assoc, and_assoc]
  unfold complete
  constructor
  · intro h stored job haccepted
    have h := Atomic.check_iff.mp h (by simp [haccepted.aware])
    have h := Atomic.check_iff.mp h (by simp [haccepted.completedBy_given])
    have h := Atomic.requireCancellation_iff.mp h stored haccepted.request_stored
    have h := Atomic.check_iff.mp h (by simp [haccepted.nonterminal])
    have h := Atomic.require_iff.mp h job haccepted.job_stored
    have h := Atomic.check_iff.mp h (by simp [haccepted.requested])
    have h := Atomic.check_iff.mp h (by rw [haccepted.requested]; decide)
    have h := Atomic.lift_iff.mp h _ (requestValidate_eq_ok.mpr ⟨haccepted.valid, rfl⟩)
    obtain ⟨current, hcurrent, hversion⟩ := haccepted.current
    have h := (Atomic.updateCancellation_iff rfl).mp h
      ⟨current, hcurrent, congrArg Subtype.val hversion⟩
    exact (hrest stored job _ haccepted.aware).mp h
  · intro h
    refine Atomic.check_iff.mpr fun haware => Atomic.check_iff.mpr fun hcompletedBy =>
      Atomic.requireCancellation_iff.mpr fun stored hstored => Atomic.check_iff.mpr
      fun hterminal => Atomic.require_iff.mpr fun job hjob => Atomic.check_iff.mpr fun hstatus =>
      Atomic.check_iff.mpr fun _ => Atomic.lift_iff.mpr fun record hrecord => ?_
    obtain ⟨hvalid, rfl⟩ := requestValidate_eq_ok.mp hrecord
    refine (Atomic.updateCancellation_iff rfl).mpr fun hcurrent => ?_
    obtain ⟨current, hget, hversion⟩ := hcurrent
    have haccepted : CompleteAccepted (o₁ s) (o₂ (o₁ s)) (o₃ (o₂ (o₁ s))) cancellationRequestId
        completedBy now stored job :=
      ⟨by simpa using haware, by simpa using hcompletedBy, hstored, by simpa using hterminal, hjob,
        not_not.mp hstatus, hvalid, current, hget, Subtype.ext hversion⟩
    exact (hrest stored job _ haccepted.aware).mpr (h stored job haccepted)

end ApplicationCancellationService

end AgenticLab
