import AgenticLab.Verification.Application.CancellationAtomicity
import AgenticLab.Verification.Application.Interleavings
import AgenticLab.Verification.Application.ValidJobs

/-! # Jobs and their cancellation requests

Where every call goes through that reaches its first write, the two repositories agree in every
state of a run: a job waits for its cancellation as long as one request of it is not completed. -/

namespace AgenticLab

open ApplicationCancellationService ApplicationJobQueueService ApplicationJobRecord
open ApplicationJobStatus
open InMemoryApplicationJobRepository (mem_list)
open RepositoryOperation (handle)

variable {casefold : Casefold}

def IsActive (casefold : Casefold) (jobId : String)
    (request : ApplicationJobCancellationRequestRecord) : Bool :=
  normalizeId casefold request.jobId == normalizeId casefold jobId && !request.terminal

def activeCount (cancellations : InMemoryApplicationCancellationRepository casefold)
    (jobId : String) : ℕ := cancellations.records.countP (IsActive casefold jobId)

def Names (cancellations : InMemoryApplicationCancellationRepository casefold)
    (job : ApplicationJobRecord) (request : ApplicationJobCancellationRequestRecord) : Prop :=
  normalizeId casefold request.jobId = job.key casefold ∧
    ∃ cancellation, job.cancellation = some cancellation ∧
      cancellations.getById cancellation.cancellationId = some request

structure Paired (s : ApplicationRepositories casefold) : Prop where
  /-- A job waits for its cancellation if and only if exactly one request of it is active. -/
  requested : ∀ job ∈ s.jobs.records,
    job.status = .cancellationRequested ↔ activeCount s.cancellations job.jobId = 1
  /-- A waiting job names its request. -/
  named : ∀ job ∈ s.jobs.records, job.status = .cancellationRequested →
    ∃ request, Names s.cancellations job request ∧ request.terminal = false
  /-- The request of a cancelled job is completed. -/
  completed : ∀ job ∈ s.jobs.records, job.status = .cancelled →
    ∃ request, Names s.cancellations job request ∧ request.terminal = true
  /-- The job of an active request is stored. -/
  owned : ∀ request ∈ s.cancellations.records, request.terminal = false →
    (s.jobs.getById request.jobId).isSome

variable {s : ApplicationRepositories casefold} {jobId : String}

theorem isActive_iff {request : ApplicationJobCancellationRequestRecord} :
    IsActive casefold jobId request = true ↔
      normalizeId casefold request.jobId = normalizeId casefold jobId ∧
        request.terminal = false := by
  simp [IsActive]

theorem activeCount_of_key {jobId other : String}
    (h : normalizeId casefold jobId = normalizeId casefold other) :
    activeCount s.cancellations jobId = activeCount s.cancellations other := by
  unfold activeCount IsActive
  rw [h]

theorem activeCount_eq_zero_iff :
    activeCount s.cancellations jobId = 0 ↔
      (InMemoryApplicationCancellationRepository.findByJobId s.cancellations jobId).find?
        (fun request => !request.terminal) = none := by
  unfold activeCount InMemoryApplicationCancellationRepository.findByJobId
  rw [List.countP_eq_zero, List.find?_eq_none]
  simp [IsActive]

theorem activeCount_insert {request : ApplicationJobCancellationRequestRecord}
    (hnone : s.cancellations.get (request.key casefold) = none) (jobId : String) :
    activeCount (s.cancellations.insert request hnone) jobId =
      activeCount s.cancellations jobId + if IsActive casefold jobId request then 1 else 0 := by
  unfold activeCount KeyedStore.insert
  rw [List.countP_append, List.countP_singleton]

theorem eq_of_activeCount_eq_one {first second : ApplicationJobCancellationRequestRecord}
    (hcount : activeCount s.cancellations jobId = 1) (hfirst : first ∈ s.cancellations.records)
    (hactive : IsActive casefold jobId first = true) (hsecond : second ∈ s.cancellations.records)
    (hactive' : IsActive casefold jobId second = true) : first = second := by
  rw [activeCount, List.countP_eq_length_filter, List.length_eq_one_iff] at hcount
  obtain ⟨only, hfilter⟩ := hcount
  have honly : ∀ request ∈ s.cancellations.records, IsActive casefold jobId request = true →
      request = only := by
    intro request hrequest hactive
    have hmem := List.mem_filter.mpr ⟨hrequest, hactive⟩
    rw [hfilter] at hmem
    exact List.mem_singleton.mp hmem
  rw [honly first hfirst hactive, honly second hsecond hactive']

/-! ## What keeps the pairing -/

namespace Paired

def Untouched (stored copy : ApplicationJobRecord) : Prop :=
  copy.jobId = stored.jobId ∧ copy.cancellation = stored.cancellation ∧
    (copy.status = stored.status ∨
      stored.status ∉ cancellationStatuses ∧ copy.status ∉ cancellationStatuses)

theorem Untouched.status_iff {stored copy : ApplicationJobRecord} (h : Untouched stored copy)
    {status : ApplicationJobStatus} (hstatus : status ∈ cancellationStatuses) :
    copy.status = status ↔ stored.status = status := by
  rcases h.2.2 with heq | ⟨hstored, hcopy⟩
  · rw [heq]
  · exact iff_of_false (fun h => hcopy (h ▸ hstatus)) fun h => hstored (h ▸ hstatus)

theorem replaceJob (h : Paired s) {stored : ApplicationJobRecord} (copy : ApplicationJobRecord)
    (hget : s.jobs.get (stored.key casefold) = some stored) (huntouched : Untouched stored copy) :
    Paired ⟨s.jobs.replace copy, s.cancellations⟩ := by
  have hkey : copy.key casefold = stored.key casefold :=
    congrArg (normalizeId casefold) huntouched.1
  have hne : s.jobs.get (copy.key casefold) ≠ none := by
    rw [hkey, hget]
    exact Option.some_ne_none stored
  have hstored : stored ∈ s.jobs.records := (KeyedStore.get_eq_some.mp hget).1
  have hnames : ∀ request, Names s.cancellations stored request →
      Names s.cancellations copy request := by
    rintro request ⟨hjob, cancellation, hcancellation, hrequest⟩
    exact ⟨hjob.trans hkey.symm, cancellation, huntouched.2.1.trans hcancellation, hrequest⟩
  constructor
  · intro job hjob
    rcases (KeyedStore.mem_replace_iff hne).mp hjob with rfl | ⟨hjob, _⟩
    · rw [huntouched.status_iff (by decide), h.requested stored hstored,
        activeCount_of_key hkey.symm]
    · exact h.requested job hjob
  · intro job hjob hstatus
    rcases (KeyedStore.mem_replace_iff hne).mp hjob with rfl | ⟨hjob, _⟩
    · rw [huntouched.status_iff (by decide)] at hstatus
      obtain ⟨request, hrequest, hactive⟩ := h.named stored hstored hstatus
      exact ⟨request, hnames request hrequest, hactive⟩
    · exact h.named job hjob hstatus
  · intro job hjob hstatus
    rcases (KeyedStore.mem_replace_iff hne).mp hjob with rfl | ⟨hjob, _⟩
    · rw [huntouched.status_iff (by decide)] at hstatus
      obtain ⟨request, hrequest, hterminal⟩ := h.completed stored hstored hstatus
      exact ⟨request, hnames request hrequest, hterminal⟩
    · exact h.completed job hjob hstatus
  · intro request hrequest hactive
    exact KeyedStore.isSome_get_replace hne (h.owned request hrequest hactive)

theorem insertJob (h : Paired s) {job : ApplicationJobRecord}
    (hnone : s.jobs.get (job.key casefold) = none) (hstatus : job.status ∉ cancellationStatuses) :
    Paired ⟨s.jobs.insert job hnone, s.cancellations⟩ := by
  have hnew : ∀ status ∈ cancellationStatuses, job.status ≠ status :=
    fun status hmem heq => hstatus (heq ▸ hmem)
  constructor
  · intro other hother
    rcases (KeyedStore.mem_insert (h := hnone)).mp hother with hother | rfl
    · exact h.requested other hother
    · refine iff_of_false (hnew _ (by decide)) fun hcount => ?_
      obtain ⟨request, hrequest, hactive⟩ :=
        List.countP_pos_iff.mp (Nat.lt_of_lt_of_eq Nat.one_pos hcount.symm)
      obtain ⟨hid, hterminal⟩ := isActive_iff.mp hactive
      have howner := h.owned request hrequest hterminal
      rw [InMemoryApplicationJobRepository.getById, hid,
        show s.jobs.get (normalizeId casefold other.jobId) = none from hnone] at howner
      cases howner
  · intro other hother hother'
    rcases (KeyedStore.mem_insert (h := hnone)).mp hother with hother | rfl
    · exact h.named other hother hother'
    · exact absurd hother' (hnew _ (by decide))
  · intro other hother hother'
    rcases (KeyedStore.mem_insert (h := hnone)).mp hother with hother | rfl
    · exact h.completed other hother hother'
    · exact absurd hother' (hnew _ (by decide))
  · intro request hrequest hactive
    exact KeyedStore.isSome_get_insert hnone (h.owned request hrequest hactive)

end Paired

namespace Names

variable {job : ApplicationJobRecord}
  {request stored copy : ApplicationJobCancellationRequestRecord}

theorem insert (h : Names s.cancellations job request)
    (hnone : s.cancellations.get (copy.key casefold) = none) :
    Names (s.cancellations.insert copy hnone) job request := by
  obtain ⟨hjob, cancellation, hcancellation, hget⟩ := h
  refine ⟨hjob, cancellation, hcancellation, ?_⟩
  rw [InMemoryApplicationCancellationRepository.getById, KeyedStore.get_insert hnone]
  split_ifs with hkey
  · rw [InMemoryApplicationCancellationRepository.getById, hkey, hnone] at hget
    cases hget
  · exact hget

theorem replace_of_ne (h : Names s.cancellations job request)
    (hget : s.cancellations.get (copy.key casefold) = some stored) (hne : request ≠ stored) :
    Names (s.cancellations.replace copy) job request := by
  obtain ⟨hjob, cancellation, hcancellation, hrequest⟩ := h
  refine ⟨hjob, cancellation, hcancellation, ?_⟩
  rw [InMemoryApplicationCancellationRepository.getById,
    KeyedStore.get_replace (hget ▸ Option.some_ne_none stored)]
  split_ifs with hkey
  · rw [InMemoryApplicationCancellationRepository.getById, hkey, hget] at hrequest
    exact absurd (Option.some.inj hrequest).symm hne
  · exact hrequest

theorem replace (h : Names s.cancellations job stored)
    (hget : s.cancellations.get (copy.key casefold) = some stored)
    (hjobId : copy.jobId = stored.jobId) : Names (s.cancellations.replace copy) job copy := by
  obtain ⟨hjob, cancellation, hcancellation, hstored⟩ := h
  refine ⟨hjobId ▸ hjob, cancellation, hcancellation, ?_⟩
  have hkey : normalizeId casefold cancellation.cancellationId = copy.key casefold :=
    (KeyedStore.key_of_get hstored).symm.trans (KeyedStore.key_of_get hget)
  rw [InMemoryApplicationCancellationRepository.getById,
    KeyedStore.get_replace (hget ▸ Option.some_ne_none stored), if_pos hkey]

end Names

namespace Paired

variable {job : ApplicationJobRecord} {stored : ApplicationJobCancellationRequestRecord}

theorem acknowledge (h : Paired s) (hget : s.cancellations.get (stored.key casefold) = some stored)
    (hactive : stored.terminal = false) (acknowledgedBy : String) (now : Datetime) :
    Paired ⟨s.jobs, s.cancellations.replace (acknowledgedRequest stored acknowledgedBy now)⟩ := by
  have hreplace : s.cancellations.get
      ((acknowledgedRequest stored acknowledgedBy now).key casefold) = some stored := hget
  have hnamed : ∀ other request, Names s.cancellations other request → ∃ copy,
      Names (s.cancellations.replace (acknowledgedRequest stored acknowledgedBy now)) other copy ∧
        copy.terminal = request.terminal := by
    intro other request hnames
    by_cases heq : request = stored
    · subst heq
      exact ⟨_, hnames.replace hreplace rfl, hactive.symm⟩
    · exact ⟨request, hnames.replace_of_ne hreplace heq, rfl⟩
  constructor
  · intro other hother
    rw [h.requested other hother]
    have hcount := KeyedStore.countP_replace (IsActive casefold other.jobId) hreplace
    have hsame : IsActive casefold other.jobId (acknowledgedRequest stored acknowledgedBy now) =
        IsActive casefold other.jobId stored := by
      unfold IsActive
      rw [hactive]
      rfl
    rw [hsame, Nat.add_right_cancel_iff] at hcount
    unfold activeCount
    rw [hcount]
  · intro other hother hstatus
    obtain ⟨request, hnames, hterminal⟩ := h.named other hother hstatus
    obtain ⟨copy, hcopy, hsame⟩ := hnamed other request hnames
    exact ⟨copy, hcopy, hsame.trans hterminal⟩
  · intro other hother hstatus
    obtain ⟨request, hnames, hterminal⟩ := h.completed other hother hstatus
    obtain ⟨copy, hcopy, hsame⟩ := hnamed other request hnames
    exact ⟨copy, hcopy, hsame.trans hterminal⟩
  · intro request hrequest hterminal
    rcases KeyedStore.mem_replace hrequest with hold | rfl
    · exact h.owned request hold hterminal
    · exact h.owned stored (KeyedStore.get_eq_some.mp hget).1 hactive

variable {now : Datetime}

theorem request (h : Paired s) {requestedBy reason cancellationId : String}
    {force : Bool} {cancellation : ApplicationJobCancellation}
    (hget : s.jobs.get (job.key casefold) = some job)
    (hinactive : activeCount s.cancellations job.jobId = 0)
    (hid : cancellation.cancellationId = cancellationId)
    (hnone : s.cancellations.get (normalizeId casefold cancellationId) = none) :
    Paired ⟨s.jobs.replace (cancellationRequestedJob job cancellation),
      s.cancellations.insert (requestOf job cancellationId requestedBy reason now force) hnone⟩ := by
  let request := requestOf job cancellationId requestedBy reason now force
  have hne : s.jobs.get ((cancellationRequestedJob job cancellation).key casefold) ≠ none :=
    hget ▸ Option.some_ne_none job
  have hnone' : s.cancellations.get (request.key casefold) = none := hnone
  have hnames : Names (s.cancellations.insert request hnone)
      (cancellationRequestedJob job cancellation) request := by
    refine ⟨rfl, cancellation, rfl, ?_⟩
    rw [InMemoryApplicationCancellationRepository.getById, KeyedStore.get_insert hnone', hid]
    exact if_pos rfl
  constructor
  · intro other hother
    change _ ↔ activeCount (s.cancellations.insert request hnone) other.jobId = 1
    rw [activeCount_insert hnone']
    rcases (KeyedStore.mem_replace_iff hne).mp hother with rfl | ⟨hother, hkey⟩
    · have hactive : IsActive casefold (cancellationRequestedJob job cancellation).jobId request =
          true := isActive_iff.mpr ⟨rfl, rfl⟩
      rw [if_pos hactive, show activeCount s.cancellations
        (cancellationRequestedJob job cancellation).jobId = 0 from hinactive]
      exact iff_of_true rfl rfl
    · have hother' : ¬IsActive casefold other.jobId request = true := by
        intro hactive
        exact hkey (isActive_iff.mp hactive).1.symm
      rw [if_neg hother', Nat.add_zero]
      exact h.requested other hother
  · intro other hother hstatus
    rcases (KeyedStore.mem_replace_iff hne).mp hother with rfl | ⟨hother, _⟩
    · exact ⟨request, hnames, rfl⟩
    · obtain ⟨named, hnamed, hactive⟩ := h.named other hother hstatus
      exact ⟨named, hnamed.insert hnone', hactive⟩
  · intro other hother hstatus
    rcases (KeyedStore.mem_replace_iff hne).mp hother with rfl | ⟨hother, _⟩
    · cases hstatus
    · obtain ⟨named, hnamed, hterminal⟩ := h.completed other hother hstatus
      exact ⟨named, hnamed.insert hnone', hterminal⟩
  · intro other hother hactive
    apply KeyedStore.isSome_get_replace hne
    rcases (KeyedStore.mem_insert (h := hnone')).mp hother with hother | rfl
    · exact h.owned other hother hactive
    · exact Option.isSome_iff_exists.mpr ⟨job, hget⟩

theorem complete (h : Paired s) {completedBy : String}
    (hget : s.cancellations.get (stored.key casefold) = some stored)
    (hactive : stored.terminal = false) (hjob : s.jobs.getById stored.jobId = some job)
    (hstatus : job.status = .cancellationRequested) :
    Paired ⟨s.jobs.replace (cancelledJob job now),
      s.cancellations.replace (completedRequest stored completedBy now)⟩ := by
  obtain ⟨hmem, hkey⟩ := KeyedStore.get_eq_some.mp hjob
  have hreplace : s.cancellations.get ((completedRequest stored completedBy now).key casefold) =
      some stored := hget
  have hne : s.jobs.get ((cancelledJob job now).key casefold) ≠ none := by
    rw [show s.jobs.get ((cancelledJob job now).key casefold) = some job from
      KeyedStore.get_of_mem hmem]
    exact Option.some_ne_none job
  have hstored : stored ∈ s.cancellations.records := (KeyedStore.get_eq_some.mp hget).1
  have hisActive : IsActive casefold job.jobId stored = true := isActive_iff.mpr ⟨hkey.symm, hactive⟩
  -- The request that the job names is the one being completed.
  have hnames : Names s.cancellations job stored := by
    obtain ⟨request, hrequest, hterminal⟩ := h.named job hmem hstatus
    have hrequest' : request ∈ s.cancellations.records := by
      obtain ⟨_, _, _, hrequest⟩ := hrequest
      exact (KeyedStore.get_eq_some.mp hrequest).1
    rwa [eq_of_activeCount_eq_one ((h.requested job hmem).mp hstatus) hstored hisActive hrequest'
      (isActive_iff.mpr ⟨hrequest.1, hterminal⟩)]
  have hcount : ∀ other, activeCount (s.cancellations.replace
      (completedRequest stored completedBy now)) other +
        (if IsActive casefold other stored then 1 else 0) = activeCount s.cancellations other := by
    intro other
    have hcount := KeyedStore.countP_replace (IsActive casefold other) hreplace
    rwa [if_neg (show ¬IsActive casefold other (completedRequest stored completedBy now) = true
      from fun hactive => nomatch (isActive_iff.mp hactive).2), Nat.add_zero] at hcount
  constructor
  · intro other hother
    change _ ↔ activeCount (s.cancellations.replace _) other.jobId = 1
    have hcount := hcount other.jobId
    rcases (KeyedStore.mem_replace_iff hne).mp hother with rfl | ⟨hother, hkey'⟩
    · refine iff_of_false nofun fun hone => ?_
      have hold : activeCount s.cancellations (cancelledJob job now).jobId = 1 :=
        (h.requested job hmem).mp hstatus
      rw [if_pos (show IsActive casefold (cancelledJob job now).jobId stored = true from
        hisActive)] at hcount
      omega
    · have hother' : ¬IsActive casefold other.jobId stored = true := by
        intro hactive
        exact hkey' ((isActive_iff.mp hactive).1.symm.trans hkey.symm)
      rw [if_neg hother', Nat.add_zero] at hcount
      rw [hcount]
      exact h.requested other hother
  · intro other hother hother'
    rcases (KeyedStore.mem_replace_iff hne).mp hother with rfl | ⟨hother, hkey'⟩
    · cases hother'
    · obtain ⟨request, hrequest, hterminal⟩ := h.named other hother hother'
      refine ⟨request, hrequest.replace_of_ne hreplace ?_, hterminal⟩
      rintro rfl
      exact hkey' (hrequest.1.symm.trans hkey.symm)
  · intro other hother hother'
    rcases (KeyedStore.mem_replace_iff hne).mp hother with rfl | ⟨hother, _⟩
    · have hnames' : Names s.cancellations (cancelledJob job now) stored := hnames
      exact ⟨_, hnames'.replace hreplace rfl, rfl⟩
    · obtain ⟨request, hrequest, hterminal⟩ := h.completed other hother hother'
      refine ⟨request, hrequest.replace_of_ne hreplace ?_, hterminal⟩
      rintro rfl
      rw [hactive] at hterminal
      cases hterminal
  · intro request hrequest hactive'
    apply KeyedStore.isSome_get_replace hne
    rcases KeyedStore.mem_replace hrequest with hold | rfl
    · exact h.owned request hold hactive'
    · cases hactive'

end Paired

theorem untouched_of_status {stored copy : ApplicationJobRecord} (hid : copy.jobId = stored.jobId)
    (hcancellation : copy.cancellation = stored.cancellation)
    (hstored : stored.status ∉ cancellationStatuses) (hcopy : copy.status ∉ cancellationStatuses) :
    Paired.Untouched stored copy := ⟨hid, hcancellation, .inr ⟨hstored, hcopy⟩⟩

theorem enqueue_keeps_paired (h : Paired s) (jobId : String) (now : Datetime) :
    Paired ((enqueue jobId now).run handle s).2 := by
  apply (enqueue_does jobId now).keeps Paired h
  rintro _ ⟨stored, hget, _, havailable, rfl⟩
  have hstatus := (mem_queueableStatuses havailable).1
  have hstored : stored.status ∉ cancellationStatuses := by
    revert hstatus
    cases stored.status <;> decide
  apply h.replaceJob (enqueuedJob stored now) (get_key_of_getById hget)
  exact untouched_of_status rfl rfl hstored (by decide : queued ∉ cancellationStatuses)

variable {records : List ApplicationJobRecord} {now : Datetime}

theorem enqueueAll_keeps_paired :
    ∀ {s : ApplicationRepositories casefold}, Paired s →
      Paired ((enqueueAll now records).run handle s).2 := by
  induction records with
  | nil => exact fun h => h
  | cons record rest ih =>
    intro s h
    have hfirst := enqueue_keeps_paired h record.jobId now
    rw [enqueueAll]
    apply Program.run_bind_keeps handle hfirst
    intro queued t hrun
    rw [hrun] at hfirst
    apply Program.run_bind_keeps handle (ih hfirst)
    intro others u hothers
    have hlast := ih hfirst
    rw [hothers] at hlast
    exact hlast

/-- Jobs that were listed may be put back one after another: each is still the one listed when its
turn comes, or its update raises. -/
theorem recoverAll_keeps_paired (hleased : ∀ job ∈ records, job.status = .leased) :
    ∀ {s : ApplicationRepositories casefold}, Paired s →
      (∀ job ∈ records, s.jobs.IsCopy jobVersion job) →
        Paired ((recoverAll now records).run handle s).2 := by
  induction records with
  | nil => exact fun h _ => h
  | cons stored rest ih =>
    intro s h hcopies
    have hrest : ∀ {t : ApplicationRepositories casefold}, Paired t →
        (∀ job ∈ rest, t.jobs.IsCopy jobVersion job) →
          Paired ((recoverAll now rest).run handle t).2 :=
      ih fun job hjob => hleased job (List.mem_cons_of_mem _ hjob)
    have hcopies' : ∀ job ∈ rest, s.jobs.IsCopy jobVersion job :=
      fun job hjob => hcopies job (List.mem_cons_of_mem _ hjob)
    have hstatus := hleased stored List.mem_cons_self
    rw [recoverAll]
    split_ifs
    · exact hrest h hcopies'
    apply Program.run_bind_keeps handle h
    intro _ t hcheck
    obtain rfl : s = t := congrArg Prod.snd hcheck
    have hupdate : Paired ((ApplicationJobRepository.update (requeuedJob stored)
        stored.recordVersion.val).run handle s).2 ∧
          ∀ job ∈ rest, ((ApplicationJobRepository.update (requeuedJob stored)
            stored.recordVersion.val).run handle s).2.jobs.IsCopy jobVersion job := by
      rw [ApplicationJobRepository.run_update]
      rcases InMemoryApplicationJobRepository.update_cases s.jobs (requeuedJob stored)
        stored.recordVersion.val with ⟨current, hget, hversion, hnext, hupdate⟩ | ⟨_, hupdate⟩
      · rw [hupdate]
        have hcurrent : current = stored :=
          (hcopies stored List.mem_cons_self).eq hget hversion
        subst hcurrent
        constructor
        · have hget' : s.jobs.get (current.key casefold) = some current := hget
          apply h.replaceJob (requeuedJob current) hget'
          exact untouched_of_status rfl rfl (by rw [hstatus]; decide)
            (by decide : queued ∉ cancellationStatuses)
        · intro job hjob
          exact (hcopies' job hjob).replace hget (Nat.lt_succ_self current.recordVersion.val)
      · rw [hupdate]
        exact ⟨h, hcopies'⟩
    apply Program.run_bind_keeps handle hupdate.1
    intro recovered t hrecovered
    rw [hrecovered] at hupdate
    have hlast := hrest hupdate.1 hupdate.2
    apply Program.run_bind_keeps handle hlast
    intro others u hothers
    rw [hothers] at hlast
    exact hlast

theorem recoverExpiredLeases_keeps_paired (h : Paired s) (now : Datetime)
    (queueName : Option String) (limit : ℕ) :
    Paired ((recoverExpiredLeases casefold now queueName limit).run handle s).2 := by
  have hdoes : RefusesOr (recoverExpiredLeases casefold now queueName limit) s
      fun outcome => Paired outcome.2 := by
    apply RefusesOr.check
    intro _
    apply RefusesOr.check
    intro _
    apply RefusesOr.list
    refine .inr (recoverAll_keeps_paired ?_ h ?_)
    · intro job hjob
      exact status_of_leasedJobsQuery (mem_list (List.mem_of_mem_take hjob)).2
    · intro job hjob
      exact KeyedStore.isCopy_of_mem (mem_list (List.mem_of_mem_take hjob)).1
  exact hdoes.keeps Paired h fun _ hpaired => hpaired

theorem enqueueDueJobs_keeps_paired (h : Paired s) (now : Datetime) (queueName : Option String)
    (limit : ℕ) : Paired ((enqueueDueJobs casefold now queueName limit).run handle s).2 := by
  have hdoes : RefusesOr (enqueueDueJobs casefold now queueName limit) s
      fun outcome => Paired outcome.2 := by
    apply RefusesOr.check
    intro _
    apply RefusesOr.check
    intro _
    apply RefusesOr.check
    intro _
    apply RefusesOr.list
    exact .inr (enqueueAll_keeps_paired h)
  exact hdoes.keeps Paired h fun _ hpaired => hpaired

/-! ## Runs -/

/-- What happens to the repositories: the services, and jobs that are submitted. -/
inductive StoreAction where
  | serve (call : ServiceCall)
  | createJob (record : ApplicationJobRecord)

def StoreAction.step (s : ApplicationRepositories casefold) :
    StoreAction → ApplicationRepositories casefold
  | serve call => ServiceCall.step s call
  | createJob record => ((ApplicationJobRepository.create record).run handle s).2

/-- Requests and completions go through where they are accepted, and nobody submits a job that is
being cancelled. -/
def StoreAction.GoesThrough (s : ApplicationRepositories casefold) : StoreAction → Prop
  | serve (.request jobId requestedBy reason now force cancellationId) =>
    RequestGoesThrough id id id id s jobId requestedBy reason now force cancellationId
  | serve (.complete cancellationRequestId completedBy now) =>
    CompletionGoesThrough id id id id s cancellationRequestId completedBy now
  | serve _ => True
  | createJob record => record.status ∉ cancellationStatuses

theorem step_keeps_paired (h : Paired s) {action : StoreAction} (hthrough : action.GoesThrough s) :
    Paired (StoreAction.step s action) := by
  have hdrop : ∀ {β : Type} {p : ServiceProgram β}, Paired (p.run handle s).2 →
      Paired ((p >>= fun _ => pure () : ServiceProgram Unit).run handle s).2 := by
    intro β p hp
    apply Program.run_bind_keeps handle hp
    intro _ t hrun
    rw [hrun] at hp
    exact hp
  cases action with
  | createJob record =>
    change Paired ((ApplicationJobRepository.create record).run handle s).2
    rw [ApplicationJobRepository.run_create]
    rcases Option.eq_none_or_eq_some (s.jobs.get (record.key casefold)) with
      hnone | ⟨stored, hget⟩
    · rw [InMemoryApplicationJobRepository.create_of_none hnone]
      exact h.insertJob hnone hthrough
    · rw [InMemoryApplicationJobRepository.create_of_some hget]
      exact h
  | serve call =>
    cases call with
    | enqueue jobId now => exact hdrop (enqueue_keeps_paired h jobId now)
    | enqueueDueJobs now queueName limit =>
      exact hdrop (enqueueDueJobs_keeps_paired h now queueName limit)
    | acquire queueName workerId now leaseDurationSeconds leaseId =>
      apply hdrop
      apply (acquire_does queueName workerId now leaseDurationSeconds leaseId).keeps Paired h
      rintro _ (rfl | ⟨stored, lease, hget, hstatus, rfl⟩)
      · exact h
      · apply h.replaceJob (leasedJob stored lease) hget
        exact untouched_of_status rfl rfl (by rw [hstatus]; decide)
          (by decide : leased ∉ cancellationStatuses)
    | start jobId workerId now =>
      apply hdrop
      apply (start_does jobId workerId now).keeps Paired h
      rintro _ ⟨stored, lease, hget, _, _, hstatus, rfl⟩
      apply h.replaceJob (startedJob stored now) (get_key_of_getById hget)
      exact untouched_of_status rfl rfl (by rw [hstatus]; decide)
        (by decide : running ∉ cancellationStatuses)
    | release jobId workerId now =>
      apply hdrop
      apply (release_does jobId workerId now).keeps Paired h
      rintro _ ⟨stored, lease, hget, _, hstatus, rfl⟩
      apply h.replaceJob (requeuedJob stored) (get_key_of_getById hget)
      exact untouched_of_status rfl rfl (by rw [hstatus]; decide)
        (by decide : queued ∉ cancellationStatuses)
    | renewLease jobId workerId now leaseDurationSeconds =>
      apply hdrop
      apply (renewLease_does jobId workerId now leaseDurationSeconds).keeps Paired h
      rintro _ ⟨stored, lease, renewed, hget, _, rfl⟩
      apply h.replaceJob (renewedJob stored renewed) (get_key_of_getById hget)
      exact ⟨rfl, rfl, .inl rfl⟩
    | recoverExpiredLeases now queueName limit =>
      exact hdrop (recoverExpiredLeases_keeps_paired h now queueName limit)
    | schedule sourceJobId attemptNumber now evaluated jobId schedulingId =>
      apply hdrop
      apply (ApplicationRetrySchedulingService.schedule_does sourceJobId attemptNumber now
        evaluated jobId schedulingId).keeps Paired h
      rintro outcome (hsame | ⟨job, hnone, _, hstatus, hstore⟩)
      · rw [hsame]
        exact h
      · rw [hstore]
        apply h.insertJob hnone
        revert hstatus
        cases job.status <;> decide
    | request jobId requestedBy reason now force cancellationId =>
      apply hdrop
      apply (request_does jobId requestedBy reason now force cancellationId).keeps Paired h
      rintro outcome ⟨job, cancellation, hnone, haccepted, hid, houtcome⟩
      obtain ⟨hcancellable, hunfinished, _⟩ := hthrough job haccepted
      rw [if_pos (validateRecord_eq_ok.mpr
        ((cancellationRequestedJob_valid_iff cancellation).mpr
          ⟨hcancellable, hunfinished⟩))] at houtcome
      rw [houtcome]
      exact h.request (get_key_of_getById haccepted.stored)
        (activeCount_eq_zero_iff.mpr haccepted.inactive) hid hnone
    | acknowledge cancellationRequestId acknowledgedBy now =>
      apply hdrop
      apply (acknowledge_does cancellationRequestId acknowledgedBy now).keeps Paired h
      rintro outcome ⟨stored, hget, hstatus, hstore⟩
      rw [hstore]
      apply h.acknowledge (get_requestKey_of_getById hget)
      rw [ApplicationJobCancellationRequestRecord.terminal, hstatus]
      rfl
    | complete cancellationRequestId completedBy now =>
      apply hdrop
      apply (complete_does cancellationRequestId completedBy now).keeps Paired h
      rintro outcome ⟨stored, job, haccepted, houtcome⟩
      obtain ⟨hcancellable, hcancellation, hlast, _⟩ := hthrough stored job haccepted
      rw [if_pos (validateRecord_eq_ok.mpr ((cancelledJob_valid_iff haccepted.aware).mpr
        ⟨hcancellable, hcancellation, hlast⟩))] at houtcome
      rw [houtcome]
      exact h.complete (get_requestKey_of_getById haccepted.request_stored)
        haccepted.nonterminal haccepted.job_stored haccepted.requested

/-- A call is atomic if and only if it goes through where it is accepted, and the repositories stay
paired in every run of calls that go through. -/
theorem cancellation_atomic_iff :
    (∀ (s : ApplicationRepositories casefold)
        (o₁ o₂ o₃ o₄ : ApplicationRepositories casefold → ApplicationRepositories casefold)
        (jobId requestedBy reason : String) (now : Datetime) (force : Bool)
        (cancellationId : String),
      Atomic (request jobId requestedBy reason now force cancellationId) [o₁, o₂, o₃, o₄] s ↔
        RequestGoesThrough o₁ o₂ o₃ o₄ s jobId requestedBy reason now force cancellationId) ∧
    (∀ (s : ApplicationRepositories casefold)
        (o₁ o₂ o₃ o₄ : ApplicationRepositories casefold → ApplicationRepositories casefold)
        (cancellationRequestId completedBy : String) (now : Datetime),
      Atomic (complete cancellationRequestId completedBy now) [o₁, o₂, o₃, o₄] s ↔
        CompletionGoesThrough o₁ o₂ o₃ o₄ s cancellationRequestId completedBy now) ∧
    ∀ start s : ApplicationRepositories casefold, Paired start →
      Runs.Reachable StoreAction.step (fun s action => action.GoesThrough s) start s → Paired s :=
  ⟨fun _ _ _ _ _ => request_atomic_iff, fun _ _ _ _ _ => complete_atomic_iff,
    fun _ _ hpaired h => h.invariant Paired hpaired fun _ _ hs ha => step_keeps_paired hs ha⟩

theorem paired_storesOf {jobs : List ApplicationJobRecord}
    (h : (jobs.map (ApplicationJobRecord.key asciiCasefold)).Nodup)
    (hstatus : ∀ job ∈ jobs, job.status ∉ cancellationStatuses) : Paired (storesOf jobs h) := by
  have hne : ∀ job ∈ jobs, ∀ status ∈ cancellationStatuses, job.status ≠ status :=
    fun job hjob status hmem heq => hstatus job hjob (heq ▸ hmem)
  have hnone : ∀ jobId, activeCount (storesOf jobs h).cancellations jobId ≠ 1 := by
    intro jobId
    have hzero : activeCount (storesOf jobs h).cancellations jobId = 0 := List.countP_nil
    rw [hzero]
    exact Nat.zero_ne_one
  constructor
  · exact fun job hjob => iff_of_false (hne job hjob _ (by decide)) (hnone job.jobId)
  · exact fun job hjob heq => absurd heq (hne job hjob _ (by decide))
  · exact fun job hjob heq => absurd heq (hne job hjob _ (by decide))
  · intro request hrequest
    have hmem : request ∈ ([] : List ApplicationJobCancellationRequestRecord) := hrequest
    cases hmem

theorem cancellation_atomic_sample :
    Paired (StoreAction.step (storesOf [sampleJob] (List.nodup_singleton _))
      (.serve (.request "job-001" "user-001" "No longer needed." sampleTime false
        "cancellation-001"))) := by
  have hpaired : Paired (storesOf [sampleJob] (List.nodup_singleton _)) := by
    apply paired_storesOf
    intro job hjob
    rw [List.mem_singleton.mp hjob]
    decide
  have hget : (storesOf [sampleJob] (List.nodup_singleton _)).jobs.getById "job-001" =
      some sampleJob := getById_storesOf rfl
  refine cancellation_atomic_iff.2.2 _ _ hpaired (.step .start ?_)
  intro job haccepted
  obtain rfl := Option.some.inj (hget.symm.trans haccepted.stored)
  obtain ⟨hcancellable, hunfinished⟩ := (cancellable_iff_of_valid
    (validateRecord_eq_ok.mp sampleJob_valid) haccepted.nonterminal).mpr (by decide)
  exact ⟨hcancellable, hunfinished, sampleJob, get_key_of_getById hget, rfl⟩

def requestForRetryJob :
    Except Raised ApplicationJobCancellationRequestRecord × ApplicationRepositories asciiCasefold :=
  (request "job-001" "user-001" "No longer needed." sampleTime false "cancellation-001").run handle
    (storesOf [sampleRetryJob] (List.nodup_singleton _))

/-- The request raises, and an active request is left behind. -/
theorem request_leaves_active_request :
    ¬∀ (s : ApplicationRepositories asciiCasefold) (jobId requestedBy reason : String)
      (now : Datetime) (force : Bool) (cancellationId : String) (failure : Raised),
      ((request jobId requestedBy reason now force cancellationId).run handle s).1 =
          .error failure →
        ((request jobId requestedBy reason now force cancellationId).run handle s).2 = s := by
  intro h
  have hraises : requestForRetryJob.1.isOk = false := by decide +kernel
  have hleft : requestForRetryJob.2.cancellations.records.length = 1 := by decide +kernel
  cases hrun : requestForRetryJob.1 with
  | ok persisted =>
    rw [hrun] at hraises
    cases hraises
  | error failure =>
    have hsame : requestForRetryJob.2 = storesOf [sampleRetryJob] (List.nodup_singleton _) :=
      h _ _ _ _ _ _ _ failure hrun
    rw [hsame] at hleft
    cases hleft

end AgenticLab
