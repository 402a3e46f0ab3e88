import AgenticLab.Model.Memory

/-! # Whose memories duplicate handling returns and changes -/

namespace AgenticLab

variable {α : Type}

/-- What two memories must agree on to be the same memory, besides their content. -/
structure MemoryOwner where
  kind : MemoryKind
  scope : MemoryScope
  source : MemorySource
  subjectId : Option String
  projectId : Option String
  sessionId : Option String
  deriving DecidableEq

def MemoryRecord.owner (memory : MemoryRecord α) : MemoryOwner :=
  ⟨memory.kind, memory.scope, memory.source, memory.subjectId, memory.projectId, memory.sessionId⟩

def MemoryCreate.owner (request : MemoryCreate α) : MemoryOwner :=
  ⟨request.kind, request.scope, request.source, request.subjectId, request.projectId,
    request.sessionId⟩

def MemoryCreate.NamesAll (request : MemoryCreate α) : Prop :=
  request.subjectId ≠ none ∧ request.projectId ≠ none ∧ request.sessionId ≠ none

instance (request : MemoryCreate α) : Decidable request.NamesAll :=
  inferInstanceAs (Decidable (_ ∧ _))

section

variable {casefold : Casefold}

/-- A call of `create` that ends with `outcome` keeps to the memories of `owner`. -/
structure KeepsTo (store : MemoryStore α casefold) (owner : MemoryOwner)
    (outcome : Except Raised (ValidMemory α casefold × MemoryStore α casefold)) : Prop where
  /-- An existing memory that it returns, as it was and as it is now. -/
  returned : ∀ memory next, outcome = .ok (memory, next) → ∀ existing ∈ store.records,
    existing.val.memoryId = memory.val.memoryId →
      existing.val.owner = owner ∧ memory.val.owner = owner
  /-- An existing memory that it changes. -/
  changed : ∀ memory next, outcome = .ok (memory, next) → ∀ existing ∈ store.records,
    existing ∉ next.records → existing.val.owner = owner

theorem newMemory_eq_ok {memory : MemoryRecord α} {valid : ValidMemory α casefold}
    (h : newMemory casefold memory = .ok valid) : valid.val = memory := by
  unfold newMemory at h
  split at h
  · cases h
    rfl
  · cases h

theorem validatedNow_eq_ok {clock now : Datetime}
    (h : MemoryService.validatedNow clock = .ok now) : now = clock := by
  obtain ⟨_, h⟩ := raiseIf_bind_eq_ok.mp h
  obtain ⟨_, h⟩ := raiseIf_bind_eq_ok.mp h
  cases h
  rfl

variable {store next : MemoryStore α casefold}

theorem add_eq_ok {memory added : ValidMemory α casefold}
    (h : InMemoryMemoryStore.add store memory = .ok (added, next)) :
    ∃ hfresh : store.get added.val.memoryId = none, next = store.insert added hfresh := by
  unfold InMemoryMemoryStore.add at h
  split at h
  · cases h
  · rename_i hfresh
    cases h
    exact ⟨hfresh, rfl⟩

variable {clock : Datetime} {memoryId : String} {memory : ValidMemory α casefold}

theorem service_create_eq_ok {request : MemoryCreate α}
    (h : MemoryService.create store request clock memoryId = .ok (memory, next)) :
    ∃ hfresh : store.get memory.val.memoryId = none, next = store.insert memory hfresh := by
  obtain ⟨_, _, h⟩ := bind_eq_ok.mp h
  obtain ⟨_, h⟩ := raiseIf_bind_eq_ok.mp h
  obtain ⟨_, h⟩ := raiseIf_bind_eq_ok.mp h
  obtain ⟨_, _, h⟩ := bind_eq_ok.mp h
  exact add_eq_ok h

variable {update : MemoryUpdate α}

theorem store_update_eq_ok
    (h : InMemoryMemoryStore.update store memoryId update clock = .ok (memory, next)) :
    ∃ current, store.get memoryId = some current ∧
      memory.val.memoryId = current.val.memoryId ∧ memory.val.owner = current.val.owner ∧
      next = store.replace memory := by
  obtain ⟨_, h⟩ := raiseIf_bind_eq_ok.mp h
  obtain ⟨_, _, h⟩ := bind_eq_ok.mp h
  cases hget : store.get memoryId with
  | none =>
    rw [hget] at h
    cases h
  | some current =>
    rw [hget] at h
    obtain ⟨validated, hvalidated, h⟩ := bind_eq_ok.mp h
    cases h
    have hval := newMemory_eq_ok hvalidated
    refine ⟨current, rfl, ?_, ?_, rfl⟩
    · rw [hval]
    · rw [hval]
      rfl

theorem service_update_eq_ok
    (h : MemoryService.update store memoryId update clock = .ok (memory, next)) :
    ∃ current, store.get memoryId = some current ∧
      memory.val.memoryId = current.val.memoryId ∧ memory.val.owner = current.val.owner ∧
      next = store.replace memory := by
  obtain ⟨_, _, h⟩ := bind_eq_ok.mp h
  obtain ⟨_, _, h⟩ := bind_eq_ok.mp h
  obtain ⟨_, h⟩ := raiseIf_bind_eq_ok.mp h
  exact store_update_eq_ok h

end

/-! ## Candidates -/

/-- A filter without an identifier lets every memory through. -/
def Admits (filter value : Option String) : Prop := filter = none ∨ value = filter

variable {memory : MemoryRecord α} {request : MemoryCreate α}

theorem matches_candidateQuery {now : Datetime} :
    InMemoryMemoryStore.«matches» memory (MemoryDeduplicator.candidateQuery request) now = true ↔
      (∀ expires ∈ memory.expiresAt, now < expires) ∧
      (memory.kind = request.kind ∧ memory.scope = request.scope ∧ memory.source = request.source) ∧
      Admits request.subjectId memory.subjectId ∧ Admits request.projectId memory.projectId ∧
      Admits request.sessionId memory.sessionId := by
  have hexpired : (memory.expiresAt.any fun expires => decide (expires ≤ now)) = false ↔
      ∀ expires ∈ memory.expiresAt, now < expires := by
    cases memory.expiresAt <;> simp
  rw [← hexpired]
  unfold InMemoryMemoryStore.«matches» MemoryDeduplicator.candidateQuery Admits
  simp only [Bool.not_false, Bool.true_and]
  split_ifs <;> simp_all
  tauto

theorem owner_of_admits {now : Datetime}
    (hall : request.NamesAll)
    (h : InMemoryMemoryStore.«matches» memory (MemoryDeduplicator.candidateQuery request) now = true) :
    memory.owner = request.owner := by
  obtain ⟨_, ⟨hkind, hscope, hsource⟩, hsubject, hproject, hsession⟩ := matches_candidateQuery.mp h
  simp only [MemoryRecord.owner, MemoryCreate.owner, MemoryOwner.mk.injEq]
  exact ⟨hkind, hscope, hsource, hsubject.resolve_left hall.1, hproject.resolve_left hall.2.1,
    hsession.resolve_left hall.2.2⟩

section

variable {casefold : Casefold} {unicode : UnicodeText} {store : MemoryStore α casefold}

theorem list_eq_ok {query : MemoryQuery} {now : Datetime}
    {candidates : List (ValidMemory α casefold)}
    (h : InMemoryMemoryStore.list store query now = .ok candidates) (memory : ValidMemory α casefold) :
    memory ∈ candidates ↔
      memory ∈ store.records ∧ InMemoryMemoryStore.«matches» memory.val query now = true := by
  obtain ⟨_, _, h⟩ := bind_eq_ok.mp h
  cases h
  rw [List.mem_insertionSort, List.mem_filter]

variable [DecidableEq α] {request : MemoryCreate α}

theorem evaluate_eq_ok {now : Datetime} {result : MemoryDeduplicationResult α casefold}
    (h : MemoryDeduplicator.evaluate unicode store request now = .ok result) :
    result = .create ∨ ∃ existing ∈ store.records,
      InMemoryMemoryStore.«matches» existing.val (MemoryDeduplicator.candidateQuery request) now =
        true ∧
      (result = .keepExisting existing ∨
        ∃ reasons, result = .updateExisting reasons existing) := by
  obtain ⟨candidates, hlist, h⟩ := bind_eq_ok.mp h
  split at h
  · cases h
    exact .inl rfl
  · rename_i existing hfound
    have hmem := (list_eq_ok hlist existing).mp (List.mem_of_find?_eq_some hfound)
    refine .inr ⟨existing, hmem.1, hmem.2, ?_⟩
    dsimp only at h
    split at h
    · cases h
      exact .inl rfl
    · cases h
      exact .inr ⟨_, rfl⟩

theorem create_eq_ok {service : DeduplicatingMemoryService}
    {store next : MemoryStore α service.unicode.casefold} {userApproved : Bool}
    {now later : Datetime} {memoryId : String} {memory : ValidMemory α service.unicode.casefold}
    (h : service.create store request userApproved now later memoryId = .ok (memory, next)) :
    (∃ hfresh : store.get memory.val.memoryId = none, next = store.insert memory hfresh) ∨
    ∃ existing ∈ store.records,
      InMemoryMemoryStore.«matches» existing.val (MemoryDeduplicator.candidateQuery request) now =
        true ∧
      memory.val.memoryId = existing.val.memoryId ∧ memory.val.owner = existing.val.owner ∧
      (next = store ∨ next = store.replace memory) := by
  obtain ⟨_, _, h⟩ := bind_eq_ok.mp h
  obtain ⟨validNow, hnow, h⟩ := bind_eq_ok.mp h
  obtain ⟨result, hresult, h⟩ := bind_eq_ok.mp h
  rw [validatedNow_eq_ok hnow] at hresult
  obtain rfl | ⟨existing, hmem, hmatches, rfl | ⟨reasons, rfl⟩⟩ := evaluate_eq_ok hresult
  · exact .inl (service_create_eq_ok h)
  · cases h
    exact .inr ⟨memory, hmem, hmatches, rfl, rfl, .inl rfl⟩
  · obtain ⟨_, _, h⟩ := bind_eq_ok.mp h
    obtain ⟨current, hget, hid, howner, hnext⟩ := service_update_eq_ok h
    rw [KeyedStore.get_of_mem hmem, Option.some.injEq] at hget
    subst hget
    exact .inr ⟨existing, hmem, hmatches, hid, howner, .inr hnext⟩

end

section

variable {casefold : Casefold}
  {store : MemoryStore α casefold} {memory other : ValidMemory α casefold}

theorem mem_insert_of_mem
    {h : store.get memory.val.memoryId = none} (hmem : other ∈ store.records) :
    other ∈ (store.insert memory h).records := KeyedStore.mem_insert.mpr (.inl hmem)

theorem mem_replace_of_ne
    (hmem : other ∈ store.records) (hne : other.val.memoryId ≠ memory.val.memoryId) :
    other ∈ (store.replace memory).records := List.mem_map.mpr ⟨other, hmem, if_neg hne⟩

theorem eq_of_memoryId (hmemory : memory ∈ store.records) (hother : other ∈ store.records)
    (h : memory.val.memoryId = other.val.memoryId) : memory = other :=
  List.inj_on_of_nodup_map store.nodup hmemory hother h

end

theorem keepsTo_of_namesAll [DecidableEq α] (service : DeduplicatingMemoryService)
    (hall : request.NamesAll) (userApproved : Bool)
    (store : MemoryStore α service.unicode.casefold) (now later : Datetime) (memoryId : String) :
    KeepsTo store request.owner
      (service.create store request userApproved now later memoryId) := by
  constructor
  · intro memory next h other hother hid
    obtain ⟨hfresh, _⟩ | ⟨existing, hmem, hmatches, hsame, howner, _⟩ := create_eq_ok h
    · exact absurd hid (KeyedStore.get_eq_none.mp hfresh other hother)
    · have heq : other = existing := eq_of_memoryId hother hmem (hid.trans hsame)
      rw [heq, howner]
      exact ⟨owner_of_admits hall hmatches, owner_of_admits hall hmatches⟩
  · intro memory next h other hother hgone
    obtain ⟨_, rfl⟩ | ⟨existing, hmem, hmatches, hsame, howner, rfl | rfl⟩ := create_eq_ok h
    · exact absurd (mem_insert_of_mem hother) hgone
    · exact absurd hother hgone
    · have hid : other.val.memoryId = memory.val.memoryId := by
        by_contra hne
        exact hgone (mem_replace_of_ne hother hne)
      rw [eq_of_memoryId hother hmem (hid.trans hsame)]
      exact owner_of_admits hall hmatches

/-! ## Requests that leave one out -/

section

variable {casefold : Casefold}

theorem requireNonBlank_eq_ok {values : List (String × Option String)} :
    requireNonBlank values = .ok () ↔ ∀ entry ∈ values, entry.2.any isBlank = false := by
  induction values with
  | nil => simp [requireNonBlank]
  | cons entry rest ih =>
    rw [requireNonBlank, raiseIf_bind_eq_ok, ih]
    simp

theorem requireUtcValues_eq_ok {cls : ExceptionClass} {values : List (String × Option Datetime)} :
    requireUtcValues cls values = .ok () ↔
      ∀ entry ∈ values, ∀ value ∈ entry.2, value.utcoffset = some 0 := by
  induction values with
  | nil => simp [requireUtcValues]
  | cons entry rest ih =>
    obtain ⟨name, value⟩ := entry
    rw [requireUtcValues, raiseIf_bind_eq_ok, raiseIf_bind_eq_ok, ih]
    cases value with
    | none => simp
    | some value =>
      have hnaive : value.utcoffset = some 0 → value.isNaive = false := by
        intro h
        rw [Datetime.isNaive, h]
        rfl
      simp only [Option.any_some, decide_not, Bool.not_eq_true', Bool.not_eq_false,
        decide_eq_true_eq, Bool.not_eq_true, List.mem_cons, forall_eq_or_imp,
        Option.mem_def, Option.some.injEq, forall_eq']
      constructor
      · rintro ⟨_, hutc, hrest⟩
        exact ⟨hutc, hrest⟩
      · rintro ⟨hutc, hrest⟩
        exact ⟨hnaive hutc, hutc, hrest⟩

def firstTime : Datetime := ⟨0, some 0, by decide⟩

def secondTime : Datetime := ⟨1, some 0, by decide⟩

/-- A memory of somebody else that a request matches: where the request leaves an identifier out,
it has one. It does not expire before the request does. -/
def strangersMemory (request : MemoryCreate α) : MemoryRecord α :=
  { memoryId := "memory"
    kind := request.kind
    scope := request.scope
    source := request.source
    content := request.content
    subjectId := request.subjectId <|> some "stranger"
    projectId := request.projectId <|> some "stranger"
    sessionId := request.sessionId <|> some "stranger"
    sourceReference := request.sourceReference
    tags := request.tags
    importance := request.importance
    confidence := request.confidence
    createdAt := firstTime
    updatedAt := firstTime
    lastAccessedAt := none
    expiresAt := request.expiresAt.map fun expires =>
      if expires ≤ firstTime then secondTime else expires
    metadata := request.metadata }

theorem strangersMemory_unexpired (request : MemoryCreate α) :
    ∀ expires ∈ (strangersMemory request).expiresAt, firstTime < expires := by
  intro value hvalue
  obtain ⟨expires, _, rfl⟩ := Option.mem_map.mp hvalue
  split_ifs with hlate
  · decide
  · exact Datetime.not_le.mp hlate

variable {request : MemoryCreate α}

theorem strangersMemory_valid (h : request.validate casefold = .ok ()) :
    (strangersMemory request).validate casefold = .ok () := by
  obtain ⟨_, himportance, h⟩ := bind_eq_ok.mp h
  obtain ⟨_, hconfidence, h⟩ := bind_eq_ok.mp h
  obtain ⟨hcontent, h⟩ := raiseIf_bind_eq_ok.mp h
  obtain ⟨_, htexts, h⟩ := bind_eq_ok.mp h
  obtain ⟨_, htags, h⟩ := bind_eq_ok.mp h
  obtain ⟨_, htimes, h⟩ := bind_eq_ok.mp h
  obtain ⟨_, hscope, hsource⟩ := bind_eq_ok.mp h
  have hnames := requireNonBlank_eq_ok.mp htexts
  have htexts : ∀ id : Option String, id.any isBlank = false →
      (id <|> some "stranger").any isBlank = false := by
    intro id hid
    cases id with
    | none => decide
    | some id => exact hid
  have hpresent : ∀ id : Option String, (id <|> some "stranger") ≠ none := by
    intro id
    cases id <;> simp
  have hutc := requireUtcValues_eq_ok.mp htimes
  refine bind_eq_ok.mpr ⟨(), himportance, bind_eq_ok.mpr ⟨(), hconfidence, ?_⟩⟩
  refine raiseIf_bind_eq_ok.mpr ⟨?_, raiseIf_bind_eq_ok.mpr ⟨hcontent, ?_⟩⟩
  · rw [Bool.not_eq_true]
    exact (by decide : isBlank "memory" = false)
  refine bind_eq_ok.mpr ⟨(), requireNonBlank_eq_ok.mpr ?_, bind_eq_ok.mpr ⟨(), htags, ?_⟩⟩
  · simp only [List.forall_mem_cons] at hnames ⊢
    exact ⟨htexts _ hnames.1, htexts _ hnames.2.1, htexts _ hnames.2.2.1, hnames.2.2.2⟩
  refine bind_eq_ok.mpr ⟨(), requireUtcValues_eq_ok.mpr ?_, ?_⟩
  · simp only [List.forall_mem_cons] at hutc ⊢
    refine ⟨?_, ?_, ?_, ?_, fun _ hmem => absurd hmem List.not_mem_nil⟩
    · exact fun value hvalue => by cases hvalue; rfl
    · exact fun value hvalue => by cases hvalue; rfl
    · exact fun value hvalue => by cases hvalue
    · intro value hvalue
      obtain ⟨expires, hexpires, rfl⟩ := Option.mem_map.mp hvalue
      split_ifs
      · rfl
      · exact hutc.1 expires hexpires
  refine raiseIf_bind_eq_ok.mpr ⟨lt_irrefl firstTime, raiseIf_bind_eq_ok.mpr ⟨?_, ?_⟩⟩
  · simp [strangersMemory]
  refine raiseIf_bind_eq_ok.mpr ⟨?_, bind_eq_ok.mpr ⟨(), ?_, hsource⟩⟩
  · rw [Bool.not_eq_true, Option.any_eq_false]
    intro expires hexpires
    have hlater := strangersMemory_unexpired request expires hexpires
    exact decide_eq_false (Datetime.not_le.mpr hlater)
  · refine raiseIf_bind_eq_ok.mpr ⟨fun h => hpresent _ h.2, ?_⟩
    refine raiseIf_bind_eq_ok.mpr ⟨fun h => hpresent _ h.2, ?_⟩
    exact raiseIf_eq_ok.mpr fun h => hpresent _ h.2

theorem strangersMemory_matches (request : MemoryCreate α) :
    InMemoryMemoryStore.«matches» (strangersMemory request)
      (MemoryDeduplicator.candidateQuery request) firstTime = true := by
  have hadmits : ∀ id : Option String, Admits id (id <|> some "stranger") := by
    intro id
    cases id with
    | none => exact .inl rfl
    | some id => exact .inr rfl
  exact matches_candidateQuery.mpr ⟨strangersMemory_unexpired request, ⟨rfl, rfl, rfl⟩,
    hadmits _, hadmits _, hadmits _⟩

theorem namesAll_of_owner
    (h : (strangersMemory request).owner = request.owner) : request.NamesAll := by
  have hpresent : ∀ id : Option String, (id <|> some "stranger") = id → id ≠ none := by
    intro id hid hnone
    rw [hnone] at hid
    cases hid
  simp only [MemoryRecord.owner, MemoryCreate.owner, MemoryOwner.mk.injEq] at h
  obtain ⟨_, _, _, hsubject, hproject, hsession⟩ := h
  exact ⟨hpresent _ hsubject, hpresent _ hproject, hpresent _ hsession⟩

variable [DecidableEq α]

theorem updateReasons_strangersMemory (unicode : UnicodeText) (request : MemoryCreate α) :
    MemoryDeduplicator.updateReasons unicode request (strangersMemory request) = [] := by
  have htags : normalizeMemoryTags unicode request.tags ⊆ normalizeMemoryTags unicode request.tags :=
    List.Subset.refl _
  have hexpiration : (request.expiresAt.any fun expires =>
      (strangersMemory request).expiresAt.all fun before => decide (before < expires)) = false := by
    cases hexpires : request.expiresAt with
    | none => rfl
    | some expires =>
      simp only [strangersMemory, hexpires, Option.any_some, Option.map_some, Option.all_some,
        decide_eq_false_iff_not, Datetime.not_lt]
      split_ifs with hlate
      · exact le_trans hlate (by decide)
      · exact le_refl expires
  unfold MemoryDeduplicator.updateReasons
  simp only [hexpiration]
  simp [strangersMemory]

def strangersStore (request : ValidRequest α casefold) : MemoryStore α casefold :=
  ⟨[⟨strangersMemory request.val, strangersMemory_valid request.property⟩], List.nodup_singleton _⟩

theorem create_strangersStore (service : DeduplicatingMemoryService)
    (request : ValidRequest α service.unicode.casefold) {userApproved : Bool}
    {result : MemoryPolicyResult}
    (h : service.policy.ensureAllowed request.val userApproved = .ok result) (memoryId : String) :
    service.create (strangersStore request) request.val userApproved firstTime firstTime memoryId =
      .ok (⟨strangersMemory request.val, strangersMemory_valid request.property⟩,
        strangersStore request) := by
  have hrecords : (strangersStore request).records =
      [⟨strangersMemory request.val, strangersMemory_valid request.property⟩] := rfl
  have hevaluate : MemoryDeduplicator.evaluate service.unicode (strangersStore request) request.val
      firstTime = .ok (.keepExisting
        ⟨strangersMemory request.val, strangersMemory_valid request.property⟩) := by
    have hlist : InMemoryMemoryStore.list (strangersStore request)
        (MemoryDeduplicator.candidateQuery request.val) firstTime =
          .ok (strangersStore request).records := by
      rw [InMemoryMemoryStore.list, hrecords, List.filter_cons_of_pos]
      · rfl
      · exact strangersMemory_matches request.val
    rw [MemoryDeduplicator.evaluate, hlist, ok_bind, hrecords, List.find?_cons_of_pos]
    · dsimp only
      rw [if_pos (updateReasons_strangersMemory service.unicode request.val)]
      rfl
    · exact decide_eq_true rfl
  rw [DeduplicatingMemoryService.create, h, ok_bind]
  have hnow : MemoryService.validatedNow firstTime = .ok firstTime := rfl
  rw [hnow, ok_bind, hevaluate, ok_bind]
  rfl

end

theorem keepsTo_iff_namesAll [DecidableEq α] (service : DeduplicatingMemoryService)
    (request : ValidRequest α service.unicode.casefold) (userApproved : Bool) :
    (∀ store now later memoryId, KeepsTo store request.val.owner
      (service.create store request.val userApproved now later memoryId)) ↔
    (∃ failure, service.policy.ensureAllowed request.val userApproved = .error failure) ∨
      request.val.NamesAll := by
  constructor
  · intro h
    cases hallowed : service.policy.ensureAllowed request.val userApproved with
    | error failure => exact .inl ⟨failure, rfl⟩
    | ok result =>
      have hkept := create_strangersStore service request hallowed ""
      have howner := (h (strangersStore request) firstTime firstTime "").returned _ _ hkept _
        List.mem_cons_self rfl
      exact .inr (namesAll_of_owner howner.1)
  · rintro (⟨failure, hrefused⟩ | hall) store now later memoryId
    · have hcreate : service.create store request.val userApproved now later memoryId =
          .error failure := by
        rw [DeduplicatingMemoryService.create, hrefused]
        rfl
      rw [hcreate]
      constructor
      · intro memory next h
        cases h
      · intro memory next h
        cases h
    · exact keepsTo_of_namesAll service hall userApproved store now later memoryId

def asciiMemoryService : DeduplicatingMemoryService :=
  { policy := ⟨{}, ⟨fun _ => false, fun _ => false⟩⟩
    unicode := ⟨id, asciiCasefold⟩ }

def teaRequest : ValidRequest Unit asciiCasefold :=
  ⟨{  kind := .semantic
      scope := .user
      source := .userStatement
      content := "The user likes tea."
      subjectId := some "user-001"
      projectId := none
      sessionId := none
      sourceReference := none
      tags := []
      importance := 1 / 2
      confidence := 1
      expiresAt := none
      metadata := ∅ }, by decide +kernel⟩

def teaMemory : ValidMemory Unit asciiCasefold :=
  ⟨{  memoryId := "memory-001"
      kind := .semantic
      scope := .user
      source := .userStatement
      content := "The user likes tea."
      subjectId := some "user-001"
      projectId := some "project-a"
      sessionId := none
      sourceReference := none
      tags := []
      importance := 1 / 2
      confidence := 1
      createdAt := firstTime
      updatedAt := firstTime
      lastAccessedAt := none
      expiresAt := none
      metadata := ∅ }, by decide +kernel⟩

def teaStore : MemoryStore Unit asciiCasefold := ⟨[teaMemory], List.nodup_singleton _⟩

theorem other_projects_memory_kept :
    ¬∀ (request : ValidRequest Unit asciiCasefold) (userApproved : Bool)
      (store : MemoryStore Unit asciiCasefold) (now later : Datetime) (memoryId : String),
      KeepsTo store request.val.owner
        (asciiMemoryService.create store request.val userApproved now later memoryId) := by
  intro h
  have hkept : (asciiMemoryService.create teaStore teaRequest.val false firstTime firstTime
      "memory-002").toOption.map (·.1.val.memoryId) = some "memory-001" := by decide +kernel
  have hto := h teaRequest false teaStore firstTime firstTime "memory-002"
  cases hcreate : asciiMemoryService.create teaStore teaRequest.val false firstTime firstTime
      "memory-002" with
  | error failure =>
    rw [hcreate] at hkept
    cases hkept
  | ok saved =>
    rw [hcreate] at hkept
    have hid : saved.1.val.memoryId = "memory-001" := Option.some.inj hkept
    have howner := hto.returned saved.1 saved.2 hcreate teaMemory List.mem_cons_self hid.symm
    exact absurd howner.1 (by decide)

end AgenticLab
