import AgenticLab.Verification.Memory.Owners

/-! # What a merge keeps of a memory and of the request that duplicates it -/

namespace AgenticLab

variable {α : Type}

/-- `memory` is what `existing` becomes when `request` is merged into it. -/
structure Merges (unicode : UnicodeText) (request : MemoryCreate α)
    (existing memory : MemoryRecord α) : Prop where
  importance : memory.importance = max existing.importance request.importance
  confidence : memory.confidence = max existing.confidence request.confidence
  tags : ∀ tag, tag ∈ normalizeMemoryTags unicode memory.tags ↔
    tag ∈ normalizeMemoryTags unicode existing.tags ∨ tag ∈ normalizeMemoryTags unicode request.tags
  metadata : ∀ name, name ∈ existing.metadata ∨ name ∈ request.metadata → name ∈ memory.metadata
  /-- Without an expiry it stays without one, and an expiry does not move to an earlier time. -/
  lifetime : ∀ expires ∈ memory.expiresAt, ∃ before ∈ existing.expiresAt, before ≤ expires

structure AddsNothing (unicode : UnicodeText) (request : MemoryCreate α)
    (existing : MemoryRecord α) : Prop where
  importance : request.importance ≤ existing.importance
  confidence : request.confidence ≤ existing.confidence
  tags : normalizeMemoryTags unicode request.tags ⊆ normalizeMemoryTags unicode existing.tags
  metadata : request.metadata = ∅ ∨ request.metadata = existing.metadata
  lifetime : ∀ expires ∈ request.expiresAt, ∃ before ∈ existing.expiresAt, expires ≤ before

/-- Tags of both that are the same but for their case and the spaces around them are the same. -/
def TagsAgree (casefold : Casefold) (request : MemoryCreate α) (existing : MemoryRecord α) : Prop :=
  ∀ tag ∈ existing.tags, ∀ other ∈ request.tags,
    normalizeId casefold tag = normalizeId casefold other → tag = other

variable {unicode : UnicodeText} {request : MemoryCreate α} {existing : MemoryRecord α}

theorem updateReasons_eq_nil [DecidableEq α] :
    MemoryDeduplicator.updateReasons unicode request existing = [] ↔
      AddsNothing unicode request existing := by
  have hlifetime : (request.expiresAt.any fun expires => existing.expiresAt.all fun before =>
      decide (before < expires)) = false ↔
      ∀ expires ∈ request.expiresAt, ∃ before ∈ existing.expiresAt, expires ≤ before := by
    cases request.expiresAt <;> cases existing.expiresAt <;> simp
  have hmetadata : ¬(request.metadata ≠ ∅ ∧ request.metadata ≠ existing.metadata) ↔
      request.metadata = ∅ ∨ request.metadata = existing.metadata := by
    rw [not_and_or, not_not, not_not]
  unfold MemoryDeduplicator.updateReasons
  simp only [List.map_eq_nil_iff, List.filter_eq_nil_iff, List.forall_mem_cons, Bool.not_eq_true,
    decide_eq_false_iff_not, not_lt, not_not, hmetadata, hlifetime]
  constructor
  · rintro ⟨himportance, hconfidence, htags, hmetadata, hexpires, _⟩
    exact ⟨himportance, hconfidence, htags, hmetadata, hexpires⟩
  · intro h
    exact ⟨h.importance, h.confidence, h.tags, h.metadata, h.lifetime,
      fun _ hmem => absurd hmem List.not_mem_nil⟩

theorem AddsNothing.merges (h : AddsNothing unicode request existing) :
    Merges unicode request existing existing where
  importance := (max_eq_left h.importance).symm
  confidence := (max_eq_left h.confidence).symm
  tags := fun _ => ⟨.inl, fun htag => htag.elim id (h.tags ·)⟩
  metadata := by
    rintro name (hname | hname)
    · exact hname
    · obtain hnone | hsame := h.metadata
      · rw [hnone] at hname
        exact absurd hname Finmap.notMem_empty
      · rwa [hsame] at hname
  lifetime := fun expires hexpires => ⟨expires, hexpires, le_refl expires⟩

/-! ## Validation -/

theorem requireUnitInterval_eq_ok {fieldName : String} {value : ℚ} :
    requireUnitInterval fieldName value = .ok () ↔ 0 ≤ value ∧ value ≤ 1 := by
  rw [requireUnitInterval, raiseIf_bind_eq_ok, raiseIf_eq_ok, not_lt, not_lt]

variable {casefold : Casefold} {tags : List String}

theorem validateTags_eq_ok :
    validateTags casefold tags = .ok () ↔
      (∀ tag ∈ tags, isBlank tag = false) ∧ (tags.map (normalizeId casefold)).Nodup := by
  rw [validateTags, raiseIf_bind_eq_ok, raiseIf_eq_ok, not_not, Bool.not_eq_true, List.any_eq_false]
  simp only [Bool.not_eq_true]

def mergedTags (request : MemoryCreate α) (existing : MemoryRecord α) : List String :=
  (existing.tags ++ request.tags).dedup.insertionSort (· ≤ ·)

variable {tag : String}

theorem mem_mergedTags :
    tag ∈ mergedTags request existing ↔ tag ∈ existing.tags ∨ tag ∈ request.tags := by
  rw [mergedTags, List.mem_insertionSort, List.mem_dedup, List.mem_append]

theorem nodup_mergedTags (request : MemoryCreate α) (existing : MemoryRecord α) :
    (mergedTags request existing).Nodup :=
  (List.perm_insertionSort _ _).nodup_iff.mpr (List.nodup_dedup _)

theorem mem_normalizeMemoryTags :
    tag ∈ normalizeMemoryTags unicode tags ↔
      ∃ given ∈ tags, isBlank given = false ∧
        unicode.casefold (unicode.nfkc (strip given)) = tag := by
  simp only [normalizeMemoryTags, List.mem_insertionSort, List.mem_dedup, List.mem_map,
    List.mem_filter, Bool.not_eq_true', and_assoc]

theorem mem_normalizeMemoryTags_mergedTags :
    tag ∈ normalizeMemoryTags unicode (mergedTags request existing) ↔
      tag ∈ normalizeMemoryTags unicode existing.tags ∨
        tag ∈ normalizeMemoryTags unicode request.tags := by
  simp only [mem_normalizeMemoryTags, mem_mergedTags, or_and_right, exists_or]

theorem validateTags_mergedTags (hexisting : validateTags casefold existing.tags = .ok ())
    (hrequest : validateTags casefold request.tags = .ok ()) :
    validateTags casefold (mergedTags request existing) = .ok () ↔
      TagsAgree casefold request existing := by
  rw [validateTags_eq_ok] at *
  rw [List.nodup_map_iff_inj_on (nodup_mergedTags request existing)]
  constructor
  · rintro ⟨_, hinjective⟩ tag htag other hother
    exact hinjective tag (mem_mergedTags.mpr (.inl htag)) other (mem_mergedTags.mpr (.inr hother))
  · intro hagree
    have hfirst := List.inj_on_of_nodup_map hexisting.2
    have hsecond := List.inj_on_of_nodup_map hrequest.2
    constructor
    · intro tag htag
      exact (mem_mergedTags.mp htag).elim (hexisting.1 tag) (hrequest.1 tag)
    · intro tag htag other hother heq
      obtain htag | htag := mem_mergedTags.mp htag
      · obtain hother | hother := mem_mergedTags.mp hother
        · exact hfirst htag hother heq
        · exact hagree tag htag other hother heq
      · obtain hother | hother := mem_mergedTags.mp hother
        · exact (hagree other hother tag htag heq.symm).symm
        · exact hsecond htag hother heq

variable {cls : ExceptionClass}

theorem requireUtcValues_cons {name : String} {value : Option Datetime}
    {rest : List (String × Option Datetime)} :
    requireUtcValues cls ((name, value) :: rest) = .ok () ↔
      (∀ time ∈ value, time.utcoffset = some 0) ∧ requireUtcValues cls rest = .ok () := by
  simp only [requireUtcValues_eq_ok, List.forall_mem_cons]

@[simp] theorem requireUtcValues_nil : requireUtcValues cls [] = .ok () := rfl

theorem check_bind_eq_ok {β : Type} {check : Except Raised Unit} {f : Unit → Except Raised β}
    {b : β} : check >>= f = .ok b ↔ check = .ok () ∧ f () = .ok b := by
  rw [bind_eq_ok]
  exact ⟨fun ⟨_, hcheck, h⟩ => ⟨hcheck, h⟩, fun ⟨hcheck, h⟩ => ⟨(), hcheck, h⟩⟩

variable {time : Option Datetime} {bound : Datetime}

theorem not_any_lt :
    ¬(time.any fun value => decide (value < bound)) = true ↔ ∀ value ∈ time, bound ≤ value := by
  cases time <;> simp

theorem not_any_le :
    ¬(time.any fun value => decide (value ≤ bound)) = true ↔ ∀ value ∈ time, bound < value := by
  cases time <;> simp

section

variable {casefold : Casefold}

def mergedMemory (request : MemoryCreate α) (existing : MemoryRecord α) (later : Datetime) :
    MemoryRecord α :=
  { existing with
    tags := mergedTags request existing
    importance := max existing.importance request.importance
    confidence := max existing.confidence request.confidence
    expiresAt := request.expiresAt <|> existing.expiresAt
    metadata := request.metadata ∪ existing.metadata
    updatedAt := later }

theorem requireUnitInterval_max {fieldName : String} {first second : ℚ}
    (hfirst : requireUnitInterval fieldName first = .ok ())
    (hsecond : requireUnitInterval fieldName second = .ok ()) :
    requireUnitInterval fieldName (max first second) = .ok () := by
  obtain ⟨hnonneg, hle⟩ := requireUnitInterval_eq_ok.mp hfirst
  have hother := requireUnitInterval_eq_ok.mp hsecond
  exact requireUnitInterval_eq_ok.mpr ⟨le_max_of_le_left hnonneg, max_le hle hother.2⟩

theorem mem_orElse {β : Type} {first second : Option β} {value : β} :
    value ∈ (first <|> second) ↔ value ∈ first ∨ first = none ∧ value ∈ second := by
  cases first <;> simp

variable {request : MemoryCreate α}

theorem MemoryCreate.validate_eq_ok :
    request.validate casefold = .ok () ↔
      requireUnitInterval "importance" request.importance = .ok () ∧
      requireUnitInterval "confidence" request.confidence = .ok () ∧
      ¬isBlank request.content = true ∧
      requireNonBlank [("subject_id", request.subjectId), ("project_id", request.projectId),
        ("session_id", request.sessionId), ("source_reference", request.sourceReference)] = .ok () ∧
      validateTags casefold request.tags = .ok () ∧
      (∀ expires ∈ request.expiresAt, expires.utcoffset = some 0) ∧
      validateScopeIdentifiers request.scope request.subjectId request.projectId request.sessionId =
        .ok () ∧
      validateSourceRequirements request.source request.sourceReference = .ok () := by
  simp only [MemoryCreate.validate, check_bind_eq_ok, raiseIf_eq_ok, requireUtcValues_cons,
    requireUtcValues_nil, and_true]

variable {memory : MemoryRecord α}

theorem MemoryRecord.validate_eq_ok :
    memory.validate casefold = .ok () ↔
      requireUnitInterval "importance" memory.importance = .ok () ∧
      requireUnitInterval "confidence" memory.confidence = .ok () ∧
      ¬isBlank memory.memoryId = true ∧ ¬isBlank memory.content = true ∧
      requireNonBlank [("subject_id", memory.subjectId), ("project_id", memory.projectId),
        ("session_id", memory.sessionId), ("source_reference", memory.sourceReference)] = .ok () ∧
      validateTags casefold memory.tags = .ok () ∧
      (memory.createdAt.utcoffset = some 0 ∧ memory.updatedAt.utcoffset = some 0 ∧
        (∀ accessed ∈ memory.lastAccessedAt, accessed.utcoffset = some 0) ∧
        ∀ expires ∈ memory.expiresAt, expires.utcoffset = some 0) ∧
      memory.createdAt ≤ memory.updatedAt ∧
      (∀ accessed ∈ memory.lastAccessedAt, memory.createdAt ≤ accessed) ∧
      (∀ expires ∈ memory.expiresAt, memory.createdAt < expires) ∧
      validateScopeIdentifiers memory.scope memory.subjectId memory.projectId memory.sessionId =
        .ok () ∧
      validateSourceRequirements memory.source memory.sourceReference = .ok () := by
  simp only [MemoryRecord.validate, check_bind_eq_ok, raiseIf_eq_ok, requireUtcValues_cons,
    requireUtcValues_nil, and_true, Option.mem_def, Option.some.injEq, forall_eq', Datetime.not_lt,
    not_any_lt, not_any_le]

variable {existing : ValidMemory α casefold} {request : ValidRequest α casefold}
  {later now : Datetime}

theorem mergedMemory_validate (hutc : later.utcoffset = some 0) :
    (mergedMemory request.val existing.val later).validate casefold = .ok () ↔
      TagsAgree casefold request.val existing.val ∧ existing.val.createdAt ≤ later ∧
        ∀ expires ∈ (mergedMemory request.val existing.val later).expiresAt,
          existing.val.createdAt < expires := by
  obtain ⟨hrequestImportance, hrequestConfidence, _, _, hrequestTags, hrequestUtc, _⟩ :=
    MemoryCreate.validate_eq_ok.mp request.property
  obtain ⟨himportance, hconfidence, hid, hcontent, htexts, htags, ⟨hcreatedUtc, _, haccessedUtc,
    hexpiresUtc⟩, _, haccessed, _, hidentifiers⟩ := MemoryRecord.validate_eq_ok.mp existing.property
  rw [MemoryRecord.validate_eq_ok, ← validateTags_mergedTags htags hrequestTags]
  constructor
  · rintro ⟨_, _, _, _, _, hmerged, _, hupdated, _, hexpires, _⟩
    exact ⟨hmerged, hupdated, hexpires⟩
  · rintro ⟨hmerged, hupdated, hexpires⟩
    have hutcs : ∀ expires ∈ (mergedMemory request.val existing.val later).expiresAt,
        expires.utcoffset = some 0 := by
      intro expires hmem
      obtain hgiven | ⟨_, hkept⟩ := mem_orElse.mp hmem
      · exact hrequestUtc expires hgiven
      · exact hexpiresUtc expires hkept
    exact ⟨requireUnitInterval_max himportance hrequestImportance,
      requireUnitInterval_max hconfidence hrequestConfidence, hid, hcontent, htexts, hmerged,
      ⟨hcreatedUtc, hutc, haccessedUtc, hutcs⟩, hupdated, haccessed, hexpires, hidentifiers⟩

theorem mergedUpdate_validate (hagree : TagsAgree casefold request.val existing.val) :
    (DeduplicatingMemoryService.mergedUpdate request.val existing.val).validate casefold =
      .ok () := by
  obtain ⟨hrequestImportance, hrequestConfidence, _, _, hrequestTags, hrequestUtc, _⟩ :=
    MemoryCreate.validate_eq_ok.mp request.property
  obtain ⟨himportance, hconfidence, _, _, _, htags, ⟨_, _, _, hexpiresUtc⟩, _⟩ :=
    MemoryRecord.validate_eq_ok.mp existing.property
  refine check_bind_eq_ok.mpr ⟨requireUnitInterval_max himportance hrequestImportance, ?_⟩
  refine check_bind_eq_ok.mpr ⟨requireUnitInterval_max hconfidence hrequestConfidence, ?_⟩
  refine check_bind_eq_ok.mpr ⟨(validateTags_mergedTags htags hrequestTags).mpr hagree, ?_⟩
  refine requireUtcValues_cons.mpr ⟨?_, rfl⟩
  intro expires hmem
  obtain hgiven | ⟨_, hkept⟩ := mem_orElse.mp hmem
  · exact hrequestUtc expires hgiven
  · exact hexpiresUtc expires hkept

theorem newMemory_of_valid (h : memory.validate casefold = .ok ()) :
    newMemory casefold memory = .ok ⟨memory, h⟩ := by
  unfold newMemory
  split
  · rfl
  · rename_i hfailed
    rw [h] at hfailed
    cases hfailed

theorem validatedNow_eq_ok_iff {clock : Datetime} :
    MemoryService.validatedNow clock = .ok now ↔ clock.utcoffset = some 0 ∧ now = clock := by
  constructor
  · intro h
    obtain ⟨_, hutc⟩ := raiseIf_bind_eq_ok.mp h
    obtain ⟨hutc, _⟩ := raiseIf_bind_eq_ok.mp hutc
    exact ⟨not_not.mp hutc, validatedNow_eq_ok h⟩
  · rintro ⟨hutc, rfl⟩
    have haware : now.isNaive = false := by
      rw [Datetime.isNaive, hutc]
      rfl
    refine raiseIf_bind_eq_ok.mpr ⟨?_, raiseIf_bind_eq_ok.mpr ⟨not_not.mpr hutc, rfl⟩⟩
    rw [haware]
    exact Bool.false_ne_true

theorem requireUtcValues_some {cls : ExceptionClass} {name : String} {time : Datetime} :
    requireUtcValues cls [(name, time)] = .ok () ↔ time.utcoffset = some 0 := by
  rw [requireUtcValues_cons]
  simp [requireUtcValues]

variable {store : MemoryStore α casefold} {existing memory : ValidMemory α casefold}

theorem get_replace_of_mem
    (hmem : existing ∈ store.records) (hid : memory.val.memoryId = existing.val.memoryId) :
    (store.replace memory).get existing.val.memoryId = some memory := by
  have hne : store.get memory.val.memoryId ≠ none := by
    rw [hid, KeyedStore.get_of_mem hmem]
    exact Option.some_ne_none existing
  rw [KeyedStore.get_replace hne, if_pos hid.symm]

theorem service_update_mergedUpdate {store next : MemoryStore α casefold}
    (hmem : existing ∈ store.records) :
    MemoryService.update store existing.val.memoryId
        (DeduplicatingMemoryService.mergedUpdate request existing.val) later = .ok (memory, next) ↔
      later.utcoffset = some 0 ∧
        (∀ expires ∈ (mergedMemory request existing.val later).expiresAt,
          existing.val.createdAt < expires) ∧
        memory.val = mergedMemory request existing.val later ∧ next = store.replace memory := by
  have hget := KeyedStore.get_of_mem hmem
  obtain ⟨_, _, hid, _⟩ := MemoryRecord.validate_eq_ok.mp existing.property
  have hfound : InMemoryMemoryStore.get store existing.val.memoryId = .ok existing := by
    rw [InMemoryMemoryStore.get, raiseIf_bind_eq_ok, hget]
    exact ⟨hid, rfl⟩
  constructor
  · intro h
    obtain ⟨now, hnow, hupdate⟩ := bind_eq_ok.mp h
    obtain ⟨hutc, rfl⟩ := validatedNow_eq_ok_iff.mp hnow
    rw [hfound, ok_bind, raiseIf_bind_eq_ok] at hupdate
    obtain ⟨hexpires, h⟩ := hupdate
    obtain ⟨_, h⟩ := raiseIf_bind_eq_ok.mp h
    obtain ⟨_, _, h⟩ := bind_eq_ok.mp h
    rw [hget] at h
    obtain ⟨validated, hvalidated, h⟩ := bind_eq_ok.mp h
    cases h
    exact ⟨hutc, not_any_le.mp hexpires, newMemory_eq_ok hvalidated, rfl⟩
  · rintro ⟨hutc, hexpires, hmemory, rfl⟩
    have hvalid : (mergedMemory request existing.val later).validate casefold = .ok () := by
      rw [← hmemory]
      exact memory.property
    rw [MemoryService.update, validatedNow_eq_ok_iff.mpr ⟨hutc, rfl⟩, ok_bind, hfound, ok_bind,
      raiseIf_bind_eq_ok]
    refine ⟨not_any_le.mpr hexpires, raiseIf_bind_eq_ok.mpr ⟨hid, ?_⟩⟩
    rw [requireUtcValues_some.mpr hutc, ok_bind, hget]
    refine bind_eq_ok.mpr ⟨memory, ?_, rfl⟩
    rw [← Subtype.coe_eta memory memory.property]
    simp only [hmemory]
    exact newMemory_of_valid hvalid

variable [DecidableEq α]

def MemoryDeduplicationResult.matched? : MemoryDeduplicationResult α casefold →
    Option (ValidMemory α casefold)
  | .create => none
  | .keepExisting existing => some existing
  | .updateExisting _ existing => some existing

theorem evaluate_matched {unicode : UnicodeText}
    {result : MemoryDeduplicationResult α casefold}
    (h : MemoryDeduplicator.evaluate unicode store request now = .ok result)
    (hmatched : result.matched? = some existing) :
    existing ∈ store.records ∧
      (result = .keepExisting existing ∧ AddsNothing unicode request existing.val ∨
        ∃ reasons, result = .updateExisting reasons existing ∧
          ¬AddsNothing unicode request existing.val) := by
  obtain ⟨candidates, hlist, h⟩ := bind_eq_ok.mp h
  split at h
  · cases h
    cases hmatched
  · rename_i found hfound
    have hmem := (list_eq_ok hlist found).mp (List.mem_of_find?_eq_some hfound)
    dsimp only at h
    split at h
    · rename_i hreasons
      cases h
      cases hmatched
      exact ⟨hmem.1, .inl ⟨rfl, updateReasons_eq_nil.mp hreasons⟩⟩
    · rename_i hreasons
      cases h
      cases hmatched
      exact ⟨hmem.1, .inr ⟨_, rfl, fun hadds => hreasons (updateReasons_eq_nil.mpr hadds)⟩⟩

end

namespace DeduplicatingMemoryService

variable [DecidableEq α]

/-- `create` ends with a memory that has all of `existing` and of the request. -/
def CreateMerges (service : DeduplicatingMemoryService)
    (store : MemoryStore α service.unicode.casefold) (request : MemoryCreate α)
    (userApproved : Bool) (now later : Datetime) (memoryId : String)
    (existing : ValidMemory α service.unicode.casefold) : Prop :=
  ∃ memory next, service.create store request userApproved now later memoryId =
      .ok (memory, next) ∧
    next.get existing.val.memoryId = some memory ∧
    Merges service.unicode request existing.val memory.val

theorem create_merges_iff (service : DeduplicatingMemoryService)
    (store : MemoryStore α service.unicode.casefold)
    (request : ValidRequest α service.unicode.casefold) (userApproved : Bool) (now later : Datetime)
    (memoryId : String) (existing : ValidMemory α service.unicode.casefold)
    (result : MemoryDeduplicationResult α service.unicode.casefold)
    (hevaluate : MemoryDeduplicator.evaluate service.unicode store request.val now = .ok result)
    (hmatched : result.matched? = some existing) :
    service.CreateMerges store request.val userApproved now later memoryId existing ↔
      (∃ allowed, service.policy.ensureAllowed request.val userApproved = .ok allowed) ∧
      now.utcoffset = some 0 ∧
      (AddsNothing service.unicode request.val existing.val ∨
        later.utcoffset = some 0 ∧ existing.val.createdAt ≤ later ∧
        TagsAgree service.unicode.casefold request.val existing.val ∧
        ∀ expires ∈ request.val.expiresAt, ∃ before ∈ existing.val.expiresAt,
          before ≤ expires) := by
  obtain ⟨hmem, hcase⟩ := evaluate_matched hevaluate hmatched
  have hget := KeyedStore.get_of_mem hmem
  obtain ⟨_, _, _, _, _, _, _, _, _, hcreatedBefore, _⟩ :=
    MemoryRecord.validate_eq_ok.mp existing.property
  constructor
  · rintro ⟨memory, next, hcreate, hstored, hmerges⟩
    obtain ⟨allowed, hallowed, h⟩ := bind_eq_ok.mp hcreate
    obtain ⟨validNow, hnow, hmerge⟩ := bind_eq_ok.mp h
    obtain ⟨hutc, rfl⟩ := validatedNow_eq_ok_iff.mp hnow
    refine ⟨⟨allowed, hallowed⟩, hutc, ?_⟩
    obtain ⟨_, hadds⟩ | ⟨reasons, rfl, _⟩ := hcase
    · exact .inl hadds
    · rw [hevaluate, ok_bind] at hmerge
      obtain ⟨_, hvalid, hupdate⟩ := bind_eq_ok.mp hmerge
      obtain ⟨hlater, _, hmemory, _⟩ := (service_update_mergedUpdate hmem).mp hupdate
      have hmerged := memory.property
      rw [hmemory, mergedMemory_validate hlater] at hmerged
      refine .inr ⟨hlater, hmerged.2.1, hmerged.1, ?_⟩
      intro expires hexpires
      refine hmerges.lifetime expires ?_
      rw [hmemory]
      exact mem_orElse.mpr (.inl hexpires)
  · rintro ⟨⟨allowed, hallowed⟩, hutc, hcondition⟩
    unfold CreateMerges
    rw [DeduplicatingMemoryService.create, hallowed, ok_bind,
      validatedNow_eq_ok_iff.mpr ⟨hutc, rfl⟩, ok_bind, hevaluate, ok_bind]
    obtain ⟨rfl, hadds⟩ | ⟨reasons, rfl, hadds⟩ := hcase
    · exact ⟨existing, store, rfl, hget, hadds.merges⟩
    · obtain ⟨hlater, hcreated, hagree, hexpires⟩ := hcondition.resolve_left hadds
      have hlifetime : ∀ expires ∈ (mergedMemory request.val existing.val later).expiresAt,
          ∃ before ∈ existing.val.expiresAt, before ≤ expires := by
        intro expires hmem
        obtain hgiven | ⟨_, hkept⟩ := mem_orElse.mp hmem
        · exact hexpires expires hgiven
        · exact ⟨expires, hkept, le_refl expires⟩
      have hafter : ∀ expires ∈ (mergedMemory request.val existing.val later).expiresAt,
          existing.val.createdAt < expires := by
        intro expires hmem
        obtain ⟨before, hbefore, hle⟩ := hlifetime expires hmem
        exact lt_of_lt_of_le (hcreatedBefore before hbefore) hle
      have hvalid := (mergedMemory_validate hlater).mpr ⟨hagree, hcreated, hafter⟩
      refine ⟨⟨_, hvalid⟩, store.replace ⟨_, hvalid⟩, ?_, ?_, ?_⟩
      · refine bind_eq_ok.mpr ⟨(), mergedUpdate_validate hagree, ?_⟩
        exact (service_update_mergedUpdate hmem).mpr ⟨hlater, hafter, rfl, rfl⟩
      · exact get_replace_of_mem hmem rfl
      · exact {
          importance := rfl
          confidence := rfl
          tags := fun _ => mem_normalizeMemoryTags_mergedTags
          metadata := fun name hname => Finmap.mem_union.mpr hname.symm
          lifetime := hlifetime }

def teaUntilRequest : ValidRequest Unit asciiCasefold :=
  ⟨{ teaRequest.val with expiresAt := some secondTime }, by decide +kernel⟩

theorem evaluate_teaUntilRequest :
    MemoryDeduplicator.evaluate asciiMemoryService.unicode teaStore teaUntilRequest.val firstTime =
      .ok (.updateExisting [.expirationExtended] teaMemory) := by
  have hreasons : MemoryDeduplicator.updateReasons asciiMemoryService.unicode teaUntilRequest.val
      teaMemory.val = [.expirationExtended] := by decide +kernel
  have hlist : InMemoryMemoryStore.list teaStore
      (MemoryDeduplicator.candidateQuery teaUntilRequest.val) firstTime = .ok [teaMemory] := rfl
  rw [MemoryDeduplicator.evaluate, hlist, ok_bind, List.find?_cons_of_pos]
  · simp only [hreasons]
    rfl
  · exact decide_eq_true rfl

theorem create_merges_tea_iff :
    asciiMemoryService.CreateMerges teaStore teaUntilRequest.val false firstTime secondTime ""
        teaMemory ↔
      (∃ allowed, asciiMemoryService.policy.ensureAllowed teaUntilRequest.val false = .ok allowed) ∧
      firstTime.utcoffset = some 0 ∧
      (AddsNothing asciiMemoryService.unicode teaUntilRequest.val teaMemory.val ∨
        secondTime.utcoffset = some 0 ∧ teaMemory.val.createdAt ≤ secondTime ∧
        TagsAgree asciiMemoryService.unicode.casefold teaUntilRequest.val teaMemory.val ∧
        ∀ expires ∈ teaUntilRequest.val.expiresAt, ∃ before ∈ teaMemory.val.expiresAt,
          before ≤ expires) :=
  create_merges_iff asciiMemoryService teaStore teaUntilRequest false firstTime secondTime ""
    teaMemory _ evaluate_teaUntilRequest rfl

/-- The memory that did not expire then expires with the request. -/
theorem expiry_not_kept :
    ¬∀ (request : ValidRequest Unit asciiCasefold) (userApproved : Bool) (now later : Datetime)
      (memoryId : String) (existing : ValidMemory Unit asciiCasefold)
      (result : MemoryDeduplicationResult Unit asciiCasefold),
      MemoryDeduplicator.evaluate asciiMemoryService.unicode teaStore request.val now = .ok result →
      result.matched? = some existing →
        asciiMemoryService.CreateMerges teaStore request.val userApproved now later memoryId
          existing := by
  intro h
  obtain ⟨memory, next, hcreate, _, hmerges⟩ := h teaUntilRequest false firstTime firstTime ""
    teaMemory _ evaluate_teaUntilRequest rfl
  have hexpires : (asciiMemoryService.create teaStore teaUntilRequest.val false firstTime firstTime
      "").toOption.map (·.1.val.expiresAt) = some (some secondTime) := by decide +kernel
  rw [hcreate] at hexpires
  have hmemory : memory.val.expiresAt = some secondTime := Option.some.inj hexpires
  obtain ⟨before, hbefore, _⟩ := hmerges.lifetime secondTime hmemory
  cases hbefore

end DeduplicatingMemoryService

end AgenticLab
