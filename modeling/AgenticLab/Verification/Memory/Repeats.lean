import AgenticLab.Library.Runs
import AgenticLab.Library.SortedRecords
import AgenticLab.Verification.Memory.Merging

/-! # Memories created twice

Runs of `create` from an empty store: no two of its memories are duplicates of each other, and a
request that is repeated finds the memory that it made. -/

namespace AgenticLab

open Runs (Reachable)

variable {α : Type}

/-- `memory` does not expire up to `time`. -/
def MemoryRecord.Alive (memory : MemoryRecord α) (time : Datetime) : Prop :=
  ∀ expires ∈ memory.expiresAt, time < expires

variable {memory : MemoryRecord α}

theorem MemoryRecord.Alive.earlier {time before : Datetime}
    (h : memory.Alive time) (hle : before ≤ time) : memory.Alive before :=
  fun expires hexpires => lt_of_le_of_lt hle (h expires hexpires)

def IsDuplicate (unicode : UnicodeText) (request : MemoryCreate α) (now : Datetime)
    (memory : MemoryRecord α) : Prop :=
  InMemoryMemoryStore.«matches» memory (MemoryDeduplicator.candidateQuery request) now = true ∧
    normalizeMemoryContent unicode memory.content = normalizeMemoryContent unicode request.content

variable {unicode : UnicodeText} {request : MemoryCreate α} {now again : Datetime}

theorem isDuplicate_later (h : IsDuplicate unicode request now memory) :
    IsDuplicate unicode request again memory ↔ memory.Alive again := by
  obtain ⟨hmatches, hcontent⟩ := h
  rw [IsDuplicate, matches_candidateQuery] at *
  exact ⟨fun hagain => hagain.1.1, fun halive => ⟨⟨halive, hmatches.2⟩, hcontent⟩⟩

theorem IsDuplicate.earlier (h : IsDuplicate unicode request again memory) (hle : now ≤ again) :
    IsDuplicate unicode request now memory := by
  have halive : memory.Alive again := (isDuplicate_later h).mp h
  exact (isDuplicate_later h).mpr (halive.earlier hle)

section

variable {casefold : Casefold}

structure FirstMatch (unicode : UnicodeText) (store : MemoryStore α casefold)
    (request : MemoryCreate α) (now : Datetime) (existing : ValidMemory α casefold) : Prop where
  mem : existing ∈ store.records
  duplicate : IsDuplicate unicode request now existing.val
  first : ∀ other ∈ store.records, IsDuplicate unicode request now other.val →
    InMemoryMemoryStore.Earlier existing other

/-! ## The order of the candidates -/

theorem earlier_total (a b : ValidMemory α casefold) :
    InMemoryMemoryStore.Earlier a b ∨ InMemoryMemoryStore.Earlier b a := by
  unfold InMemoryMemoryStore.Earlier
  by_cases hlt : a.val.createdAt < b.val.createdAt
  · exact .inl (.inl hlt)
  · have hle := Datetime.not_lt.mp hlt
    by_cases hgt : b.val.createdAt < a.val.createdAt
    · exact .inr (.inl hgt)
    · have hge := Datetime.not_lt.mp hgt
      obtain hid | hid := le_total a.val.memoryId b.val.memoryId
      · exact .inl (.inr ⟨hge, hid⟩)
      · exact .inr (.inr ⟨hle, hid⟩)

theorem earlier_trans {a b c : ValidMemory α casefold} (hab : InMemoryMemoryStore.Earlier a b)
    (hbc : InMemoryMemoryStore.Earlier b c) : InMemoryMemoryStore.Earlier a c := by
  obtain hab | ⟨hab, hidab⟩ := hab
  · obtain hbc | ⟨hbc, _⟩ := hbc
    · exact .inl (lt_trans hab hbc)
    · exact .inl (lt_of_lt_of_le hab hbc)
  · obtain hbc | ⟨hbc, hidbc⟩ := hbc
    · exact .inl (lt_of_le_of_lt hab hbc)
    · exact .inr ⟨le_trans hab hbc, le_trans hidab hidbc⟩

variable {store : MemoryStore α casefold}

theorem earlier_antisymm {a b : ValidMemory α casefold}
    (ha : a ∈ store.records) (hb : b ∈ store.records) (hab : InMemoryMemoryStore.Earlier a b)
    (hba : InMemoryMemoryStore.Earlier b a) : a = b := by
  have hids : a.val.memoryId ≤ b.val.memoryId ∧ b.val.memoryId ≤ a.val.memoryId := by
    obtain hab | ⟨hab, hidab⟩ := hab
    · obtain hba | ⟨hba, _⟩ := hba
      · exact absurd (lt_trans hab hba) (lt_irrefl _)
      · exact absurd (lt_of_lt_of_le hab hba) (lt_irrefl _)
    · obtain hba | ⟨_, hidba⟩ := hba
      · exact absurd (lt_of_lt_of_le hba hab) (lt_irrefl _)
      · exact ⟨hidab, hidba⟩
  exact eq_of_memoryId ha hb (le_antisymm hids.1 hids.2)

variable {unicode : UnicodeText} {store : MemoryStore α casefold} {request : MemoryCreate α}
  {now : Datetime}

def candidates (store : MemoryStore α casefold) (request : MemoryCreate α) (now : Datetime) :
    List (ValidMemory α casefold) :=
  (store.records.filter fun memory => InMemoryMemoryStore.«matches» memory.val
    (MemoryDeduplicator.candidateQuery request) now).insertionSort InMemoryMemoryStore.Earlier

variable {existing : ValidMemory α casefold}

theorem find?_candidates_eq_some :
    ((candidates store request now).find? fun memory =>
        normalizeMemoryContent unicode memory.val.content =
          normalizeMemoryContent unicode request.content) = some existing ↔
      FirstMatch unicode store request now existing := by
  have hantisymm : ∀ a ∈ store.records.filter fun memory => InMemoryMemoryStore.«matches» memory.val
      (MemoryDeduplicator.candidateQuery request) now, ∀ b ∈ store.records.filter fun memory =>
        InMemoryMemoryStore.«matches» memory.val (MemoryDeduplicator.candidateQuery request) now,
      InMemoryMemoryStore.Earlier a b → InMemoryMemoryStore.Earlier b a → a = b :=
    fun a ha b hb => earlier_antisymm (List.mem_filter.mp ha).1 (List.mem_filter.mp hb).1
  rw [candidates, SortedRecords.find?_insertionSort_eq_some earlier_total
    (fun _ _ _ => earlier_trans) hantisymm]
  simp only [List.mem_filter, decide_eq_true_eq]
  constructor
  · rintro ⟨⟨hmem, hmatches⟩, hcontent, hfirst⟩
    exact ⟨hmem, ⟨hmatches, hcontent⟩, fun other hother hduplicate =>
      hfirst other ⟨hother, hduplicate.1⟩ hduplicate.2⟩
  · intro h
    exact ⟨⟨h.mem, h.duplicate.1⟩, h.duplicate.2, fun other hother hcontent =>
      h.first other hother.1 ⟨hother.2, hcontent⟩⟩

theorem find?_candidates_eq_none :
    ((candidates store request now).find? fun memory =>
        normalizeMemoryContent unicode memory.val.content =
          normalizeMemoryContent unicode request.content) = none ↔
      ∀ other ∈ store.records, ¬IsDuplicate unicode request now other.val := by
  simp [candidates, List.find?_eq_none, List.mem_insertionSort, IsDuplicate]

variable [DecidableEq α]

theorem evaluate_eq (hutc : now.utcoffset = some 0) :
    MemoryDeduplicator.evaluate unicode store request now =
      match (candidates store request now).find? fun memory =>
          normalizeMemoryContent unicode memory.val.content =
            normalizeMemoryContent unicode request.content with
      | none => .ok .create
      | some existing =>
        if MemoryDeduplicator.updateReasons unicode request existing.val = [] then
          .ok (.keepExisting existing)
        else .ok (.updateExisting (MemoryDeduplicator.updateReasons unicode request existing.val)
          existing) := by
  have hlist : InMemoryMemoryStore.list store (MemoryDeduplicator.candidateQuery request) now =
      .ok (candidates store request now) := by
    rw [InMemoryMemoryStore.list, requireUtcValues_some.mpr hutc]
    rfl
  rw [MemoryDeduplicator.evaluate, hlist, ok_bind]
  rfl

theorem evaluate_cases {result : MemoryDeduplicationResult α casefold}
    (h : MemoryDeduplicator.evaluate unicode store request now = .ok result) :
    now.utcoffset = some 0 ∧
      ((result = .create ∧ ∀ other ∈ store.records, ¬IsDuplicate unicode request now other.val) ∨
      ∃ existing, FirstMatch unicode store request now existing ∧
        (result = .keepExisting existing ∧ AddsNothing unicode request existing.val ∨
          (∃ reasons, result = .updateExisting reasons existing) ∧
            ¬AddsNothing unicode request existing.val)) := by
  obtain ⟨hutc, _⟩ := check_bind_eq_ok.mp (bind_eq_ok.mp h).choose_spec.1
  rw [requireUtcValues_some] at hutc
  refine ⟨hutc, ?_⟩
  rw [evaluate_eq hutc] at h
  split at h
  · rename_i hnone
    cases h
    exact .inl ⟨rfl, find?_candidates_eq_none.mp hnone⟩
  · rename_i existing hfound
    refine .inr ⟨existing, find?_candidates_eq_some.mp hfound, ?_⟩
    split_ifs at h with hreasons
    · cases h
      exact .inl ⟨rfl, updateReasons_eq_nil.mp hreasons⟩
    · cases h
      exact .inr ⟨⟨_, rfl⟩, fun hadds => hreasons (updateReasons_eq_nil.mpr hadds)⟩

theorem evaluate_eq_keepExisting :
    MemoryDeduplicator.evaluate unicode store request now = .ok (.keepExisting existing) ↔
      now.utcoffset = some 0 ∧ FirstMatch unicode store request now existing ∧
        AddsNothing unicode request existing.val := by
  constructor
  · intro h
    obtain ⟨hutc, hcase⟩ := evaluate_cases h
    obtain ⟨hresult, _⟩ | ⟨found, hmatch, ⟨hresult, hadds⟩ | ⟨⟨_, hresult⟩, _⟩⟩ := hcase
    · cases hresult
    · cases hresult
      exact ⟨hutc, hmatch, hadds⟩
    · cases hresult
  · rintro ⟨hutc, hmatch, hadds⟩
    rw [evaluate_eq hutc, find?_candidates_eq_some.mpr hmatch]
    exact if_pos (updateReasons_eq_nil.mpr hadds)

end

section

variable {casefold : Casefold}

/-- What `MemoryService.create` makes of a request. -/
def createdMemory (request : MemoryCreate α) (memoryId : String) (now : Datetime) :
    MemoryRecord α :=
  { memoryId := memoryId
    kind := request.kind
    scope := request.scope
    source := request.source
    content := request.content
    subjectId := request.subjectId
    projectId := request.projectId
    sessionId := request.sessionId
    sourceReference := request.sourceReference
    tags := request.tags
    importance := request.importance
    confidence := request.confidence
    createdAt := now
    updatedAt := now
    lastAccessedAt := none
    expiresAt := request.expiresAt
    metadata := request.metadata }

theorem service_create_cases {store next : MemoryStore α casefold} {request : MemoryCreate α}
    {clock : Datetime} {memoryId : String} {memory : ValidMemory α casefold}
    (h : MemoryService.create store request clock memoryId = .ok (memory, next)) :
    memory.val = createdMemory request memoryId clock ∧
      ∃ hfresh : store.get memory.val.memoryId = none, next = store.insert memory hfresh := by
  obtain ⟨now, hnow, hcreate⟩ := bind_eq_ok.mp h
  obtain ⟨_, rfl⟩ := validatedNow_eq_ok_iff.mp hnow
  obtain ⟨_, hcreate⟩ := raiseIf_bind_eq_ok.mp hcreate
  obtain ⟨_, hcreate⟩ := raiseIf_bind_eq_ok.mp hcreate
  obtain ⟨created, hcreated, hadd⟩ := bind_eq_ok.mp hcreate
  have hval := newMemory_eq_ok hcreated
  have hmemory : memory = created := by
    unfold InMemoryMemoryStore.add at hadd
    split at hadd
    · cases hadd
    · cases hadd
      rfl
  exact ⟨by rw [hmemory, hval]; rfl, add_eq_ok hadd⟩

end

namespace DeduplicatingMemoryService

variable {service : DeduplicatingMemoryService}
  {store next : MemoryStore α service.unicode.casefold}
  {request : ValidRequest α service.unicode.casefold} {userApproved : Bool}
  {now later again : Datetime} {memoryId : String}
  {memory : ValidMemory α service.unicode.casefold}

/-- The memory that `create` returns is new, or the first duplicate as it was or merged with the
request. -/
inductive Created (service : DeduplicatingMemoryService)
    (store : MemoryStore α service.unicode.casefold) (request : MemoryCreate α)
    (now later : Datetime) (memory : ValidMemory α service.unicode.casefold) :
    MemoryStore α service.unicode.casefold → Prop
  | fresh (memoryId : String) (hfresh : store.get memory.val.memoryId = none) :
      (∀ other ∈ store.records, ¬IsDuplicate service.unicode request now other.val) →
      memory.val = createdMemory request memoryId later →
      Created service store request now later memory (store.insert memory hfresh)
  | kept : FirstMatch service.unicode store request now memory →
      AddsNothing service.unicode request memory.val →
      Created service store request now later memory store
  | merged (existing : ValidMemory α service.unicode.casefold) :
      FirstMatch service.unicode store request now existing →
      ¬AddsNothing service.unicode request existing.val →
      memory.val = mergedMemory request existing.val later →
      Created service store request now later memory (store.replace memory)

theorem mem_replace_iff {existing other : ValidMemory α service.unicode.casefold}
    (hmem : existing ∈ store.records) (hid : memory.val.memoryId = existing.val.memoryId) :
    other ∈ (store.replace memory).records ↔
      other = memory ∨ other ∈ store.records ∧ other.val.memoryId ≠ existing.val.memoryId := by
  have hne : store.get memory.val.memoryId ≠ none := by
    rw [hid, KeyedStore.get_of_mem hmem]
    exact Option.some_ne_none existing
  rw [KeyedStore.mem_replace_iff hne, hid]

/-- Two memories that the store must not hold at the same time. -/
def SameMemory (unicode : UnicodeText) (a b : MemoryRecord α) : Prop :=
  a.owner = b.owner ∧
    normalizeMemoryContent unicode a.content = normalizeMemoryContent unicode b.content

def DuplicateFree (unicode : UnicodeText) {casefold : Casefold} (store : MemoryStore α casefold)
    (time : Datetime) : Prop :=
  ∀ a ∈ store.records, ∀ b ∈ store.records, a.val.Alive time → b.val.Alive time →
    SameMemory unicode a.val b.val → a = b

variable {unicode : UnicodeText}

theorem isDuplicate_of_sameMemory {request : MemoryCreate α} {memory other : MemoryRecord α}
    (hkind : memory.kind = request.kind) (hscope : memory.scope = request.scope)
    (hsource : memory.source = request.source) (hsubject : memory.subjectId = request.subjectId)
    (hproject : memory.projectId = request.projectId)
    (hsession : memory.sessionId = request.sessionId) (hcontent : memory.content = request.content)
    (hsame : SameMemory unicode memory other) (halive : other.Alive now) :
    IsDuplicate unicode request now other := by
  obtain ⟨howner, hnormalized⟩ := hsame
  simp only [MemoryRecord.owner, MemoryOwner.mk.injEq] at howner
  obtain ⟨hkind', hscope', hsource', hsubject', hproject', hsession'⟩ := howner
  refine ⟨matches_candidateQuery.mpr ⟨halive, ⟨?_, ?_, ?_⟩, .inr ?_, .inr ?_, .inr ?_⟩, ?_⟩
  · rw [← hkind', hkind]
  · rw [← hscope', hscope]
  · rw [← hsource', hsource]
  · rw [← hsubject', hsubject]
  · rw [← hproject', hproject]
  · rw [← hsession', hsession]
  · rw [← hnormalized, hcontent]

theorem SameMemory.symm {a b : MemoryRecord α}
    (h : SameMemory unicode a b) : SameMemory unicode b a := ⟨h.1.symm, h.2.symm⟩

variable {casefold : Casefold} {time : Datetime}

/-- A memory that is added or changed keeps the store free of duplicates when nothing else in the
store is the same. -/
theorem duplicateFree_of_only
    {store next : MemoryStore α casefold} (memory : ValidMemory α casefold)
    (h : DuplicateFree unicode store time)
    (hnext : ∀ other ∈ next.records, other = memory ∨ other ∈ store.records ∧
      (other.val.Alive time → ¬SameMemory unicode memory.val other.val)) :
    DuplicateFree unicode next time := by
  intro a ha b hb haliveA haliveB hsame
  obtain rfl | ⟨ha, hother⟩ := hnext a ha
  · obtain rfl | ⟨_, hother⟩ := hnext b hb
    · rfl
    · exact absurd hsame (hother haliveB)
  · obtain rfl | ⟨hb, _⟩ := hnext b hb
    · exact absurd hsame.symm (hother haliveA)
    · exact h a ha b hb haliveA haliveB hsame

theorem Created.duplicateFree (h : Created service store request.val now later memory next)
    (hfree : ∀ time, now ≤ time → DuplicateFree service.unicode store time)
    (hle : now ≤ time) : DuplicateFree service.unicode next time := by
  cases h with
  | fresh memoryId hfresh hnone hval =>
    refine duplicateFree_of_only memory (hfree time hle) ?_
    intro other hother
    obtain hother | rfl := KeyedStore.mem_insert.mp hother
    · refine .inr ⟨hother, fun halive hsame => hnone other hother ?_⟩
      rw [hval] at hsame
      exact isDuplicate_of_sameMemory rfl rfl rfl rfl rfl rfl rfl hsame (halive.earlier hle)
    · exact .inl rfl
  | kept => exact hfree time hle
  | merged existing hmatch _ hval =>
    refine duplicateFree_of_only memory (hfree time hle) ?_
    intro other hother
    have hid : memory.val.memoryId = existing.val.memoryId := by rw [hval]; rfl
    obtain rfl | ⟨hother, hne⟩ := (mem_replace_iff hmatch.mem hid).mp hother
    · exact .inl rfl
    · refine .inr ⟨hother, fun halive hsame => hne ?_⟩
      have hexisting : SameMemory service.unicode existing.val other.val := by
        rw [hval] at hsame
        exact hsame
      have hduplicate : existing.val.Alive now :=
        (isDuplicate_later hmatch.duplicate).mp hmatch.duplicate
      rw [hfree now le_rfl existing hmatch.mem other hother hduplicate (halive.earlier hle)
        hexisting]

/-! ## The request again -/

/-- What a call leaves does not expire before the request is made again, and a request that is
merged has no metadata of its own or has every name that the memory has. -/
structure Settles (service : DeduplicatingMemoryService)
    (store : MemoryStore α service.unicode.casefold) (request : MemoryCreate α)
    (now again : Datetime) : Prop where
  utc : again.utcoffset = some 0
  fresh : (∀ other ∈ store.records, ¬IsDuplicate service.unicode request now other.val) →
    ∀ expires ∈ request.expiresAt, again < expires
  kept : ∀ existing, FirstMatch service.unicode store request now existing →
    AddsNothing service.unicode request existing.val →
      ∀ expires ∈ existing.val.expiresAt, again < expires
  merged : ∀ existing, FirstMatch service.unicode store request now existing →
    ¬AddsNothing service.unicode request existing.val →
      (∀ expires ∈ (request.expiresAt <|> existing.val.expiresAt), again < expires) ∧
      (request.metadata = ∅ ∨ ∀ name ∈ existing.val.metadata, name ∈ request.metadata)

theorem firstMatch_unique {store : MemoryStore α casefold} {request : MemoryCreate α}
    {now : Datetime} {first second : ValidMemory α casefold}
    (hfirst : FirstMatch unicode store request now first)
    (hsecond : FirstMatch unicode store request now second) : first = second :=
  earlier_antisymm hfirst.mem hsecond.mem (hfirst.first second hsecond.mem hsecond.duplicate)
    (hsecond.first first hfirst.mem hfirst.duplicate)

theorem addsNothing_createdMemory (unicode : UnicodeText) (request : MemoryCreate α)
    (memoryId : String) (time : Datetime) :
    AddsNothing unicode request (createdMemory request memoryId time) where
  importance := le_refl _
  confidence := le_refl _
  tags := List.Subset.refl _
  metadata := .inr rfl
  lifetime := fun expires hexpires => ⟨expires, hexpires, le_refl expires⟩

theorem addsNothing_mergedMemory {request : MemoryCreate α} {existing : MemoryRecord α} :
    AddsNothing unicode request (mergedMemory request existing time) ↔
      request.metadata = ∅ ∨ ∀ name ∈ existing.metadata, name ∈ request.metadata := by
  have hmetadata : request.metadata = request.metadata ∪ existing.metadata ↔
      ∀ name ∈ existing.metadata, name ∈ request.metadata := by
    constructor
    · intro h name hname
      rw [h]
      exact Finmap.mem_union.mpr (.inr hname)
    · intro h
      refine Finmap.ext_lookup fun name => ?_
      by_cases hname : name ∈ request.metadata
      · rw [Finmap.lookup_union_left hname]
      · rw [Finmap.lookup_union_right hname, Finmap.lookup_eq_none.mpr hname,
          Finmap.lookup_eq_none.mpr fun hexisting => hname (h name hexisting)]
  rw [← hmetadata]
  constructor
  · exact fun h => h.metadata
  · intro h
    exact {
      importance := le_max_right _ _
      confidence := le_max_right _ _
      tags := fun tag htag => mem_normalizeMemoryTags_mergedTags.mpr (.inr htag)
      metadata := h
      lifetime := fun expires hexpires => ⟨expires, mem_orElse.mpr (.inl hexpires), le_refl _⟩ }

theorem firstMatch_later {store next : MemoryStore α casefold} {request : MemoryCreate α}
    {existing memory : ValidMemory α casefold} (h : FirstMatch unicode store request now existing)
    (hle : now ≤ again) (hmem : memory ∈ next.records)
    (hid : memory.val.memoryId = existing.val.memoryId)
    (hcreated : memory.val.createdAt = existing.val.createdAt)
    (hduplicate : IsDuplicate unicode request again memory.val ↔ memory.val.Alive again)
    (hnext : ∀ other ∈ next.records, other = memory ∨ other ∈ store.records) :
    FirstMatch unicode next request again memory ↔ memory.val.Alive again := by
  refine ⟨fun hmatch => hduplicate.mp hmatch.duplicate, fun halive => ?_⟩
  refine ⟨hmem, hduplicate.mpr halive, fun other hother hagain => ?_⟩
  obtain rfl | hother := hnext other hother
  · exact (earlier_total other other).elim id id
  · have hearlier := h.first other hother (hagain.earlier hle)
    rwa [InMemoryMemoryStore.Earlier, hid, hcreated]

variable [DecidableEq α]

theorem create_cases
    (h : service.create store request.val userApproved now later memoryId = .ok (memory, next)) :
    (∃ allowed, service.policy.ensureAllowed request.val userApproved = .ok allowed) ∧
      Created service store request.val now later memory next := by
  obtain ⟨allowed, hallowed, hread⟩ := bind_eq_ok.mp h
  obtain ⟨validNow, hnow, hsearch⟩ := bind_eq_ok.mp hread
  obtain ⟨_, rfl⟩ := validatedNow_eq_ok_iff.mp hnow
  obtain ⟨result, hresult, hwrite⟩ := bind_eq_ok.mp hsearch
  refine ⟨⟨allowed, hallowed⟩, ?_⟩
  obtain ⟨_, ⟨rfl, hnone⟩ | ⟨existing, hmatch, ⟨rfl, hadds⟩ | ⟨⟨reasons, rfl⟩, hadds⟩⟩⟩ :=
    evaluate_cases hresult
  · obtain ⟨hval, hfresh, rfl⟩ := service_create_cases hwrite
    exact .fresh memoryId hfresh hnone hval
  · cases hwrite
    exact .kept hmatch hadds
  · obtain ⟨_, _, hupdate⟩ := bind_eq_ok.mp hwrite
    obtain ⟨_, _, hval, rfl⟩ := (service_update_mergedUpdate hmatch.mem).mp hupdate
    exact .merged existing hmatch hadds hval

/-- The request, when it is made again, is reported as a duplicate of `memory` and changes
nothing. -/
structure RepeatKept (service : DeduplicatingMemoryService)
    (store : MemoryStore α service.unicode.casefold) (request : MemoryCreate α)
    (userApproved : Bool) (again : Datetime) (memory : ValidMemory α service.unicode.casefold) :
    Prop where
  reported : MemoryDeduplicator.evaluate service.unicode store request again =
    .ok (.keepExisting memory)
  unchanged : ∀ later memoryId, service.create store request userApproved again later memoryId =
    .ok (memory, store)

theorem repeatKept_iff (h : ∃ allowed, service.policy.ensureAllowed request.val userApproved =
    .ok allowed) :
    RepeatKept service store request.val userApproved again memory ↔
      again.utcoffset = some 0 ∧ FirstMatch service.unicode store request.val again memory ∧
        AddsNothing service.unicode request.val memory.val := by
  rw [← evaluate_eq_keepExisting]
  refine ⟨RepeatKept.reported, fun hkept => ⟨hkept, fun later memoryId => ?_⟩⟩
  obtain ⟨allowed, hallowed⟩ := h
  have hutc := (evaluate_eq_keepExisting.mp hkept).1
  rw [DeduplicatingMemoryService.create, hallowed, ok_bind,
    validatedNow_eq_ok_iff.mpr ⟨hutc, rfl⟩, ok_bind, hkept, ok_bind]
  rfl

theorem Created.repeatKept_iff (h : Created service store request.val now later memory next)
    (hallowed : ∃ allowed, service.policy.ensureAllowed request.val userApproved = .ok allowed)
    (hnow : now ≤ again) :
    RepeatKept service next request.val userApproved again memory ↔
      Settles service store request.val now again := by
  rw [DeduplicatingMemoryService.repeatKept_iff hallowed]
  cases h with
  | fresh memoryId hfresh hnone hval =>
    have hduplicate : IsDuplicate service.unicode request.val again memory.val ↔
        memory.val.Alive again := by
      rw [IsDuplicate, matches_candidateQuery, hval]
      simp [createdMemory, Admits, MemoryRecord.Alive]
    have hmatch : FirstMatch service.unicode (store.insert memory hfresh) request.val again memory ↔
        memory.val.Alive again := by
      refine ⟨fun hmatch => hduplicate.mp hmatch.duplicate, fun halive => ?_⟩
      refine ⟨KeyedStore.mem_insert.mpr (.inr rfl), hduplicate.mpr halive, ?_⟩
      intro other hother hagain
      obtain hother | rfl := KeyedStore.mem_insert.mp hother
      · exact absurd (hagain.earlier hnow) (hnone other hother)
      · exact (earlier_total other other).elim id id
    have hadds : AddsNothing service.unicode request.val memory.val := by
      rw [hval]
      exact addsNothing_createdMemory service.unicode request.val memoryId later
    rw [hmatch, MemoryRecord.Alive, hval]
    constructor
    · rintro ⟨hutc, halive, _⟩
      exact ⟨hutc, fun _ => halive, fun existing hmatch => absurd hmatch.duplicate
        (hnone existing hmatch.mem), fun existing hmatch => absurd hmatch.duplicate
        (hnone existing hmatch.mem)⟩
    · intro hsettles
      exact ⟨hsettles.utc, hsettles.fresh hnone, hval ▸ hadds⟩
  | kept hfirst hadds =>
    rw [firstMatch_later hfirst hnow hfirst.mem rfl rfl (isDuplicate_later hfirst.duplicate)
      fun other hother => .inr hother]
    constructor
    · rintro ⟨hutc, halive, _⟩
      refine ⟨hutc, fun hnone => absurd hfirst.duplicate (hnone memory hfirst.mem), ?_, ?_⟩
      · intro existing hmatch _
        rw [firstMatch_unique hmatch hfirst]
        exact halive
      · intro existing hmatch hnot
        rw [firstMatch_unique hmatch hfirst] at hnot
        exact absurd hadds hnot
    · exact fun hsettles => ⟨hsettles.utc, hsettles.kept memory hfirst hadds, hadds⟩
  | merged existing hfirst hadds hval =>
    have hid : memory.val.memoryId = existing.val.memoryId := by rw [hval]; rfl
    have hcreated : memory.val.createdAt = existing.val.createdAt := by rw [hval]; rfl
    have hmem := (mem_replace_iff hfirst.mem hid).mpr (.inl (rfl : memory = memory))
    have hduplicate : IsDuplicate service.unicode request.val again memory.val ↔
        memory.val.Alive again := by
      have hmatches := hfirst.duplicate
      rw [IsDuplicate, matches_candidateQuery] at hmatches ⊢
      rw [hval]
      exact ⟨fun h => h.1.1, fun halive => ⟨⟨halive, hmatches.1.2⟩, hmatches.2⟩⟩
    rw [firstMatch_later hfirst hnow hmem hid hcreated hduplicate fun other hother =>
      ((mem_replace_iff hfirst.mem hid).mp hother).imp_right And.left]
    rw [hval, addsNothing_mergedMemory, MemoryRecord.Alive]
    constructor
    · rintro ⟨hutc, halive, hmetadata⟩
      refine ⟨hutc, fun hnone => absurd hfirst.duplicate (hnone existing hfirst.mem), ?_, ?_⟩
      · intro other hmatch hother
        rw [firstMatch_unique hmatch hfirst] at hother
        exact absurd hother hadds
      · intro other hmatch _
        rw [firstMatch_unique hmatch hfirst]
        exact ⟨halive, hmetadata⟩
    · exact fun hsettles => ⟨hsettles.utc, hsettles.merged existing hfirst hadds⟩

/-- A call of `create`, with what the clock and the generator of ids return to it. -/
structure Call (α : Type) (casefold : Casefold) where
  request : ValidRequest α casefold
  userApproved : Bool
  now : Datetime
  later : Datetime
  memoryId : String

structure State (α : Type) (casefold : Casefold) where
  store : MemoryStore α casefold
  time : Datetime

def Call.create (service : DeduplicatingMemoryService)
    (call : Call α service.unicode.casefold) (store : MemoryStore α service.unicode.casefold) :
    Except Raised (ValidMemory α service.unicode.casefold ×
      MemoryStore α service.unicode.casefold) :=
  service.create store call.request.val call.userApproved call.now call.later call.memoryId

def step (service : DeduplicatingMemoryService) (s : State α service.unicode.casefold)
    (call : Call α service.unicode.casefold) : State α service.unicode.casefold :=
  match call.create service s.store with
  | .ok (_, next) => ⟨next, call.later⟩
  | .error _ => ⟨s.store, call.later⟩

def InOrder {casefold : Casefold} (s : State α casefold) (call : Call α casefold) : Prop :=
  s.time ≤ call.now ∧ call.now ≤ call.later

abbrev Reached (service : DeduplicatingMemoryService) (started : Datetime)
    (s : State α service.unicode.casefold) : Prop :=
  Reachable (step service) InOrder ⟨KeyedStore.empty, started⟩ s

theorem Reached.duplicateFree {started : Datetime} {s : State α service.unicode.casefold}
    (h : Reached service started s) (hle : s.time ≤ time) :
    DuplicateFree service.unicode s.store time := by
  refine h.invariant (fun s => ∀ time, s.time ≤ time → DuplicateFree service.unicode s.store time)
    ?_ ?_ time hle
  · intro time _ a ha
    exact absurd ha List.not_mem_nil
  · intro s call hfree horder time hle
    cases hcreate : call.create service s.store with
    | error failure =>
      rw [step, hcreate] at hle ⊢
      exact hfree time (le_trans horder.1 (le_trans horder.2 hle))
    | ok saved =>
      rw [step, hcreate] at hle ⊢
      have hnow : ∀ time, call.now ≤ time → DuplicateFree service.unicode s.store time :=
        fun time hle => hfree time (le_trans horder.1 hle)
      exact (create_cases hcreate).2.duplicateFree hnow (le_trans horder.2 hle)

/-- In every run the store is free of duplicates, and a call that succeeds finds the memory that
it has returned when it is repeated, exactly for the calls that settle. -/
theorem run_repeatKept_iff (service : DeduplicatingMemoryService) (started : Datetime)
    (s : State α service.unicode.casefold) (h : Reached service started s) :
    (∀ time, s.time ≤ time → DuplicateFree service.unicode s.store time) ∧
    ∀ (call : Call α service.unicode.casefold) memory next again, InOrder s call →
      call.create service s.store = .ok (memory, next) → call.later ≤ again →
        (RepeatKept service next call.request.val call.userApproved again memory ↔
          Settles service s.store call.request.val call.now again) := by
  refine ⟨fun time => h.duplicateFree, fun call memory next again horder hcreate hagain => ?_⟩
  obtain ⟨hallowed, hcreated⟩ := create_cases hcreate
  exact hcreated.repeatKept_iff hallowed (le_trans horder.2 hagain)

def notedRequest (name : String) : ValidRequest Unit asciiCasefold :=
  ⟨{ teaRequest.val with metadata := Finmap.singleton name () }, teaRequest.property⟩

def notedCall (name : String) (now later : Datetime) : Call Unit asciiCasefold :=
  ⟨notedRequest name, false, now, later, "memory-001"⟩

def teaStart : State Unit asciiCasefold := ⟨KeyedStore.empty, firstTime⟩

example : (step asciiMemoryService teaStart
    (notedCall "a" firstTime firstTime)).store.records.length = 1 := by decide +kernel

theorem run_repeatKept_noted_iff :
    ∃ memory next, (notedCall "a" firstTime firstTime).create asciiMemoryService teaStart.store =
        .ok (memory, next) ∧
      (RepeatKept asciiMemoryService next (notedRequest "a").val false secondTime memory ↔
        Settles asciiMemoryService teaStart.store (notedRequest "a").val firstTime secondTime) := by
  have hcreated : ((notedCall "a" firstTime firstTime).create asciiMemoryService
      teaStart.store).toOption.isSome = true := by decide +kernel
  cases hcreate : (notedCall "a" firstTime firstTime).create asciiMemoryService teaStart.store with
  | error failure =>
    rw [hcreate] at hcreated
    cases hcreated
  | ok saved =>
    have hrun := run_repeatKept_iff asciiMemoryService firstTime teaStart .start
    exact ⟨saved.1, saved.2, rfl, hrun.2 (notedCall "a" firstTime firstTime) saved.1 saved.2
      secondTime ⟨le_refl firstTime, le_refl firstTime⟩ hcreate (by decide)⟩

/-- Two requests for the same with different notes: the second is merged into the first every time
that it is made. -/
theorem repeat_not_kept :
    ¬∀ (started : Datetime) (s : State Unit asciiCasefold), Reached asciiMemoryService started s →
      ∀ (call : Call Unit asciiCasefold) memory next again, InOrder s call →
        call.create asciiMemoryService s.store = .ok (memory, next) → call.later ≤ again →
          (∀ expires ∈ memory.val.expiresAt, again < expires) →
            RepeatKept asciiMemoryService next call.request.val call.userApproved again memory := by
  intro h
  let s := step asciiMemoryService teaStart (notedCall "a" firstTime firstTime)
  have hs : Reached asciiMemoryService firstTime s :=
    .step .start ⟨le_refl firstTime, le_refl firstTime⟩
  have hreasons : ((notedCall "b" firstTime firstTime).create asciiMemoryService
      s.store).toOption.map (fun saved => (saved.1.val.expiresAt,
        MemoryDeduplicator.updateReasons asciiMemoryService.unicode (notedRequest "b").val
          saved.1.val)) = some (none, [.metadataChanged]) := by decide +kernel
  have htime : s.time = firstTime := by decide +kernel
  cases hcreate : (notedCall "b" firstTime firstTime).create asciiMemoryService s.store with
  | error failure =>
    rw [hcreate] at hreasons
    cases hreasons
  | ok saved =>
    rw [hcreate] at hreasons
    obtain ⟨hexpires, hreasons⟩ := Prod.mk.inj (Option.some.inj hreasons)
    have hunexpired : ∀ expires ∈ saved.1.val.expiresAt, firstTime < expires := by
      rw [hexpires]
      intro expires hmem
      cases hmem
    have hkept := (h firstTime s hs (notedCall "b" firstTime firstTime) saved.1 saved.2 firstTime
      ⟨htime.le, le_refl firstTime⟩ hcreate (le_refl firstTime) hunexpired).reported
    have hadds := updateReasons_eq_nil.mpr (evaluate_eq_keepExisting.mp hkept).2.2
    exact absurd (hreasons.symm.trans hadds) (by decide)

end DeduplicatingMemoryService

end AgenticLab
