import AgenticLab.Library.SortedRecords
import AgenticLab.Verification.Research.VectorIndexUpdates
import Mathlib.Data.String.Basic

/-! # The lifecycle of a vector index is a map that counts its generations -/

namespace AgenticLab.PersistentVectorIndexLifecycle

open Runs (Reachable)
open SortedRecords (Sorted contents)

variable {α : Type} {casefold : Casefold}

/-! ## The map -/

/-- The purpose of an index: a map from case-insensitive identities to records, with the number of
its changes. -/
structure IndexSpec (α : Type) where
  indexId : String
  generation : ℕ
  embeddingModel : String
  embeddingDimensions : ℕ
  createdAt : Datetime
  contents : String → Option (EmbeddedDocumentChunk α)

open Classical in
noncomputable def IndexSpec.put (index : IndexSpec α)
    (next : String → Option (EmbeddedDocumentChunk α)) : IndexSpec α :=
  if next = index.contents then index
  else { index with generation := index.generation + 1, contents := next }

noncomputable def specify (casefold : Casefold) (index : Option (IndexSpec α)) :
    Call α → Option (IndexSpec α)
  | .create indexId embeddingModel embeddingDimensions records clock =>
    some ⟨indexId, 1, embeddingModel, embeddingDimensions, clock, contents (key casefold) records⟩
  | .upsert records _ => index.map fun index =>
    index.put fun k => contents (key casefold) records k <|> index.contents k
  | .delete chunkIds _ => index.map fun index =>
    index.put fun k => if k ∉ chunkIds.map casefold then index.contents k else none

def Fitting (casefold : Casefold) (embeddingModel : String) (embeddingDimensions : ℕ)
    (records : List (EmbeddedDocumentChunk α)) : Prop :=
  (records.map (key casefold)).Nodup ∧
    ∀ item ∈ records, item.modelName = embeddingModel ∧ item.dimensions = embeddingDimensions

def Acceptable (casefold : Casefold) (stored : Stored α) : Call α → Prop
  | .create indexId embeddingModel embeddingDimensions records clock =>
    stored = none ∧ isBlank indexId = false ∧ isBlank embeddingModel = false ∧
      embeddingDimensions ≠ 0 ∧ clock.isNaive = false ∧
      Fitting casefold embeddingModel embeddingDimensions records
  | .upsert records clock => ∃ current ∈ stored, clock.isNaive = false ∧
      Fitting casefold current.embeddingModel current.embeddingDimensions records
  | .delete chunkIds clock => stored.isSome = true ∧ clock.isNaive = false ∧
      ∀ chunkId ∈ chunkIds, isBlank chunkId = false

def Call.clock : Call α → Datetime
  | .create _ _ _ _ clock => clock
  | .upsert _ clock => clock
  | .delete _ clock => clock

def OrderedAlike (casefold : Casefold) (records : List (EmbeddedDocumentChunk α)) : Prop :=
  ∀ a ∈ records, ∀ b ∈ records, key casefold a < key casefold b →
    strippedKey casefold a < strippedKey casefold b

/-- The condition on a call: its records, and the stored ones that it does not replace, are ordered
alike. -/
def CallOrderedAlike (casefold : Casefold) (stored : Stored α) : Call α → Prop
  | .create _ _ _ records _ => OrderedAlike casefold records
  | .upsert records _ => ∀ current ∈ stored, OrderedAlike casefold
      (records ++ current.records.filter fun item => key casefold item ∉ records.map (key casefold))
  | .delete _ _ => True

/-- What `validate_content` asks for. -/
structure ValidContent (casefold : Casefold) (content : PersistentVectorIndexSnapshot α) :
    Prop where
  generation : 1 ≤ content.generation
  dimensions : content.embeddingDimensions ≠ 0
  indexId : isBlank content.indexId = false
  model : isBlank content.embeddingModel = false
  createdAware : content.createdAt.isNaive = false
  updatedAware : content.updatedAt.isNaive = false
  times : content.createdAt ≤ content.updatedAt
  ordered : Sorted (strippedKey casefold) content.records
  fitting : ∀ item ∈ content.records,
    item.modelName = content.embeddingModel ∧ item.dimensions = content.embeddingDimensions

variable {records : List (EmbeddedDocumentChunk α)}

theorem validateRecords_eq_ok {embeddingModel : String} {embeddingDimensions : ℕ} :
    validateRecords embeddingModel embeddingDimensions records = .ok () ↔ ∀ item ∈ records,
      item.modelName = embeddingModel ∧ item.dimensions = embeddingDimensions := by
  induction records with
  | nil => simp [validateRecords]
  | cons item rest ih =>
    rw [validateRecords, raiseIf_bind_eq_ok, raiseIf_bind_eq_ok, ih]
    simp [and_assoc]

variable {content : PersistentVectorIndexSnapshot α}

theorem validateCompatibility_eq_ok :
    validateCompatibility content records = .ok () ↔ ∀ item ∈ records,
      item.modelName = content.embeddingModel ∧ item.dimensions = content.embeddingDimensions := by
  induction records with
  | nil => simp [validateCompatibility]
  | cons item rest ih =>
    rw [validateCompatibility, raiseIf_bind_eq_ok, raiseIf_bind_eq_ok, ih]
    simp [and_assoc]

theorem sorted_strippedKey_iff :
    Sorted (strippedKey casefold) records ↔
      (records.map (strippedKey casefold)).Nodup ∧ records.map (strippedKey casefold) =
        (records.map (strippedKey casefold)).insertionSort (· ≤ ·) := by
  constructor
  · intro h
    refine ⟨h.nodup_keys, (List.Pairwise.insertionSort_eq ?_).symm⟩
    exact List.pairwise_map.mpr (h.imp fun hlt => hlt.le)
  · rintro ⟨hnodup, hsorted⟩
    refine SortedRecords.sorted_of_nodup (List.pairwise_map.mp ?_) hnodup
    rw [hsorted]
    exact List.pairwise_insertionSort _ _

theorem ValidContent.of_newContent {content snapshot : PersistentVectorIndexSnapshot α}
    (h : newContent casefold content = .ok snapshot) : ValidContent casefold content := by
  obtain ⟨hgeneration, h⟩ := raiseIf_bind_eq_ok.mp h
  obtain ⟨hdimensions, h⟩ := raiseIf_bind_eq_ok.mp h
  obtain ⟨hindexId, h⟩ := raiseIf_bind_eq_ok.mp h
  obtain ⟨hmodel, h⟩ := raiseIf_bind_eq_ok.mp h
  obtain ⟨hcreated, h⟩ := raiseIf_bind_eq_ok.mp h
  obtain ⟨hupdated, h⟩ := raiseIf_bind_eq_ok.mp h
  obtain ⟨htimes, h⟩ := raiseIf_bind_eq_ok.mp h
  obtain ⟨hnodup, h⟩ := raiseIf_bind_eq_ok.mp h
  obtain ⟨horder, h⟩ := raiseIf_bind_eq_ok.mp h
  obtain ⟨_, hrecords, _⟩ := bind_eq_ok.mp h
  exact
    { generation := not_lt.mp hgeneration
      dimensions := hdimensions
      indexId := Bool.not_eq_true _ ▸ hindexId
      model := Bool.not_eq_true _ ▸ hmodel
      createdAware := Bool.not_eq_true _ ▸ hcreated
      updatedAware := Bool.not_eq_true _ ▸ hupdated
      times := Datetime.not_lt.mp htimes
      ordered := sorted_strippedKey_iff.mpr ⟨not_not.mp hnodup, not_not.mp horder⟩
      fitting := validateRecords_eq_ok.mp hrecords }

theorem ValidContent.newContent
    (h : ValidContent casefold content) : newContent casefold content = .ok content := by
  obtain ⟨hnodup, horder⟩ := sorted_strippedKey_iff.mp h.ordered
  refine raiseIf_bind_eq_ok.mpr ⟨not_lt.mpr h.generation, ?_⟩
  refine raiseIf_bind_eq_ok.mpr ⟨h.dimensions, ?_⟩
  refine raiseIf_bind_eq_ok.mpr ⟨by simp [h.indexId], ?_⟩
  refine raiseIf_bind_eq_ok.mpr ⟨by simp [h.model], ?_⟩
  refine raiseIf_bind_eq_ok.mpr ⟨by simp [h.createdAware], ?_⟩
  refine raiseIf_bind_eq_ok.mpr ⟨by simp [h.updatedAware], ?_⟩
  refine raiseIf_bind_eq_ok.mpr ⟨Datetime.not_lt.mpr h.times, ?_⟩
  refine raiseIf_bind_eq_ok.mpr ⟨not_not.mpr hnodup, ?_⟩
  refine raiseIf_bind_eq_ok.mpr ⟨not_not.mpr horder, ?_⟩
  exact bind_eq_ok.mpr ⟨(), validateRecords_eq_ok.mpr h.fitting, rfl⟩

theorem mem_sortedByKey {item : EmbeddedDocumentChunk α} :
    item ∈ sortedByKey casefold records ↔ item ∈ records := List.mem_insertionSort _

theorem sorted_sortedByKey (h : (records.map (key casefold)).Nodup) :
    Sorted (key casefold) (sortedByKey casefold records) :=
  SortedRecords.sorted_insertionSort h

theorem contents_sortedByKey (h : (records.map (key casefold)).Nodup) :
    contents (key casefold) (sortedByKey casefold records) = contents (key casefold) records := by
  funext k
  apply Option.ext
  intro item
  rw [SortedRecords.contents_eq_some h,
    SortedRecords.contents_eq_some (sorted_sortedByKey h).nodup_keys, mem_sortedByKey]

theorem setItem_spec (records : List (EmbeddedDocumentChunk α)) (item : EmbeddedDocumentChunk α)
    (h : (records.map (key casefold)).Nodup) :
    ((setItem casefold records item).map (key casefold)).Nodup ∧
      ∀ k, contents (key casefold) (setItem casefold records item) k =
        if key casefold item = k then some item else contents (key casefold) records k := by
  let store : KeyedStore String (EmbeddedDocumentChunk α) (key casefold) := ⟨records, h⟩
  by_cases hany : (records.any fun other => key casefold other = key casefold item) = true
  · have hset : setItem casefold records item = (store.replace item).records := if_pos hany
    have hstored : store.get (key casefold item) ≠ none := by
      rw [Ne, KeyedStore.get_eq_none]
      intro hnone
      obtain ⟨other, hmem, hkey⟩ := List.any_eq_true.mp hany
      exact hnone other hmem (of_decide_eq_true hkey)
    rw [hset]
    refine ⟨(store.replace item).nodup, fun k => ?_⟩
    have hget := KeyedStore.get_replace hstored k
    simp only [eq_comm (a := k)] at hget
    exact hget
  · have hfresh : store.get (key casefold item) = none := by
      rw [KeyedStore.get_eq_none]
      intro other hmem hkey
      exact hany (List.any_eq_true.mpr ⟨other, hmem, decide_eq_true hkey⟩)
    have hset : setItem casefold records item = (store.insert item hfresh).records := if_neg hany
    rw [hset]
    refine ⟨(store.insert item hfresh).nodup, fun k => ?_⟩
    have hget := KeyedStore.get_insert hfresh k
    simp only [eq_comm (a := k)] at hget
    exact hget

theorem foldl_setItem_spec (items records : List (EmbeddedDocumentChunk α))
    (hitems : (items.map (key casefold)).Nodup) (hrecords : (records.map (key casefold)).Nodup) :
    ((items.foldl (setItem casefold) records).map (key casefold)).Nodup ∧
      ∀ k, contents (key casefold) (items.foldl (setItem casefold) records) k =
        (contents (key casefold) items k <|> contents (key casefold) records k) := by
  induction items generalizing records with
  | nil => exact ⟨hrecords, fun _ => rfl⟩
  | cons item items ih =>
    obtain ⟨hfresh, hrest⟩ := List.nodup_cons.mp hitems
    obtain ⟨hset, hcontents⟩ := setItem_spec records item hrecords
    obtain ⟨hnodup, hlater⟩ := ih (setItem casefold records item) hrest hset
    refine ⟨hnodup, fun k => ?_⟩
    rw [List.foldl_cons, hlater, hcontents, SortedRecords.contents_cons]
    by_cases hk : key casefold item = k
    · rw [if_pos hk, if_pos hk, SortedRecords.contents_eq_none (hk ▸ hfresh)]
      rfl
    · rw [if_neg hk, if_neg hk]

def mergedRecords (casefold : Casefold) (current records : List (EmbeddedDocumentChunk α)) :
    List (EmbeddedDocumentChunk α) :=
  sortedByKey casefold ((current ++ sortedByKey casefold records).foldl (setItem casefold) [])

section

variable {current records : List (EmbeddedDocumentChunk α)}
  (hcurrent : Sorted (key casefold) current) (hrecords : (records.map (key casefold)).Nodup)

include hcurrent hrecords

theorem merged_spec :
    Sorted (key casefold) (mergedRecords casefold current records) ∧
      ∀ k, contents (key casefold) (mergedRecords casefold current records) k =
        (contents (key casefold) records k <|> contents (key casefold) current k) := by
  have hincoming := (sorted_sortedByKey hrecords).nodup_keys
  obtain ⟨hfirst, hold⟩ := foldl_setItem_spec current [] hcurrent.nodup_keys List.nodup_nil
  obtain ⟨hmerged, hnew⟩ := foldl_setItem_spec (sortedByKey casefold records)
    (current.foldl (setItem casefold) []) hincoming hfirst
  rw [← List.foldl_append] at hmerged hnew
  refine ⟨sorted_sortedByKey hmerged, fun k => ?_⟩
  have hempty : contents (key casefold) ([] : List (EmbeddedDocumentChunk α)) k = none := rfl
  rw [mergedRecords, contents_sortedByKey hmerged, hnew, hold, contents_sortedByKey hrecords,
    hempty]
  cases contents (key casefold) current k <;> rfl

theorem mem_merged {item : EmbeddedDocumentChunk α}
    (h : item ∈ mergedRecords casefold current records) :
    item ∈ records ++
      current.filter fun item => key casefold item ∉ records.map (key casefold) := by
  obtain ⟨hsorted, hcontents⟩ := merged_spec hcurrent hrecords
  have hitem := (SortedRecords.contents_eq_some hsorted.nodup_keys).mpr ⟨h, rfl⟩
  rw [hcontents] at hitem
  cases hnew : contents (key casefold) records (key casefold item) with
  | some other =>
    rw [hnew] at hitem
    cases hitem
    exact List.mem_append_left _ ((SortedRecords.contents_eq_some hrecords).mp hnew).1
  | none =>
    rw [hnew] at hitem
    have hold := (SortedRecords.contents_eq_some hcurrent.nodup_keys).mp hitem
    refine List.mem_append_right _ (List.mem_filter.mpr ⟨hold.1, decide_eq_true ?_⟩)
    intro hmem
    obtain ⟨other, hother, hkey⟩ := List.mem_map.mp hmem
    rw [(SortedRecords.contents_eq_some hrecords).mpr ⟨hother, hkey⟩] at hnew
    cases hnew

end

theorem normalizeChunkIds_eq_ok {chunkIds normalized : List String} :
    normalizeChunkIds casefold chunkIds = .ok normalized ↔
      (∀ chunkId ∈ chunkIds, isBlank chunkId = false) ∧ normalized = chunkIds.map casefold := by
  induction chunkIds generalizing normalized with
  | nil =>
    rw [normalizeChunkIds, Except.ok.injEq, eq_comm]
    simp
  | cons chunkId rest ih =>
    rw [normalizeChunkIds, raiseIf_bind_eq_ok, bind_eq_ok]
    simp only [ih, pure_eq_ok, Except.ok.injEq, List.forall_mem_cons, List.map_cons,
      Bool.not_eq_true]
    constructor
    · rintro ⟨hblank, rest, ⟨hrest, rfl⟩, rfl⟩
      exact ⟨⟨hblank, hrest⟩, rfl⟩
    · rintro ⟨⟨hblank, hrest⟩, rfl⟩
      exact ⟨hblank, _, ⟨hrest, rfl⟩, rfl⟩

/-! ## What a call that returns has done -/

/-- A snapshot is the map, in the order that its schema asks for. -/
structure Represents (casefold : Casefold) (snapshot : PersistentVectorIndexSnapshot α)
    (index : IndexSpec α) : Prop where
  valid : ValidContent casefold snapshot
  indexId : snapshot.indexId = index.indexId
  generation : snapshot.generation = index.generation
  model : snapshot.embeddingModel = index.embeddingModel
  dimensions : snapshot.embeddingDimensions = index.embeddingDimensions
  createdAt : snapshot.createdAt = index.createdAt
  contents : contents (key casefold) snapshot.records = index.contents

structure Lawful (casefold : Casefold) (clock : Datetime)
    (snapshot : PersistentVectorIndexSnapshot α) (index : IndexSpec α) : Prop where
  represents : Represents casefold snapshot index
  sorted : Sorted (key casefold) snapshot.records
  earlier : snapshot.updatedAt ≤ clock

variable [DecidableEq α]

/-- The end of `upsert` and of `delete`. -/
def changeTo (casefold : Casefold) (current : PersistentVectorIndexSnapshot α)
    (next : List (EmbeddedDocumentChunk α)) (clock : Datetime) : Except Raised (Saving α) :=
  if next = current.records then return (current, false)
  else do return (← transition casefold current next clock, true)

section

variable {current : PersistentVectorIndexSnapshot α} {next : List (EmbeddedDocumentChunk α)}
  {clock before : Datetime} {index : IndexSpec α}

theorem changeTo_lawful (h : Lawful casefold before current index) (hclock : before ≤ clock)
    (hnext : Sorted (key casefold) next) {snapshot : PersistentVectorIndexSnapshot α} {saved : Bool}
    (hchange : changeTo casefold current next clock = .ok (snapshot, saved)) :
    (saved = false → snapshot = current) ∧
      Lawful casefold clock snapshot (index.put (contents (key casefold) next)) := by
  unfold changeTo at hchange
  split at hchange
  · rename_i hsame
    cases hchange
    refine ⟨fun _ => rfl, ?_⟩
    rw [hsame, h.represents.contents, IndexSpec.put, if_pos rfl]
    exact ⟨h.represents, h.sorted, h.earlier.trans hclock⟩
  · rename_i hdiffers
    obtain ⟨saving, htransition, hchange⟩ := bind_eq_ok.mp hchange
    cases hchange
    refine ⟨fun hsaved => absurd hsaved (by decide), ?_⟩
    have hput : contents (key casefold) next ≠ index.contents := by
      rw [← h.represents.contents]
      exact fun heq => hdiffers (hnext.eq_of_contents h.sorted heq)
    have hsnapshot := transition_eq_ok htransition
    obtain ⟨now, hnow, htransition⟩ := bind_eq_ok.mp htransition
    obtain ⟨_, hnow⟩ := raiseIf_bind_eq_ok.mp hnow
    cases hnow
    obtain ⟨_, htransition⟩ := raiseIf_bind_eq_ok.mp htransition
    have hvalid := ValidContent.of_newContent htransition
    rw [IndexSpec.put, if_neg hput, hsnapshot]
    exact
      { represents :=
          { valid := hvalid
            indexId := h.represents.indexId
            generation := congrArg (· + 1) h.represents.generation
            model := h.represents.model
            dimensions := h.represents.dimensions
            createdAt := h.represents.createdAt
            contents := rfl }
        sorted := hnext
        earlier := le_refl clock }

theorem changeTo_ok (h : Lawful casefold before current index) (hclock : before ≤ clock)
    (haware : clock.isNaive = false) (hordered : Sorted (strippedKey casefold) next)
    (hfitting : ∀ item ∈ next,
      item.modelName = current.embeddingModel ∧ item.dimensions = current.embeddingDimensions) :
    ∃ saving, changeTo casefold current next clock = .ok saving := by
  unfold changeTo
  split
  · exact ⟨_, rfl⟩
  · have hvalid := h.represents.valid
    have hlater : current.updatedAt ≤ clock := h.earlier.trans hclock
    have hcontent : ValidContent casefold { current with
        generation := current.generation + 1
        updatedAt := clock
        records := next } :=
      { generation := Nat.le_add_left 1 current.generation
        dimensions := hvalid.dimensions
        indexId := hvalid.indexId
        model := hvalid.model
        createdAware := hvalid.createdAware
        updatedAware := haware
        times := hvalid.times.trans hlater
        ordered := hordered
        fitting := hfitting }
    have htransition : transition casefold current next clock = .ok { current with
        generation := current.generation + 1
        updatedAt := clock
        records := next } := by
      have hnow : timestamp clock = .ok clock := by
        rw [timestamp, haware]
        rfl
      rw [transition, hnow, ok_bind]
      exact raiseIf_bind_eq_ok.mpr ⟨Datetime.not_lt.mpr hlater, hcontent.newContent⟩
    rw [htransition]
    exact ⟨_, rfl⟩

end

omit [DecidableEq α] in
theorem contents_deleted (records : List (EmbeddedDocumentChunk α)) (chunkIds : List String) :
    contents (key casefold)
        (records.filter fun item => key casefold item ∉ chunkIds.map casefold) =
      fun k => if k ∉ chunkIds.map casefold then contents (key casefold) records k else none := by
  funext k
  exact SortedRecords.contents_filter (fun k => k ∉ chunkIds.map casefold) records k

section

variable {before : Datetime} {stored : Stored α} {index : Option (IndexSpec α)}

theorem result_lawful {call : Call α} {snapshot : PersistentVectorIndexSnapshot α} {saved : Bool}
    (h : Option.Rel (Lawful casefold before) stored index) (hclock : before ≤ call.clock)
    (hresult : resultOf casefold call stored = .ok (snapshot, saved)) :
    Option.Rel (Lawful casefold call.clock) (if saved then some snapshot else stored)
      (specify casefold index call) := by
  cases call with
  | create indexId embeddingModel embeddingDimensions records clock =>
    obtain ⟨_, hresult⟩ := raiseIf_bind_eq_ok.mp hresult
    obtain ⟨now, hnow, hresult⟩ := bind_eq_ok.mp hresult
    obtain ⟨_, hnow⟩ := raiseIf_bind_eq_ok.mp hnow
    cases hnow
    obtain ⟨normalized, hnormalized, hresult⟩ := bind_eq_ok.mp hresult
    obtain ⟨hdistinct, hnormalized⟩ := raiseIf_bind_eq_ok.mp hnormalized
    cases hnormalized
    obtain ⟨content, hcontent, hresult⟩ := bind_eq_ok.mp hresult
    cases hresult
    have hkeys := not_not.mp hdistinct
    have hvalid := ValidContent.of_newContent hcontent
    rw [newContent_eq_ok hcontent]
    exact .some
      { represents :=
          { valid := hvalid
            indexId := rfl
            generation := rfl
            model := rfl
            dimensions := rfl
            createdAt := rfl
            contents := contents_sortedByKey hkeys }
        sorted := sorted_sortedByKey hkeys
        earlier := le_refl clock }
  | upsert records clock =>
    obtain ⟨current, hcurrent, hrest⟩ := bind_eq_ok.mp hresult
    cases requireSnapshot_eq_ok hcurrent
    cases h with
    | some hlawful =>
      obtain ⟨incoming, hincoming, hrest⟩ := bind_eq_ok.mp hrest
      obtain ⟨hdistinct, hincoming⟩ := raiseIf_bind_eq_ok.mp hincoming
      cases hincoming
      obtain ⟨_, _, hrest⟩ := bind_eq_ok.mp hrest
      obtain ⟨hsorted, hcontents⟩ := merged_spec hlawful.sorted (not_not.mp hdistinct)
      obtain ⟨hkept, hnext⟩ := changeTo_lawful hlawful hclock hsorted hrest
      rw [funext hcontents, hlawful.represents.contents] at hnext
      cases saved with
      | true => exact .some hnext
      | false =>
        rw [hkept rfl] at hnext
        exact .some hnext
  | delete chunkIds clock =>
    obtain ⟨current, hcurrent, hrest⟩ := bind_eq_ok.mp hresult
    cases requireSnapshot_eq_ok hcurrent
    cases h with
    | some hlawful =>
      rename_i index
      obtain ⟨normalized, hnormalized, hrest⟩ := bind_eq_ok.mp hrest
      obtain ⟨_, rfl⟩ := normalizeChunkIds_eq_ok.mp hnormalized
      by_cases hids : chunkIds.map casefold = []
      · rw [if_pos hids] at hrest
        cases hrest
        have hsame : specify casefold (some index) (.delete chunkIds clock) = some index := by
          rw [specify, hids]
          simp [IndexSpec.put]
        rw [hsame]
        exact .some ⟨hlawful.represents, hlawful.sorted, hlawful.earlier.trans hclock⟩
      · rw [if_neg hids] at hrest
        have hsorted : Sorted (key casefold) (current.records.filter fun item =>
            key casefold item ∉ chunkIds.map casefold) := hlawful.sorted.filter _
        obtain ⟨hkept, hnext⟩ := changeTo_lawful hlawful hclock hsorted hrest
        rw [contents_deleted, hlawful.represents.contents] at hnext
        cases saved with
        | true => exact .some hnext
        | false =>
          rw [hkept rfl] at hnext
          exact .some hnext

theorem acceptable_result {call : Call α}
    (h : Option.Rel (Lawful casefold before) stored index) (hclock : before ≤ call.clock)
    (haccept : Acceptable casefold stored call) (halike : CallOrderedAlike casefold stored call) :
    ∃ saving, resultOf casefold call stored = .ok saving := by
  cases call with
  | create indexId embeddingModel embeddingDimensions records clock =>
    obtain ⟨rfl, hindexId, hmodel, hdimensions, haware, hdistinct, hfitting⟩ := haccept
    have hnow : timestamp clock = .ok clock := by
      rw [timestamp, haware]
      rfl
    have hnormalized : normalizeRecords casefold records = .ok (sortedByKey casefold records) :=
      raiseIf_bind_eq_ok.mpr ⟨not_not.mpr hdistinct, rfl⟩
    have hcontent : ValidContent casefold ⟨indexId, 1, embeddingModel, embeddingDimensions, clock,
        clock, sortedByKey casefold records⟩ :=
      { generation := le_refl 1
        dimensions := hdimensions
        indexId := hindexId
        model := hmodel
        createdAware := haware
        updatedAware := haware
        times := le_refl clock
        ordered := (sorted_sortedByKey hdistinct).of_key fun a ha b hb =>
          halike a (mem_sortedByKey.mp ha) b (mem_sortedByKey.mp hb)
        fitting := fun item hmem => hfitting item (mem_sortedByKey.mp hmem) }
    refine ⟨(⟨indexId, 1, embeddingModel, embeddingDimensions, clock, clock,
      sortedByKey casefold records⟩, true), raiseIf_bind_eq_ok.mpr ⟨by simp, ?_⟩⟩
    rw [hnow, ok_bind, hnormalized, ok_bind, hcontent.newContent]
    rfl
  | upsert records clock =>
    obtain ⟨current, hcurrent, haware, hdistinct, hfitting⟩ := haccept
    cases h with
    | none => cases hcurrent
    | some hlawful =>
      cases hcurrent
      have hnormalized :
          normalizeRecords casefold records = .ok (sortedByKey casefold records) :=
        raiseIf_bind_eq_ok.mpr ⟨not_not.mpr hdistinct, rfl⟩
      have hcompatible :
          validateCompatibility current (sortedByKey casefold records) = .ok () :=
        validateCompatibility_eq_ok.mpr fun item hmem => hfitting item (mem_sortedByKey.mp hmem)
      have hmember : ∀ item ∈ mergedRecords casefold current.records records, _ :=
        fun _ hmem => mem_merged hlawful.sorted hdistinct hmem
      have hordered : Sorted (strippedKey casefold)
          (mergedRecords casefold current.records records) :=
        (merged_spec hlawful.sorted hdistinct).1.of_key fun a ha b hb =>
          halike current rfl a (hmember a ha) b (hmember b hb)
      have hmodels : ∀ item ∈ mergedRecords casefold current.records records,
          item.modelName = current.embeddingModel ∧
            item.dimensions = current.embeddingDimensions := by
        intro item hmem
        rcases List.mem_append.mp (hmember item hmem) with hnew | hold
        · exact hfitting item hnew
        · exact hlawful.represents.valid.fitting item (List.mem_of_mem_filter hold)
      obtain ⟨saving, hsaving⟩ := changeTo_ok hlawful hclock haware hordered hmodels
      refine ⟨saving, ?_⟩
      rw [resultOf, upsert, requireSnapshot, ok_bind, hnormalized, ok_bind, hcompatible, ok_bind]
      exact hsaving
  | delete chunkIds clock =>
    obtain ⟨hstored, haware, hblank⟩ := haccept
    cases h with
    | none => cases hstored
    | some hlawful =>
      rename_i current index
      have hnormalized : normalizeChunkIds casefold chunkIds = .ok (chunkIds.map casefold) :=
        normalizeChunkIds_eq_ok.mpr ⟨hblank, rfl⟩
      rw [resultOf, delete, requireSnapshot, ok_bind, hnormalized, ok_bind]
      split
      · exact ⟨_, rfl⟩
      · refine changeTo_ok hlawful hclock haware ?_ ?_
        · exact hlawful.represents.valid.ordered.filter _
        · intro item hmem
          exact hlawful.represents.valid.fitting item (List.mem_of_mem_filter hmem)

end

/-! ## Runs -/

structure Lifecycle (α : Type) where
  stored : Stored α
  index : Option (IndexSpec α)
  clock : Datetime
  /-- The acceptable calls that have raised. -/
  refused : List (Call α)

def Lifecycle.fresh (clock : Datetime) : Lifecycle α := ⟨none, none, clock, []⟩

open Classical in
noncomputable def Lifecycle.step (casefold : Casefold) (s : Lifecycle α) (call : Call α) :
    Lifecycle α :=
  match resultOf casefold call s.stored with
  | .error _ =>
    { s with
      clock := call.clock
      refused := if Acceptable casefold s.stored call then s.refused ++ [call] else s.refused }
  | .ok (snapshot, saved) =>
    { s with
      stored := if saved then some snapshot else s.stored
      index := specify casefold s.index call
      clock := call.clock }

def Lifecycle.Allowed (casefold : Casefold) (s : Lifecycle α) (call : Call α) : Prop :=
  s.clock ≤ call.clock ∧ CallOrderedAlike casefold s.stored call

/-- The stored snapshot is the map, and no acceptable call has raised. -/
structure Lifecycle.Meets (casefold : Casefold) (s : Lifecycle α) : Prop where
  represents : Option.Rel (Represents casefold) s.stored s.index
  refused : s.refused = []

/-- What every call keeps. -/
structure Lifecycle.Inv (casefold : Casefold) (s : Lifecycle α) : Prop where
  lawful : Option.Rel (Lawful casefold s.clock) s.stored s.index
  refused : s.refused = []

theorem Lifecycle.Inv.step {s : Lifecycle α} (h : s.Inv casefold) {call : Call α}
    (hallowed : s.Allowed casefold call) : (s.step casefold call).Inv casefold := by
  cases hresult : resultOf casefold call s.stored with
  | ok saving =>
    have hstep : s.step casefold call =
        { s with
          stored := if saving.2 then some saving.1 else s.stored
          index := specify casefold s.index call
          clock := call.clock } := by
      rw [Lifecycle.step, hresult]
    rw [hstep]
    exact ⟨result_lawful h.lawful hallowed.1 hresult, h.refused⟩
  | error failure =>
    have hrefusable : ¬Acceptable casefold s.stored call := by
      intro haccept
      obtain ⟨saving, hsaving⟩ := acceptable_result h.lawful hallowed.1 haccept hallowed.2
      rw [hresult] at hsaving
      cases hsaving
    have hstep : s.step casefold call = { s with clock := call.clock } := by
      rw [Lifecycle.step, hresult]
      simp only [if_neg hrefusable]
    rw [hstep]
    refine ⟨?_, h.refused⟩
    obtain ⟨stored, index, clock, refused⟩ := s
    cases h.lawful with
    | none => exact .none
    | some hlawful =>
      exact .some ⟨hlawful.represents, hlawful.sorted, hlawful.earlier.trans hallowed.1⟩

omit [DecidableEq α] in
theorem Lifecycle.Inv.meets {s : Lifecycle α} (h : s.Inv casefold) : s.Meets casefold := by
  refine ⟨?_, h.refused⟩
  obtain ⟨stored, index, clock, refused⟩ := s
  cases h.lawful with
  | none => exact .none
  | some hlawful => exact .some hlawful.represents

/-- The lifecycle is the map, whatever is called in whatever order. -/
theorem lifecycle_meets_map {clock : Datetime} {s : Lifecycle α}
    (h : Reachable (Lifecycle.step casefold) (Lifecycle.Allowed casefold)
      (Lifecycle.fresh clock) s) :
    s.Meets casefold := by
  refine (h.invariant (Lifecycle.Inv casefold) ⟨.none, rfl⟩ ?_).meets
  intro s call hinv hallowed
  exact hinv.step hallowed

def sampleCreate (chunkIds : List String) : Call Unit :=
  .create "index-001" "model" 2 (chunkIds.map fun chunkId => ⟨chunkId, "model", 2, ()⟩) sampleTime

theorem sampleCreate_acceptable {chunkIds : List String}
    (h : ((chunkIds.map fun chunkId => (⟨chunkId, "model", 2, ()⟩ : EmbeddedDocumentChunk Unit)).map
      (key asciiCasefold)).Nodup) :
    Acceptable asciiCasefold none (sampleCreate chunkIds) := by
  refine ⟨rfl, by decide, by decide, by decide, by decide, h, ?_⟩
  intro item hmem
  obtain ⟨chunkId, _, rfl⟩ := List.mem_map.mp hmem
  exact ⟨rfl, rfl⟩

theorem acceptable_call_refused :
    ¬∀ s : Lifecycle Unit, Reachable (Lifecycle.step asciiCasefold)
      (fun s call => s.clock ≤ call.clock) (Lifecycle.fresh sampleTime) s →
      s.Meets asciiCasefold := by
  intro h
  have hmeets := h _ (Reachable.start.step (a := sampleCreate ["a", " b"]) (le_refl sampleTime))
  have hraises :
      (resultOf asciiCasefold (sampleCreate ["a", " b"]) none).toOption.isNone = true := by
    decide +kernel
  have hrefused := hmeets.refused
  cases hresult : resultOf asciiCasefold (sampleCreate ["a", " b"]) none with
  | ok saving =>
    rw [hresult] at hraises
    cases hraises
  | error failure =>
    rw [Lifecycle.step, Lifecycle.fresh, hresult] at hrefused
    simp only [if_pos (sampleCreate_acceptable (by decide +kernel :
      ((["a", " b"].map fun chunkId => (⟨chunkId, "model", 2, ()⟩ :
        EmbeddedDocumentChunk Unit)).map (key asciiCasefold)).Nodup))] at hrefused
    cases hrefused

theorem two_records_created :
    ((Lifecycle.fresh sampleTime).step asciiCasefold (sampleCreate ["b", "A"])).Meets
      asciiCasefold := by
  refine lifecycle_meets_map (Reachable.start.step ⟨le_refl sampleTime, ?_⟩)
  intro a ha b hb
  have halike : ∀ a ∈ ["b", "A"], ∀ b ∈ ["b", "A"], asciiCasefold a < asciiCasefold b →
      asciiCasefold (strip a) < asciiCasefold (strip b) := by decide +kernel
  obtain ⟨first, hfirst, rfl⟩ := List.mem_map.mp ha
  obtain ⟨second, hsecond, rfl⟩ := List.mem_map.mp hb
  exact halike first hfirst second hsecond

end AgenticLab.PersistentVectorIndexLifecycle
