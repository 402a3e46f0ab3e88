import AgenticLab.Model.Research.PersistentVectorIndex

/-! # Updates of a vector index by several clients -/

namespace AgenticLab.PersistentVectorIndexLifecycle

open ReadModifyWrite (Action Ended Serial System Undisturbed performAll performAll_succeeded)
open Runs (Reachable)

variable {α : Type} {casefold : Casefold}

abbrev Stored (α : Type) := Option (PersistentVectorIndexSnapshot α)

abbrev EndedCall (α : Type) :=
  Ended (Stored α) (Call α) Raised (PersistentVectorIndexSnapshot α)

abbrev Clients (α ι : Type) :=
  System (Stored α) (Call α) Raised (PersistentVectorIndexSnapshot α) ι

/-! ## Generations -/

def generationOf (stored : Stored α) : ℕ := stored.elim 0 (·.generation)

theorem newContent_eq_ok {content snapshot : PersistentVectorIndexSnapshot α}
    (h : newContent casefold content = .ok snapshot) : snapshot = content := by
  simp only [newContent, raiseIf_bind_eq_ok] at h
  obtain ⟨-, -, -, -, -, -, -, -, -, h⟩ := h
  obtain ⟨_, _, h⟩ := bind_eq_ok.mp h
  cases h
  rfl

variable {stored : Stored α}

theorem requireSnapshot_eq_ok {current : PersistentVectorIndexSnapshot α}
    (h : requireSnapshot stored = .ok current) : stored = some current := by
  cases stored with
  | none => cases h
  | some snapshot =>
    cases h
    rfl

variable {current snapshot : PersistentVectorIndexSnapshot α}
  {records : List (EmbeddedDocumentChunk α)}

theorem transition_eq_ok {clock : Datetime}
    (h : transition casefold current records clock = .ok snapshot) :
    snapshot = { current with
      generation := current.generation + 1
      updatedAt := clock
      records := records } := by
  obtain ⟨now, hnow, h⟩ := bind_eq_ok.mp h
  obtain ⟨_, hnow⟩ := raiseIf_bind_eq_ok.mp hnow
  cases hnow
  obtain ⟨_, h⟩ := raiseIf_bind_eq_ok.mp h
  exact newContent_eq_ok h

variable [DecidableEq α] {file : FileIndex α}

theorem generation_of_transition
    {clock : Datetime}
    (h : (if records = current.records then pure (current, false)
      else do return (← transition casefold current records clock, true)) =
        Except.ok (snapshot, true)) : snapshot.generation = current.generation + 1 := by
  split at h
  · cases h
  · obtain ⟨next, hnext, h⟩ := bind_eq_ok.mp h
    cases h
    rw [transition_eq_ok hnext]

variable {snapshot : PersistentVectorIndexSnapshot α}

theorem generation_of_saved {call : Call α}
    (h : resultOf casefold call stored = .ok (snapshot, true)) :
    snapshot.generation = generationOf stored + 1 := by
  cases call with
  | create indexId embeddingModel embeddingDimensions records clock =>
    obtain ⟨hnone, h⟩ := raiseIf_bind_eq_ok.mp h
    obtain ⟨_, _, h⟩ := bind_eq_ok.mp h
    obtain ⟨_, _, h⟩ := bind_eq_ok.mp h
    obtain ⟨content, hcontent, h⟩ := bind_eq_ok.mp h
    cases h
    have hstored : stored = none := by simpa using hnone
    rw [newContent_eq_ok hcontent, hstored]
    rfl
  | upsert records clock =>
    obtain ⟨current, hcurrent, h⟩ := bind_eq_ok.mp h
    obtain ⟨_, _, h⟩ := bind_eq_ok.mp h
    obtain ⟨_, _, h⟩ := bind_eq_ok.mp h
    rw [requireSnapshot_eq_ok hcurrent]
    exact generation_of_transition h
  | delete chunkIds clock =>
    obtain ⟨current, hcurrent, h⟩ := bind_eq_ok.mp h
    obtain ⟨ids, _, h⟩ := bind_eq_ok.mp h
    rw [requireSnapshot_eq_ok hcurrent]
    by_cases hids : ids = []
    · rw [if_pos hids] at h
      cases h
    · rw [if_neg hids] at h
      exact generation_of_transition h

theorem generation_of_writes {call : Call α} {stored next : Stored α}
    (h : respond casefold file call stored = .writes snapshot next) :
    generationOf next = generationOf stored + 1 := by
  unfold respond at h
  split at h
  · cases h
  · cases h
  · rename_i saved hsaved
    split at h
    · cases h
    · cases h
      exact generation_of_saved hsaved

def generation? (ended : EndedCall α) : Option ℕ := ended.written.map generationOf

def savedGenerations {ι : Type} (s : Clients α ι) : List ℕ := s.ended.filterMap generation?

structure Ascending {ι : Type} (s : Clients α ι) : Prop where
  ascending : (savedGenerations s).Pairwise (· < ·)
  below : ∀ generation ∈ savedGenerations s, generation ≤ generationOf s.store

section

variable {ι : Type} [DecidableEq ι] {s : Clients α ι}

theorem Ascending.step {start : Stored α} (h : Ascending s)
    (hserial : Serial (respond casefold file) start s) {action : Action ι (Call α)}
    (hallowed : Undisturbed s action) : Ascending (s.step (respond casefold file) action) := by
  have hunwritten : ∀ call outcome, ∀ t : Clients α ι, t.store = s.store →
      t.ended = s.ended ++ [⟨call, outcome, none⟩] → Ascending t := by
    intro call outcome t hstore hended
    have hsaved : savedGenerations t = savedGenerations s := by
      simp [savedGenerations, hended, generation?]
    exact ⟨hsaved ▸ h.ascending, by rw [hsaved, hstore]; exact h.below⟩
  cases action with
  | read client call =>
    cases hpending : s.pending client with
    | some p =>
      simp only [System.step, hpending]
      exact h
    | none =>
      cases hrespond : respond casefold file call s.store with
      | raises failure =>
        simp only [System.step, hpending, hrespond]
        exact hunwritten call _ _ rfl rfl
      | keeps result =>
        simp only [System.step, hpending, hrespond]
        exact hunwritten call _ _ rfl rfl
      | writes result next =>
        simp only [System.step, hpending, hrespond]
        exact ⟨h.ascending, h.below⟩
  | write client =>
    cases hpending : s.pending client with
    | none =>
      simp only [System.step, hpending]
      exact h
    | some p =>
      simp only [System.step, hpending]
      have hnext := generation_of_writes (hserial.pending client p hpending)
      rw [hallowed p hpending] at hnext
      have hsaved : ∀ t : Clients α ι, t.ended = s.ended ++ [⟨p.call, .ok p.result, some p.next⟩] →
          savedGenerations t = savedGenerations s ++ [generationOf p.next] := by
        intro t hended
        simp [savedGenerations, hended, generation?]
      refine ⟨?_, ?_⟩
      · rw [hsaved _ rfl, List.pairwise_append]
        refine ⟨h.ascending, List.pairwise_singleton _ _, fun generation hmem other hother => ?_⟩
        rw [List.mem_singleton.mp hother, hnext]
        exact Nat.lt_succ_of_le (h.below generation hmem)
      · rw [hsaved _ rfl]
        intro generation hmem
        rcases List.mem_append.mp hmem with hbefore | hlast
        · exact (h.below generation hbefore).trans (by simp [hnext])
        · exact (List.mem_singleton.mp hlast).le

/-- The calls that have succeeded could have run one after another, in some order, with the same
results and the same final snapshot. -/
def Serializable (casefold : Casefold) (file : FileIndex α) (start : Stored α)
    (s : Clients α ι) : Prop :=
  ∃ order : List (EndedCall α), order.Perm (s.ended.filter Ended.succeeded) ∧
    performAll (respond casefold file) (order.map (·.call)) start = (order.map (·.outcome), s.store)

/-- No update is lost while every call saves over the snapshot that it has loaded. -/
theorem no_update_lost {start : Stored α}
    (h : Reachable (System.step (respond casefold file)) Undisturbed (System.start start) s) :
    Serializable casefold file start s ∧ (savedGenerations s).Nodup := by
  have hboth : Serial (respond casefold file) start s ∧ Ascending s := by
    refine h.invariant (fun s => Serial (respond casefold file) start s ∧ Ascending s)
      ⟨Serial.of_start start, List.Pairwise.nil, fun _ hmem => absurd hmem List.not_mem_nil⟩ ?_
    intro s action hs hallowed
    exact ⟨hs.1.step hallowed, hs.2.step hs.1 hallowed⟩
  refine ⟨⟨_, List.Perm.refl _, performAll_succeeded hboth.1.ended⟩, ?_⟩
  exact hboth.2.ascending.imp fun hlt => hlt.ne

end

def sampleFile : FileIndex Unit := ⟨1000, fun _ => 10⟩

theorem sampleTime_lt : 63921499200000000 < maxWall := by decide

def sampleTime : Datetime := ⟨63921499200000000, some 0, sampleTime_lt⟩

def sampleSnapshot : PersistentVectorIndexSnapshot Unit :=
  ⟨"index-001", 1, "model", 2, sampleTime, sampleTime, []⟩

def sampleUpsert (chunkId : String) : Call Unit :=
  .upsert [⟨chunkId, "model", 2, ()⟩] sampleTime

abbrev sampleRespond := respond (α := Unit) asciiCasefold sampleFile

def sampleStart : Clients Unit ℕ := System.start (some sampleSnapshot)

def disturbedRun : Clients Unit ℕ :=
  Runs.run (System.step sampleRespond) sampleStart
    [.read 0 (sampleUpsert "chunk-a"), .read 1 (sampleUpsert "chunk-b"), .write 0, .write 1]

theorem update_lost :
    ¬∀ s : Clients Unit ℕ,
      Reachable (System.step sampleRespond) (fun _ _ => True) sampleStart s →
      Serializable asciiCasefold sampleFile (some sampleSnapshot) s ∧ (savedGenerations s).Nodup := by
  intro h
  obtain ⟨_, hdistinct⟩ := h disturbedRun (Runs.reachable_run _)
  exact absurd hdistinct (by decide +kernel)

def undisturbedRun : Clients Unit ℕ :=
  (sampleStart.step sampleRespond (.read 0 (sampleUpsert "chunk-a"))).step sampleRespond (.write 0)

theorem one_update_kept :
    Serializable asciiCasefold sampleFile (some sampleSnapshot) undisturbedRun ∧
      (savedGenerations undisturbedRun).Nodup :=
  no_update_lost ((Reachable.start.step trivial).step (Undisturbed.write_of_read rfl))

end AgenticLab.PersistentVectorIndexLifecycle
