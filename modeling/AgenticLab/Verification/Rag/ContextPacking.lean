import AgenticLab.Model.Rag.ContextPacking

/-! # Context packing is complete, honest and greedy -/

namespace AgenticLab.RagContextPacking

variable {δ : Type}

theorem isBlank_intercalate {separator first : String} (rest : List String)
    (h : isBlank first = false) : isBlank (separator.intercalate (first :: rest)) = false := by
  cases rest with
  | nil => rwa [String.intercalate_singleton]
  | cons second rest =>
    rw [String.intercalate_cons_cons, String.append_assoc]
    exact isBlank_append h

theorem utf8ByteSize_pos {text : String} (h : isBlank text = false) : 0 < text.utf8ByteSize := by
  rw [Nat.pos_iff_ne_zero, Ne, String.utf8ByteSize_eq_zero_iff]
  rintro rfl
  exact absurd h (by decide)

/-! ## Rendering -/

def blocks : ℕ → List (RetrievalResult δ) → List String
  | _, [] => []
  | position, result :: results => contextBlock position result :: blocks (position + 1) results

def citations : ℕ → List (RetrievalResult δ) → List RagCitation
  | _, [] => []
  | position, result :: results => citationOf position result :: citations (position + 1) results

def renderedText (packed : List (RetrievalResult δ)) : String := "\n\n".intercalate (blocks 1 packed)

theorem blocks_concat (position : ℕ) (results : List (RetrievalResult δ))
    (result : RetrievalResult δ) : blocks position (results ++ [result]) =
      blocks position results ++ [contextBlock (position + results.length) result] := by
  induction results generalizing position with
  | nil => rfl
  | cons first results ih =>
    rw [List.cons_append, blocks, ih, blocks, List.length_cons, List.cons_append, Nat.add_assoc,
      Nat.add_comm 1]

theorem isBlank_contextBlock (position : ℕ) (result : RetrievalResult δ) :
    isBlank (contextBlock position result) = false := by
  have hopening : isBlank ("[" ++ citationId position ++ "]") = false :=
    isBlank_append (isBlank_append (by decide))
  have hheader : isBlank (" | ".intercalate (headerParts position result)) = false :=
    isBlank_intercalate _ hopening
  exact isBlank_intercalate _ hheader

theorem renderedText_nil : renderedText ([] : List (RetrievalResult δ)) = "" :=
  String.intercalate_nil

variable {packed : List (RetrievalResult δ)}

theorem isBlank_renderedText (h : packed ≠ []) : isBlank (renderedText packed) = false := by
  cases packed with
  | nil => exact absurd rfl h
  | cons result results => exact isBlank_intercalate _ (isBlank_contextBlock 1 result)

theorem renderedText_concat (h : packed ≠ [])
    (result : RetrievalResult δ) : renderedText (packed ++ [result]) =
      renderedText packed ++ ("\n\n" ++ contextBlock (1 + packed.length) result) := by
  have hblocks : blocks 1 packed ≠ [] := by
    cases packed with
    | nil => exact absurd rfl h
    | cons first packed => exact List.cons_ne_nil _ _
  rw [renderedText, blocks_concat, String.intercalate_append_of_ne_nil hblocks
    (List.cons_ne_nil _ _), String.intercalate_singleton, String.append_assoc]
  rfl

theorem utf8ByteSize_concat (packed : List (RetrievalResult δ)) (result : RetrievalResult δ) :
    (renderedText packed).utf8ByteSize < (renderedText (packed ++ [result])).utf8ByteSize := by
  by_cases h : packed = []
  · rw [h, renderedText_nil, String.utf8ByteSize_empty]
    exact utf8ByteSize_pos (isBlank_renderedText (by simp))
  · have hblock := utf8ByteSize_pos (isBlank_contextBlock (1 + packed.length) result)
    rw [renderedText_concat h, String.utf8ByteSize_append, String.utf8ByteSize_append]
    omega

theorem toString_injective {m n : ℕ} (h : toString m = toString n) : m = n := by
  rw [Nat.toString_eq_ofList_toDigits, Nat.toString_eq_ofList_toDigits] at h
  have hdigits := congrArg String.toList h
  rw [String.toList_ofList, String.toList_ofList] at hdigits
  have hvalue := congrArg (fun digits => Nat.ofDigitChars 10 digits 0) hdigits
  simpa only [Nat.ofDigitChars_toDigits (by decide : 1 < 10) (le_refl 10)] using hvalue

theorem citationId_injective {m n : ℕ} (h : citationId m = citationId n) : m = n := by
  refine toString_injective ?_
  have hlist := congrArg String.toList h
  simp only [citationId, String.toList_append, List.append_cancel_left_eq] at hlist
  exact String.toList_inj.mp hlist

theorem map_citationId (position : ℕ) (results : List (RetrievalResult δ)) :
    (citations position results).map (fun citation => citation.citationId) =
      (List.range' position results.length).map citationId := by
  induction results generalizing position with
  | nil => rfl
  | cons result results ih =>
    rw [citations, List.map_cons, ih, List.length_cons, List.range'_succ, List.map_cons]
    rfl

theorem nodup_citationIds (position : ℕ) (results : List (RetrievalResult δ)) :
    ((citations position results).map fun citation => citation.citationId).Nodup := by
  rw [map_citationId]
  exact List.Nodup.map (fun _ _ => citationId_injective) List.nodup_range'

theorem validate_citationOf {result : RetrievalResult δ} (h : result.IsValid) (position : ℕ) :
    (citationOf position result).validate = .ok () := by
  have hchunk := h.chunk_valid
  simp only [DocumentChunker.newDocumentChunk, raiseIf_bind_eq_ok] at hchunk
  obtain ⟨hdocument, hid, -, hend, hrange, -, -⟩ := hchunk
  refine raiseIf_bind_eq_ok.mpr ⟨?_, raiseIf_bind_eq_ok.mpr ⟨hdocument, raiseIf_bind_eq_ok.mpr ⟨hid,
    raiseIf_bind_eq_ok.mpr ⟨not_lt.mpr h.rank_pos, raiseIf_bind_eq_ok.mpr ⟨not_lt.mpr h.score_ge,
    raiseIf_bind_eq_ok.mpr ⟨not_lt.mpr h.score_le, raiseIf_bind_eq_ok.mpr ⟨hend,
    raiseIf_eq_ok.mpr hrange⟩⟩⟩⟩⟩⟩⟩
  change ¬("S" ++ toString position).length < 1
  rw [String.length_append]
  simp

theorem buildBlocks_eq {results : List (RetrievalResult δ)}
    (h : ∀ result ∈ results, result.IsValid) (position : ℕ) :
    buildBlocks position results = .ok (citations position results, blocks position results) := by
  induction results generalizing position with
  | nil => rfl
  | cons result results ih =>
    rw [buildBlocks, validate_citationOf (h result List.mem_cons_self), ok_bind,
      ih fun other hmem => h other (List.mem_cons_of_mem result hmem)]
    rfl

theorem mergeSort_rendersBefore
    (h : packed.map (fun result => result.rank) = List.range' 1 packed.length) :
    packed.mergeSort rendersBefore = packed := by
  refine List.mergeSort_of_pairwise ?_
  have hranks : (packed.map fun result => result.rank).Pairwise (· < ·) := by
    rw [h]
    exact List.pairwise_lt_range'
  refine (List.pairwise_map.mp hranks).imp fun {first second} hlt => ?_
  exact decide_eq_true (Prod.Lex.toLex_le_toLex.mpr (.inl hlt))

theorem buildRagContext_eq (hvalid : ∀ result ∈ packed, result.IsValid)
    (hranks : packed.map (fun result => result.rank) = List.range' 1 packed.length) :
    buildRagContext packed none = .ok ⟨renderedText packed, citations 1 packed⟩ := by
  have hall : (packed.filter fun result => (none : Option ℚ).all fun minimum =>
      minimum ≤ result.score.value) = packed := List.filter_eq_self.mpr fun _ _ => rfl
  rw [buildRagContext]
  simp only [hall]
  split
  case isTrue hnil =>
    rw [hnil, renderedText_nil]
    rfl
  case isFalse hsome =>
    rw [mergeSort_rendersBefore hranks, buildBlocks_eq hvalid, ok_bind]
    refine bind_eq_ok.mpr ⟨(), ?_, rfl⟩
    have hblank := isBlank_renderedText hsome
    have hcitations : citations 1 packed ≠ [] := by
      cases packed with
      | nil => exact absurd rfl hsome
      | cons result results => exact List.cons_ne_nil _ _
    refine raiseIf_bind_eq_ok.mpr ⟨?_, raiseIf_bind_eq_ok.mpr ⟨fun h => hcitations h.1,
      raiseIf_eq_ok.mpr (not_not.mpr (nodup_citationIds 1 packed))⟩⟩
    rintro ⟨-, htext⟩
    exact absurd (hblank.symm.trans htext) (by decide)

section

variable (packer : DeterministicRagContextPacker) (budget : PackingBudget)

def Exceeds (items : ℕ) (text : String) : OmissionReason → Prop
  | .itemLimit => budget.maximumItems < items
  | .utf8ByteLimit => budget.maximumUtf8Bytes < text.utf8ByteSize
  | .estimatedTokenLimit =>
    budget.maximumEstimatedTokens < packer.tokenEstimator.estimateTokens text

open DeterministicRagContextPacker

variable {packer budget}

theorem mem_omissionReasons {items : ℕ} {text : String} {reason : OmissionReason} :
    reason ∈ omissionReasons budget items text.utf8ByteSize
      (packer.tokenEstimator.estimateTokens text) ↔ Exceeds packer budget items text reason := by
  cases reason <;> simp [omissionReasons, Exceeds]

theorem omissionReasons_sublist (items bytes : ℕ) (tokens : ℤ) :
    List.Sublist (omissionReasons budget items bytes tokens)
      [.itemLimit, .utf8ByteLimit, .estimatedTokenLimit] := by
  have hpart : ∀ (condition : Prop) [Decidable condition] (reason : OmissionReason),
      List.Sublist (if condition then [reason] else []) [reason] := by
    intro condition _ reason
    split
    · exact List.Sublist.refl _
    · exact List.nil_sublist _
  exact ((hpart _ _).append (hpart _ _)).append (hpart _ _)

theorem validate_omitted {candidate : RetrievalResult δ} {position items bytes : ℕ} {tokens : ℤ}
    (hposition : 1 ≤ position) (h : omissionReasons budget items bytes tokens ≠ []) :
    OmittedItem.validate ⟨candidate, position, omissionReasons budget items bytes tokens⟩ =
      .ok () := by
  have hsublist := @omissionReasons_sublist budget items bytes tokens
  refine raiseIf_bind_eq_ok.mpr ⟨not_lt.mpr hposition, raiseIf_bind_eq_ok.mpr ⟨?_,
    raiseIf_bind_eq_ok.mpr ⟨not_lt.mpr hsublist.length_le, raiseIf_bind_eq_ok.mpr
    ⟨not_not.mpr (hsublist.nodup (by decide)), raiseIf_eq_ok.mpr (not_not.mpr ?_)⟩⟩⟩⟩
  · exact not_lt.mpr (List.length_pos_iff.mpr h)
  · refine (List.mergeSort_of_pairwise (List.Pairwise.sublist hsublist ?_)).symm
    decide

end

def repacked (items : List (PackedItem δ)) : List (RetrievalResult δ) :=
  items.map fun item => { item.retrieval with rank := item.packedRank }

def before (items : List (PackedItem δ)) (position : ℕ) : List (PackedItem δ) :=
  items.filter fun item => item.originalPosition < position

def Judged (packer : DeterministicRagContextPacker) (budget : PackingBudget)
    (included : List (PackedItem δ)) (position : ℕ) (candidate : RetrievalResult δ)
    (reasons : List OmissionReason) : Prop :=
  ∃ context, buildRagContext (repacked (before included position) ++
      [{ candidate with rank := (before included position).length + 1 }]) none = .ok context ∧
    ∀ reason, reason ∈ reasons ↔ Exceeds packer budget ((before included position).length + 1)
      context.contextText reason

section

variable {packer : DeterministicRagContextPacker} {budget : PackingBudget}
  {included : List (PackedItem δ)} {item : PackedItem δ} {position : ℕ}
  {candidate : RetrievalResult δ} {reasons : List OmissionReason}

theorem before_concat (h : position ≤ item.originalPosition) :
    before (included ++ [item]) position = before included position := by
  rw [before, List.filter_append, List.filter_singleton]
  simp [before, not_lt.mpr h]

theorem before_eq_self (h : ∀ item ∈ included, item.originalPosition < position) :
    before included position = included :=
  List.filter_eq_self.mpr fun item hmem => decide_eq_true (h item hmem)

theorem Judged.concat (h : Judged packer budget included position candidate reasons)
    (hitem : position ≤ item.originalPosition) :
    Judged packer budget (included ++ [item]) position candidate reasons := by
  rw [Judged, before_concat hitem]
  exact h

end

/-! ## The loop -/

open DeterministicRagContextPacker

def tokensOf (packer : DeterministicRagContextPacker) (packed : List (RetrievalResult δ)) : ℤ :=
  if packed = [] then 0 else packer.tokenEstimator.estimateTokens (renderedText packed)

/-- What holds of the variables of the loop behind the candidates of `done`. -/
structure Reached (packer : DeterministicRagContextPacker) (budget : PackingBudget)
    (done : List (RetrievalResult δ)) (state : PackState δ) : Prop where
  packed_eq : state.packedRetrievals = repacked state.included
  valid : ∀ result ∈ state.packedRetrievals, result.IsValid
  ranks : state.included.map (fun item => item.packedRank) = List.range' 1 state.included.length
  bytes_eq : state.currentBytes = (renderedText state.packedRetrievals).utf8ByteSize
  tokens_eq : state.currentTokens = tokensOf packer state.packedRetrievals
  bytes_sum : (state.included.map fun item => item.incrementalUtf8Bytes).sum = state.currentBytes
  tokens_sum :
    (state.included.map fun item => item.incrementalEstimatedTokens).sum = state.currentTokens
  classified : ((state.included.map fun item => (item.originalPosition, item.retrieval)) ++
    state.omitted.map fun item => (item.originalPosition, item.retrieval)).Perm
      ((done.zipIdx 1).map Prod.swap)
  included_le : ∀ item ∈ state.included, item.originalPosition ≤ done.length
  omitted_le : ∀ item ∈ state.omitted, item.originalPosition ≤ done.length
  included_order : (state.included.map fun item => item.originalPosition).Pairwise (· < ·)
  omitted_order : (state.omitted.map fun item => item.originalPosition).Pairwise (· < ·)
  items_le : state.included.length ≤ budget.maximumItems
  bytes_le : state.currentBytes ≤ budget.maximumUtf8Bytes
  tokens_le : state.currentTokens ≤ budget.maximumEstimatedTokens
  included_judged : ∀ item ∈ state.included,
    Judged packer budget state.included item.originalPosition item.retrieval []
  omitted_judged : ∀ item ∈ state.omitted, item.reasons ≠ [] ∧
    Judged packer budget state.included item.originalPosition item.retrieval item.reasons

/-- The estimator counts texts: nothing that is appended makes the count smaller. -/
structure Counts (estimator : TokenEstimator) : Prop where
  nonneg : 0 ≤ estimator.estimateTokens ""
  mono : ∀ text more, estimator.estimateTokens text ≤ estimator.estimateTokens (text ++ more)

section

variable {packer : DeterministicRagContextPacker} {budget : PackingBudget}
  {done : List (RetrievalResult δ)} {state : PackState δ} {candidate : RetrievalResult δ}

theorem Counts.estimate_nonneg {estimator : TokenEstimator} (h : Counts estimator)
    (text : String) : 0 ≤ estimator.estimateTokens text := by
  have hmono := h.mono "" text
  rw [String.empty_append] at hmono
  exact h.nonneg.trans hmono

theorem Counts.estimate_eq (h : Counts packer.tokenEstimator) (text : String) :
    packer.estimate text = .ok (packer.tokenEstimator.estimateTokens text) :=
  raiseIf_bind_eq_ok.mpr ⟨not_lt.mpr (h.estimate_nonneg text), rfl⟩

theorem Counts.tokensOf_le (h : Counts packer.tokenEstimator) (packed : List (RetrievalResult δ))
    (result : RetrievalResult δ) : tokensOf packer packed ≤
      packer.tokenEstimator.estimateTokens (renderedText (packed ++ [result])) := by
  rw [tokensOf]
  split
  case isTrue => exact h.estimate_nonneg _
  case isFalse hsome =>
    rw [renderedText_concat hsome]
    exact h.mono _ _

theorem counts_conservative : Counts conservativeUtf8TokenEstimator where
  nonneg := Int.natCast_nonneg _
  mono text more := by
    change (text.utf8ByteSize : ℤ) ≤ (text ++ more).utf8ByteSize
    rw [String.utf8ByteSize_append]
    omega

theorem reached_start :
    Reached packer budget ([] : List (RetrievalResult δ)) ⟨[], [], [], 0, 0⟩ := by
  refine ⟨rfl, nofun, rfl, ?_, rfl, rfl, rfl, .refl _, nofun, nofun, .nil, .nil, Nat.zero_le _,
    Int.natCast_nonneg _, Int.natCast_nonneg _, nofun, nofun⟩
  rw [renderedText_nil, String.utf8ByteSize_empty]
  rfl

def prospectOf (state : PackState δ) (candidate : RetrievalResult δ) : RetrievalResult δ :=
  { candidate with rank := state.included.length + 1 }

def prospectText (state : PackState δ) (candidate : RetrievalResult δ) : String :=
  renderedText (state.packedRetrievals ++ [prospectOf state candidate])

def reasonsOf (packer : DeterministicRagContextPacker) (budget : PackingBudget)
    (state : PackState δ) (candidate : RetrievalResult δ) : List OmissionReason :=
  omissionReasons budget (state.included.length + 1) (prospectText state candidate).utf8ByteSize
    (packer.tokenEstimator.estimateTokens (prospectText state candidate))

theorem length_packedRetrievals (h : Reached packer budget done state) :
    state.packedRetrievals.length = state.included.length := by
  rw [h.packed_eq, repacked, List.length_map]

theorem ranks_packedRetrievals (h : Reached packer budget done state) :
    state.packedRetrievals.map (fun result => result.rank) =
      List.range' 1 state.included.length := by
  rw [h.packed_eq, repacked, List.map_map, ← h.ranks]
  rfl

theorem buildRagContext_prospect (h : Reached packer budget done state)
    (hcandidate : candidate.IsValid) :
    buildRagContext (state.packedRetrievals ++ [prospectOf state candidate]) none =
      .ok ⟨prospectText state candidate,
        citations 1 (state.packedRetrievals ++ [prospectOf state candidate])⟩ := by
  refine buildRagContext_eq ?_ ?_
  · intro result hmem
    rcases List.mem_append.mp hmem with hpacked | hnew
    · exact h.valid result hpacked
    · rw [List.mem_singleton.mp hnew]
      exact ⟨hcandidate.chunk_valid, hcandidate.score_ge, hcandidate.score_le, Nat.succ_pos _⟩
  · rw [List.map_append, ranks_packedRetrievals h, List.length_append, List.length_singleton,
      length_packedRetrievals h, List.range'_concat]
    simp [prospectOf, Nat.add_comm]

theorem judged_prospect (h : Reached packer budget done state) (hcandidate : candidate.IsValid) :
    Judged packer budget state.included (done.length + 1) candidate
      (reasonsOf packer budget state candidate) := by
  have hbefore : before state.included (done.length + 1) = state.included :=
    before_eq_self fun item hmem => Nat.lt_succ_of_le (h.included_le item hmem)
  rw [Judged, hbefore, ← h.packed_eq]
  exact ⟨_, buildRagContext_prospect h hcandidate, fun reason => mem_omissionReasons⟩

theorem zipIdx_concat (done : List (RetrievalResult δ)) (candidate : RetrievalResult δ) :
    ((done ++ [candidate]).zipIdx 1).map Prod.swap =
      (done.zipIdx 1).map Prod.swap ++ [(done.length + 1, candidate)] := by
  rw [List.zipIdx_append, List.map_append, Nat.add_comm done.length 1]
  rfl

def packedItem (packer : DeterministicRagContextPacker) (done : List (RetrievalResult δ))
    (state : PackState δ) (candidate : RetrievalResult δ) : PackedItem δ :=
  ⟨candidate, done.length + 1, state.included.length + 1,
    (prospectText state candidate).utf8ByteSize - state.currentBytes,
    packer.tokenEstimator.estimateTokens (prospectText state candidate) - state.currentTokens⟩

theorem validate_packedItem (hcounts : Counts packer.tokenEstimator)
    (h : Reached packer budget done state) (candidate : RetrievalResult δ) :
    (packedItem packer done state candidate).validate = .ok () := by
  have hbytes := utf8ByteSize_concat state.packedRetrievals (prospectOf state candidate)
  have htokens := hcounts.tokensOf_le state.packedRetrievals (prospectOf state candidate)
  rw [← h.tokens_eq] at htokens
  have hcurrent := h.bytes_eq
  refine raiseIf_bind_eq_ok.mpr ⟨not_lt.mpr (Nat.succ_pos _), raiseIf_bind_eq_ok.mpr
    ⟨not_lt.mpr (Nat.succ_pos _), raiseIf_bind_eq_ok.mpr ⟨?_, raiseIf_eq_ok.mpr ?_⟩⟩⟩
  · change ¬((prospectText state candidate).utf8ByteSize : ℤ) - state.currentBytes < 1
    rw [prospectText]
    omega
  · change ¬packer.tokenEstimator.estimateTokens (prospectText state candidate) -
      state.currentTokens < 0
    rw [prospectText]
    omega

def nextState (packer : DeterministicRagContextPacker) (budget : PackingBudget)
    (done : List (RetrievalResult δ)) (state : PackState δ) (candidate : RetrievalResult δ) :
    PackState δ :=
  if reasonsOf packer budget state candidate ≠ [] then
    { state with omitted := state.omitted ++
        [⟨candidate, done.length + 1, reasonsOf packer budget state candidate⟩] }
  else
    { state with
      included := state.included ++ [packedItem packer done state candidate]
      packedRetrievals := state.packedRetrievals ++ [prospectOf state candidate]
      currentBytes := (prospectText state candidate).utf8ByteSize
      currentTokens := packer.tokenEstimator.estimateTokens (prospectText state candidate) }

theorem packCandidate_eq (hcounts : Counts packer.tokenEstimator)
    (h : Reached packer budget done state) (hcandidate : candidate.IsValid) :
    packer.packCandidate budget (done.length + 1) candidate state =
      .ok (nextState packer budget done state candidate) := by
  have hbuild := buildRagContext_prospect h hcandidate
  have hestimate := @Counts.estimate_eq packer hcounts (prospectText state candidate)
  rw [prospectOf] at hbuild
  rw [packCandidate, hbuild, ok_bind, hestimate, ok_bind, nextState]
  split
  case isTrue hreasons =>
    refine (if_pos hreasons).trans ?_
    exact bind_eq_ok.mpr ⟨(), validate_omitted (Nat.succ_pos _) hreasons, rfl⟩
  case isFalse hreasons =>
    refine (if_neg hreasons).trans ?_
    exact bind_eq_ok.mpr ⟨(), validate_packedItem hcounts h candidate, rfl⟩

theorem pairwise_concat {positions : List ℕ} {last : ℕ} (h : positions.Pairwise (· < ·))
    (hlast : ∀ position ∈ positions, position < last) : (positions ++ [last]).Pairwise (· < ·) := by
  refine List.pairwise_append.mpr ⟨h, List.pairwise_singleton _ _, ?_⟩
  intro position hmem other hother
  rw [List.mem_singleton.mp hother]
  exact hlast position hmem

theorem reached_omitted (h : Reached packer budget done state) (hcandidate : candidate.IsValid)
    (hreasons : reasonsOf packer budget state candidate ≠ []) :
    Reached packer budget (done ++ [candidate]) { state with omitted := state.omitted ++
      [⟨candidate, done.length + 1, reasonsOf packer budget state candidate⟩] } where
  packed_eq := h.packed_eq
  valid := h.valid
  ranks := h.ranks
  bytes_eq := h.bytes_eq
  tokens_eq := h.tokens_eq
  bytes_sum := h.bytes_sum
  tokens_sum := h.tokens_sum
  classified := by
    rw [zipIdx_concat, List.map_append, ← List.append_assoc]
    exact h.classified.append_right _
  included_le item hmem := by
    rw [List.length_append]
    exact (h.included_le item hmem).trans (Nat.le_succ _)
  omitted_le item hmem := by
    rw [List.length_append, List.length_singleton]
    rcases List.mem_append.mp hmem with hold | hnew
    · exact (h.omitted_le item hold).trans (Nat.le_succ _)
    · rw [List.mem_singleton.mp hnew]
  included_order := h.included_order
  omitted_order := by
    rw [List.map_append]
    refine pairwise_concat h.omitted_order fun position hmem => ?_
    obtain ⟨item, hitem, rfl⟩ := List.mem_map.mp hmem
    exact Nat.lt_succ_of_le (h.omitted_le item hitem)
  items_le := h.items_le
  bytes_le := h.bytes_le
  tokens_le := h.tokens_le
  included_judged := h.included_judged
  omitted_judged item hmem := by
    rcases List.mem_append.mp hmem with hold | hnew
    · exact h.omitted_judged item hold
    · rw [List.mem_singleton.mp hnew]
      have hjudged := judged_prospect h hcandidate
      exact ⟨hreasons, hjudged⟩

theorem not_exceeds (hreasons : reasonsOf packer budget state candidate = [])
    (reason : OmissionReason) : ¬Exceeds packer budget (state.included.length + 1)
      (prospectText state candidate) reason := by
  rw [← mem_omissionReasons]
  intro hmem
  rw [reasonsOf] at hreasons
  rw [hreasons] at hmem
  exact List.not_mem_nil hmem

theorem reached_included (h : Reached packer budget done state) (hcandidate : candidate.IsValid)
    (hreasons : reasonsOf packer budget state candidate = []) :
    Reached packer budget (done ++ [candidate]) { state with
      included := state.included ++ [packedItem packer done state candidate]
      packedRetrievals := state.packedRetrievals ++ [prospectOf state candidate]
      currentBytes := (prospectText state candidate).utf8ByteSize
      currentTokens := packer.tokenEstimator.estimateTokens (prospectText state candidate) } where
  packed_eq := by
    rw [h.packed_eq, repacked, repacked, List.map_append]
    rfl
  valid result hmem := by
    rcases List.mem_append.mp hmem with hold | hnew
    · exact h.valid result hold
    · rw [List.mem_singleton.mp hnew]
      exact ⟨hcandidate.chunk_valid, hcandidate.score_ge, hcandidate.score_le, Nat.succ_pos _⟩
  ranks := by
    rw [List.map_append, h.ranks, List.length_append, List.length_singleton, List.range'_concat]
    simp [packedItem, Nat.add_comm]
  bytes_eq := rfl
  tokens_eq := (if_neg (by simp)).symm
  bytes_sum := by
    rw [List.map_append, List.sum_append, h.bytes_sum]
    simp [packedItem]
  tokens_sum := by
    rw [List.map_append, List.sum_append, h.tokens_sum]
    simp [packedItem]
  classified := by
    rw [zipIdx_concat, List.map_append, List.append_assoc]
    refine List.Perm.trans (List.Perm.append_left _ List.perm_append_comm) ?_
    rw [← List.append_assoc]
    exact h.classified.append_right _
  included_le item hmem := by
    rw [List.length_append, List.length_singleton]
    rcases List.mem_append.mp hmem with hold | hnew
    · exact (h.included_le item hold).trans (Nat.le_succ _)
    · rw [List.mem_singleton.mp hnew]
      exact le_refl _
  omitted_le item hmem := by
    rw [List.length_append]
    exact (h.omitted_le item hmem).trans (Nat.le_succ _)
  included_order := by
    rw [List.map_append]
    refine pairwise_concat h.included_order fun position hmem => ?_
    obtain ⟨item, hitem, rfl⟩ := List.mem_map.mp hmem
    exact Nat.lt_succ_of_le (h.included_le item hitem)
  omitted_order := h.omitted_order
  items_le := by
    rw [List.length_append, List.length_singleton]
    exact Nat.le_of_not_lt (not_exceeds hreasons .itemLimit)
  bytes_le := Int.ofNat_le.mpr (Nat.le_of_not_lt (not_exceeds hreasons .utf8ByteLimit))
  tokens_le := not_lt.mp (not_exceeds hreasons .estimatedTokenLimit)
  included_judged item hmem := by
    rcases List.mem_append.mp hmem with hold | hnew
    · exact (h.included_judged item hold).concat ((h.included_le item hold).trans (Nat.le_succ _))
    · rw [List.mem_singleton.mp hnew, ← hreasons]
      exact (judged_prospect h hcandidate).concat (le_refl _)
  omitted_judged item hmem :=
    ⟨(h.omitted_judged item hmem).1,
      (h.omitted_judged item hmem).2.concat ((h.omitted_le item hmem).trans (Nat.le_succ _))⟩

theorem reached_nextState (h : Reached packer budget done state) (hcandidate : candidate.IsValid) :
    Reached packer budget (done ++ [candidate]) (nextState packer budget done state candidate) := by
  unfold nextState
  split
  case isTrue hreasons => exact reached_omitted h hcandidate hreasons
  case isFalse hreasons => exact reached_included h hcandidate (not_not.mp hreasons)

theorem packCandidates_reaches (hcounts : Counts packer.tokenEstimator)
    {candidates : List (RetrievalResult δ)} (hvalid : ∀ candidate ∈ candidates, candidate.IsValid)
    (h : Reached packer budget done state) :
    ∃ last, packer.packCandidates budget (done.length + 1) candidates state = .ok last ∧
      Reached packer budget (done ++ candidates) last := by
  induction candidates generalizing done state with
  | nil =>
    rw [List.append_nil]
    exact ⟨state, rfl, h⟩
  | cons candidate candidates ih =>
    have hcandidate := hvalid candidate List.mem_cons_self
    obtain ⟨last, hrun, hlast⟩ := ih
      (fun other hmem => hvalid other (List.mem_cons_of_mem candidate hmem))
      (reached_nextState h hcandidate)
    rw [List.length_append, List.length_singleton] at hrun
    rw [List.append_assoc, List.singleton_append] at hlast
    refine ⟨last, ?_, hlast⟩
    rw [packCandidates, packCandidate_eq hcounts h hcandidate, ok_bind]
    exact hrun

end

/-! ## The result -/

section

variable {packer : DeterministicRagContextPacker} {casefold : Casefold}
  {request : PackingRequest casefold δ} {state : PackState δ}

def usageOf (request : PackingRequest casefold δ) (state : PackState δ) : PackingUsage :=
  ⟨request.candidates.length, state.included.length, state.omitted.length, state.currentBytes,
    state.currentTokens⟩

def resultOf (request : PackingRequest casefold δ) (state : PackState δ) :
    PackingResult casefold δ :=
  ⟨request, state.included, state.omitted, usageOf request state, decide (state.omitted ≠ [])⟩

variable {positions : List ℕ}

theorem sorted_of_pairwise (h : positions.Pairwise (· < ·)) :
    PackingResult.sorted positions = positions :=
  List.mergeSort_of_pairwise (h.imp fun hlt => decide_eq_true hlt.le)

theorem sorted_of_perm {count : ℕ} (h : positions.Perm (List.range' 1 count)) :
    PackingResult.sorted positions = List.range' 1 count := by
  have hsorted : (PackingResult.sorted positions).Pairwise (· ≤ ·) := by
    refine (List.pairwise_mergeSort ?_ ?_ positions).imp of_decide_eq_true
    · intro first second third hfirst hsecond
      exact decide_eq_true ((of_decide_eq_true hfirst).trans (of_decide_eq_true hsecond))
    · intro first second
      rw [Bool.or_eq_true]
      exact (le_total first second).imp decide_eq_true decide_eq_true
  have hrange : (List.range' 1 count).Pairwise (· ≤ ·) :=
    List.Pairwise.imp le_of_lt List.pairwise_lt_range'
  exact ((List.mergeSort_perm positions _).trans h).eq_of_pairwise
    (fun _ _ _ _ hab hba => le_antisymm hab hba) hsorted hrange

theorem positions_perm (h : Reached packer request.budget request.candidates state) :
    ((resultOf request state).classified.map Prod.fst).Perm
      (List.range' 1 request.candidates.length) := by
  have hperm := h.classified.map Prod.fst
  rw [List.map_map, show (Prod.fst ∘ Prod.swap : RetrievalResult δ × ℕ → ℕ) = Prod.snd from rfl,
    List.zipIdx_map_snd] at hperm
  exact hperm

theorem getElem?_of_classified (h : Reached packer request.budget request.candidates state) :
    ∀ item ∈ (resultOf request state).classified,
      request.candidates[item.1 - 1]? = some item.2 := by
  intro item hmem
  obtain ⟨⟨candidate, position⟩, hzip, rfl⟩ := List.mem_map.mp (h.classified.mem_iff.mp hmem)
  exact (List.mk_mem_zipIdx_iff_le_and_getElem?_sub.mp hzip).2

theorem validate_usageOf (h : Reached packer request.budget request.candidates state)
    (hcounts : Counts packer.tokenEstimator) : (usageOf request state).validate = .ok () := by
  refine raiseIf_bind_eq_ok.mpr ⟨?_, raiseIf_eq_ok.mpr ?_⟩
  · change ¬state.currentBytes < 0
    rw [h.bytes_eq]
    omega
  · change ¬state.currentTokens < 0
    rw [h.tokens_eq, tokensOf]
    split
    · exact lt_irrefl 0
    · exact not_lt.mpr (hcounts.estimate_nonneg _)

theorem expectedUsage_resultOf (h : Reached packer request.budget request.candidates state) :
    (resultOf request state).expectedUsage = usageOf request state := by
  rw [PackingResult.expectedUsage, usageOf, ← h.bytes_sum, ← h.tokens_sum]
  rfl

theorem validate_resultOf [DecidableEq δ]
    (h : Reached packer request.budget request.candidates state)
    (hcounts : Counts packer.tokenEstimator) : (resultOf request state).validate = .ok () := by
  have hpositions := positions_perm h
  refine raiseIf_bind_eq_ok.mpr ⟨?nodup, raiseIf_bind_eq_ok.mpr ⟨?cover, raiseIf_bind_eq_ok.mpr
    ⟨?exact, raiseIf_bind_eq_ok.mpr ⟨?included, raiseIf_bind_eq_ok.mpr ⟨?omitted,
    raiseIf_bind_eq_ok.mpr ⟨?ranks, bind_eq_ok.mpr ⟨(), ?usage, raiseIf_bind_eq_ok.mpr ⟨?same,
    raiseIf_bind_eq_ok.mpr ⟨?items, raiseIf_bind_eq_ok.mpr ⟨?bytes, raiseIf_bind_eq_ok.mpr ⟨?tokens,
    raiseIf_eq_ok.mpr ?truncated⟩⟩⟩⟩⟩⟩⟩⟩⟩⟩⟩
  case nodup => exact not_not.mpr (hpositions.nodup_iff.mpr List.nodup_range')
  case cover => exact not_not.mpr (sorted_of_perm hpositions)
  case exact =>
    rintro ⟨item, hmem, hne⟩
    exact hne (getElem?_of_classified h item hmem)
  case included => exact not_not.mpr (sorted_of_pairwise h.included_order).symm
  case omitted => exact not_not.mpr (sorted_of_pairwise h.omitted_order).symm
  case ranks => exact not_not.mpr h.ranks
  case usage =>
    rw [expectedUsage_resultOf h]
    exact validate_usageOf h hcounts
  case same => exact not_not.mpr (expectedUsage_resultOf h).symm
  case items => exact not_lt.mpr h.items_le
  case bytes => exact not_lt.mpr h.bytes_le
  case tokens => exact not_lt.mpr h.tokens_le
  case truncated => exact not_not.mpr rfl

end

structure Honest (packer : DeterministicRagContextPacker) (included : List (PackedItem δ))
    (usage : PackingUsage) : Prop where
  context : ∃ context, buildRagContext (repacked included) none = .ok context ∧
    usage.contextUtf8Bytes = context.contextText.utf8ByteSize ∧
    usage.estimatedTokens =
      if included = [] then 0 else packer.tokenEstimator.estimateTokens context.contextText

structure PacksGreedily {casefold : Casefold} (packer : DeterministicRagContextPacker)
    (request : PackingRequest casefold δ) (result : PackingResult casefold δ) : Prop where
  request_eq : result.request = request
  classified : result.classified.Perm ((request.candidates.zipIdx 1).map Prod.swap)
  included_order : (result.included.map fun item => item.originalPosition).Pairwise (· < ·)
  omitted_order : (result.omitted.map fun item => item.originalPosition).Pairwise (· < ·)
  ranks : result.included.map (fun item => item.packedRank) = List.range' 1 result.included.length
  honest : Honest packer result.included result.usage
  counts : result.usage.candidateCount = request.candidates.length ∧
    result.usage.includedCount = result.included.length ∧
    result.usage.omittedCount = result.omitted.length
  items_le : result.included.length ≤ request.budget.maximumItems
  bytes_le : result.usage.contextUtf8Bytes ≤ request.budget.maximumUtf8Bytes
  tokens_le : result.usage.estimatedTokens ≤ request.budget.maximumEstimatedTokens
  included_judged : ∀ item ∈ result.included,
    Judged packer request.budget result.included item.originalPosition item.retrieval []
  omitted_judged : ∀ item ∈ result.omitted, item.reasons ≠ [] ∧
    Judged packer request.budget result.included item.originalPosition item.retrieval item.reasons
  truncated_iff : result.wasTruncated = true ↔ result.omitted ≠ []

theorem honest_of_reached {packer : DeterministicRagContextPacker} {budget : PackingBudget}
    {done : List (RetrievalResult δ)} {state : PackState δ} {usage : PackingUsage}
    (h : Reached packer budget done state) (hbytes : usage.contextUtf8Bytes = state.currentBytes)
    (htokens : usage.estimatedTokens = state.currentTokens) :
    Honest packer state.included usage := by
  have hranks := ranks_packedRetrievals h
  rw [← length_packedRetrievals h] at hranks
  have hnil : state.packedRetrievals = [] ↔ state.included = [] := by
    rw [h.packed_eq, repacked, List.map_eq_nil_iff]
  refine ⟨⟨renderedText state.packedRetrievals, citations 1 state.packedRetrievals⟩, ?_,
    hbytes.trans h.bytes_eq, ?_⟩
  · rw [← h.packed_eq]
    exact buildRagContext_eq h.valid hranks
  · rw [htokens, h.tokens_eq, tokensOf]
    simp only [hnil]

/-- Packing with the budget's estimator is complete, honest and greedy. -/
theorem pack_greedy [DecidableEq δ] {casefold : Casefold}
    (packer : DeterministicRagContextPacker) (request : PackingRequest casefold δ)
    (hid : packer.tokenEstimator.estimatorId = request.budget.tokenEstimatorId)
    (hcounts : Counts packer.tokenEstimator) :
    ∃ result, packer.pack request = .ok result ∧ PacksGreedily packer request result := by
  obtain ⟨state, hrun, h⟩ := packCandidates_reaches hcounts request.candidates_valid
    (@reached_start δ packer request.budget)
  rw [List.nil_append] at h
  refine ⟨resultOf request state, ?_, ?_⟩
  · refine raiseIf_bind_eq_ok.mpr ⟨not_not.mpr hid, bind_eq_ok.mpr ⟨state, hrun, ?_⟩⟩
    refine bind_eq_ok.mpr ⟨(), validate_usageOf h hcounts, ?_⟩
    exact bind_eq_ok.mpr ⟨(), validate_resultOf h hcounts, rfl⟩
  · exact ⟨rfl, h.classified, h.included_order, h.omitted_order, h.ranks,
      honest_of_reached h rfl rfl, ⟨rfl, rfl, rfl⟩, h.items_le, h.bytes_le, h.tokens_le,
      h.included_judged, h.omitted_judged, decide_eq_true_iff⟩

def sampleChunk (chunkId : String) : DocumentChunk (Metadata Unit) :=
  ⟨"d", chunkId, 0, "solar", 0, 5, [("source", .text " report ")]⟩

def sampleRetrieval (chunkId : String) (rank : ℕ) : RetrievalResult Unit :=
  ⟨sampleChunk chunkId, ⟨1 / 2, "0.500000"⟩, rank⟩

def sampleBudget (estimatorId : String) : PackingBudget := ⟨5, 60, 100, estimatorId⟩

def emptyRequest (estimatorId : String) : PackingRequest asciiCasefold Unit :=
  ⟨[], sampleBudget estimatorId, nofun, by decide, .nil, rfl⟩

theorem isValid_sampleRetrieval {chunkId : String} {rank : ℕ} (hid : 1 ≤ chunkId.length)
    (hrank : 1 ≤ rank) : (sampleRetrieval chunkId rank).IsValid where
  chunk_valid := by
    have htext : "solar".length = 5 := by decide
    simp only [DocumentChunker.newDocumentChunk, raiseIf_bind_eq_ok]
    refine ⟨?_, not_lt.mpr hid, ?_, ?_, ?_, ?_, rfl⟩
    all_goals simp [sampleRetrieval, sampleChunk, htext]
  score_ge := by norm_num [sampleRetrieval]
  score_le := by norm_num [sampleRetrieval]
  rank_pos := hrank

def sampleRequest : PackingRequest asciiCasefold Unit where
  candidates := [sampleRetrieval "c1" 1, sampleRetrieval "c2" 2]
  budget := sampleBudget conservativeUtf8TokenEstimator.estimatorId
  candidates_valid := by
    intro candidate hmem
    rcases List.mem_pair.mp hmem with rfl | rfl
    · exact isValid_sampleRetrieval (by decide) (by decide)
    · exact isValid_sampleRetrieval (by decide) (by decide)
  length_le := by decide
  identities_nodup := by decide +kernel
  ranks_eq := rfl

def constantEstimator : TokenEstimator := ⟨"one", fun _ => 1⟩

theorem counts_constant : Counts constantEstimator := ⟨by decide, fun _ _ => le_refl _⟩

theorem pack_emptyRequest : DeterministicRagContextPacker.pack ⟨constantEstimator⟩
    (emptyRequest "one") = .ok (resultOf (emptyRequest "one") ⟨[], [], [], 0, 0⟩) := by
  have hreached := @reached_start Unit ⟨constantEstimator⟩ (sampleBudget "one")
  refine raiseIf_bind_eq_ok.mpr ⟨not_not.mpr rfl, bind_eq_ok.mpr ⟨_, rfl, ?_⟩⟩
  refine bind_eq_ok.mpr ⟨(), validate_usageOf hreached counts_constant, ?_⟩
  exact bind_eq_ok.mpr ⟨(), validate_resultOf hreached counts_constant, rfl⟩

/-- An estimator that is not the budget's is refused, and nothing is counted where nothing is
packed, even by an estimator that counts one token in the empty text. -/
theorem pack_not_complete :
    Counts conservativeUtf8TokenEstimator ∧ Counts constantEstimator ∧
      DeterministicRagContextPacker.pack ⟨conservativeUtf8TokenEstimator⟩ (emptyRequest "other") =
        .error ⟨.valueError, "token estimator_id must match the packing budget"⟩ ∧
      (DeterministicRagContextPacker.pack ⟨constantEstimator⟩ (emptyRequest "one")).map
          (fun result => (result.included.length, result.usage.estimatedTokens)) = .ok (0, 0) ∧
      (buildRagContext ([] : List (RetrievalResult Unit)) none).map
          (fun context => constantEstimator.estimateTokens context.contextText) = .ok 1 := by
  refine ⟨counts_conservative, counts_constant, rfl, ?_, rfl⟩
  rw [pack_emptyRequest]
  rfl

theorem pack_greedy_sample : ∃ result,
    DeterministicRagContextPacker.pack ⟨conservativeUtf8TokenEstimator⟩ sampleRequest = .ok result ∧
      PacksGreedily ⟨conservativeUtf8TokenEstimator⟩ sampleRequest result :=
  pack_greedy ⟨conservativeUtf8TokenEstimator⟩ sampleRequest rfl counts_conservative

end AgenticLab.RagContextPacking
