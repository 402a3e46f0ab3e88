import AgenticLab.Verification.Merkle.Soundness

/-! # Exactness of inclusion proofs

The verifier threads an offset through the splits of the generator. On a path that has the
generated siblings at this offset it rebuilds the root, and no other leaf or path does. -/

namespace AgenticLab.TransparencyMerkle

variable {δ : Type*} (H : MerkleHash δ)

/-! ## One split -/

def joinSibling (join : δ → δ → δ) (path : List δ) (rebuilt : δ × ℕ) : Except Raised (δ × ℕ) :=
  match path[rebuilt.2]? with
  | none => .error validationFailure
  | some sibling => .ok (join rebuilt.1 sibling, rebuilt.2 + 1)

variable {join : δ → δ → δ} {path : List δ} {root : δ}

theorem bind_joinSibling_eq_ok {rebuilt : Except Raised (δ × ℕ)} {consumed : ℕ}
    (h : rebuilt.bind (joinSibling join path) = .ok (root, consumed)) :
    ∃ hash used sibling, rebuilt = .ok (hash, used) ∧ path[used]? = some sibling ∧
      root = join hash sibling ∧ consumed = used + 1 := by
  cases rebuilt with
  | error failure => simp [Except.bind] at h
  | ok pair =>
    obtain ⟨hash, used⟩ := pair
    cases hsibling : path[used]? with
    | none => simp [Except.bind, joinSibling, hsibling] at h
    | some sibling =>
      simp only [Except.bind, joinSibling, hsibling, Except.ok.injEq, Prod.mk.injEq] at h
      exact ⟨hash, used, sibling, rfl, hsibling, h.1.symm, h.2.symm⟩

/-- What one split does for the leaf at `index`: it lies at `index'` in one half, and the root
of the other half is its sibling, joined on the right for the left half and on the left for
the right half. -/
structure SplitStep (leafHashes : List δ) (index : ℕ) (half : List δ) (index' : ℕ)
    (join : δ → δ → δ) (sibling : δ) : Prop where
  shorter : half.length < leafHashes.length
  index_lt : index' < half.length
  subset : ∀ x ∈ half, x ∈ leafHashes
  leaf : half[index']? = leafHashes[index]?
  side : join = H.node ∨ join = fun hash sibling => H.node sibling hash
  root : merkleRootFromLeafHashes H leafHashes = join (merkleRootFromLeafHashes H half) sibling
  sibling_valid : (∀ x ∈ leafHashes, H.isValid x = true) → H.isValid sibling = true
  generated : inclusionPathFromLeafHashes H leafHashes index =
    inclusionPathFromLeafHashes H half index' ++ [sibling]
  rebuilt : ∀ leafHash path offset,
    rootFromInclusionPath H leafHash index leafHashes.length path offset =
      (rootFromInclusionPath H leafHash index' half.length path offset).bind (joinSibling join path)

variable {leafHashes : List δ} {index : ℕ}

theorem exists_splitStep (hlen : ¬leafHashes.length ≤ 1)
    (hindex : index < leafHashes.length) :
    ∃ half index' join sibling, SplitStep H leafHashes index half index' join sibling := by
  have hlt := largestPowerOfTwoLessThan_lt leafHashes.length (by omega)
  have hpos := largestPowerOfTwoLessThan_pos leafHashes.length
  have hroot := merkleRootFromLeafHashes_split H leafHashes (by omega)
  have hpath := inclusionPathFromLeafHashes.eq_1 H leafHashes index
  have hrebuilt := fun leafHash path offset =>
    rootFromInclusionPath.eq_1 H leafHash index leafHashes.length path offset
  rw [dif_neg hlen] at hpath
  simp only [dif_neg hlen] at hrebuilt
  generalize largestPowerOfTwoLessThan leafHashes.length = split at *
  have htake : (leafHashes.take split).length = split := by
    rw [List.length_take]; omega
  have hdrop : (leafHashes.drop split).length = leafHashes.length - split := List.length_drop
  by_cases hside : index < split
  · simp only [if_pos hside] at hpath hrebuilt
    refine ⟨leafHashes.take split, index, H.node, merkleRootFromLeafHashes H
      (leafHashes.drop split), by omega, by omega, fun x hx => List.mem_of_mem_take hx,
      List.getElem?_take_of_lt hside, Or.inl rfl, hroot, fun h => ?_, hpath, ?_⟩
    · exact merkleRootFromLeafHashes_valid H (List.ne_nil_of_length_pos (by omega))
        (fun x hx => h x (List.mem_of_mem_drop hx))
    · intro leafHash path offset
      rw [hrebuilt, htake]
      rfl
  · simp only [if_neg hside] at hpath hrebuilt
    refine ⟨leafHashes.drop split, index - split, fun hash sibling => H.node sibling hash,
      merkleRootFromLeafHashes H (leafHashes.take split), by omega, by omega,
      fun x hx => List.mem_of_mem_drop hx, ?_, Or.inr rfl, hroot, fun h => ?_, hpath, ?_⟩
    · rw [List.getElem?_drop, Nat.add_sub_cancel' (by omega)]
    · exact merkleRootFromLeafHashes_valid H (List.ne_nil_of_length_pos (by omega))
        (fun x hx => h x (List.mem_of_mem_take hx))
    · intro leafHash path offset
      rw [hrebuilt, hdrop]
      rfl

theorem split_induction {motive : (leafHashes : List δ) → (index : ℕ) →
      index < leafHashes.length → Prop}
    (single : ∀ leafHash, motive [leafHash] 0 Nat.one_pos)
    (step : ∀ leafHashes index half index' join sibling hindex,
      (hsplit : SplitStep H leafHashes index half index' join sibling) →
        motive half index' hsplit.index_lt → motive leafHashes index hindex)
    (leafHashes : List δ) (index : ℕ) (hindex : index < leafHashes.length) :
    motive leafHashes index hindex := by
  induction hlen : leafHashes.length using Nat.strong_induction_on generalizing leafHashes index with
  | _ n ih =>
    by_cases hone : leafHashes.length ≤ 1
    · obtain ⟨only, rfl⟩ := List.length_eq_one_iff.mp (show leafHashes.length = 1 by omega)
      obtain rfl : index = 0 := by simpa using hindex
      exact single only
    · obtain ⟨half, index', join, sibling, hsplit⟩ := exists_splitStep H hone hindex
      exact step _ _ _ _ _ _ hindex hsplit
        (ih half.length (hlen ▸ hsplit.shorter) half index' hsplit.index_lt rfl)

/-- With the generated siblings at the offset, the root is rebuilt and the offset moves
behind them. -/
theorem rootFromInclusionPath_generated (leafHashes : List δ) (index : ℕ)
    (hindex : index < leafHashes.length) (leafHash : δ)
    (hleaf : leafHashes[index]? = some leafHash) (before after : List δ) :
    rootFromInclusionPath H leafHash index leafHashes.length
        (before ++ (inclusionPathFromLeafHashes H leafHashes index ++ after)) before.length =
      .ok (merkleRootFromLeafHashes H leafHashes,
        before.length + (inclusionPathFromLeafHashes H leafHashes index).length) := by
  induction leafHashes, index, hindex using split_induction H generalizing after with
  | single only =>
    obtain rfl : only = leafHash := by simpa using hleaf
    rw [rootFromInclusionPath, inclusionPathFromLeafHashes, merkleRootFromLeafHashes_singleton]
    rfl
  | step leafHashes index half index' join sibling hindex hsplit ih =>
    have hrec := ih (hsplit.leaf.trans hleaf) (sibling :: after)
    have hget : (before ++ (inclusionPathFromLeafHashes H half index' ++ sibling :: after))[
        before.length + (inclusionPathFromLeafHashes H half index').length]? = some sibling := by
      rw [List.getElem?_append_right (Nat.le_add_right _ _), Nat.add_sub_cancel_left,
        List.getElem?_append_right le_rfl, Nat.sub_self, List.getElem?_cons_zero]
    rw [hsplit.rebuilt, hsplit.generated, List.append_assoc, List.singleton_append, hrec,
      hsplit.root]
    simp only [Except.bind, joinSibling, hget, List.length_append, List.length_singleton,
      Nat.add_assoc]

theorem inclusionPathFromLeafHashes_valid (leafHashes : List δ) (index : ℕ)
    (hindex : index < leafHashes.length) (h : ∀ x ∈ leafHashes, H.isValid x = true) :
    ∀ x ∈ inclusionPathFromLeafHashes H leafHashes index, H.isValid x = true := by
  induction leafHashes, index, hindex using split_induction H with
  | single only =>
    rw [inclusionPathFromLeafHashes]
    simp
  | step leafHashes index half index' join sibling hindex hsplit ih =>
    rw [hsplit.generated]
    intro x hx
    rcases List.mem_append.mp hx with hx | hx
    · exact ih (fun y hy => h y (hsplit.subset y hy)) x hx
    · rw [List.mem_singleton.mp hx]
      exact hsplit.sibling_valid h

variable {leafHash root : δ} {offset consumed : ℕ}

theorem rootFromInclusionPath_consumed (leafHashes : List δ) (index : ℕ)
    (hindex : index < leafHashes.length)
    (h : rootFromInclusionPath H leafHash index leafHashes.length path offset =
      .ok (root, consumed)) :
    consumed = offset + (inclusionPathFromLeafHashes H leafHashes index).length := by
  induction leafHashes, index, hindex using split_induction H generalizing root consumed with
  | single only =>
    rw [rootFromInclusionPath] at h
    rw [inclusionPathFromLeafHashes]
    simp_all
  | step leafHashes index half index' join sibling hindex hsplit ih =>
    rw [hsplit.rebuilt] at h
    obtain ⟨hash, used, -, hrec, -, -, rfl⟩ := bind_joinSibling_eq_ok h
    rw [hsplit.generated, List.length_append, ih hrec, List.length_singleton, Nat.add_assoc]

theorem rootFromInclusionPath_valid (leafHashes : List δ) (index : ℕ)
    (hindex : index < leafHashes.length)
    (hleaf : H.isValid leafHash = true)
    (h : rootFromInclusionPath H leafHash index leafHashes.length path offset =
      .ok (root, consumed)) :
    H.isValid root = true := by
  induction leafHashes, index, hindex using split_induction H generalizing root consumed with
  | single only =>
    rw [rootFromInclusionPath] at h
    simp_all
  | step leafHashes index half index' join sibling hindex hsplit ih =>
    rw [hsplit.rebuilt] at h
    obtain ⟨hash, used, _, -, -, rfl, -⟩ := bind_joinSibling_eq_ok h
    rcases hsplit.side with rfl | rfl
    · exact H.node_valid _ _
    · exact H.node_valid _ _

theorem SplitStep.join_inj {H : MerkleHash δ} (hfree : H.CollisionFree)
    {half : List δ} {index' : ℕ} {sibling : δ}
    (hsplit : SplitStep H leafHashes index half index' join sibling) {a b a' b' : δ}
    (ha : H.isValid a = true) (hb : H.isValid b = true) (ha' : H.isValid a' = true)
    (hb' : H.isValid b' = true) (h : join a b = join a' b') : a = a' ∧ b = b' := by
  rcases hsplit.side with rfl | rfl
  · exact hfree.node_inj a ha b hb a' ha' b' hb' h
  · exact (hfree.node_inj b hb a ha b' hb' a' ha' h).symm

theorem rootFromInclusionPath_unique {H : MerkleHash δ} (hfree : H.CollisionFree)
    (leafHashes : List δ) (index : ℕ) (hindex : index < leafHashes.length)
    (hleaves : ∀ x ∈ leafHashes, H.isValid x = true) {leafHash : δ}
    (hleaf : H.isValid leafHash = true) (hpath : ∀ x ∈ path, H.isValid x = true)
    (h : rootFromInclusionPath H leafHash index leafHashes.length path offset =
      .ok (merkleRootFromLeafHashes H leafHashes, consumed)) :
    leafHashes[index]? = some leafHash ∧
      ∀ k < (inclusionPathFromLeafHashes H leafHashes index).length,
        path[offset + k]? = (inclusionPathFromLeafHashes H leafHashes index)[k]? := by
  induction leafHashes, index, hindex using split_induction H generalizing consumed with
  | single only =>
    rw [rootFromInclusionPath, merkleRootFromLeafHashes_singleton] at h
    rw [inclusionPathFromLeafHashes]
    simp_all
  | step leafHashes index half index' join sibling hindex hsplit ih =>
    have hhalf : ∀ x ∈ half, H.isValid x = true := fun x hx => hleaves x (hsplit.subset x hx)
    have hhalfRoot := merkleRootFromLeafHashes_valid H
      (List.ne_nil_of_length_pos (Nat.zero_lt_of_lt hsplit.index_lt)) hhalf
    rw [hsplit.rebuilt, hsplit.root] at h
    obtain ⟨hash, used, read, hrec, hget, hjoin, -⟩ := bind_joinSibling_eq_ok h
    obtain ⟨rfl, rfl⟩ := hsplit.join_inj hfree hhalfRoot (hsplit.sibling_valid hleaves)
      (rootFromInclusionPath_valid H half index' hsplit.index_lt hleaf hrec)
      (hpath _ (List.mem_of_getElem? hget)) hjoin
    obtain ⟨hfound, hread⟩ := ih hhalf hrec
    have hused := rootFromInclusionPath_consumed H half index' hsplit.index_lt hrec
    refine ⟨hsplit.leaf ▸ hfound, fun k hk => ?_⟩
    rw [hsplit.generated, List.length_append, List.length_singleton] at hk
    rw [hsplit.generated]
    rcases Nat.lt_succ_iff_lt_or_eq.mp hk with hlt | rfl
    · rw [hread k hlt, List.getElem?_append_left hlt]
    · rw [← hused, hget, List.getElem?_append_right le_rfl]
      simp

theorem mapM_validateHexHash (path : List δ) :
    path.mapM (validateHexHash H) =
      if ∀ x ∈ path, H.isValid x = true then .ok path else .error validationFailure := by
  induction path with
  | nil => rfl
  | cons x rest ih =>
    rw [List.mapM_cons, ih]
    by_cases hx : H.isValid x = true
    · by_cases hrest : ∀ y ∈ rest, H.isValid y = true
      · rw [if_pos hrest, if_pos (by simpa [hx] using hrest), validateHexHash, if_pos hx]
        rfl
      · rw [if_neg hrest, if_neg (by simpa [hx] using hrest), validateHexHash, if_pos hx]
        rfl
    · have hall : ¬∀ y ∈ x :: rest, H.isValid y = true := fun h => hx (h x List.mem_cons_self)
      rw [if_neg hall, validateHexHash, if_neg hx]
      rfl

theorem calculateRootFromInclusionProof_eq_ok {candidate : δ} {treeSize : ℕ} :
    calculateRootFromInclusionProof H candidate index treeSize path = .ok root ↔
      index < treeSize ∧ path.length ≤ maxTransparencyProofHashes ∧
        (∀ x ∈ path, H.isValid x = true) ∧ H.isValid candidate = true ∧
        rootFromInclusionPath H (H.leaf candidate) index treeSize path 0 =
          .ok (root, path.length) := by
  rw [calculateRootFromInclusionProof, mapM_validateHexHash, calculateTransparencyLeafHash]
  by_cases hindex : index < treeSize
  · by_cases hlen : path.length ≤ maxTransparencyProofHashes
    · rw [if_neg (by omega), if_neg (by omega)]
      by_cases hpath : ∀ x ∈ path, H.isValid x = true
      · by_cases hcandidate : H.isValid candidate = true
        · rw [if_pos hpath, if_pos hcandidate]
          cases hrebuilt : rootFromInclusionPath H (H.leaf candidate) index treeSize path 0 with
          | error failure => simp [bind, Except.bind, hrebuilt]
          | ok pair =>
            by_cases hused : pair.2 = path.length
            · simp only [bind, Except.bind, hrebuilt, hused, hindex, hlen, hcandidate, pure,
                Except.pure, Except.ok.injEq, Prod.ext_iff, ne_eq, not_true_eq_false, if_false,
                and_true, true_and]
              tauto
            · simp [bind, Except.bind, hrebuilt, hused, throw, throwThe, MonadExceptOf.throw,
                Prod.ext_iff]
        · rw [if_pos hpath, if_neg hcandidate]
          simp [bind, Except.bind, hcandidate]
      · rw [if_neg hpath]
        simp only [bind, Except.bind, reduceCtorEq, false_iff]
        tauto
    · rw [if_neg (by omega), if_pos (by omega)]
      simp [bind, Except.bind, throw, throwThe, MonadExceptOf.throw, hlen]
  · rw [if_pos (by omega)]
    simp [bind, Except.bind, throw, throwThe, MonadExceptOf.throw, hindex]

theorem generateInclusionAuditPath_eq {entryHashes : List δ}
    (h : ∀ e ∈ entryHashes, H.isValid e = true) (hindex : index < entryHashes.length) :
    generateInclusionAuditPath H entryHashes index =
      .ok (inclusionPathFromLeafHashes H (entryHashes.map H.leaf) index) := by
  rw [generateInclusionAuditPath, mapM_calculateTransparencyLeafHash H h]
  have hnot : ¬(entryHashes.map H.leaf).length ≤ index := by
    rw [List.length_map]; omega
  simp only [bind, Except.bind, if_neg hnot]
  rfl

/-- Inclusion proofs are exact: over the entries of a computed root, a candidate and a path
rebuild this root if and only if the candidate is the entry at the index and the path is the
generated one, and a path of another length raises. -/
theorem calculateRootFromInclusionProof_exact (hfree : H.CollisionFree) (entryHashes : List δ)
    (root : δ) (hroot : calculateTransparencyMerkleRoot H entryHashes = .ok root) (index : ℕ)
    (hindex : index < entryHashes.length) (candidate : δ) (path : List δ) :
    (path.length ≤ maxTransparencyProofHashes →
      (calculateRootFromInclusionProof H candidate index entryHashes.length path = .ok root ↔
        entryHashes[index]? = some candidate ∧
          generateInclusionAuditPath H entryHashes index = .ok path)) ∧
    ∀ auditPath, generateInclusionAuditPath H entryHashes index = .ok auditPath →
      path.length ≠ auditPath.length →
        ∃ failure, calculateRootFromInclusionProof H candidate index entryHashes.length path =
          .error failure := by
  have hvalid := valid_of_calculateTransparencyMerkleRoot H hroot
  have hleaves : ∀ x ∈ entryHashes.map H.leaf, H.isValid x = true := by
    intro x hx
    obtain ⟨e, -, rfl⟩ := List.mem_map.mp hx
    exact H.leaf_valid e
  rw [calculateTransparencyMerkleRoot_eq H (List.ne_nil_of_length_pos (by omega)) hvalid] at hroot
  injection hroot with hroot
  rw [generateInclusionAuditPath_eq H hvalid hindex]
  have hlength : (entryHashes.map H.leaf).length = entryHashes.length := List.length_map _
  have hindex' : index < (entryHashes.map H.leaf).length := by omega
  refine ⟨fun hlen => ⟨fun h => ?_, ?_⟩, fun auditPath hpath hne => ?_⟩
  · obtain ⟨-, -, hpath, hcandidate, hrebuilt⟩ := (calculateRootFromInclusionProof_eq_ok H).mp h
    rw [← hlength, ← hroot] at hrebuilt
    obtain ⟨hfound, hread⟩ := rootFromInclusionPath_unique hfree _ index hindex' hleaves
      (H.leaf_valid candidate) hpath hrebuilt
    have hused := rootFromInclusionPath_consumed H _ index hindex' hrebuilt
    rw [Nat.zero_add] at hused
    refine ⟨?_, congrArg Except.ok (List.ext_getElem? fun k => ?_)⟩
    · rw [List.getElem?_map, Option.map_eq_some_iff] at hfound
      obtain ⟨e, he, hleaf⟩ := hfound
      rw [he, hfree.leaf_injOn (hvalid e (List.mem_of_getElem? he)) hcandidate hleaf]
    · rcases Nat.lt_or_ge k path.length with hk | hk
      · rw [← hread k (by omega), Nat.zero_add]
      · rw [List.getElem?_eq_none hk, List.getElem?_eq_none (by omega)]
  · rintro ⟨hfound, hpath⟩
    injection hpath with hpath
    have hgenerated := rootFromInclusionPath_generated H (entryHashes.map H.leaf) index hindex'
      (H.leaf candidate) (by rw [List.getElem?_map, hfound]; rfl) [] []
    rw [hlength, List.append_nil, List.nil_append, List.length_nil, Nat.zero_add, hpath,
      hroot] at hgenerated
    refine (calculateRootFromInclusionProof_eq_ok H).mpr ⟨hindex, hlen, ?_,
      hvalid candidate (List.mem_of_getElem? hfound), hgenerated⟩
    rw [← hpath]
    exact inclusionPathFromLeafHashes_valid H _ index hindex' hleaves
  · injection hpath with hpath
    cases h : calculateRootFromInclusionProof H candidate index entryHashes.length path with
    | error failure => exact ⟨failure, rfl⟩
    | ok rebuilt =>
      obtain ⟨-, -, -, -, hrebuilt⟩ := (calculateRootFromInclusionProof_eq_ok H).mp h
      rw [← hlength] at hrebuilt
      have hused := rootFromInclusionPath_consumed H _ index hindex' hrebuilt
      rw [Nat.zero_add, hpath] at hused
      exact absurd hused hne

theorem calculateRootFromInclusionProof_exact_one_of_two :
    calculateRootFromInclusionProof freeMerkleHash (.entry 1) 1 2 [.leaf (.entry 0)] =
      .ok (.node (.leaf (.entry 0)) (.leaf (.entry 1))) :=
  ((calculateRootFromInclusionProof_exact freeMerkleHash freeMerkleHash_collisionFree
    [.entry 0, .entry 1] (.node (.leaf (.entry 0)) (.leaf (.entry 1))) (by decide +kernel) 1
    (by decide) (.entry 1) [.leaf (.entry 0)]).1 (by decide)).mpr ⟨rfl, by decide +kernel⟩

end AgenticLab.TransparencyMerkle
