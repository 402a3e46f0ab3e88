import AgenticLab.Model.PersistentCacheMaintenance
import AgenticLab.Verification.EmbeddingCache

/-! # What pruning removes is what it reports -/

namespace AgenticLab

variable {casefold : Casefold} {floats : FiniteFloats}

theorem entryFilename_injective {key other : Sha256Digest}
    (h : entryFilename key = entryFilename other) : key = other := by
  have htexts := congrArg String.toList h
  simp only [entryFilename, String.toList_append] at htexts
  exact Subtype.ext (String.toList_inj.mp (List.append_cancel_right htexts))

variable {raised : Raised}

theorem compareDigest_error {a b : String}
    (h : compareDigest a b = .error raised) : raised.cls = .typeError := by
  simp only [compareDigest, bind_eq_error, raiseIf_eq_error, pure_eq_ok, reduceCtorEq, and_false,
    exists_false, or_false] at h
  rw [← h.2]

variable {entry : EmbeddingCacheEntry floats}

theorem validate_error (h : entry.validate = .error raised) :
    raised.cls = .validationError ∨ raised.cls = .typeError := by
  simp only [EmbeddingCacheEntry.validate, bind_eq_error, raiseIf_eq_error] at h
  rcases h with ⟨_, rfl⟩ | ⟨_, _, hcompare | ⟨_, _, ⟨_, rfl⟩ | ⟨_, _, _, rfl⟩⟩⟩
  · exact .inl rfl
  · exact .inr (compareDigest_error hcompare)
  · exact .inl rfl
  · exact .inl rfl

theorem accepted_error (h : entry.accepted = .error raised) : raised.cls = .typeError := by
  rw [EmbeddingCacheEntry.accepted] at h
  cases hvalid : entry.validate with
  | ok u => simp [hvalid] at h
  | error failure =>
    by_cases hclass : failure.cls = .validationError
    · simp [hvalid, hclass] at h
    · simp only [hvalid, hclass, if_false, Except.error.injEq] at h
      exact h ▸ (validate_error hvalid).resolve_left hclass

namespace PersistentCacheMaintenance

variable {formats : CacheFormats casefold floats} {content : List UInt8} {raised : Raised}

theorem payloadIsValid_error {cacheKind : CacheKind} {key : Sha256Digest}
    (h : formats.payloadIsValid cacheKind content key = .error raised) :
    isCaught raised = false := by
  suffices raised.cls = .recursionError ∨ raised.cls = .typeError by
    rcases this with hclass | hclass <;> simp [isCaught, hclass]
  rw [CacheFormats.payloadIsValid] at h
  cases htext : TextFile.decode content with
  | none => simp [htext] at h
  | some text =>
    simp only [htext, bind_eq_error, raiseIf_eq_error] at h
    rcases h with ⟨_, hdeep⟩ | ⟨_, _, h⟩
    · exact .inl (hdeep ▸ rfl)
    · cases hpayload : loadsNoDuplicateKeys text with
      | none => simp [hpayload] at h
      | some payload =>
        cases cacheKind with
        | embedding =>
          simp only [hpayload] at h
          cases hfields : embeddingEntryFromJson floats payload with
          | none => simp [hfields] at h
          | some fields =>
            simp only [hfields, bind_eq_error] at h
            rcases h with haccepted | ⟨accepted, _, h⟩
            · exact .inr (accepted_error haccepted)
            · cases accepted <;> simp at h
        | parsed =>
          simp only [hpayload] at h
          split at h <;> simp at h

/-! ## Computations that only look -/

variable {others : Interference} {plan : CachePrunePlan} {world : PruneWorld}

/-- Records nothing, reports nothing and raises only what is allowed. -/
def Quiet {α : Type} (allowed : PruneFailure → Prop) (x : PruneProgram α) : Prop :=
  ∀ world : PruneWorld, x.Post world fun result t =>
    t.events = world.events ∧ t.completed = world.completed ∧
      ∀ failure, result = .error failure → allowed failure

variable {allowed : PruneFailure → Prop} {α : Type}

theorem Quiet.pure (a : α) : Quiet allowed (Pure.pure a : PruneProgram α) :=
  fun _ => ⟨rfl, rfl, fun _ h => nomatch h⟩

variable {failure : PruneFailure}

theorem Quiet.raise (h : allowed failure) :
    Quiet allowed (Stateful.raise failure : PruneProgram α) :=
  fun _ => ⟨rfl, rfl, fun _ heq => Except.error.inj heq ▸ h⟩

theorem Quiet.bind {α β : Type} {x : PruneProgram α} {f : α → PruneProgram β}
    (hx : Quiet allowed x) (hf : ∀ a, Quiet allowed (f a)) : Quiet allowed (x >>= f) := by
  intro world
  refine (hx world).bind (fun a t ht => ?_) fun failure t ht => ⟨ht.1, ht.2.1, ?_⟩
  · refine (hf a t).imp fun result u hu => ?_
    exact ⟨hu.1.trans ht.1, hu.2.1.trans ht.2.1, hu.2.2⟩
  · intro raised heq
    exact ht.2.2 raised (by rw [← Except.error.inj heq])

variable {condition : Prop}

theorem Quiet.ite [Decidable condition] {x y : PruneProgram α}
    (hx : Quiet allowed x) (hy : Quiet allowed y) : Quiet allowed (if condition then x else y) := by
  split
  · exact hx
  · exact hy

theorem Quiet.raiseIf [Decidable condition]
    {x : Unit → PruneProgram α} (h : allowed failure) (hx : ∀ u, Quiet allowed (x u)) :
    Quiet allowed (if condition then Stateful.raise failure >>= x else x ()) :=
  .ite ((Quiet.raise h).bind hx) (hx ())

theorem systemCall_post (failure : PruneFailure) :
    (systemCall others failure).Post world fun result t =>
      t.events = world.events ∧ t.completed = world.completed ∧
        (result = .ok t ∨ result = .error failure) := by
  rw [systemCall]
  refine Stateful.post_get_bind (Stateful.post_set_bind ?_)
  by_cases hfails : others.fails world.calls = true
  · simp only [hfails, if_true]
    exact ⟨rfl, rfl, .inr rfl⟩
  · simp only [hfails]
    exact ⟨rfl, rfl, .inl rfl⟩

theorem Quiet.systemCall (h : allowed failure) : Quiet allowed (systemCall others failure) := by
  refine fun world => (systemCall_post failure).imp fun result t ht => ⟨ht.1, ht.2.1, ?_⟩
  intro raised heq
  rcases ht.2.2 with hok | herror
  · rw [hok] at heq
    exact nomatch heq
  · rw [herror] at heq
    exact Except.error.inj heq ▸ h

def Caught (failure : PruneFailure) : Prop := isCaught failure.raised = true

/-- A `PersistentCachePruneError` that exposes some items. -/
def Exposes (items : List CachePruneExecutionItem) (failure : PruneFailure) : Prop :=
  failure.raised.cls = .persistentCachePruneError ∧ failure.completedItems = items

theorem caught_pruneFailure (message : String) : Caught (pruneFailure message) := by
  simp [Caught, isCaught, pruneFailure]

theorem caught_osFailure : Caught osFailure := by
  simp [Caught, isCaught, osFailure]

theorem Quiet.openCandidate (filename : String) : Quiet Caught (openCandidate others filename) := by
  refine (Quiet.systemCall (caught_pruneFailure _)).bind fun now => ?_
  split
  · exact .pure _
  · exact .raise (caught_pruneFailure _)
  · exact (Quiet.systemCall caught_osFailure).bind fun later => .pure _
  · exact (Quiet.systemCall caught_osFailure).bind fun later =>
      .raise (caught_pruneFailure _)

theorem Quiet.readChunks (inode : ℕ) (fuel remaining : ℕ) (chunks : List UInt8) :
    Quiet Caught (readChunks others inode fuel remaining chunks) := by
  induction fuel generalizing remaining chunks with
  | zero => cases remaining <;> exact .pure _
  | succ fuel ih =>
    cases remaining with
    | zero => exact .pure _
    | succ remaining =>
      refine (Quiet.systemCall (caught_pruneFailure _)).bind fun now => ?_
      exact .ite (.pure _) (ih _ _)

theorem Quiet.takeLock (cacheKind : CacheKind) : Quiet Caught (takeLock others cacheKind) := by
  refine (Quiet.systemCall ?_).bind fun _ => .pure _
  cases cacheKind <;> simp [Caught, isCaught]

theorem Quiet.validateExecutionDirectory (directory : String) :
    Quiet (Exposes []) (validateExecutionDirectory others directory) := by
  refine .raiseIf ⟨rfl, rfl⟩ fun _ => ?_
  refine (Quiet.systemCall ⟨rfl, rfl⟩).bind fun now => ?_
  split
  · exact .raise ⟨rfl, rfl⟩
  · exact .raise ⟨rfl, rfl⟩
  · exact .pure _
  · exact .raise ⟨rfl, rfl⟩

theorem Quiet.fsyncIfDeleted (completed : List CachePruneExecutionItem) :
    Quiet (Exposes completed) (fsyncIfDeleted others completed) := by
  have hexposes : Exposes completed
      (pruneFailureWith "cache prune directory could not be synchronized" completed) := ⟨rfl, rfl⟩
  refine .ite ?_ (.pure _)
  refine (Quiet.systemCall hexposes).bind fun now => ?_
  refine .raiseIf hexposes fun _ => ?_
  exact (Quiet.systemCall hexposes).bind fun _ => (Quiet.systemCall hexposes).bind fun _ => .pure _

theorem readChunks_length (inode : ℕ) (fuel remaining : ℕ) (chunks content : List UInt8)
    (hfuel : remaining ≤ fuel) :
    (readChunks others inode fuel remaining chunks).Post world fun result _ =>
      result = .ok (some content) → content.length = chunks.length + remaining := by
  induction fuel generalizing remaining chunks world with
  | zero =>
    obtain rfl : remaining = 0 := by omega
    intro heq
    rw [← Option.some.inj (Except.ok.inj heq)]
    omega
  | succ fuel ih =>
    cases remaining with
    | zero =>
      intro heq
      rw [← Option.some.inj (Except.ok.inj heq)]
      omega
    | succ remaining =>
      refine Stateful.Post.bind (R := fun _ _ => True) trivial (fun now t _ => ?_)
        fun failure t _ heq => nomatch heq
      dsimp only
      split
      next => exact fun heq => nomatch heq
      next hchunk =>
        have hpositive := List.length_pos_iff.mpr hchunk
        refine (ih _ _ (by omega)).imp fun result u hu heq => ?_
        have hlength := hu heq
        rw [List.length_append] at hlength
        have hsize := List.length_take_le
          (min (min (remaining + 1) maximumReadBytes) (others.readSize now.calls))
          ((now.files.inodes inode).content.drop chunks.length)
        omega

/-! ## The checks of a candidate -/

def removedFiles (events : List PruneEvent) : List String :=
  (events.filterMap fun event =>
    match event with
    | .unlinked filename => some filename
    | _ => none).reverse

variable (formats) in
def ChecksReturn (cacheKind : CacheKind) (events : List PruneEvent) : Prop :=
  ∀ key inode content, PruneEvent.read (entryFilename key) inode content ∈ events →
    ∃ answer, formats.payloadIsValid cacheKind content key = .ok answer

variable (formats) in
/-- The latest events are the reading of a valid content of a candidate and the inspection that
finds its file with the size and the time that were planned. -/
def PassedChecks (candidate : CachePruneCandidate) (events : List PruneEvent) : Prop :=
  ∃ inode content earlier, events =
      .inspected candidate.filename (.regular ⟨inode, candidate.sizeBytes, candidate.mtimeNs⟩) ::
        .read candidate.filename inode content :: earlier ∧
    content.length = candidate.sizeBytes ∧
    formats.payloadIsValid candidate.cacheKind content candidate.entryKey = .ok true

variable (formats) in
/-- From `world` to `t` nothing was removed or reported, and every content check has returned. -/
structure Looked (cacheKind : CacheKind) (world t : PruneWorld) : Prop where
  completed_eq : t.completed = world.completed
  events_eq : ∃ recent, t.events = recent ++ world.events ∧ removedFiles recent = [] ∧
    ChecksReturn formats cacheKind recent

variable {cacheKind : CacheKind} {s t u : PruneWorld} {candidate : CachePruneCandidate}

theorem Looked.of_eq (hevents : t.events = s.events) (hcompleted : t.completed = s.completed) :
    Looked formats cacheKind s t :=
  ⟨hcompleted, [], hevents, rfl, fun _ _ _ h => nomatch h⟩

theorem removedFiles_append (recent earlier : List PruneEvent) :
    removedFiles (recent ++ earlier) = removedFiles earlier ++ removedFiles recent := by
  simp [removedFiles]

theorem Looked.trans (hst : Looked formats cacheKind s t) (htu : Looked formats cacheKind t u) :
    Looked formats cacheKind s u := by
  obtain ⟨first, hfirst, hnone, hreturn⟩ := hst.events_eq
  obtain ⟨second, hsecond, hnone', hreturn'⟩ := htu.events_eq
  refine ⟨htu.completed_eq.trans hst.completed_eq, second ++ first, ?_, ?_, ?_⟩
  · rw [hsecond, hfirst, List.append_assoc]
  · rw [removedFiles_append, hnone, hnone', List.nil_append]
  · intro key inode content hmem
    rcases List.mem_append.mp hmem with h | h
    · exact hreturn' key inode content h
    · exact hreturn key inode content h

theorem Looked.inspected (filename : String) (inspection : Inspection)
    (hevents : t.events = .inspected filename inspection :: s.events)
    (hcompleted : t.completed = s.completed) : Looked formats cacheKind s t := by
  refine ⟨hcompleted, [.inspected filename inspection], hevents, rfl, ?_⟩
  intro key inode content hmem
  simp at hmem

variable {inode : ℕ}

theorem Looked.read {answer : Bool}
    (hevents : t.events = .read candidate.filename inode content :: s.events)
    (hcompleted : t.completed = s.completed)
    (hanswer : formats.payloadIsValid cacheKind content candidate.entryKey = .ok answer) :
    Looked formats cacheKind s t := by
  refine ⟨hcompleted, [.read candidate.filename inode content], hevents, rfl, ?_⟩
  intro key inode' content' hmem
  simp only [List.mem_singleton, PruneEvent.read.injEq] at hmem
  obtain ⟨hname, rfl, rfl⟩ := hmem
  rw [candidate.filename_eq] at hname
  rw [entryFilename_injective hname]
  exact ⟨answer, hanswer⟩

variable (formats) in
def CheckRaised (candidate : CachePruneCandidate) (world t : PruneWorld) (raised : Raised) :
    Prop :=
  t.completed = world.completed ∧ ∃ inode content recent,
    t.events = .read candidate.filename inode content :: (recent ++ world.events) ∧
      removedFiles recent = [] ∧ ChecksReturn formats candidate.cacheKind recent ∧
      formats.payloadIsValid candidate.cacheKind content candidate.entryKey = .error raised

theorem CheckRaised.trans
    (hst : Looked formats candidate.cacheKind s t)
    (htu : CheckRaised formats candidate t u raised) : CheckRaised formats candidate s u raised := by
  obtain ⟨first, hfirst, hnone, hreturn⟩ := hst.events_eq
  obtain ⟨hcompleted, inode, content, second, hsecond, hnone', hreturn', hraised⟩ := htu
  refine ⟨hcompleted.trans hst.completed_eq, inode, content, second ++ first, ?_, ?_, ?_, hraised⟩
  · rw [hsecond, hfirst, List.append_assoc]
  · rw [removedFiles_append, hnone, hnone', List.nil_append]
  · intro key inode content hmem
    rcases List.mem_append.mp hmem with h | h
    · exact hreturn' key inode content h
    · exact hreturn key inode content h

variable (formats) in
def Revalidated (candidate : CachePruneCandidate) (world : PruneWorld)
    (result : Except PruneFailure CandidateState) (t : PruneWorld) : Prop :=
  match result with
  | .ok state => Looked formats candidate.cacheKind world t ∧
      (state = .valid → PassedChecks formats candidate t.events)
  | .error failure =>
    (Looked formats candidate.cacheKind world t ∧ Caught failure) ∨
      CheckRaised formats candidate world t failure.raised

theorem Revalidated.trans {result : Except PruneFailure CandidateState}
    (hst : Looked formats candidate.cacheKind s t) (htu : Revalidated formats candidate t result u) :
    Revalidated formats candidate s result u := by
  cases result with
  | ok state => exact ⟨hst.trans htu.1, htu.2⟩
  | error failure =>
    rcases htu with ⟨hlooked, hcaught⟩ | hraised
    · exact .inl ⟨hst.trans hlooked, hcaught⟩
    · exact .inr (hraised.trans hst)

theorem Revalidated.raise (h : Caught failure) :
    (Stateful.raise failure : PruneProgram CandidateState).Post s
      (Revalidated formats candidate s) :=
  .inl ⟨.of_eq rfl rfl, h⟩

theorem Revalidated.pure {state : CandidateState} (h : state ≠ .valid) :
    (Pure.pure state : PruneProgram CandidateState).Post s (Revalidated formats candidate s) :=
  ⟨.of_eq rfl rfl, fun hvalid => absurd hvalid h⟩

theorem Revalidated.quiet_bind {x : PruneProgram α} {f : α → PruneProgram CandidateState}
    {R : Except PruneFailure α → PruneWorld → Prop} (hx : Quiet Caught x) (hR : x.Post s R)
    (hf : ∀ a t, R (.ok a) t → (f a).Post t (Revalidated formats candidate t)) :
    (x >>= f).Post s (Revalidated formats candidate s) := by
  refine ((hx s).and hR).bind (fun a t ht => ?_) fun failure t ht => ?_
  · exact (hf a t ht.2).imp fun result u hu => .trans (.of_eq ht.1.1 ht.1.2.1) hu
  · exact .inl ⟨.of_eq ht.1.1 ht.1.2.1, ht.1.2.2 failure rfl⟩

theorem post_record_bind {β : Type} {event : PruneEvent} {f : Unit → PruneProgram β}
    {Q : Except PruneFailure β → PruneWorld → Prop}
    (h : (f ()).Post { s with events := event :: s.events } Q) : (record event >>= f).Post s Q := h

theorem lstat_post (filename : String) (h : Caught failure) :
    (lstat others filename failure).Post world fun result t => t.completed = world.completed ∧
      match result with
      | .ok inspection => t.events = .inspected filename inspection :: world.events
      | .error raised => t.events = world.events ∧ Caught raised := by
  refine (Quiet.systemCall h world).bind (fun now t ht => ?_) fun raised t ht => ?_
  · exact ⟨ht.2.1, congrArg _ ht.1⟩
  · exact ⟨ht.2.1, ht.1, ht.2.2 raised rfl⟩

variable {filename : String}

theorem Revalidated.lstat_bind
    (h : Caught failure) {f : Inspection → PruneProgram CandidateState}
    (hf : ∀ inspection t, t.completed = s.completed →
      t.events = .inspected filename inspection :: s.events →
      (f inspection).Post t fun result u => Revalidated formats candidate s result u) :
    (lstat others filename failure >>= f).Post s (Revalidated formats candidate s) := by
  refine (lstat_post filename h).bind (fun inspection t ht => hf inspection t ht.1 ht.2) ?_
  intro raised t ht
  exact .inl ⟨.of_eq ht.2.1 ht.1, ht.2.2⟩

theorem reinspectCandidate_post
    (hread : ∃ earlier, s.events = .read candidate.filename inode content :: earlier)
    (hlength : content.length = candidate.sizeBytes)
    (hvalid : formats.payloadIsValid candidate.cacheKind content candidate.entryKey = .ok true) :
    (reinspectCandidate others candidate inode).Post s (Revalidated formats candidate s) := by
  refine Revalidated.lstat_bind (caught_pruneFailure _) fun inspection t hcompleted hevents => ?_
  have hlooked : Looked formats candidate.cacheKind s t := .inspected _ _ hevents hcompleted
  cases inspection with
  | absent => exact .trans hlooked (.pure (by decide))
  | irregular => exact .trans hlooked (.raise (caught_pruneFailure _))
  | regular final =>
    dsimp only
    split
    next => exact .trans hlooked (.pure (by decide))
    next hsame =>
      simp only [isPlanned, not_or, not_not, Bool.not_eq_false, decide_eq_true_eq] at hsame
      obtain ⟨earlier, hearlier⟩ := hread
      refine ⟨hlooked, fun _ => ⟨inode, content, earlier, hevents.trans ?_, hlength, hvalid⟩⟩
      rw [hearlier, ← hsame.1, ← hsame.2.1, ← hsame.2.2]

theorem checkContent_post {opened : FileStat} (hsize : opened.sizeBytes = candidate.sizeBytes) :
    (checkContent others formats candidate opened).Post s (Revalidated formats candidate s) := by
  refine Revalidated.quiet_bind (.readChunks _ _ _ _)
    (R := fun result _ => ∀ content, result = .ok (some content) →
      content.length = candidate.sizeBytes) ?_ fun payload t hread => ?_
  · intro content heq
    have hpost : (readChunks others opened.inode opened.sizeBytes opened.sizeBytes []).Post s
        fun result _ => result = .ok (some content) →
          content.length = ([] : List UInt8).length + opened.sizeBytes :=
      readChunks_length _ _ _ _ _ le_rfl
    have hlength := hpost heq
    rw [hlength, hsize, List.length_nil, Nat.zero_add]
  · cases payload with
    | none => exact .pure (by decide)
    | some content =>
      have hlength := hread content rfl
      refine post_record_bind ?_
      cases hanswer : formats.payloadIsValid candidate.cacheKind content candidate.entryKey with
      | error raised =>
        exact .inr ⟨rfl, opened.inode, content, [], rfl, rfl, (fun _ _ _ h => nomatch h), hanswer⟩
      | ok answer =>
        have hlooked : Looked formats candidate.cacheKind t
            { t with events := .read candidate.filename opened.inode content :: t.events } :=
          .read rfl rfl hanswer
        cases answer with
        | false => exact .trans hlooked (.pure (by decide))
        | true => exact .trans hlooked (reinspectCandidate_post ⟨_, rfl⟩ hlength hanswer)

theorem revalidateCandidate_post :
    (revalidateCandidate others formats candidate).Post s (Revalidated formats candidate s) := by
  refine Revalidated.lstat_bind (caught_pruneFailure _) fun inspection t hcompleted hevents => ?_
  have hlooked : Looked formats candidate.cacheKind s t := .inspected _ _ hevents hcompleted
  refine Revalidated.trans hlooked ?_
  cases inspection with
  | absent => exact .pure (by decide)
  | irregular => exact .raise (caught_pruneFailure _)
  | regular observed =>
    dsimp only
    split
    next => exact .pure (by decide)
    next =>
      refine Revalidated.quiet_bind (.openCandidate _) (R := fun _ _ => True) trivial
        fun opened u _ => ?_
      cases opened with
      | none => exact .pure (by decide)
      | some opened =>
        dsimp only
        split
        next => exact .pure (by decide)
        next hsame =>
          simp only [isPlanned, not_or, not_not, Bool.not_eq_false, decide_eq_true_eq] at hsame
          exact checkContent_post hsame.2.1

/-! ## The candidates -/

variable (formats) in
def Executed (candidate : CachePruneCandidate) (world : PruneWorld)
    (result : Except PruneFailure CachePruneExecutionItem) (t : PruneWorld) : Prop :=
  match result with
  | .ok item =>
    (item = executionItem candidate .deleted ∧ ∃ u, Looked formats candidate.cacheKind world u ∧
      PassedChecks formats candidate u.events ∧ t.completed = u.completed ∧
      t.events = .unlinked candidate.filename :: u.events) ∨
    (∃ outcome ≠ .deleted, item = executionItem candidate outcome) ∧
      Looked formats candidate.cacheKind world t
  | .error failure =>
    (Looked formats candidate.cacheKind world t ∧ Caught failure) ∨
      CheckRaised formats candidate world t failure.raised

theorem unlink_post (filename : String) : (unlink others filename).Post world fun result t =>
    t.completed = world.completed ∧
      match result with
      | .ok true => t.events = .unlinked filename :: world.events
      | .ok false => t.events = world.events
      | .error failure => t.events = world.events ∧ Caught failure := by
  refine (systemCall_post _).bind (fun now t ht => ?_) fun failure t ht => ?_
  · obtain ⟨hevents, hcompleted, hnow | hnow⟩ := ht
    · obtain rfl := Except.ok.inj hnow
      split
      · exact ⟨hcompleted, hevents⟩
      · exact ⟨hcompleted, hevents, caught_pruneFailure _⟩
      · exact ⟨hcompleted, congrArg _ hevents⟩
    · exact nomatch hnow
  · obtain ⟨hevents, hcompleted, hfailed | hfailed⟩ := ht
    · exact nomatch hfailed
    · exact ⟨hcompleted, hevents, Except.error.inj hfailed ▸ caught_pruneFailure _⟩

theorem executeCandidate_post :
    (executeCandidate others formats candidate).Post s (Executed formats candidate s) := by
  refine revalidateCandidate_post.bind (fun state t ht => ?_) fun failure t ht => ht
  obtain ⟨hlooked, hpassed⟩ := ht
  cases state with
  | alreadyAbsent => exact .inr ⟨⟨_, by decide, rfl⟩, hlooked⟩
  | stale => exact .inr ⟨⟨_, by decide, rfl⟩, hlooked⟩
  | invalid => exact .inr ⟨⟨_, by decide, rfl⟩, hlooked⟩
  | valid => ?_
  refine (unlink_post candidate.filename).bind (fun removed u hu => ?_) fun failure u hu => ?_
  · cases removed with
    | true => exact .inl ⟨rfl, t, hlooked, hpassed rfl, hu.1, hu.2⟩
    | false => exact .inr ⟨⟨_, by decide, rfl⟩, hlooked.trans (.of_eq hu.2 hu.1)⟩
  · exact .inl ⟨hlooked.trans (.of_eq hu.2.1 hu.1), hu.2.2⟩

variable (formats) in
/-- What was removed is what is reported, and each removal follows the checks of a candidate of
the plan that has the removed name. -/
structure Consistent (plan : CachePrunePlan) (world : PruneWorld) : Prop where
  reported : removedFiles world.events =
    (deletedItems world.completed).map fun item => item.filename
  checked : ∀ filename earlier, .unlinked filename :: earlier <:+ world.events →
    ∃ candidate ∈ plan.candidates, candidate.filename = filename ∧
      PassedChecks formats candidate earlier
  returned : ChecksReturn formats plan.cacheKind world.events

variable {events earlier : List PruneEvent}

theorem suffix_of_suffix_append {recent : List PruneEvent}
    (hnone : removedFiles recent = []) (h : .unlinked filename :: earlier <:+ recent ++ events) :
    .unlinked filename :: earlier <:+ events := by
  induction recent with
  | nil => exact h
  | cons event recent ih =>
    have hsplit := removedFiles_append [event] recent
    rw [List.singleton_append, hnone] at hsplit
    obtain ⟨hrecent, hevent⟩ := List.append_eq_nil_iff.mp hsplit.symm
    rcases List.suffix_cons_iff.mp h with heq | hsuffix
    · rw [List.cons.injEq] at heq
      rw [← heq.1] at hevent
      exact absurd hevent (by simp [removedFiles])
    · exact ih hrecent hsuffix

theorem Consistent.looked (hs : Consistent formats plan s)
    (h : Looked formats plan.cacheKind s t) : Consistent formats plan t := by
  obtain ⟨recent, hevents, hnone, hreturn⟩ := h.events_eq
  refine ⟨?_, ?_, ?_⟩
  · rw [hevents, removedFiles_append, hnone, List.append_nil, h.completed_eq]
    exact hs.reported
  · intro filename earlier hsuffix
    exact hs.checked filename earlier (suffix_of_suffix_append hnone (hevents ▸ hsuffix))
  · intro key inode content hmem
    rw [hevents] at hmem
    rcases List.mem_append.mp hmem with hrecent | hold
    · exact hreturn key inode content hrecent
    · exact hs.returned key inode content hold

theorem Consistent.append (hs : Consistent formats plan s) {item : CachePruneExecutionItem}
    (h : item.outcome ≠ .deleted) :
    Consistent formats plan { s with completed := s.completed ++ [item] } := by
  refine ⟨?_, hs.checked, hs.returned⟩
  rw [deletedItems, List.filter_append, List.filter_singleton]
  simpa [h, deletedItems] using hs.reported

theorem Consistent.unlinked (hs : Consistent formats plan s) (hmem : candidate ∈ plan.candidates)
    (hpassed : PassedChecks formats candidate s.events)
    (hevents : t.events = .unlinked candidate.filename :: s.events)
    (hcompleted : t.completed = s.completed ++ [executionItem candidate .deleted]) :
    Consistent formats plan t := by
  refine ⟨?_, ?_, ?_⟩
  · rw [hevents, hcompleted, deletedItems, List.filter_append, List.map_append]
    have hremoved : removedFiles (.unlinked candidate.filename :: s.events) =
        removedFiles s.events ++ [candidate.filename] := by
      simp [removedFiles]
    rw [hremoved, hs.reported]
    rfl
  · intro filename earlier hsuffix
    rw [hevents] at hsuffix
    rcases List.suffix_cons_iff.mp hsuffix with heq | hold
    · rw [List.cons.injEq, PruneEvent.unlinked.injEq] at heq
      exact ⟨candidate, hmem, heq.1.symm, heq.2 ▸ hpassed⟩
    · exact hs.checked filename earlier hold
  · intro key inode content hread
    rw [hevents, List.mem_cons] at hread
    exact hs.returned key inode content (hread.resolve_left (by simp))

variable (formats) in
def Escaped (plan : CachePrunePlan) (world : PruneWorld) (raised : Raised) : Prop :=
  ∃ s, Consistent formats plan s ∧ ∃ candidate ∈ plan.candidates,
    CheckRaised formats candidate s world raised

theorem Consistent.execute (hs : Consistent formats plan s) (hmem : candidate ∈ plan.candidates) :
    (executeCandidate others formats candidate >>= appendCompleted).Post s fun result t =>
      match result with
      | .ok () => Consistent formats plan t ∧ ∃ outcome,
          t.completed = s.completed ++ [executionItem candidate outcome]
      | .error failure => (Consistent formats plan t ∧ Caught failure) ∨
          Escaped formats plan t failure.raised := by
  have hkind := plan.kind_eq candidate hmem
  refine executeCandidate_post.bind (fun item t ht => ?_) fun failure t ht => ?_
  · rcases ht with ⟨rfl, u, hlooked, hpassed, hcompleted, hevents⟩ | ⟨⟨outcome, hne, rfl⟩, hlooked⟩
    · rw [hkind] at hlooked
      have hreported : t.completed ++ [executionItem candidate .deleted] =
          u.completed ++ [executionItem candidate .deleted] := by rw [hcompleted]
      refine ⟨(hs.looked hlooked).unlinked hmem hpassed hevents hreported, .deleted, ?_⟩
      exact hreported.trans (by rw [hlooked.completed_eq])
    · rw [hkind] at hlooked
      refine ⟨(hs.looked hlooked).append hne, outcome, ?_⟩
      exact congrArg (· ++ _) hlooked.completed_eq
  · rcases ht with ⟨hlooked, hcaught⟩ | hraised
    · exact .inl ⟨hs.looked (hkind ▸ hlooked), hcaught⟩
    · exact .inr ⟨s, hs, candidate, hmem, hraised⟩

variable (formats) in
def AllExecuted (plan : CachePrunePlan) (s : PruneWorld) (candidates : List CachePruneCandidate)
    (result : Except PruneFailure Unit) (t : PruneWorld) : Prop :=
  match result with
  | .ok () => Consistent formats plan t ∧ ∃ items, t.completed = s.completed ++ items ∧
      List.Forall₂ (fun c item => ∃ outcome, item = executionItem c outcome) candidates items
  | .error failure => (Consistent formats plan t ∧ Caught failure) ∨
      Escaped formats plan t failure.raised

theorem Consistent.executeAll (hs : Consistent formats plan s)
    {candidates : List CachePruneCandidate} (hmem : ∀ c ∈ candidates, c ∈ plan.candidates) :
    (executeCandidates others formats plan.cacheKind candidates).Post s
      (AllExecuted formats plan s candidates) := by
  induction candidates generalizing s with
  | nil => exact ⟨hs, [], (List.append_nil _).symm, .nil⟩
  | cons candidate candidates ih =>
    have hstep (s : PruneWorld) (hs : Consistent formats plan s) : (do
          let item ← executeCandidate others formats candidate
          appendCompleted item
          executeCandidates others formats plan.cacheKind candidates).Post s
            (AllExecuted formats plan s (candidate :: candidates)) := by
      refine Stateful.Post.of_assoc ?_
      refine (hs.execute (hmem candidate List.mem_cons_self)).bind (fun _ t ht => ?_)
        fun failure t ht => ht
      obtain ⟨ht, outcome, hcompleted⟩ := ht
      refine (ih ht fun c hc => hmem c (List.mem_cons_of_mem _ hc)).imp fun result u hu => ?_
      cases result with
      | error failure => exact hu
      | ok done =>
        obtain ⟨hu, items, hitems, hall⟩ := hu
        refine ⟨hu, executionItem candidate outcome :: items, ?_, .cons ⟨outcome, rfl⟩ hall⟩
        rw [hitems, hcompleted, List.append_assoc, List.singleton_append]
    rw [executeCandidates]
    split
    next =>
      refine (Quiet.takeLock _ s).bind (fun _ t ht => ?_) fun failure t ht => ?_
      · have hlooked : Looked formats plan.cacheKind s t := .of_eq ht.1 ht.2.1
        refine (hstep t (hs.looked hlooked)).imp fun result u hu => ?_
        cases result with
        | error failure => exact hu
        | ok done =>
          obtain ⟨hu, items, hitems, hall⟩ := hu
          exact ⟨hu, items, hlooked.completed_eq ▸ hitems, hall⟩
      · exact .inl ⟨hs.looked (.of_eq ht.1 ht.2.1), ht.2.2 failure rfl⟩
    next => exact hstep s hs

/-! ## The report -/

def reportedItems : Except PruneFailure CachePruneResult → List CachePruneExecutionItem
  | .ok result => result.items
  | .error failure =>
    if failure.raised.cls = .persistentCachePruneError then failure.completedItems else []

section Executed

variable {candidates : List CachePruneCandidate} {items : List CachePruneExecutionItem}

theorem sizes_of_executed
    (h : List.Forall₂ (fun c item => ∃ outcome, item = executionItem c outcome) candidates items) :
    items.map (fun item => item.plannedSizeBytes) = candidates.map fun c => c.sizeBytes := by
  induction h with
  | nil => rfl
  | cons hitem _ ih =>
    obtain ⟨outcome, rfl⟩ := hitem
    rw [List.map_cons, List.map_cons, ih, executionItem]

theorem kind_of_executed
    (h : List.Forall₂ (fun c item => ∃ outcome, item = executionItem c outcome) candidates items)
    {kind : CacheKind} (hkind : ∀ c ∈ candidates, c.cacheKind = kind) :
    ∀ item ∈ items, item.cacheKind = kind := by
  induction h with
  | nil => exact fun item hmem => nomatch hmem
  | cons hitem _ ih =>
    obtain ⟨outcome, rfl⟩ := hitem
    rw [List.forall_mem_cons] at hkind ⊢
    exact ⟨hkind.1, ih hkind.2⟩

theorem pruneResult_post
    (h : List.Forall₂ (fun c item => ∃ outcome, item = executionItem c outcome) plan.candidates
      items) :
    (pruneResult plan items).Post s fun result t =>
      t = s ∧ ∃ report : CachePruneResult, result = .ok report ∧ report.items = items := by
  have hkinds : ¬∃ item ∈ items, item.cacheKind ≠ plan.cacheKind := by
    rintro ⟨item, hmem, hne⟩
    exact hne (kind_of_executed h plan.kind_eq item hmem)
  have hcount := h.length_eq.symm.trans plan.count_eq
  have hdeleted : (deletedItems items).length ≤ items.length := List.length_filter_le _ _
  have hvalid : CachePruneResult.validate
      ⟨plan.cacheKind, plan.directory, plan.selectedEntryCount, plan.selectedEntryBytes,
        (deletedItems items).length, ((deletedItems items).map fun item => item.deletedBytes).sum,
        items.length - (deletedItems items).length, items⟩ = .ok () := by
    simp only [CachePruneResult.validate, raiseIf_bind_eq_ok, raiseIf_eq_ok, not_not, hcount,
      sizes_of_executed h, plan.bytes_eq, hkinds, not_false_eq_true, true_and]
    omega
  simp only [pruneResult, hvalid]
  exact ⟨rfl, _, rfl, rfl⟩

end Executed

variable (formats) in
def Ended (plan : CachePrunePlan) (result : Except PruneFailure CachePruneResult)
    (t : PruneWorld) : Prop :=
  match result with
  | .ok report => Consistent formats plan t ∧ report.items = t.completed
  | .error failure => (Consistent formats plan t ∧ Exposes t.completed failure) ∨
      Escaped formats plan t failure.raised

theorem raiseExecutionFailure_post (hs : Consistent formats plan s) (cause : PruneFailure) :
    (raiseExecutionFailure others cause).Post s fun result t =>
      Consistent formats plan t ∧ ∃ failure, result = .error failure ∧
        Exposes t.completed failure := by
  refine Stateful.post_get_bind ((Quiet.fsyncIfDeleted s.completed s).bind (fun _ t ht => ?_) ?_)
  · exact ⟨hs.looked (.of_eq ht.1 ht.2.1), _, rfl, rfl, ht.2.1.symm⟩
  · intro failure t ht
    exact ⟨hs.looked (.of_eq ht.1 ht.2.1), _, rfl, ht.2.1 ▸ ht.2.2 failure rfl⟩

theorem runLocked_post (hs : Consistent formats plan s) (hnone : s.completed = []) :
    (runLocked others formats plan).Post s fun result t =>
      match result with
      | .ok () => Consistent formats plan t ∧ List.Forall₂
          (fun c item => ∃ outcome, item = executionItem c outcome) plan.candidates t.completed
      | .error failure => (Consistent formats plan t ∧ Exposes t.completed failure) ∨
          Escaped formats plan t failure.raised := by
  refine Stateful.Post.tryCatch (R := AllExecuted formats plan s plan.candidates) ?_ ?_ ?_
  · split
    next =>
      refine (Quiet.takeLock _ s).bind (fun _ t ht => ?_) fun failure t ht => ?_
      · have hlooked : Looked formats plan.cacheKind s t := .of_eq ht.1 ht.2.1
        refine ((hs.looked hlooked).executeAll fun _ hc => hc).imp fun result u hu => ?_
        cases result with
        | error failure => exact hu
        | ok done =>
          obtain ⟨hu, items, hitems, hall⟩ := hu
          exact ⟨hu, items, hlooked.completed_eq ▸ hitems, hall⟩
      · exact .inl ⟨hs.looked (.of_eq ht.1 ht.2.1), ht.2.2 failure rfl⟩
    next => exact hs.executeAll fun _ hc => hc
  · intro _ t ht
    obtain ⟨ht, items, hitems, hall⟩ := ht
    rw [hnone, List.nil_append] at hitems
    exact ⟨ht, hitems ▸ hall⟩
  · intro failure t ht
    rcases ht with ⟨ht, hcaught⟩ | hescaped
    · rw [Caught] at hcaught
      rw [if_pos hcaught]
      refine (raiseExecutionFailure_post ht failure).imp fun result u hu => ?_
      obtain ⟨hu, raised, rfl, hexposes⟩ := hu
      exact .inl ⟨hu, hexposes⟩
    · have huncaught : isCaught failure.raised = false := by
        obtain ⟨_, _, _, _, _, _, _, _, _, _, _, hraised⟩ := hescaped
        exact payloadIsValid_error hraised
      rw [if_neg (by rw [huncaught]; decide)]
      exact .inr hescaped

theorem executePrune_post (hs : Consistent formats plan s) (hnone : s.completed = []) :
    (executePrune others formats plan).Post s (Ended formats plan) := by
  rw [executePrune]
  split
  next hempty =>
    refine (pruneResult_post (hempty ▸ .nil)).imp fun result t ht => ?_
    obtain ⟨rfl, report, rfl, hitems⟩ := ht
    exact ⟨hs, hitems.trans hnone.symm⟩
  next =>
    refine (Quiet.validateExecutionDirectory plan.directory s).bind (fun _ t ht => ?_) ?_
    · refine (runLocked_post (hs.looked (.of_eq ht.1 ht.2.1)) (ht.2.1.trans hnone)).bind
        (fun _ u hu => ?_) fun failure u hu => hu
      refine Stateful.post_get_bind ((Quiet.fsyncIfDeleted u.completed u).bind (fun _ v hv => ?_) ?_)
      · refine (pruneResult_post hu.2).imp fun result w hw => ?_
        obtain ⟨rfl, report, rfl, hitems⟩ := hw
        exact ⟨hu.1.looked (.of_eq hv.1 hv.2.1), hitems.trans hv.2.1.symm⟩
      · intro failure v hv
        exact .inl ⟨hu.1.looked (.of_eq hv.1 hv.2.1), hv.2.1 ▸ hv.2.2 failure rfl⟩
    · intro failure t ht
      refine .inl ⟨hs.looked (.of_eq ht.1 ht.2.1), ?_⟩
      rw [ht.2.1, hnone]
      exact ht.2.2 failure rfl

variable (formats) in
/-- What is reported as deleted is what was removed, and each removal follows the checks of a
candidate. -/
structure Accurate (plan : CachePrunePlan)
    (run : Except PruneFailure CachePruneResult × PruneWorld) : Prop where
  reported : removedFiles run.2.events =
    (deletedItems (reportedItems run.1)).map fun item => item.filename
  checked : ∀ filename earlier, .unlinked filename :: earlier <:+ run.2.events →
    ∃ candidate ∈ plan.candidates, candidate.filename = filename ∧
      PassedChecks formats candidate earlier

theorem Accurate.length_eq {run : Except PruneFailure CachePruneResult × PruneWorld}
    (h : Accurate formats plan run) :
    (removedFiles run.2.events).length = (deletedItems (reportedItems run.1)).length := by
  rw [h.reported, List.length_map]

theorem removedFiles_of_suffix (h : earlier <:+ events)
    (hnone : removedFiles events = []) : removedFiles earlier = [] := by
  obtain ⟨recent, rfl⟩ := h
  rw [removedFiles_append] at hnone
  exact (List.append_eq_nil_iff.mp hnone).1

theorem Ended.accurate_or_escaped {result : Except PruneFailure CachePruneResult}
    (h : Ended formats plan result t) :
    (Consistent formats plan t ∧ reportedItems result = t.completed) ∨
      ∃ raised, Escaped formats plan t raised ∧ reportedItems result = [] := by
  cases result with
  | ok report => exact .inl h
  | error failure =>
    rcases h with ⟨hconsistent, hcls, hitems⟩ | hescaped
    · exact .inl ⟨hconsistent, (if_pos hcls).trans hitems⟩
    · refine .inr ⟨failure.raised, hescaped, if_neg fun hcls => ?_⟩
      obtain ⟨_, _, _, _, _, _, _, _, _, _, _, hraised⟩ := hescaped
      have huncaught := payloadIsValid_error hraised
      simp [isCaught, hcls] at huncaught

/-- Pruning is accurate as long as no content check raises behind a removal. -/
theorem run_accurate_iff (others : Interference) (formats : CacheFormats casefold floats)
    (plan : CachePrunePlan) (files : FileSystem) :
    Accurate formats plan (run others formats plan files) ↔
      ∀ key inode content earlier, .read (entryFilename key) inode content :: earlier <:+
          (run others formats plan files).2.events → removedFiles earlier ≠ [] →
        ∃ answer, formats.payloadIsValid plan.cacheKind content key = .ok answer := by
  have hstart : Consistent formats plan ⟨files, 0, [], []⟩ :=
    ⟨rfl, fun _ _ h => by simp at h, fun _ _ _ h => nomatch h⟩
  have hended : Ended formats plan (run others formats plan files).1
      (run others formats plan files).2 := executePrune_post hstart rfl
  rcases hended.accurate_or_escaped with ⟨hconsistent, hitems⟩ | ⟨raised, hescaped, hitems⟩
  · refine ⟨fun _ key inode content earlier hsuffix _ => ?_, fun _ => ⟨?_, hconsistent.checked⟩⟩
    · exact hconsistent.returned key inode content (hsuffix.subset List.mem_cons_self)
    · rw [hitems]
      exact hconsistent.reported
  · refine ⟨fun haccurate key inode content earlier hsuffix hremoved => ?_, fun hreturn => ?_⟩
    · have hnone := haccurate.reported
      rw [hitems] at hnone
      exact absurd (removedFiles_of_suffix ((List.suffix_cons _ _).trans hsuffix) hnone) hremoved
    · obtain ⟨s, _, candidate, hmem, _, inode, content, recent, hevents, _, _, hraised⟩ := hescaped
      have hnone : removedFiles (recent ++ s.events) = [] := by
        by_contra hremoved
        rw [candidate.filename_eq] at hevents
        have hsuffix : .read (entryFilename candidate.entryKey) inode content ::
            (recent ++ s.events) <:+ (run others formats plan files).2.events :=
          hevents ▸ List.suffix_rfl
        obtain ⟨answer, hanswer⟩ := hreturn _ _ _ _ hsuffix hremoved
        rw [← plan.kind_eq candidate hmem, hraised] at hanswer
        exact nomatch hanswer
      have hall : removedFiles (run others formats plan files).2.events = [] := by
        rw [hevents, ← List.singleton_append, removedFiles_append, hnone]
        rfl
      refine ⟨?_, fun filename earlier hsuffix => ?_⟩
      · rw [hitems, hall]
        rfl
      · have habsurd := removedFiles_of_suffix hsuffix hall
        simp [removedFiles] at habsurd

/-! ## Calls that nobody disturbs -/

def noInterference : Interference := ⟨fun _ files => files, fun _ => false, fun _ => 4096⟩

structure Unchanged (candidate : CachePruneCandidate) (files : FileSystem) (inode : ℕ) : Prop where
  target : files.targets candidate.filename = some (.regular inode)
  planned : isPlanned candidate (files.fstat inode) = true
  nonempty : (files.inodes inode).content ≠ []
  small : (files.inodes inode).content.length ≤ 4096

namespace Unchanged

variable {formats : CacheFormats casefold floats} {candidate : CachePruneCandidate}
  {files : FileSystem} {calls : ℕ} {events : List PruneEvent}
  {completed : List CachePruneExecutionItem} {inode : ℕ} {raised : Raised}

theorem systemCall_eq (failure : PruneFailure) :
    systemCall noInterference failure ⟨files, calls, events, completed⟩ =
      (.ok ⟨files, calls + 1, events, completed⟩, ⟨files, calls + 1, events, completed⟩) :=
  rfl

theorem lstat_eq (h : Unchanged candidate files inode) (failure : PruneFailure) :
    lstat noInterference candidate.filename failure ⟨files, calls, events, completed⟩ =
      (.ok (.regular (files.fstat inode)), ⟨files, calls + 1,
        .inspected candidate.filename (.regular (files.fstat inode)) :: events, completed⟩) := by
  have hinspect : files.inspect candidate.filename = .regular (files.fstat inode) := by
    rw [FileSystem.inspect, h.target]
  rw [← hinspect]
  rfl

theorem openCandidate_eq (h : Unchanged candidate files inode) :
    openCandidate noInterference candidate.filename ⟨files, calls, events, completed⟩ =
      (.ok (some (files.fstat inode)), ⟨files, calls + 2, events, completed⟩) := by
  rw [openCandidate, Stateful.run_bind_of_ok (systemCall_eq _)]
  simp only [h.target]
  rfl

theorem readDescriptor_eq (h : Unchanged candidate files inode) :
    readDescriptor noInterference inode (files.fstat inode).sizeBytes
        ⟨files, calls, events, completed⟩ =
      (.ok (some (files.inodes inode).content), ⟨files, calls + 1, events, completed⟩) := by
  have hsmall := h.small
  have hsize : (files.fstat inode).sizeBytes = (files.inodes inode).content.length := rfl
  rw [readDescriptor, hsize]
  cases hlength : (files.inodes inode).content.length with
  | zero => exact absurd (List.length_eq_zero_iff.mp hlength) h.nonempty
  | succ n =>
    have hmin : min (min (n + 1) maximumReadBytes) (noInterference.readSize (calls + 1)) =
        n + 1 := by
      change min (min (n + 1) (1024 * 1024)) 4096 = n + 1
      omega
    have htake : (files.inodes inode).content.take (n + 1) = (files.inodes inode).content :=
      List.take_of_length_le hlength.le
    rw [readChunks, Stateful.run_bind_of_ok (systemCall_eq _)]
    simp only [hmin, List.length_nil, List.drop_zero, htake, if_neg h.nonempty, hlength,
      Nat.sub_self, List.nil_append]
    cases n <;> rfl

theorem revalidateCandidate_eq (h : Unchanged candidate files inode) :
    revalidateCandidate noInterference formats candidate ⟨files, calls, events, completed⟩ =
      checkContent noInterference formats candidate (files.fstat inode) ⟨files, calls + 3,
        .inspected candidate.filename (.regular (files.fstat inode)) :: events, completed⟩ := by
  have hplanned := h.planned
  rw [revalidateCandidate]
  refine (Stateful.run_bind_of_ok (h.lstat_eq _)).trans ?_
  change (if isPlanned candidate (files.fstat inode) = false then _ else _ : PruneProgram _) _ = _
  rw [if_neg (by rw [hplanned]; decide)]
  refine (Stateful.run_bind_of_ok h.openCandidate_eq).trans ?_
  change (if _ ∨ isPlanned candidate (files.fstat inode) = false then _ else _ : PruneProgram _) _ =
    _
  rw [if_neg (by simp [hplanned])]

theorem checkContent_error (h : Unchanged candidate files inode)
    (hcheck : formats.payloadIsValid candidate.cacheKind (files.inodes inode).content
      candidate.entryKey = .error raised) :
    checkContent noInterference formats candidate (files.fstat inode)
        ⟨files, calls, events, completed⟩ =
      (.error ⟨raised, []⟩, ⟨files, calls + 1,
        .read candidate.filename inode (files.inodes inode).content :: events, completed⟩) := by
  rw [checkContent]
  refine (Stateful.run_bind_of_ok h.readDescriptor_eq).trans ?_
  simp only [hcheck]
  rfl

theorem checkContent_valid (h : Unchanged candidate files inode)
    (hcheck : formats.payloadIsValid candidate.cacheKind (files.inodes inode).content
      candidate.entryKey = .ok true) :
    checkContent noInterference formats candidate (files.fstat inode)
        ⟨files, calls, events, completed⟩ =
      (.ok .valid, ⟨files, calls + 2,
        .inspected candidate.filename (.regular (files.fstat inode)) ::
          .read candidate.filename inode (files.inodes inode).content :: events, completed⟩) := by
  have hplanned := h.planned
  rw [checkContent]
  refine (Stateful.run_bind_of_ok h.readDescriptor_eq).trans ?_
  simp only [hcheck]
  change reinspectCandidate noInterference candidate inode ⟨files, calls + 1,
    .read candidate.filename inode (files.inodes inode).content :: events, completed⟩ = _
  rw [reinspectCandidate]
  refine (Stateful.run_bind_of_ok (h.lstat_eq _)).trans ?_
  change (if (files.fstat inode).inode ≠ inode ∨ isPlanned candidate (files.fstat inode) = false
    then _ else _ : PruneProgram _) _ = _
  rw [if_neg (by rw [hplanned]; simp [FileSystem.fstat])]
  rfl

theorem executeCandidate_error (h : Unchanged candidate files inode)
    (hcheck : formats.payloadIsValid candidate.cacheKind (files.inodes inode).content
      candidate.entryKey = .error raised) :
    executeCandidate noInterference formats candidate ⟨files, calls, events, completed⟩ =
      (.error ⟨raised, []⟩, ⟨files, calls + 4,
        .read candidate.filename inode (files.inodes inode).content ::
          .inspected candidate.filename (.regular (files.fstat inode)) :: events, completed⟩) := by
  rw [executeCandidate]
  exact Stateful.run_bind_of_error ((h.revalidateCandidate_eq).trans (h.checkContent_error hcheck))

theorem executeCandidate_valid (h : Unchanged candidate files inode)
    (hcheck : formats.payloadIsValid candidate.cacheKind (files.inodes inode).content
      candidate.entryKey = .ok true) :
    executeCandidate noInterference formats candidate ⟨files, calls, events, completed⟩ =
      (.ok (executionItem candidate .deleted),
        ⟨{ files with targets := Function.update files.targets candidate.filename none }, calls + 6,
          .unlinked candidate.filename ::
            .inspected candidate.filename (.regular (files.fstat inode)) ::
            .read candidate.filename inode (files.inodes inode).content ::
            .inspected candidate.filename (.regular (files.fstat inode)) :: events, completed⟩) := by
  rw [executeCandidate]
  refine (Stateful.run_bind_of_ok
    ((h.revalidateCandidate_eq).trans (h.checkContent_valid hcheck))).trans ?_
  refine (Stateful.run_bind_of_ok (a := true) ?_).trans rfl
  rw [unlink, Stateful.run_bind_of_ok (systemCall_eq _)]
  simp only [h.target]
  rfl

theorem erase {other : CachePruneCandidate} (h : Unchanged other files inode)
    (hne : other.filename ≠ candidate.filename) :
    Unchanged other
      { files with targets := Function.update files.targets candidate.filename none } inode :=
  ⟨(Function.update_of_ne hne _ _).trans h.target, h.planned, h.nonempty, h.small⟩

end Unchanged

variable {formats : CacheFormats casefold floats} {first second : CachePruneCandidate}
  {files : FileSystem} {inode other : ℕ}

theorem executeCandidates_of_raised
    (calls : ℕ) (hne : second.filename ≠ first.filename)
    (hfirst : Unchanged first files inode) (hsecond : Unchanged second files other)
    (hvalid : formats.payloadIsValid first.cacheKind (files.inodes inode).content first.entryKey =
      .ok true)
    (hraised : formats.payloadIsValid second.cacheKind (files.inodes other).content
      second.entryKey = .error raised) :
    ∃ t, executeCandidates noInterference formats .embedding [first, second]
        ⟨files, calls, [], []⟩ = (.error ⟨raised, []⟩, t) ∧
      removedFiles t.events = [first.filename] := by
  refine ⟨⟨{ files with targets := Function.update files.targets first.filename none }, calls + 10,
    [.read second.filename other (files.inodes other).content,
      .inspected second.filename (.regular (files.fstat other)),
      .unlinked first.filename, .inspected first.filename (.regular (files.fstat inode)),
      .read first.filename inode (files.inodes inode).content,
      .inspected first.filename (.regular (files.fstat inode))],
    [executionItem first .deleted]⟩, ?_, rfl⟩
  rw [executeCandidates, if_neg (by decide)]
  refine (Stateful.run_bind_of_ok (hfirst.executeCandidate_valid hvalid)).trans ?_
  refine (Stateful.run_bind_of_ok rfl).trans ?_
  rw [executeCandidates, if_neg (by decide)]
  exact Stateful.run_bind_of_error ((hsecond.erase hne).executeCandidate_error hraised)

theorem executePrune_of_raised {plan : CachePrunePlan}
    (hkind : plan.cacheKind = .embedding) (hcandidates : plan.candidates = [first, second])
    (habsolute : plan.directory.startsWith "/" = true)
    (hdirectory : files.directory = some .directory) (hne : second.filename ≠ first.filename)
    (hfirst : Unchanged first files inode) (hsecond : Unchanged second files other)
    (hvalid : formats.payloadIsValid first.cacheKind (files.inodes inode).content first.entryKey =
      .ok true)
    (hraised : formats.payloadIsValid second.cacheKind (files.inodes other).content
      second.entryKey = .error raised)
    (hcaught : isCaught raised = false) :
    ∃ t, run noInterference formats plan files = (.error ⟨raised, []⟩, t) ∧
      removedFiles t.events = [first.filename] := by
  have hopened : validateExecutionDirectory noInterference plan.directory ⟨files, 0, [], []⟩ =
      (.ok (), ⟨files, 1, [], []⟩) := by
    rw [validateExecutionDirectory, if_neg (by rw [habsolute]; decide)]
    refine (Stateful.run_bind_of_ok (Unchanged.systemCall_eq _)).trans ?_
    simp only [hdirectory]
    rfl
  have hexecuted := executeCandidates_of_raised 2 hne hfirst hsecond hvalid hraised
  obtain ⟨t, hexecuted, hevents⟩ := hexecuted
  have hlock : takeLock noInterference .embedding ⟨files, 1, [], []⟩ =
      (.ok (), ⟨files, 2, [], []⟩) := rfl
  have hlocked : runLocked noInterference formats plan ⟨files, 1, [], []⟩ =
      (.error ⟨raised, []⟩, t) := by
    rw [runLocked, hkind, hcandidates, Stateful.tryCatch, if_pos rfl, Stateful.run_bind_of_ok hlock]
    simp only [hexecuted, hcaught]
    rfl
  refine ⟨t, ?_, hevents⟩
  rw [run, executePrune, if_neg (by rw [hcandidates]; simp)]
  exact (Stateful.run_bind_of_ok hopened).trans (Stateful.run_bind_of_error hlocked)

/-! ## An entry whose check raises -/

section Sample

open CachingEmbeddingProvider

def sampleFormats : CacheFormats asciiCasefold sampleFloats := ⟨hashlibSha256, fun _ => false⟩

def sampleTextSha256 : Sha256Digest :=
  ⟨"8ed3f6ad685b959ead7022518e1af76cd816f8e8ec7ccdda1ed4018e8f2223f8", by decide⟩

def sampleEntryKey : Sha256Digest :=
  ⟨"b7c2c46ebf183bbb7335eb44a6456426d04803dcc8be30562a9637d39c701dbf", by decide⟩

def sampleForeignKey : Sha256Digest :=
  ⟨"9e2512f48b4bd4d3a25f7b52cf8f2f7048d74838ec801f96295eec3b902648f6", by decide⟩

def sampleContent (entryKey : Sha256Digest) (embedding : TextEmbedding sampleFloats) :
    List UInt8 :=
  TextFile.encode ((Json.Value.obj (EmbeddingCacheEntry.members ⟨entryKey, sampleTextSha256,
    embedding.modelName, embedding.dimensions, embedding⟩)).print Json.compact 0)

def sampleForeignEmbedding : TextEmbedding sampleFloats :=
  ⟨"modèle", ⟨1, Nat.one_pos⟩, [()], by decide, sampleEmbedding.length_eq⟩

def sampleCandidate (entryKey : Sha256Digest) (sizeBytes mtimeNs : ℕ) : CachePruneCandidate :=
  ⟨.embedding, entryFilename entryKey, entryKey, sizeBytes, mtimeNs, rfl⟩

def samplePrunePlan : CachePrunePlan where
  cacheKind := .embedding
  directory := "/cache"
  selectedEntryCount := 2
  selectedEntryBytes := 282 + (278 + 0)
  candidates := [sampleCandidate sampleEntryKey 282 1, sampleCandidate sampleForeignKey 278 2]
  count_eq := rfl
  bytes_eq := rfl
  kind_eq := by simp [sampleCandidate]

def samplePruneFiles : FileSystem where
  directory := some .directory
  targets name :=
    if name = entryFilename sampleEntryKey then some (.regular 1)
    else if name = entryFilename sampleForeignKey then some (.regular 2)
    else none
  inodes inode :=
    if inode = 1 then ⟨1, sampleContent sampleEntryKey sampleEmbedding⟩
    else ⟨2, sampleContent sampleForeignKey sampleForeignEmbedding⟩

def sampleEntry (entryKey : Sha256Digest) (embedding : TextEmbedding sampleFloats) :
    EmbeddingCacheEntry sampleFloats :=
  ⟨entryKey, sampleTextSha256, embedding.modelName, embedding.dimensions, embedding⟩

variable {embedding : TextEmbedding sampleFloats}

theorem payloadIsValid_sampleContent (entryKey : Sha256Digest)
    (hints : (Json.Value.obj (sampleEntry entryKey embedding).members).intsWithin maxStrDigits =
      true) :
    sampleFormats.payloadIsValid .embedding (sampleContent entryKey embedding) entryKey =
      (sampleEntry entryKey embedding).accepted.map fun accepted => accepted.any fun entry =>
        decide (entry.cacheKey = entryKey ∧ entryKey = buildEmbeddingCacheKey hashlibSha256
          entry.textSha256 entry.modelName entry.dimensions) := by
  have hdumped := jsonDumps_eq_ok.mpr ⟨hints, Eq.refl ((Json.Value.obj
    (sampleEntry entryKey embedding).members).print Json.compact 0)⟩
  have hloads := loadsNoDuplicateKeys_of_jsonDumps hdumped (keysUnique_embeddingEntry _)
    (fun _ (h : _ ∈ []) => nomatch h)
  have hdeep : ∀ text, sampleFormats.tooDeep text = false := fun _ => rfl
  rw [List.append_nil, sampleEntry] at hloads
  rw [sampleContent, CacheFormats.payloadIsValid, TextFile.decode_encode, sampleEntry]
  simp only [raiseIf, hdeep, Bool.false_eq_true, if_false, ok_bind, hloads,
    embeddingEntryFromJson_members]
  rcases EmbeddingCacheEntry.accepted _ with raised | _ | entry <;> rfl

theorem payloadIsValid_sampleForeign :
    sampleFormats.payloadIsValid .embedding (sampleContent sampleForeignKey sampleForeignEmbedding)
      sampleForeignKey = .error
        ⟨.typeError, "comparing strings with non-ASCII characters is not supported"⟩ := by
  have hvalidate : (sampleEntry sampleForeignKey sampleForeignEmbedding).validate = .error
      ⟨.typeError, "comparing strings with non-ASCII characters is not supported"⟩ := by
    decide +kernel
  rw [payloadIsValid_sampleContent _ (by decide +kernel), EmbeddingCacheEntry.accepted, hvalidate]
  rfl

theorem payloadIsValid_of_key {entryKey : Sha256Digest}
    (hints : (Json.Value.obj (sampleEntry entryKey embedding).members).intsWithin maxStrDigits =
      true)
    (hvalidate : (sampleEntry entryKey embedding).validate = .ok ())
    (hkey : entryKey = buildEmbeddingCacheKey hashlibSha256 sampleTextSha256 embedding.modelName
      embedding.dimensions) :
    sampleFormats.payloadIsValid .embedding (sampleContent entryKey embedding) entryKey =
      .ok true := by
  rw [payloadIsValid_sampleContent _ hints, EmbeddingCacheEntry.accepted, hvalidate]
  exact congrArg Except.ok (decide_eq_true ⟨rfl, hkey⟩)

theorem eq_hexdigest {digest : Sha256Digest} {data : List UInt8}
    (h : (Sha2.hexdigest data == digest.val.toList) = true) :
    digest = ⟨hashlibSha256.hexdigest data, hashlibSha256.hexdigest_valid data⟩ := by
  refine Subtype.ext ?_
  change digest.val = String.ofList (Sha2.hexdigest data)
  rw [eq_of_beq h, String.ofList_toList]

theorem payloadIsValid_sampleEntry :
    sampleFormats.payloadIsValid .embedding (sampleContent sampleEntryKey sampleEmbedding)
      sampleEntryKey = .ok true :=
  payloadIsValid_of_key (by decide +kernel) (by decide +kernel) (eq_hexdigest (by decide +kernel))

example : sampleEntryKey ≠ sampleForeignKey := by decide +kernel

theorem Unchanged.of_length {candidate : CachePruneCandidate} {files : FileSystem} {inode : ℕ}
    (htarget : files.targets candidate.filename = some (.regular inode))
    (hlength : (files.inodes inode).content.length = candidate.sizeBytes)
    (htime : (files.inodes inode).mtimeNs = candidate.mtimeNs)
    (hsize : 0 < candidate.sizeBytes ∧ candidate.sizeBytes ≤ 4096) :
    Unchanged candidate files inode where
  target := htarget
  planned := decide_eq_true ⟨hlength, htime⟩
  nonempty hnil := by
    rw [hnil, List.length_nil] at hlength
    omega
  small := hlength ▸ hsize.2

theorem unchanged_sampleEntry :
    Unchanged (sampleCandidate sampleEntryKey 282 1) samplePruneFiles 1 :=
  .of_length (by decide +kernel) (by decide +kernel) rfl (by decide)

theorem unchanged_sampleForeign :
    Unchanged (sampleCandidate sampleForeignKey 278 2) samplePruneFiles 2 :=
  .of_length (by decide +kernel) (by decide +kernel) rfl (by decide)

/-- The first entry is removed, and the `TypeError` of the second one's check exposes nothing. -/
theorem run_not_accurate : ¬Accurate sampleFormats samplePrunePlan
    (run noInterference sampleFormats samplePrunePlan samplePruneFiles) := by
  intro haccurate
  obtain ⟨t, hrun, hremoved⟩ : ∃ t, run noInterference sampleFormats samplePrunePlan
      samplePruneFiles = (.error ⟨_, []⟩, t) ∧ removedFiles t.events = [_] :=
    executePrune_of_raised rfl rfl (by decide +kernel) rfl (by decide +kernel)
      unchanged_sampleEntry unchanged_sampleForeign payloadIsValid_sampleEntry
      payloadIsValid_sampleForeign rfl
  rw [hrun] at haccurate
  have hlength := haccurate.length_eq
  rw [hremoved] at hlength
  exact nomatch hlength

end Sample

end PersistentCacheMaintenance

end AgenticLab
