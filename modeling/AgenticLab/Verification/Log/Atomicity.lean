import AgenticLab.Verification.Log.Registration

/-! # What a failing registration leaves behind -/

namespace AgenticLab.TransparencyLog

variable {p : Platform} {files : LogFiles} {entries : List Entry}
  {artifact : VerifiedTransparencyArtifact} {recordedAt : UtcDatetime} {entry : Entry}
  {line : List UInt8} {fault : Option RegisterFault} {stateNode : FileNode} {entries' : List Entry}

theorem not_represents_of_open_line (h : Represents p files entries) {rest : List UInt8}
    (hne : rest ≠ []) (hopen : TextFile.lineFeed ∉ rest) :
    ¬Represents p ⟨.regular (files.log.bytes ++ rest), stateNode⟩ entries' := by
  intro hafter
  have hlines := h.rawLines_append rest
  rw [TextFile.rawLines_of_not_mem hne hopen] at hlines
  have hends := ends_of_lineHolds hafter.lines rest (by
    change rest ∈ TextFile.rawLines (files.log.bytes ++ rest)
    simp [hlines])
  exact hopen (List.mem_of_getLast? hends)

theorem not_represents_of_old_state (h : Represents p files entries)
    (hprepared : Prepared p entries artifact recordedAt entry line) :
    ¬Represents p ⟨.regular (files.log.bytes ++ line), files.state⟩ entries' := by
  intro hafter
  have hlength : entries'.length = entries.length + 1 := by
    have hlines := hafter.lines.length_eq
    change (TextFile.rawLines (files.log.bytes ++ line)).length = entries'.length at hlines
    rw [h.rawLines_append, hprepared.rawLines_line, List.length_append, h.lines.length_eq] at hlines
    exact hlines.symm
  cases hafter with
  | @filled _ _ state' _ _ _ _ _ _ hstate' hsequence' =>
    cases h with
    | empty => simp [loadTransparencyLogState] at hstate'
    | @filled _ _ state _ _ _ _ _ _ hstate hsequence =>
      obtain rfl := Option.some.inj (Except.ok.inj (hstate.symm.trans hstate'))
      omega

theorem not_represents_of_absent_state {content : List UInt8} :
    ¬Represents p ⟨.regular content, .absent⟩ entries' := by
  intro hafter
  cases hafter with
  | filled _ _ _ _ _ hstate => simp [loadTransparencyLogState] at hstate

theorem not_represents_of_torn_append (h : Represents p files entries)
    (hprepared : Prepared p entries artifact recordedAt entry line) {written : ℕ}
    (htorn : written ≠ 0 ∨ files.log = .absent) :
    ¬Represents p ⟨.regular (files.log.bytes ++ line.take written), files.state⟩ entries' := by
  by_cases habsent : files.log = .absent
  · cases h with
    | empty => exact not_represents_of_absent_state
    | filled => simp at habsent
  · have hwritten : written ≠ 0 := htorn.resolve_right habsent
    obtain ⟨body, hline, hbody⟩ := hprepared.single
    by_cases hpart : written ≤ body.length
    · have htake : line.take written = body.take written := by
        rw [hline, List.take_append_of_le_length hpart]
      have hne : body ≠ [] := by
        rintro rfl
        simp only [List.length_nil, Nat.le_zero] at hpart
        exact hwritten hpart
      rw [htake]
      refine not_represents_of_open_line h ?_ fun hmem => hbody (List.mem_of_mem_take hmem)
      rw [ne_eq, List.take_eq_nil_iff, not_or]
      exact ⟨hwritten, hne⟩
    · have htake : line.take written = line := by
        apply List.take_of_length_le
        rw [hline, List.length_append, List.length_singleton]
        omega
      rw [htake]
      exact not_represents_of_old_state h hprepared

/-! ## Registrations -/

structure OldOrNew (p : Platform) (files : LogFiles) (artifact : VerifiedTransparencyArtifact)
    (recordedAt : UtcDatetime) (after : LogFiles) : Prop where
  accepted : ∃ result, verifyTransparencyLog p after = .ok result
  content : after.log = files.log ∨ ∃ entry line, Registers artifact recordedAt entry ∧
    after.log = .regular (files.log.bytes ++ line) ∧
    logEntries p after.log = logEntries p files.log ++ [entry]

/-- The errors that a registration survives behind the checks on the entry. -/
def AppendsSafely (files : LogFiles) : Option RegisterFault → Prop
  | some (.appendAfterOpen written) => written = 0 ∧ files.log ≠ .absent
  | some (.stateExport .beforeReplace) => False
  | _ => True

theorem Represents.oldOrNew_self (h : Represents p files entries) :
    OldOrNew p files artifact recordedAt files :=
  ⟨⟨_, verify_eq_ok_of_represents h⟩, .inl rfl⟩

theorem Represents.oldOrNew_snoc (h : Represents p files entries)
    (hprepared : Prepared p entries artifact recordedAt entry line)
    (hafter : Represents p ⟨.regular (files.log.bytes ++ line), stateNode⟩ (entries ++ [entry])) :
    OldOrNew p files artifact recordedAt ⟨.regular (files.log.bytes ++ line), stateNode⟩ := by
  refine ⟨⟨_, verify_eq_ok_of_represents hafter⟩, .inr ⟨entry, line, hprepared.registers, rfl, ?_⟩⟩
  rw [hafter.logEntries_eq, h.logEntries_eq]

theorem not_oldOrNew {after : LogFiles} (h : ∀ entries', ¬Represents p after entries') :
    ¬OldOrNew p files artifact recordedAt after := by
  rintro ⟨⟨result, hresult⟩, -⟩
  obtain ⟨entries', hentries, -⟩ := (verify_eq_ok p).mp hresult
  exact h entries' hentries

/-- The two writes leave the old or the new log exactly when the error lets both or none of
them through. -/
theorem writeEntry_oldOrNew_iff
    (hpending : pendingAppend? p files artifact recordedAt = some (entry, line)) :
    OldOrNew p files artifact recordedAt (writeEntry p files entry line recordedAt fault).2 ↔
      AppendsSafely files fault := by
  obtain ⟨entries, hfiles, hlookup, hprepare, hsize⟩ := pendingAppend?_eq_some hpending
  have hprepared := prepareEntry_eq_ok hlookup hprepare
  have hreplaced : ∀ exported : Option ReplaceFault, exported ≠ some .beforeReplace →
      OldOrNew p files artifact recordedAt ⟨.regular (files.log.bytes ++ line),
        (exportTransparencyLogState p.datetimes files.state
          (buildTransparencyLogState entry recordedAt) exported).2⟩ := by
    intro exported hexported
    obtain ⟨content, hexport, hload⟩ :=
      exportTransparencyLogState_of_prepared hfiles hprepared exported
    have hstate : files.state.replace content exported = .regular content := by
      cases exported with
      | none => rfl
      | some fault =>
        cases fault with
        | beforeReplace => exact absurd rfl hexported
        | afterReplace => rfl
    rw [hexport, hstate]
    exact hfiles.oldOrNew_snoc hprepared (hfiles.snoc hprepared hsize hload)
  rw [writeEntry_of_pending hpending]
  rcases fault with _ | fault
  · exact iff_of_true (hreplaced none nofun) trivial
  · cases fault with
    | lock => exact iff_of_true (hreplaced none nofun) trivial
    | readBefore => exact iff_of_true (hreplaced none nofun) trivial
    | readAfter => exact iff_of_true (hreplaced none nofun) trivial
    | appendBeforeOpen => exact iff_of_true hfiles.oldOrNew_self trivial
    | appendAfterOpen written =>
      by_cases hsafe : written = 0 ∧ files.log ≠ .absent
      · refine iff_of_true ?_ hsafe
        obtain ⟨rfl, hexists⟩ := hsafe
        have hsame : (⟨.regular (files.log.bytes ++ line.take 0), files.state⟩ : LogFiles) =
            files := by
          cases hfiles with
          | empty => exact absurd rfl hexists
          | filled => simp [FileNode.bytes]
        change OldOrNew p files artifact recordedAt
          ⟨.regular (files.log.bytes ++ line.take 0), files.state⟩
        rw [hsame]
        exact hfiles.oldOrNew_self
      · refine iff_of_false (not_oldOrNew fun entries' => ?_) hsafe
        apply not_represents_of_torn_append hfiles hprepared
        by_cases hwritten : written = 0
        · exact .inr (not_not.mp fun hexists => hsafe ⟨hwritten, hexists⟩)
        · exact .inl hwritten
    | stateExport exported =>
      cases exported with
      | afterReplace => exact iff_of_true (hreplaced (some .afterReplace) (by decide)) trivial
      | beforeReplace =>
        refine iff_of_false (not_oldOrNew fun entries' => ?_) id
        obtain ⟨content, hexport, -⟩ :=
          exportTransparencyLogState_of_prepared hfiles hprepared (some .beforeReplace)
        simp only [RegisterFault.export?, hexport]
        exact not_represents_of_old_state hfiles hprepared

/-- Exactly when a registration leaves accepted files with the old or the extended log. -/
theorem registerVerifiedArtifact_oldOrNew_iff {verification : TransparencyLogVerificationResult}
    (hverify : verifyTransparencyLog p files = .ok verification)
    (artifact : VerifiedTransparencyArtifact) (recordedAt : UtcDatetime)
    (fault : Option RegisterFault) :
    OldOrNew p files artifact recordedAt
        (registerVerifiedArtifact p files artifact recordedAt fault).2 ↔
      pendingAppend? p files artifact recordedAt = none ∨ AppendsSafely files fault := by
  obtain ⟨entries, hfiles, -⟩ := (verify_eq_ok p).mp hverify
  cases hpending : pendingAppend? p files artifact recordedAt with
  | none =>
    rw [registerVerifiedArtifact_of_pendingAppend?_eq_none hpending]
    exact iff_of_true hfiles.oldOrNew_self (.inl rfl)
  | some pending =>
    by_cases hstopped : fault = some .lock ∨ fault = some .readBefore
    · rw [registerVerifiedArtifact_of_stopped hstopped]
      refine iff_of_true hfiles.oldOrNew_self (.inr ?_)
      rcases hstopped with rfl | rfl <;> trivial
    · rw [not_or] at hstopped
      rw [registerVerifiedArtifact_of_pendingAppend?_eq_some hpending hstopped.1 hstopped.2]
      simpa using writeEntry_oldOrNew_iff hpending

theorem registerVerifiedArtifact_oldOrNew_iff_sample :
    OldOrNew referencePlatform ⟨.absent, .absent⟩ sampleTransition sampleTime
        (registerVerifiedArtifact referencePlatform ⟨.absent, .absent⟩ sampleTransition sampleTime
          (some (.stateExport .beforeReplace))).2 ↔
      pendingAppend? referencePlatform ⟨.absent, .absent⟩ sampleTransition sampleTime = none ∨
        AppendsSafely ⟨.absent, .absent⟩ (some (.stateExport .beforeReplace)) :=
  registerVerifiedArtifact_oldOrNew_iff
    (rfl : verifyTransparencyLog referencePlatform ⟨.absent, .absent⟩ = .ok emptyResult)
    sampleTransition sampleTime (some (.stateExport .beforeReplace))

/-- A state export that fails on first use leaves a log without a state. -/
theorem registerVerifiedArtifact_leaves_divergence :
    ¬∀ (p : Platform) (files : LogFiles) (artifact : VerifiedTransparencyArtifact)
      (recordedAt : UtcDatetime) (fault : Option RegisterFault) verification,
      verifyTransparencyLog p files = .ok verification →
        OldOrNew p files artifact recordedAt
          (registerVerifiedArtifact p files artifact recordedAt fault).2 := by
  intro h
  obtain ⟨entry, line, hpending⟩ := sampleTransition_pending
  have hleft := h referencePlatform ⟨.absent, .absent⟩ sampleTransition sampleTime
    (some (.stateExport .beforeReplace)) emptyResult rfl
  rw [registerVerifiedArtifact_of_pendingAppend?_eq_some hpending (by decide) (by decide)] at hleft
  exact (writeEntry_oldOrNew_iff hpending).mp hleft

end AgenticLab.TransparencyLog
