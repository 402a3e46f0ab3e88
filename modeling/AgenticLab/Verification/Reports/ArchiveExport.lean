import AgenticLab.Model.Reports.ArchiveExport

/-! # What an interrupted export leaves on disk -/

namespace AgenticLab

open ArchiveAuthentication (validateArchiveFilename formatArchiveAuthentication
  authenticatedBytes exportAuthentication)
open ArchiveSignature (isValidArchiveFilename formatArchiveSignature exportSignature)

theorem isValidArchiveFilename_of_validate {name : String}
    (h : validateArchiveFilename name = true) : isValidArchiveFilename name = true := by
  simp only [validateArchiveFilename, decide_eq_true_eq] at h
  obtain ⟨_, hstrip, hcharacters, hsuffix, hname⟩ := h
  have hne : ∀ short : String, short.length < 11 → name ≠ short := by
    rintro short hshort rfl
    have hlength := hsuffix.length_le
    rw [String.length_toList] at hlength
    exact absurd (hlength.trans_lt hshort) (by decide)
  simp only [isValidArchiveFilename, decide_eq_true_eq]
  simp only [List.any_cons, List.any_nil, Bool.or_false, Bool.or_eq_false_iff,
    List.contains_eq_mem, decide_eq_false_iff_not] at hcharacters
  obtain ⟨hslash, hbackslash, hcolon, hzero⟩ := hcharacters
  exact ⟨hsuffix, hstrip.symm, hne "." (by decide), hne ".." (by decide), hslash, hbackslash,
    hcolon, hzero, hname⟩

namespace ReportArchive

variable {p : ArchivePlatform} {call : ArchiveExport} {signing : ArchiveSigning}
  {files : ArchiveFiles} {key : TrustedAuthenticationKey} {data : List UInt8}

/-! ## Where an export stops -/

structure Replaces (call : ArchiveExport) (files : ArchiveFiles)
    (key : TrustedAuthenticationKey) (data : List UInt8) : Prop where
  key : selectSigningKey call.trustStore call.authenticatedAt = .ok key
  path : validateArchiveOutputPath call.archiveName files.archive = .ok ()
  bundle : call.bundle = .ok data
  writes : call.fault ≠ some .archive

def StopsAtAuthentication (call : ArchiveExport) (files : ArchiveFiles) (data : List UInt8) :
    Prop :=
  call.fault = some .archiveDigest ∨ maxArchiveCompressedBytes < data.length ∨
    validateArchiveFilename call.archiveName = false ∨
    call.fault = some .authenticationRead ∨ files.authentication.isSymlinkOrDir = true ∨
    call.fault = some .authentication

def StopsAtSignature (call : ArchiveExport) (files : ArchiveFiles) : Prop :=
  call.fault = some .signatureRead ∨
    (files.signature = .directory ∨ files.signature = .symlink ∧ files.signatureDangles = false) ∨
    call.fault = some .signature

def newAuthentication (p : ArchivePlatform) (call : ArchiveExport)
    (key : TrustedAuthenticationKey) (data : List UInt8) : FileNode :=
  .regular (formatArchiveAuthentication p call key
    (hmacHexdigest p.sha256 key.secret (authenticatedBytes p call key data)))

def newSignature (p : ArchivePlatform) (call : ArchiveExport) (signing : ArchiveSigning)
    (data : List UInt8) : FileNode :=
  .regular (formatArchiveSignature p call signing data)

theorem exportReportArchive_of_replaces (h : Replaces call files key data) :
    exportReportArchive call files =
      (call.meets .archiveDigest ⟨.reportIntegrityReadError,
        "Failed to read the audit report integrity file."⟩,
        { files with archive := .regular data }) := by
  have hwrites : ∀ failure, call.meets .archive failure = .ok () := by
    intro failure
    rw [ArchiveExport.meets, raiseIf, if_neg h.writes]
  rw [exportReportArchive, Stateful.run_get_bind, Stateful.run_lift_bind_of_ok h.path,
    Stateful.run_lift_bind_of_ok h.bundle, Stateful.run_lift_bind_of_ok (hwrites _),
    Stateful.run_set_bind]
  rfl

theorem authenticated_of_not_replaces (h : ∀ key data, ¬Replaces call files key data) :
    ∃ failure, exportAuthenticatedReportArchive p call files = (.error failure, files) := by
  cases hkey : selectSigningKey call.trustStore call.authenticatedAt with
  | error failure => exact ⟨failure, Stateful.run_lift_bind_of_error hkey⟩
  | ok key =>
    suffices hexport : ∃ failure, exportReportArchive call files = (.error failure, files) by
      obtain ⟨failure, hfailure⟩ := hexport
      refine ⟨failure, ?_⟩
      rw [exportAuthenticatedReportArchive, Stateful.run_lift_bind_of_ok hkey,
        Stateful.run_bind_of_error hfailure]
    rw [exportReportArchive, Stateful.run_get_bind]
    cases hpath : validateArchiveOutputPath call.archiveName files.archive with
    | error failure => exact ⟨failure, Stateful.run_lift_bind_of_error rfl⟩
    | ok checked =>
      rw [Stateful.run_lift_bind_of_ok rfl]
      cases hbundle : call.bundle with
      | error failure => exact ⟨failure, Stateful.run_lift_bind_of_error rfl⟩
      | ok data =>
        rw [Stateful.run_lift_bind_of_ok rfl]
        by_cases hfault : call.fault = some .archive
        · exact ⟨_, run_raiseIf_bind.trans (if_pos hfault)⟩
        · exact absurd ⟨hkey, hpath, hbundle, hfault⟩ (h key data)

theorem calculateArchiveHmac_run (harchive : files.archive = .regular data) :
    ArchiveAuthentication.calculateArchiveHmac p call key files =
      if maxArchiveCompressedBytes < data.length then
        (.error ArchiveAuthentication.readFailure, files)
      else if validateArchiveFilename call.archiveName = false then
        (.error ArchiveAuthentication.formatFailure, files)
      else if call.fault = some .authenticationRead then
        (.error ArchiveAuthentication.readFailure, files)
      else (.ok (hmacHexdigest p.sha256 key.secret (authenticatedBytes p call key data)),
        files) := by
  rw [ArchiveAuthentication.calculateArchiveHmac, Stateful.run_get_bind, harchive]
  simp only [run_raiseIf_bind, ArchiveExport.meets, Stateful.run_pure]

theorem exportAuthentication_spec (hdigest : call.fault ≠ some .archiveDigest)
    (harchive : files.archive = .regular data) :
    (StopsAtAuthentication call files data →
      ∃ failure, exportAuthentication p call key files = (.error failure, files)) ∧
    (¬StopsAtAuthentication call files data → exportAuthentication p call key files =
      (.ok (), { files with authentication := newAuthentication p call key data })) := by
  have hhmac : ArchiveAuthentication.calculateArchiveHmac p call key files = _ :=
    calculateArchiveHmac_run harchive
  by_cases hread : maxArchiveCompressedBytes < data.length ∨
      validateArchiveFilename call.archiveName = false ∨ call.fault = some .authenticationRead
  · have hstops : StopsAtAuthentication call files data := by
      unfold StopsAtAuthentication
      rcases hread with h | h | h <;> simp [h]
    refine ⟨fun _ => ?_, fun hnot => absurd hstops hnot⟩
    suffices hfails : ∃ failure,
        ArchiveAuthentication.calculateArchiveHmac p call key files = (.error failure, files) by
      obtain ⟨failure, hfailure⟩ := hfails
      exact ⟨failure, Stateful.run_bind_of_error hfailure⟩
    rw [hhmac]
    split_ifs with hsize hname hfault
    · exact ⟨_, rfl⟩
    · exact ⟨_, rfl⟩
    · exact ⟨_, rfl⟩
    · simp [hsize, hname, hfault] at hread
  · push Not at hread
    obtain ⟨hsize, hname, hfault⟩ := hread
    rw [if_neg hsize.not_gt, if_neg hname, if_neg hfault] at hhmac
    rw [exportAuthentication, Stateful.run_bind_of_ok hhmac, run_raiseIf_bind, if_neg hname,
      Stateful.run_get_bind, run_raiseIf_bind]
    by_cases hpath : files.authentication.isSymlinkOrDir = true
    · rw [if_pos hpath]
      exact ⟨fun _ => ⟨_, rfl⟩, fun hnot => absurd (by simp [StopsAtAuthentication, hpath]) hnot⟩
    · rw [if_neg hpath]
      by_cases hwrite : call.fault = some .authentication
      · refine ⟨fun _ => ⟨_, run_raiseIf_bind.trans (if_pos hwrite)⟩,
          fun hnot => absurd (by simp [StopsAtAuthentication, hwrite]) hnot⟩
      · refine ⟨fun hstops => ?_, fun _ => run_raiseIf_bind.trans (if_neg hwrite)⟩
        unfold StopsAtAuthentication at hstops
        simp [hdigest, hname, hfault, hpath, hwrite] at hstops
        exact absurd hstops hsize.not_gt

theorem exportSignature_spec (harchive : files.archive = .regular data)
    (hsize : data.length ≤ maxArchiveCompressedBytes)
    (hname : validateArchiveFilename call.archiveName = true) :
    (StopsAtSignature call files →
      ∃ failure, exportSignature p call signing files = (.error failure, files)) ∧
    (¬StopsAtSignature call files → exportSignature p call signing files =
      (.ok (), { files with signature := newSignature p call signing data })) := by
  have hvalid := isValidArchiveFilename_of_validate hname
  rw [exportSignature, run_raiseIf_bind, if_neg (by simp [hvalid]), Stateful.run_get_bind, harchive]
  simp only [run_raiseIf_bind, ArchiveExport.meets, Stateful.run_set]
  unfold StopsAtSignature
  rw [if_neg hsize.not_gt]
  split_ifs with hread hpath hwrite
  · simp [hread]
  · simp [hpath]
  · simp [hwrite]
  · simp [hread, hpath, hwrite, newSignature]

theorem authenticated_of_replaces (h : Replaces call files key data) :
    (StopsAtAuthentication call files data → ∃ failure,
      exportAuthenticatedReportArchive p call files =
        (.error failure, { files with archive := .regular data })) ∧
    (¬StopsAtAuthentication call files data → exportAuthenticatedReportArchive p call files =
      (.ok (), { files with
        archive := .regular data
        authentication := newAuthentication p call key data })) := by
  have hexport := exportReportArchive_of_replaces h
  rw [exportAuthenticatedReportArchive, Stateful.run_lift_bind_of_ok h.key]
  by_cases hdigest : call.fault = some .archiveDigest
  · have hstops : StopsAtAuthentication call files data := .inl hdigest
    rw [ArchiveExport.meets, raiseIf, if_pos hdigest] at hexport
    exact ⟨fun _ => ⟨_, Stateful.run_bind_of_error hexport⟩, fun hnot => absurd hstops hnot⟩
  · rw [ArchiveExport.meets, raiseIf, if_neg hdigest] at hexport
    have harchive : ArchiveFiles.archive { files with archive := .regular data } =
        .regular data := rfl
    rw [Stateful.run_bind_of_ok hexport]
    exact exportAuthentication_spec hdigest harchive

theorem signed_of_not_replaces
    (h : signing.trusted = .ok () → ∀ key data, ¬Replaces call files key data) :
    ∃ failure, exportSignedAuthenticatedReportArchive p call signing files =
      (.error failure, files) := by
  cases htrusted : signing.trusted with
  | error failure => exact ⟨failure, Stateful.run_lift_bind_of_error htrusted⟩
  | ok checked =>
    obtain ⟨failure, hfailure⟩ := authenticated_of_not_replaces (p := p) (h htrusted)
    refine ⟨failure, ?_⟩
    rw [exportSignedAuthenticatedReportArchive, Stateful.run_lift_bind_of_ok htrusted,
      Stateful.run_bind_of_error hfailure]

theorem signed_of_replaces (htrusted : signing.trusted = .ok ())
    (h : Replaces call files key data) :
    (StopsAtAuthentication call files data → ∃ failure,
      exportSignedAuthenticatedReportArchive p call signing files =
        (.error failure, { files with archive := .regular data })) ∧
    (¬StopsAtAuthentication call files data → StopsAtSignature call files → ∃ failure,
      exportSignedAuthenticatedReportArchive p call signing files =
        (.error failure, { files with
          archive := .regular data
          authentication := newAuthentication p call key data })) ∧
    (¬StopsAtAuthentication call files data → ¬StopsAtSignature call files →
      exportSignedAuthenticatedReportArchive p call signing files =
        (.ok (), { files with
          archive := .regular data
          authentication := newAuthentication p call key data
          signature := newSignature p call signing data })) := by
  obtain ⟨hstops, hpasses⟩ := authenticated_of_replaces (p := p) h
  rw [exportSignedAuthenticatedReportArchive, Stateful.run_lift_bind_of_ok htrusted]
  refine ⟨fun hstop => ?_, fun hpass hstop => ?_, fun hpass hgoes => ?_⟩
  · obtain ⟨failure, hfailure⟩ := hstops hstop
    exact ⟨failure, Stateful.run_bind_of_error hfailure⟩
  all_goals
    have harchive : ArchiveFiles.archive { files with
        archive := .regular data
        authentication := newAuthentication p call key data } = .regular data := rfl
    have hsize : data.length ≤ maxArchiveCompressedBytes :=
      not_lt.mp fun hlt => hpass (.inr (.inl hlt))
    have hname : validateArchiveFilename call.archiveName = true := by
      by_contra hname
      exact hpass (.inr (.inr (.inl (Bool.eq_false_iff.mpr hname))))
    rw [Stateful.run_bind_of_ok (hpasses hpass)]
  · exact (exportSignature_spec harchive hsize hname).1 hstop
  · exact (exportSignature_spec harchive hsize hname).2 hgoes

/-- A call that raises leaves the files as they were, or the new ones complete. -/
def LeavesWhole (files : ArchiveFiles) (complete : ArchiveFiles → Prop)
    (outcome : Except Raised Unit × ArchiveFiles) : Prop :=
  ∀ failure, outcome.1 = .error failure → outcome.2 = files ∨ complete outcome.2

def IsAuthenticated (p : ArchivePlatform) (call : ArchiveExport) (files : ArchiveFiles) : Prop :=
  ∃ key data, selectSigningKey call.trustStore call.authenticatedAt = .ok key ∧
    call.bundle = .ok data ∧ files.archive = .regular data ∧
    files.authentication = newAuthentication p call key data

def IsSigned (p : ArchivePlatform) (call : ArchiveExport) (signing : ArchiveSigning)
    (files : ArchiveFiles) : Prop :=
  ∃ key data, selectSigningKey call.trustStore call.authenticatedAt = .ok key ∧
    call.bundle = .ok data ∧ files.archive = .regular data ∧
    files.authentication = newAuthentication p call key data ∧
    files.signature = newSignature p call signing data

variable {after : ArchiveFiles}

theorem isAuthenticated_iff (h : Replaces call files key data) :
    IsAuthenticated p call after ↔ after.archive = .regular data ∧
      after.authentication = newAuthentication p call key data := by
  constructor
  · intro hafter
    obtain ⟨other, bytes, hkey, hbundle, harchive, hauthentication⟩ := hafter
    cases h.key.symm.trans hkey
    cases h.bundle.symm.trans hbundle
    exact ⟨harchive, hauthentication⟩
  · intro hafter
    exact ⟨key, data, h.key, h.bundle, hafter.1, hafter.2⟩

theorem isSigned_iff (h : Replaces call files key data) :
    IsSigned p call signing after ↔ after.archive = .regular data ∧
      after.authentication = newAuthentication p call key data ∧
      after.signature = newSignature p call signing data := by
  constructor
  · intro hafter
    obtain ⟨other, bytes, hkey, hbundle, hfiles⟩ := hafter
    cases h.key.symm.trans hkey
    cases h.bundle.symm.trans hbundle
    exact hfiles
  · intro hafter
    exact ⟨key, data, h.key, h.bundle, hafter⟩

/-- Nothing is harmed before the archive is replaced. Behind it, a call that raises leaves a new
archive next to sidecars that are not its own, unless it has replaced files by equal ones or
sidecars of the new archive were there before. -/
theorem exports_leave_whole_iff (p : ArchivePlatform) (call : ArchiveExport)
    (signing : ArchiveSigning) (files : ArchiveFiles) :
    (LeavesWhole files (IsAuthenticated p call) (exportAuthenticatedReportArchive p call files) ↔
      ∀ key data, Replaces call files key data → StopsAtAuthentication call files data →
        files.archive = .regular data ∨ files.authentication = newAuthentication p call key data) ∧
    (LeavesWhole files (IsSigned p call signing)
        (exportSignedAuthenticatedReportArchive p call signing files) ↔
      (signing.trusted = .ok () → ∀ key data, Replaces call files key data →
        (StopsAtAuthentication call files data → files.archive = .regular data ∨
          files.authentication = newAuthentication p call key data ∧
          files.signature = newSignature p call signing data) ∧
        (¬StopsAtAuthentication call files data → StopsAtSignature call files →
          files.archive = .regular data ∧ files.authentication = newAuthentication p call key data ∨
          files.signature = newSignature p call signing data))) := by
  constructor
  · by_cases hreplaces : ∃ key data, Replaces call files key data
    · obtain ⟨key, data, h⟩ := hreplaces
      obtain ⟨hstops, hpasses⟩ := authenticated_of_replaces (p := p) h
      by_cases hstop : StopsAtAuthentication call files data
      · obtain ⟨failure, hfailure⟩ := hstops hstop
        rw [LeavesWhole, hfailure]
        constructor
        · intro hwhole other bytes hother _
          cases h.key.symm.trans hother.key
          cases h.bundle.symm.trans hother.bundle
          rcases hwhole failure rfl with heq | hnew
          · exact .inl (congrArg ArchiveFiles.archive heq).symm
          · exact .inr ((isAuthenticated_iff h).mp hnew).2
        · intro hsame _ _
          rcases hsame key data h hstop with harchive | hauthentication
          · exact .inl (by rw [← harchive])
          · exact .inr ((isAuthenticated_iff h).mpr ⟨rfl, hauthentication⟩)
      · rw [LeavesWhole, hpasses hstop]
        refine iff_of_true nofun fun other bytes hother hstop' => absurd hstop' ?_
        cases h.bundle.symm.trans hother.bundle
        exact hstop
    · have hnone : ∀ key data, ¬Replaces call files key data := fun key data h =>
        hreplaces ⟨key, data, h⟩
      obtain ⟨failure, hfailure⟩ := authenticated_of_not_replaces (p := p) hnone
      rw [LeavesWhole, hfailure]
      exact iff_of_true (fun _ _ => .inl rfl) fun key data h => absurd h (hnone key data)
  · by_cases hreplaces : signing.trusted = .ok () ∧ ∃ key data, Replaces call files key data
    · obtain ⟨htrusted, key, data, h⟩ := hreplaces
      have honly : ∀ {P : TrustedAuthenticationKey → List UInt8 → Prop},
          (signing.trusted = .ok () → ∀ key data, Replaces call files key data → P key data) ↔
            P key data := by
        intro P
        constructor
        · exact fun hall => hall htrusted key data h
        · intro hP _ other bytes hother
          cases h.key.symm.trans hother.key
          cases h.bundle.symm.trans hother.bundle
          exact hP
      rw [honly]
      obtain ⟨hstops, hstopsLater, hpasses⟩ :=
        signed_of_replaces (p := p) htrusted h
      by_cases hstop : StopsAtAuthentication call files data
      · obtain ⟨failure, hfailure⟩ := hstops hstop
        rw [LeavesWhole, hfailure]
        constructor
        · intro hwhole
          refine ⟨fun _ => ?_, fun hnot => absurd hstop hnot⟩
          rcases hwhole failure rfl with heq | hnew
          · exact .inl (congrArg ArchiveFiles.archive heq).symm
          · exact .inr ((isSigned_iff h).mp hnew).2
        · intro hsame _ _
          rcases hsame.1 hstop with harchive | hsidecars
          · exact .inl (by rw [← harchive])
          · exact .inr ((isSigned_iff h).mpr ⟨rfl, hsidecars⟩)
      · by_cases hlater : StopsAtSignature call files
        · obtain ⟨failure, hfailure⟩ := hstopsLater hstop hlater
          rw [LeavesWhole, hfailure]
          constructor
          · intro hwhole
            refine ⟨fun hstop' => absurd hstop' hstop, fun _ _ => ?_⟩
            rcases hwhole failure rfl with heq | hnew
            · exact .inl ⟨(congrArg ArchiveFiles.archive heq).symm,
                (congrArg ArchiveFiles.authentication heq).symm⟩
            · exact .inr ((isSigned_iff h).mp hnew).2.2
          · intro hsame _ _
            rcases hsame.2 hstop hlater with ⟨harchive, hauthentication⟩ | hsignature
            · exact .inl (by rw [← harchive, ← hauthentication])
            · exact .inr ((isSigned_iff h).mpr ⟨rfl, rfl, hsignature⟩)
        · rw [LeavesWhole, hpasses hstop hlater]
          exact iff_of_true nofun
            ⟨fun hstop' => absurd hstop' hstop, fun _ hlater' => absurd hlater' hlater⟩
    · have hnone : signing.trusted = .ok () → ∀ key data, ¬Replaces call files key data :=
        fun htrusted key data h => hreplaces ⟨htrusted, key, data, h⟩
      obtain ⟨failure, hfailure⟩ := signed_of_not_replaces (p := p) hnone
      rw [LeavesWhole, hfailure]
      exact iff_of_true (fun _ _ => .inl rfl) fun htrusted key data h =>
        absurd h (hnone htrusted key data)

abbrev sampleArchivePlatform : ArchivePlatform :=
  ⟨referenceTrustPlatform [], utcIsoDatetimes⟩

def sampleInstant : UtcDatetime := ⟨2026, 7, 10, 0, 0, 0, 0, by decide⟩

def sampleKey : TrustedAuthenticationKey :=
  ⟨⟨"key-1", by decide⟩, List.replicate 32 7, .active, sampleInstant, none⟩

def sampleExport : ArchiveExport := ⟨"report.zip", [sampleKey], sampleInstant, .ok [80, 75], none⟩

def noFiles : ArchiveFiles := ⟨.absent, .absent, .absent, false⟩

/-- The archive is put in place, and then its name is refused. -/
theorem archive_without_authentication :
    ¬∀ (call : ArchiveExport) (files : ArchiveFiles),
      LeavesWhole files (IsAuthenticated sampleArchivePlatform call)
        (exportAuthenticatedReportArchive sampleArchivePlatform call files) := by
  intro h
  have hreplaces : Replaces sampleExport noFiles sampleKey [80, 75] :=
    ⟨rfl, by decide +kernel, rfl, nofun⟩
  have hstops : StopsAtAuthentication sampleExport noFiles [80, 75] :=
    .inr (.inr (.inl (by decide +kernel)))
  obtain ⟨failure, hfailure⟩ :=
    (authenticated_of_replaces (p := sampleArchivePlatform) hreplaces).1 hstops
  have hwhole := h sampleExport noFiles
  rw [LeavesWhole, hfailure] at hwhole
  rcases hwhole failure rfl with heq | hnew
  · cases congrArg ArchiveFiles.archive heq
  · cases ((isAuthenticated_iff hreplaces).mp hnew).2

end ReportArchive

end AgenticLab
