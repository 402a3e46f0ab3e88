import AgenticLab.Model.CheckpointExport
import AgenticLab.Verification.StateFile

/-! # What an export of a checkpoint leaves when operations fail -/

namespace AgenticLab.TransparencyCheckpointExport

open ExportState

@[simp] theorem withTemporary_nodes (state : ExportState) (index : ℕ)
    (content : Option (List UInt8)) : (state.withTemporary index content).nodes = state.nodes := rfl

@[simp] theorem withTemporary_tempPaths (state : ExportState) (index : ℕ)
    (content : Option (List UInt8)) :
    (state.withTemporary index content).tempPaths = state.tempPaths := rfl

@[simp] theorem withTemporary_temporaries (state : ExportState) (index other : ℕ)
    (content : Option (List UInt8)) : (state.withTemporary index content).temporaries other =
      if other = index then content else state.temporaries other :=
  Function.update_apply ..

@[simp] theorem withTempPath_nodes (state : ExportState) (index : ℕ) (path : TargetPath) :
    (state.withTempPath index path).nodes = state.nodes := rfl

@[simp] theorem withTempPath_temporaries (state : ExportState) (index : ℕ) (path : TargetPath) :
    (state.withTempPath index path).temporaries = state.temporaries := rfl

@[simp] theorem withTempPath_tempPaths (state : ExportState) (index : ℕ) (path : TargetPath) :
    (state.withTempPath index path).tempPaths = state.tempPaths ++ [(index, path)] := rfl

variable {content : List UInt8}

theorem replace_nodes {state : ExportState} {index : ℕ} {path : TargetPath}
    (h : state.temporaries index = some content) :
    (state.replace index path).nodes = Function.update state.nodes path (.regular content) := by
  rw [replace, h]

@[simp] theorem replace_temporaries (state : ExportState) (index other : ℕ) (path : TargetPath) :
    (state.replace index path).temporaries other =
      if other = index then none else state.temporaries other := by
  rw [replace]
  cases htemporary : state.temporaries index with
  | none =>
    split_ifs with hindex
    · rw [hindex, htemporary]
    · rfl
  | some content => exact withTemporary_temporaries state index other none

@[simp] theorem replace_tempPaths (state : ExportState) (index : ℕ) (path : TargetPath) :
    (state.replace index path).tempPaths = state.tempPaths := by
  rw [replace]
  cases state.temporaries index <;> rfl

variable {fails : Failing} {index : ℕ} {path : TargetPath} {text : List Char} {s : ExportState}

theorem run_attempt_bind {α : Type} (operation : FileOperation) (f : Unit → ExportProgram α)
    (s : ExportState) : (attempt fails operation >>= f) s =
      if fails operation = true then (.error osFailure, s) else f () s := by
  by_cases h : fails operation = true
  · rw [attempt, if_pos h, if_pos h, Stateful.run_bind_of_error (Stateful.run_raise osFailure s)]
  · rw [attempt, if_neg h, if_neg h]
    rfl

structure Starts (fails : Failing) (index : ℕ) (node : FileNode) : Prop where
  inspect : fails (.file index .inspect) = false
  target : node.isSymlinkOrDir = false
  mkdir : fails (.file index .mkdir) = false
  createTemporary : fails (.file index .createTemporary) = false

structure Writes (fails : Failing) (index : ℕ) : Prop where
  write : fails (.file index .write) = false
  flush : fails (.file index .flush) = false
  fsync : fails (.file index .fsync) = false
  chmod : fails (.file index .chmod) = false
  close : fails (.file index .close) = false

theorem run_attempt_bind_of_ok {α : Type} {operation : FileOperation} {f : Unit → ExportProgram α}
    (h : fails operation = false) : (attempt fails operation >>= f) s = f () s := by
  rw [run_attempt_bind, if_neg (by rw [h]; decide)]

theorem prepareFile_of_not_starts (text : List Char) (h : ¬ Starts fails index (s.nodes path)) :
    ∃ e, prepareFile fails index path text s = (.error e, s) := by
  rw [prepareFile, run_attempt_bind]
  split_ifs with hinspect
  · exact ⟨_, rfl⟩
  rw [Stateful.run_get_bind, run_raiseIf_bind]
  split_ifs with htarget
  · exact ⟨_, rfl⟩
  rw [run_attempt_bind]
  split_ifs with hmkdir
  · exact ⟨_, rfl⟩
  rw [run_attempt_bind]
  split_ifs with hcreate
  · exact ⟨_, rfl⟩
  · simp only [Bool.not_eq_true] at hinspect htarget hmkdir hcreate
    exact absurd ⟨hinspect, htarget, hmkdir, hcreate⟩ h

/-- What is left of `prepareFile` once the temporary file is there. -/
def writeFile (fails : Failing) (index : ℕ) (path : TargetPath) (text : List Char) :
    ExportProgram Unit := do
  attempt fails (.file index .write)
  Stateful.modify (·.withTemporary index (some (fileContent text)))
  attempt fails (.file index .flush)
  attempt fails (.file index .fsync)
  attempt fails (.file index .chmod)
  attempt fails (.file index .close)
  Stateful.modify (·.withTempPath index path)

theorem prepareFile_of_starts (h : Starts fails index (s.nodes path)) :
    prepareFile fails index path text s =
      writeFile fails index path text (s.withTemporary index (some [])) := by
  have hpasses : ¬ (s.nodes path).isSymlinkOrDir = true := by rw [h.target]; decide
  rw [prepareFile, run_attempt_bind_of_ok h.inspect, Stateful.run_get_bind, run_raiseIf_bind,
    if_neg hpasses, run_attempt_bind_of_ok h.mkdir, run_attempt_bind_of_ok h.createTemporary,
    Stateful.run_modify_bind]
  rfl

theorem writeFile_of_not_writes (h : ¬ Writes fails index) :
    ∃ e left, writeFile fails index path text (s.withTemporary index (some content)) =
      (.error e, s.withTemporary index (some left)) := by
  rw [writeFile, run_attempt_bind]
  split_ifs with hwrite
  · exact ⟨_, _, rfl⟩
  have htwice : (s.withTemporary index (some content)).withTemporary index
      (some (fileContent text)) = s.withTemporary index (some (fileContent text)) := by
    simp [withTemporary]
  rw [Stateful.run_modify_bind, htwice, run_attempt_bind]
  split_ifs with hflush
  · exact ⟨_, _, rfl⟩
  rw [run_attempt_bind]
  split_ifs with hfsync
  · exact ⟨_, _, rfl⟩
  rw [run_attempt_bind]
  split_ifs with hchmod
  · exact ⟨_, _, rfl⟩
  rw [run_attempt_bind]
  split_ifs with hclose
  · exact ⟨_, _, rfl⟩
  · simp only [Bool.not_eq_true] at hwrite hflush hfsync hchmod hclose
    exact absurd ⟨hwrite, hflush, hfsync, hchmod, hclose⟩ h

theorem writeFile_of_writes (h : Writes fails index) :
    writeFile fails index path text (s.withTemporary index (some content)) =
      (.ok (), (s.withTemporary index (some (fileContent text))).withTempPath index path) := by
  rw [writeFile, run_attempt_bind_of_ok h.write, Stateful.run_modify_bind,
    run_attempt_bind_of_ok h.flush, run_attempt_bind_of_ok h.fsync,
    run_attempt_bind_of_ok h.chmod, run_attempt_bind_of_ok h.close, Stateful.run_modify]
  simp [withTemporary]

theorem prepareFile_of_not_writes (text : List Char)
    (hstarts : Starts fails index (s.nodes path)) (h : ¬ Writes fails index) :
    ∃ e left, prepareFile fails index path text s =
      (.error e, s.withTemporary index (some left)) := by
  rw [prepareFile_of_starts hstarts]
  exact writeFile_of_not_writes h

theorem prepareFile_of_writes (text : List Char) (hstarts : Starts fails index (s.nodes path))
    (h : Writes fails index) : prepareFile fails index path text s =
      (.ok (), (s.withTemporary index (some (fileContent text))).withTempPath index path) := by
  rw [prepareFile_of_starts hstarts]
  exact writeFile_of_writes h

/-! ## The loop behind `finally` -/

/-- The loop behind `finally` removes the temporary file of a target like this. -/
structure Removable (fails : Failing) (index : ℕ) (node : FileNode) : Prop where
  target : node = .absent
  temporaryExists : fails (.file index .temporaryExists) = false
  targetExists : fails (.file index .targetExists) = false
  unlink : fails (.file index .unlink) = false

theorem isPresent_eq_false_iff (node : FileNode) : node.isPresent = false ↔ node = .absent := by
  cases node <;> simp [FileNode.isPresent]

theorem cleanupFile_of_removable (h : Removable fails index (s.nodes path)) :
    cleanupFile fails index path s = (.ok (), s.withTemporary index none) := by
  have habsent := (isPresent_eq_false_iff _).mpr h.target
  rw [cleanupFile, run_attempt_bind_of_ok h.temporaryExists, Stateful.run_get_bind]
  by_cases hnone : s.temporaries index = none
  · have hsame : Function.update s.temporaries index none = s.temporaries :=
      Function.update_eq_self_iff.mpr hnone.symm
    rw [if_pos hnone, Stateful.run_pure, withTemporary, hsame]
  · rw [if_neg hnone, run_attempt_bind_of_ok h.targetExists, habsent, h.unlink]
    rfl

theorem cleanupFile_cases (fails : Failing) (index : ℕ) (path : TargetPath) (s : ExportState) :
    (cleanupFile fails index path s).2 = s ∨
      Removable fails index (s.nodes path) ∧
        cleanupFile fails index path s = (.ok (), s.withTemporary index none) := by
  by_cases h : Removable fails index (s.nodes path)
  · exact .inr ⟨h, cleanupFile_of_removable h⟩
  left
  rw [cleanupFile, run_attempt_bind]
  split_ifs with hexists
  · rfl
  rw [Stateful.run_get_bind]
  by_cases hnone : s.temporaries index = none
  · rw [if_pos hnone, Stateful.run_pure]
  rw [if_neg hnone, run_attempt_bind]
  by_cases htarget : fails (.file index .targetExists) = true
  · rw [if_pos htarget]
  rw [if_neg htarget]
  split_ifs with hkeeps
  · rfl
  · simp only [Bool.or_eq_true, not_or, Bool.not_eq_true] at hexists htarget hkeeps
    exact absurd ⟨(isPresent_eq_false_iff _).mp hkeeps.1, hexists, htarget, hkeeps.2⟩ h

theorem cleanupFiles_cons (tempPaths : List (ℕ × TargetPath)) :
    (cleanupFiles fails ((index, path) :: tempPaths) s).2 = (cleanupFile fails index path s).2 ∨
      (cleanupFiles fails ((index, path) :: tempPaths) s).2 =
        (cleanupFiles fails tempPaths (cleanupFile fails index path s).2).2 := by
  rw [cleanupFiles]
  rcases hround : cleanupFile fails index path s with ⟨result, t⟩
  cases result with
  | ok _ =>
    right
    rw [Stateful.run_bind_of_ok hround]
  | error e =>
    left
    rw [Stateful.run_bind_of_error hround]

theorem cleanupFiles_nodes (tempPaths : List (ℕ × TargetPath)) (s : ExportState) :
    (cleanupFiles fails tempPaths s).2.nodes = s.nodes := by
  induction tempPaths generalizing s with
  | nil => rfl
  | cons tempPath tempPaths ih =>
    have hround : (cleanupFile fails tempPath.1 tempPath.2 s).2.nodes = s.nodes := by
      rcases cleanupFile_cases fails tempPath.1 tempPath.2 s with hsame | ⟨-, hrun⟩
      · rw [hsame]
      · rw [hrun, withTemporary_nodes]
    rcases cleanupFiles_cons (s := s) tempPaths with hstops | hgoes
    · rw [hstops, hround]
    · rw [hgoes, ih, hround]

theorem cleanupFiles_temporaries (fails : Failing) (tempPaths : List (ℕ × TargetPath))
    (s : ExportState) (index : ℕ) :
    (cleanupFiles fails tempPaths s).2.temporaries index = s.temporaries index ∨
      (cleanupFiles fails tempPaths s).2.temporaries index = none ∧
        ∃ path, (index, path) ∈ tempPaths ∧ Removable fails index (s.nodes path) := by
  induction tempPaths generalizing s with
  | nil => exact .inl rfl
  | cons tempPath tempPaths ih =>
    obtain ⟨first, path⟩ := tempPath
    have hround := cleanupFile_cases fails first path s
    rcases cleanupFiles_cons (s := s) tempPaths with hstops | hgoes
    · rw [hstops]
      rcases hround with hsame | ⟨hremovable, hrun⟩
      · exact .inl (by rw [hsame])
      · rw [hrun, withTemporary_temporaries]
        split_ifs with hindex
        · subst hindex
          exact .inr ⟨rfl, path, List.mem_cons_self, hremovable⟩
        · exact .inl rfl
    · rw [hgoes]
      rcases hround with hsame | ⟨hremovable, hrun⟩
      · rw [hsame]
        rcases ih s with hkept | ⟨hnone, target, hmem, htarget⟩
        · exact .inl hkept
        · exact .inr ⟨hnone, target, List.mem_cons_of_mem _ hmem, htarget⟩
      · rw [hrun]
        rcases ih (s.withTemporary first none) with hkept | ⟨hnone, target, hmem, htarget⟩
        · rw [hkept, withTemporary_temporaries]
          split_ifs with hindex
          · subst hindex
            exact .inr ⟨rfl, path, List.mem_cons_self, hremovable⟩
          · exact .inl rfl
        · exact .inr ⟨hnone, target, List.mem_cons_of_mem _ hmem, htarget⟩

variable {tempPaths : List (ℕ × TargetPath)}

theorem removable_of_removed (hthere : s.temporaries index = some content)
    (hremoved : (cleanupFiles fails tempPaths s).2.temporaries index = none) :
    ∃ path, (index, path) ∈ tempPaths ∧ Removable fails index (s.nodes path) := by
  rcases cleanupFiles_temporaries fails tempPaths s index with hkept | ⟨-, htarget⟩
  · rw [hremoved, hthere] at hkept
    exact absurd hkept (by simp)
  · exact htarget

theorem cleanupFiles_eq_none (h : s.temporaries index = none) :
    (cleanupFiles fails tempPaths s).2.temporaries index = none := by
  rcases cleanupFiles_temporaries fails tempPaths s index with hkept | ⟨hnone, -⟩
  · rw [hkept, h]
  · exact hnone

theorem cleanupFiles_of_removable (h : Removable fails index (s.nodes path)) :
    cleanupFiles fails ((index, path) :: tempPaths) s =
      cleanupFiles fails tempPaths (s.withTemporary index none) := by
  rw [cleanupFiles, Stateful.run_bind_of_ok (cleanupFile_of_removable h)]

theorem cleanupFiles_of_none (hexists : fails (.file index .temporaryExists) = false)
    (hnone : s.temporaries index = none) :
    cleanupFiles fails ((index, path) :: tempPaths) s = cleanupFiles fails tempPaths s := by
  have hround : cleanupFile fails index path s = (.ok (), s) := by
    rw [cleanupFile, run_attempt_bind_of_ok hexists, Stateful.run_get_bind, if_pos hnone,
      Stateful.run_pure]
  rw [cleanupFiles, Stateful.run_bind_of_ok hround]

theorem cleanupFiles_of_raise (h : fails (.file index .temporaryExists) = true) :
    (cleanupFiles fails ((index, path) :: tempPaths) s).2 = s := by
  have hround : cleanupFile fails index path s = (.error osFailure, s) := by
    rw [cleanupFile, run_attempt_bind, if_pos h]
  rw [cleanupFiles, Stateful.run_bind_of_error hround]

theorem syncDirectory_snd (files : List (TargetPath × List Char)) (s : ExportState) :
    (syncDirectory fails files s).2 = s := by
  rw [syncDirectory]
  split_ifs
  · rfl
  · rw [run_attempt_bind]
    split_ifs
    · rfl
    · rw [attempt]
      split_ifs <;> rfl

variable {files : List (TargetPath × List Char)} {t : ExportState}

theorem prepareFiles_of_error {first : ℕ} {e : Raised} (files : List (TargetPath × List Char))
    (h : prepareFile fails first path text s = (.error e, t)) :
    prepareFiles fails first ((path, text) :: files) s = (.error e, t) := by
  rw [prepareFiles, Stateful.run_bind_of_error h]

theorem prepareFiles_of_ok {first : ℕ} (files : List (TargetPath × List Char))
    (h : prepareFile fails first path text s = (.ok (), t)) :
    prepareFiles fails first ((path, text) :: files) s =
      prepareFiles fails (first + 1) files t := by
  rw [prepareFiles, Stateful.run_bind_of_ok h]

theorem replaceFiles_of_fails (h : fails (.file index .replace) = true) :
    (replaceFiles fails ((index, path) :: tempPaths) s).2 = s := by
  rw [replaceFiles, run_attempt_bind, if_pos h]

theorem replaceFiles_of_ok (h : fails (.file index .replace) = false) :
    replaceFiles fails ((index, path) :: tempPaths) s =
      replaceFiles fails tempPaths (s.replace index path) := by
  rw [replaceFiles, run_attempt_bind_of_ok h, Stateful.run_modify_bind]

theorem exportFiles_of_error {e : Raised} (h : prepareFiles fails 0 files s = (.error e, t)) :
    (exportFiles fails files s).2 = t := by
  rw [exportFiles, Stateful.run_bind_of_error h]

theorem exportFiles_of_ok (h : prepareFiles fails 0 files s = (.ok (), t)) :
    (exportFiles fails files s).2 = (replaceFiles fails t.tempPaths t).2 := by
  rw [exportFiles, Stateful.run_bind_of_ok h, Stateful.run_get_bind]
  rcases hreplace : replaceFiles fails t.tempPaths t with ⟨result, u⟩
  cases result with
  | ok _ => rw [Stateful.run_bind_of_ok hreplace, syncDirectory_snd]
  | error e => rw [Stateful.run_bind_of_error hreplace]

theorem atomicExportMany_snd (h : (exportFiles fails files s).2 = t) :
    (atomicExportMany fails files s).2 = (cleanupFiles fails t.tempPaths t).2 := by
  rw [atomicExportMany, Stateful.run_tryFinally_snd, Stateful.run_get_bind,
    Stateful.run_tryCatch_raise_snd, h]

section Pair

variable (fails : Failing) (nodes : TargetPath → FileNode) (path signaturePath : TargetPath)
  (checkpointText signatureText : List Char)

def preparedCheckpoint : ExportState :=
  ((start nodes).withTemporary 0 (some (fileContent checkpointText))).withTempPath 0 path

def preparedPair : ExportState :=
  ((preparedCheckpoint nodes path checkpointText).withTemporary 1
    (some (fileContent signatureText))).withTempPath 1 signaturePath

def replacedCheckpoint : ExportState :=
  (preparedPair nodes path signaturePath checkpointText signatureText).replace 0 path

def replacedPair : ExportState :=
  (replacedCheckpoint nodes path signaturePath checkpointText signatureText).replace 1 signaturePath

def exported : ExportState :=
  (atomicExportMany fails [(path, checkpointText), (signaturePath, signatureText)] (start nodes)).2

end Pair

variable {nodes : TargetPath → FileNode} {signaturePath : TargetPath}
  {checkpointText signatureText : List Char}

theorem preparedPair_temporaries (index : ℕ) :
    (preparedPair nodes path signaturePath checkpointText signatureText).temporaries index =
      if index = 1 then some (fileContent signatureText)
      else if index = 0 then some (fileContent checkpointText) else none := by
  simp [preparedPair, preparedCheckpoint, start]

theorem replacedCheckpoint_nodes :
    (replacedCheckpoint nodes path signaturePath checkpointText signatureText).nodes =
      Function.update nodes path (.regular (fileContent checkpointText)) :=
  replace_nodes (by rw [preparedPair_temporaries]; rfl)

theorem replacedCheckpoint_temporaries (index : ℕ) :
    (replacedCheckpoint nodes path signaturePath checkpointText signatureText).temporaries index =
      if index = 1 then some (fileContent signatureText) else none := by
  rw [replacedCheckpoint, replace_temporaries, preparedPair_temporaries]
  split_ifs <;> simp_all

theorem replacedPair_nodes :
    (replacedPair nodes path signaturePath checkpointText signatureText).nodes =
      Function.update (Function.update nodes path (.regular (fileContent checkpointText)))
        signaturePath (.regular (fileContent signatureText)) := by
  rw [replacedPair, replace_nodes (by rw [replacedCheckpoint_temporaries, if_pos rfl]),
    replacedCheckpoint_nodes]

theorem replacedPair_temporaries (index : ℕ) :
    (replacedPair nodes path signaturePath checkpointText signatureText).temporaries index =
      none := by
  rw [replacedPair, replace_temporaries, replacedCheckpoint_temporaries]
  split_ifs <;> rfl

theorem exported_of_not_starts (h : ¬ Starts fails 0 (nodes path)) :
    exported fails nodes path signaturePath checkpointText signatureText = start nodes := by
  obtain ⟨e, hrun⟩ := prepareFile_of_not_starts (s := start nodes) checkpointText h
  exact atomicExportMany_snd (exportFiles_of_error (prepareFiles_of_error _ hrun))

theorem exported_of_not_writes (signaturePath : TargetPath)
    (checkpointText signatureText : List Char) (hstarts : Starts fails 0 (nodes path))
    (h : ¬ Writes fails 0) :
    ∃ left, exported fails nodes path signaturePath checkpointText signatureText =
      (start nodes).withTemporary 0 (some left) := by
  obtain ⟨e, left, hrun⟩ :=
    prepareFile_of_not_writes (s := start nodes) checkpointText hstarts h
  exact ⟨left, atomicExportMany_snd (exportFiles_of_error (prepareFiles_of_error _ hrun))⟩

theorem prepareFiles_of_writes (hstarts : Starts fails 0 (nodes path)) (hwrites : Writes fails 0) :
    prepareFiles fails 0 ((path, checkpointText) :: files) (start nodes) =
      prepareFiles fails 1 files (preparedCheckpoint nodes path checkpointText) :=
  prepareFiles_of_ok files (prepareFile_of_writes checkpointText hstarts hwrites)

theorem exported_of_signature_not_starts (hstarts : Starts fails 0 (nodes path))
    (hwrites : Writes fails 0) (h : ¬ Starts fails 1 (nodes signaturePath)) :
    exported fails nodes path signaturePath checkpointText signatureText =
      (cleanupFiles fails [(0, path)] (preparedCheckpoint nodes path checkpointText)).2 := by
  obtain ⟨e, hrun⟩ := prepareFile_of_not_starts
    (s := preparedCheckpoint nodes path checkpointText) signatureText h
  have hpair := prepareFiles_of_error [] hrun
  rw [← prepareFiles_of_writes hstarts hwrites] at hpair
  exact atomicExportMany_snd (exportFiles_of_error hpair)

theorem exported_of_signature_not_writes (checkpointText signatureText : List Char)
    (hstarts : Starts fails 0 (nodes path)) (hwrites : Writes fails 0)
    (hsecond : Starts fails 1 (nodes signaturePath)) (h : ¬ Writes fails 1) :
    ∃ left, exported fails nodes path signaturePath checkpointText signatureText =
      (cleanupFiles fails [(0, path)]
        ((preparedCheckpoint nodes path checkpointText).withTemporary 1 (some left))).2 := by
  obtain ⟨e, left, hrun⟩ := prepareFile_of_not_writes
    (s := preparedCheckpoint nodes path checkpointText) signatureText hsecond h
  have hpair := prepareFiles_of_error [] hrun
  rw [← prepareFiles_of_writes hstarts hwrites] at hpair
  exact ⟨left, atomicExportMany_snd (exportFiles_of_error hpair)⟩

/-- Both temporary files are written. -/
structure Prepares (fails : Failing) (checkpointNode signatureNode : FileNode) : Prop where
  checkpointStarts : Starts fails 0 checkpointNode
  checkpointWrites : Writes fails 0
  signatureStarts : Starts fails 1 signatureNode
  signatureWrites : Writes fails 1

theorem exported_of_prepares (h : Prepares fails (nodes path) (nodes signaturePath))
    (hreplace : (replaceFiles fails [(0, path), (1, signaturePath)]
      (preparedPair nodes path signaturePath checkpointText signatureText)).2 = t)
    (hnamed : t.tempPaths = [(0, path), (1, signaturePath)]) :
    exported fails nodes path signaturePath checkpointText signatureText =
      (cleanupFiles fails [(0, path), (1, signaturePath)] t).2 := by
  have hsecond : prepareFile fails 1 signaturePath signatureText
      (preparedCheckpoint nodes path checkpointText) =
        (.ok (), preparedPair nodes path signaturePath checkpointText signatureText) :=
    prepareFile_of_writes signatureText h.signatureStarts h.signatureWrites
  have hpair := prepareFiles_of_ok [] hsecond
  rw [← prepareFiles_of_writes h.checkpointStarts h.checkpointWrites] at hpair
  have hexport := (exportFiles_of_ok hpair).trans hreplace
  rw [← hnamed]
  exact atomicExportMany_snd hexport

/-! ## Both or neither -/

/-- The two files are the new ones, or they are as before, and no temporary file is left. -/
structure Together (nodes : TargetPath → FileNode) (path signaturePath : TargetPath)
    (newCheckpoint newSignature : Except Raised FileNode) (after : ExportState) : Prop where
  targets : (newCheckpoint = .ok (after.nodes path) ∧
      newSignature = .ok (after.nodes signaturePath)) ∨
    (after.nodes path = nodes path ∧ after.nodes signaturePath = nodes signaturePath)
  temporaries : ∀ index, after.temporaries index = none

/-- The failures behind which the two files are together, for what was there before. -/
inductive KeepsTogether (fails : Failing) (checkpointNode signatureNode : FileNode)
    (newCheckpoint : Except Raised FileNode) : Prop where
  | notStarted (h : ¬ Starts fails 0 checkpointNode)
  | removed (hstarts : Starts fails 0 checkpointNode) (hwrites : Writes fails 0)
      (h : ¬ Starts fails 1 signatureNode) (hremovable : Removable fails 0 checkpointNode)
  | notReplaced (hprepares : Prepares fails checkpointNode signatureNode)
      (h : fails (.file 0 .replace) = true) (hcheckpoint : Removable fails 0 checkpointNode)
      (hsignature : Removable fails 1 signatureNode)
  | unchanged (hprepares : Prepares fails checkpointNode signatureNode)
      (hreplaces : fails (.file 0 .replace) = false) (h : fails (.file 1 .replace) = true)
      (hsame : newCheckpoint = .ok checkpointNode)
      (hexists : fails (.file 0 .temporaryExists) = false)
      (hremovable : Removable fails 1 signatureNode)
  | replaced (hprepares : Prepares fails checkpointNode signatureNode)
      (hcheckpoint : fails (.file 0 .replace) = false)
      (hsignature : fails (.file 1 .replace) = false)

theorem exported_of_not_replaced (h : Prepares fails (nodes path) (nodes signaturePath))
    (hfails : fails (.file 0 .replace) = true) :
    exported fails nodes path signaturePath checkpointText signatureText =
      (cleanupFiles fails [(0, path), (1, signaturePath)]
        (preparedPair nodes path signaturePath checkpointText signatureText)).2 :=
  exported_of_prepares h (replaceFiles_of_fails hfails) rfl

theorem exported_of_checkpoint_replaced (h : Prepares fails (nodes path) (nodes signaturePath))
    (hreplaces : fails (.file 0 .replace) = false) (hfails : fails (.file 1 .replace) = true) :
    exported fails nodes path signaturePath checkpointText signatureText =
      (cleanupFiles fails [(0, path), (1, signaturePath)]
        (replacedCheckpoint nodes path signaturePath checkpointText signatureText)).2 := by
  refine exported_of_prepares h ?_ (replace_tempPaths _ _ _)
  rw [replaceFiles_of_ok hreplaces, replaceFiles_of_fails hfails]
  rfl

theorem exported_of_replaced (h : Prepares fails (nodes path) (nodes signaturePath))
    (hcheckpoint : fails (.file 0 .replace) = false)
    (hsignature : fails (.file 1 .replace) = false) :
    exported fails nodes path signaturePath checkpointText signatureText =
      (cleanupFiles fails [(0, path), (1, signaturePath)]
        (replacedPair nodes path signaturePath checkpointText signatureText)).2 := by
  refine exported_of_prepares h ?_ ?_
  · rw [replaceFiles_of_ok hcheckpoint, replaceFiles_of_ok hsignature]
    rfl
  · rw [replacedPair, replace_tempPaths, replacedCheckpoint, replace_tempPaths]
    rfl

theorem together_of_cleanup {newCheckpoint newSignature : Except Raised FileNode}
    (htargets : (newCheckpoint = .ok (t.nodes path) ∧
        newSignature = .ok (t.nodes signaturePath)) ∨
      (t.nodes path = nodes path ∧ t.nodes signaturePath = nodes signaturePath))
    (htemporaries : ∀ index, (cleanupFiles fails tempPaths t).2.temporaries index = none) :
    Together nodes path signaturePath newCheckpoint newSignature
      (cleanupFiles fails tempPaths t).2 where
  targets := by
    rw [cleanupFiles_nodes]
    exact htargets
  temporaries := htemporaries

theorem together_of_keepsTogether (hpaths : path ≠ signaturePath)
    (h : KeepsTogether fails (nodes path) (nodes signaturePath)
      (.ok (.regular (fileContent checkpointText)))) :
    Together nodes path signaturePath (.ok (.regular (fileContent checkpointText)))
      (.ok (.regular (fileContent signatureText)))
      (exported fails nodes path signaturePath checkpointText signatureText) := by
  cases h with
  | notStarted h =>
    rw [exported_of_not_starts h]
    exact ⟨.inr ⟨rfl, rfl⟩, fun _ => rfl⟩
  | removed hstarts hwrites h hremovable =>
    rw [exported_of_signature_not_starts hstarts hwrites h]
    refine together_of_cleanup (.inr ⟨rfl, rfl⟩) fun index => ?_
    rw [cleanupFiles_of_removable hremovable, cleanupFiles, Stateful.run_pure]
    simp [preparedCheckpoint, start]
  | notReplaced hprepares h hcheckpoint hsignature =>
    rw [exported_of_not_replaced hprepares h]
    refine together_of_cleanup (.inr ⟨rfl, rfl⟩) fun index => ?_
    rw [cleanupFiles_of_removable hcheckpoint, cleanupFiles_of_removable hsignature,
      cleanupFiles, Stateful.run_pure]
    simp only [withTemporary_temporaries, preparedPair_temporaries]
    split_ifs <;> rfl
  | unchanged hprepares hreplaces h hsame hexists hremovable =>
    have hsignature : (replacedCheckpoint nodes path signaturePath checkpointText
        signatureText).nodes signaturePath = nodes signaturePath := by
      rw [replacedCheckpoint_nodes, Function.update_of_ne hpaths.symm]
    have hnone : (replacedCheckpoint nodes path signaturePath checkpointText
        signatureText).temporaries 0 = none := by
      rw [replacedCheckpoint_temporaries, if_neg (by decide)]
    rw [exported_of_checkpoint_replaced hprepares hreplaces h]
    refine together_of_cleanup (.inr ⟨?_, hsignature⟩) fun index => ?_
    · rw [replacedCheckpoint_nodes, Function.update_self]
      exact Except.ok.inj hsame
    · rw [← hsignature] at hremovable
      rw [cleanupFiles_of_none hexists hnone, cleanupFiles_of_removable hremovable,
        cleanupFiles, Stateful.run_pure]
      simp only [withTemporary_temporaries, replacedCheckpoint_temporaries]
      split_ifs <;> rfl
  | replaced hprepares hcheckpoint hsignature =>
    rw [exported_of_replaced hprepares hcheckpoint hsignature]
    refine together_of_cleanup (.inl ⟨?_, ?_⟩) fun index =>
      cleanupFiles_eq_none (replacedPair_temporaries index)
    · rw [replacedPair_nodes, Function.update_of_ne hpaths, Function.update_self]
    · rw [replacedPair_nodes, Function.update_self]

/-- Behind a failed second replacement the files are together only if the first one changed
nothing. -/
theorem unchanged_of_together (hpaths : path ≠ signaturePath)
    (hprepares : Prepares fails (nodes path) (nodes signaturePath))
    (hcheckpoint : fails (.file 0 .replace) = false)
    (hsignature : fails (.file 1 .replace) = true)
    (h : Together nodes path signaturePath (.ok (.regular (fileContent checkpointText)))
      (.ok (.regular (fileContent signatureText)))
      (exported fails nodes path signaturePath checkpointText signatureText)) :
    KeepsTogether fails (nodes path) (nodes signaturePath)
      (.ok (.regular (fileContent checkpointText))) := by
  rw [exported_of_checkpoint_replaced hprepares hcheckpoint hsignature] at h
  obtain ⟨htargets, hclean⟩ := h
  rw [cleanupFiles_nodes, replacedCheckpoint_nodes, Function.update_self,
    Function.update_of_ne hpaths.symm] at htargets
  have hthere : (replacedCheckpoint nodes path signaturePath checkpointText
      signatureText).temporaries 1 = some (fileContent signatureText) := by
    rw [replacedCheckpoint_temporaries, if_pos rfl]
  obtain ⟨target, hmem, hremovable⟩ := removable_of_removed hthere (hclean 1)
  obtain rfl : target = signaturePath := by simpa using hmem
  rw [replacedCheckpoint_nodes, Function.update_of_ne hpaths.symm] at hremovable
  refine .unchanged hprepares hcheckpoint hsignature ?_ ?_ hremovable
  · rcases htargets with ⟨-, hnew⟩ | ⟨hsame, -⟩
    · -- a signature that is the new one already keeps its temporary file
      rw [hremovable.target] at hnew
      cases hnew
    · rw [hsame]
  · by_contra hraises
    rw [Bool.not_eq_false] at hraises
    have hleft := hclean 1
    rw [cleanupFiles_of_raise hraises, hthere] at hleft
    cases hleft

/-- Over an earlier pair a failed second replacement leaves the earlier signature beside the new
checkpoint, and the new signature in its temporary file. -/
theorem exported_torn (checkpointText signatureText : List Char) (hpaths : path ≠ signaturePath)
    (hprepares : Prepares fails (nodes path) (nodes signaturePath))
    (hcheckpoint : fails (.file 0 .replace) = false)
    (hsignature : fails (.file 1 .replace) = true) (hearlier : nodes signaturePath ≠ .absent) :
    (exported fails nodes path signaturePath checkpointText signatureText).nodes path =
        .regular (fileContent checkpointText) ∧
      (exported fails nodes path signaturePath checkpointText signatureText).nodes
        signaturePath = nodes signaturePath ∧
      (exported fails nodes path signaturePath checkpointText signatureText).temporaries 1 =
        some (fileContent signatureText) := by
  have hkept : (replacedCheckpoint nodes path signaturePath checkpointText
      signatureText).nodes signaturePath = nodes signaturePath := by
    rw [replacedCheckpoint_nodes, Function.update_of_ne hpaths.symm]
  have hthere : (replacedCheckpoint nodes path signaturePath checkpointText
      signatureText).temporaries 1 = some (fileContent signatureText) := by
    rw [replacedCheckpoint_temporaries, if_pos rfl]
  rw [exported_of_checkpoint_replaced hprepares hcheckpoint hsignature, cleanupFiles_nodes, hkept,
    replacedCheckpoint_nodes, Function.update_self]
  refine ⟨rfl, rfl, ?_⟩
  have hcases := cleanupFiles_temporaries fails [(0, path), (1, signaturePath)]
    (replacedCheckpoint nodes path signaturePath checkpointText signatureText) 1
  rcases hcases with hstays | ⟨-, target, hmem, hremovable⟩
  · rw [hstays, hthere]
  · obtain rfl : target = signaturePath := by simpa using hmem
    exact absurd (hkept.symm.trans hremovable.target) hearlier

theorem keepsTogether_of_together (hpaths : path ≠ signaturePath)
    (h : Together nodes path signaturePath (.ok (.regular (fileContent checkpointText)))
      (.ok (.regular (fileContent signatureText)))
      (exported fails nodes path signaturePath checkpointText signatureText)) :
    KeepsTogether fails (nodes path) (nodes signaturePath)
      (.ok (.regular (fileContent checkpointText))) := by
  have hclean := h.temporaries
  by_cases hstarts : Starts fails 0 (nodes path)
  swap
  · exact .notStarted hstarts
  by_cases hwrites : Writes fails 0
  swap
  · obtain ⟨left, hleft⟩ := exported_of_not_writes signaturePath checkpointText signatureText
      hstarts hwrites
    rw [hleft] at hclean
    exact absurd (hclean 0) (by simp)
  by_cases hsecond : Starts fails 1 (nodes signaturePath)
  swap
  · rw [exported_of_signature_not_starts hstarts hwrites hsecond] at hclean
    have hthere : (preparedCheckpoint nodes path checkpointText).temporaries 0 =
        some (fileContent checkpointText) := by simp [preparedCheckpoint]
    obtain ⟨target, hmem, hremovable⟩ := removable_of_removed hthere (hclean 0)
    obtain rfl : target = path := by simpa using hmem
    exact .removed hstarts hwrites hsecond hremovable
  by_cases hwritten : Writes fails 1
  swap
  · obtain ⟨left, hleft⟩ := exported_of_signature_not_writes checkpointText signatureText
      hstarts hwrites hsecond hwritten
    rw [hleft] at hclean
    have hthere : ((preparedCheckpoint nodes path checkpointText).withTemporary 1
        (some left)).temporaries 1 = some left := by simp
    obtain ⟨target, hmem, -⟩ := removable_of_removed hthere (hclean 1)
    exact absurd hmem (by simp)
  have hprepares : Prepares fails (nodes path) (nodes signaturePath) :=
    ⟨hstarts, hwrites, hsecond, hwritten⟩
  by_cases hcheckpoint : fails (.file 0 .replace) = true
  · rw [exported_of_not_replaced hprepares hcheckpoint] at hclean
    have hthere : (preparedPair nodes path signaturePath checkpointText
        signatureText).temporaries 0 = some (fileContent checkpointText) :=
      preparedPair_temporaries 0
    have hbeside : (preparedPair nodes path signaturePath checkpointText
        signatureText).temporaries 1 = some (fileContent signatureText) :=
      preparedPair_temporaries 1
    obtain ⟨first, hfirst, hremovable⟩ := removable_of_removed hthere (hclean 0)
    obtain ⟨second, hmem, hsignature⟩ := removable_of_removed hbeside (hclean 1)
    obtain rfl : first = path := by simpa using hfirst
    obtain rfl : second = signaturePath := by simpa using hmem
    exact .notReplaced hprepares hcheckpoint hremovable hsignature
  rw [Bool.not_eq_true] at hcheckpoint
  by_cases hsignature : fails (.file 1 .replace) = true
  · exact unchanged_of_together hpaths hprepares hcheckpoint hsignature h
  · rw [Bool.not_eq_true] at hsignature
    exact .replaced hprepares hcheckpoint hsignature

def newFile (members : Fields) : Except Raised FileNode := do
  let text ← jsonDumps Json.indented (.obj members)
  return .regular (fileContent text)

variable {datetimes : DatetimeCodec}

theorem newFile_of_dumps {members : Fields}
    (h : (Json.Value.obj members).intsWithin maxStrDigits = true) :
    newFile members =
      .ok (.regular (fileContent ((Json.Value.obj members).print Json.indented 0))) := by
  rw [newFile, jsonDumps, if_pos h]
  rfl

theorem signatureMembers_intsWithin (signature : TransparencyCheckpointSignaturePayload) :
    (Json.Value.obj (signatureMembers datetimes signature)).intsWithin maxStrDigits = true := by
  simp only [signatureMembers, Json.Value.intsWithin, Json.membersIntsWithin, Bool.and_true]
  decide

theorem signaturePathFor_ne (path : TargetPath) : path ≠ checkpointSignaturePathFor path := by
  intro hsame
  have hname : path.name.length = (path.name ++ ".sig").length :=
    congrArg (fun target => target.name.length) hsame
  rw [String.length_append] at hname
  have hsuffix : ".sig".length = 4 := rfl
  omega

/-- The pair is together exactly where the checkpoint has no text, or behind the failures of
`KeepsTogether`. -/
theorem exportCheckpointPair_together_iff (datetimes : DatetimeCodec) (fails : Failing)
    (nodes : TargetPath → FileNode) (checkpointPath : TargetPath)
    (checkpoint : TransparencyCheckpointPayload)
    (signature : TransparencyCheckpointSignaturePayload) :
    Together nodes checkpointPath (checkpointSignaturePathFor checkpointPath)
        (newFile (checkpointMembers datetimes checkpoint))
        (newFile (signatureMembers datetimes signature))
        (exportCheckpointPair datetimes fails checkpointPath checkpoint signature (start nodes)).2 ↔
      ((Json.Value.obj (checkpointMembers datetimes checkpoint)).intsWithin maxStrDigits = true →
        KeepsTogether fails (nodes checkpointPath)
          (nodes (checkpointSignaturePathFor checkpointPath))
          (newFile (checkpointMembers datetimes checkpoint))) := by
  have hpaths := signaturePathFor_ne checkpointPath
  have hsignature : jsonDumps Json.indented (.obj (signatureMembers datetimes signature)) = _ :=
    if_pos (signatureMembers_intsWithin signature)
  by_cases hdumps : (Json.Value.obj (checkpointMembers datetimes checkpoint)).intsWithin
      maxStrDigits = true
  · have hcheckpoint : jsonDumps Json.indented (.obj (checkpointMembers datetimes checkpoint)) =
        _ := if_pos hdumps
    rw [exportCheckpointPair, Stateful.run_lift_bind_of_ok hcheckpoint,
      Stateful.run_lift_bind_of_ok hsignature, newFile_of_dumps hdumps,
      newFile_of_dumps (signatureMembers_intsWithin signature)]
    exact ⟨fun h _ => keepsTogether_of_together hpaths h,
      fun h => together_of_keepsTogether hpaths (h hdumps)⟩
  · have hraises : jsonDumps Json.indented (.obj (checkpointMembers datetimes checkpoint)) = _ :=
      if_neg hdumps
    rw [exportCheckpointPair, Stateful.run_lift_bind_of_error hraises]
    exact ⟨fun _ h => absurd h hdumps, fun _ => ⟨.inr ⟨rfl, rfl⟩, fun _ => rfl⟩⟩

def sampleCheckpoint : TransparencyCheckpointPayload where
  logId := ⟨"log", log_length⟩
  treeSize := ⟨1, Nat.one_pos⟩
  rootHash := ⟨"0123456789abcdef0123456789abcdef0123456789abcdef0123456789abcdef", isValid_ascending⟩
  firstSequence := ⟨1, Nat.one_pos⟩
  lastSequence := ⟨1, Nat.one_pos⟩
  lastEntryHash :=
    ⟨"0123456789abcdef0123456789abcdef0123456789abcdef0123456789abcdef", isValid_ascending⟩
  issuedAt := ⟨2026, 7, 1, 0, 0, 0, 0, isCalendarTime_from⟩
  logSigningKeyId := ⟨"log-key", logKey_length⟩
  firstSequence_eq := rfl
  lastSequence_eq := rfl

def sampleCheckpointSignature : TransparencyCheckpointSignaturePayload where
  logId := sampleCheckpoint.logId
  logSigningKeyId := sampleCheckpoint.logSigningKeyId
  checkpointSha256 :=
    ⟨"fedcba9876543210fedcba9876543210fedcba9876543210fedcba9876543210", isValid_descending⟩
  signatureB64 :=
    ⟨"AAAAAAAAAAAAAAAAAAAAAAAAAAAAAAAAAAAAAAAAAAAAAAAAAAAAAAAAAAAAAAAAAAAAAAAAAAAAAAAAAAAAAA==",
      by decide⟩
  signedAt := sampleCheckpoint.issuedAt

def samplePath : TargetPath := ⟨"checkpoints", "checkpoint.json", by decide⟩

def earlierPair (path : TargetPath) : FileNode :=
  .regular (TextFile.encode (if path = samplePath then ['{', '}', '\n'] else ['[', ']', '\n']))

/-- Only `os.replace` of the signature fails. -/
def signatureStays : Failing := fun operation => operation = .file 1 .replace

theorem sampleCheckpoint_dumps :
    (Json.Value.obj (checkpointMembers utcDatetimes sampleCheckpoint)).intsWithin maxStrDigits =
      true := by
  simp only [checkpointMembers, Json.Value.intsWithin, Json.membersIntsWithin, Bool.and_true]
  decide

/-- The new checkpoint stands beside the earlier signature. -/
theorem exportCheckpointPair_tears :
    ¬ Together earlierPair samplePath (checkpointSignaturePathFor samplePath)
        (newFile (checkpointMembers utcDatetimes sampleCheckpoint))
        (newFile (signatureMembers utcDatetimes sampleCheckpointSignature))
        (exportCheckpointPair utcDatetimes signatureStays samplePath sampleCheckpoint
          sampleCheckpointSignature (start earlierPair)).2 ∧
      newFile (checkpointMembers utcDatetimes sampleCheckpoint) =
        .ok ((exportCheckpointPair utcDatetimes signatureStays samplePath sampleCheckpoint
          sampleCheckpointSignature (start earlierPair)).2.nodes samplePath) ∧
      (exportCheckpointPair utcDatetimes signatureStays samplePath sampleCheckpoint
        sampleCheckpointSignature (start earlierPair)).2.nodes
          (checkpointSignaturePathFor samplePath) =
        earlierPair (checkpointSignaturePathFor samplePath) := by
  have hcheckpoint : jsonDumps Json.indented
      (.obj (checkpointMembers utcDatetimes sampleCheckpoint)) = _ :=
    if_pos sampleCheckpoint_dumps
  have hsignature : jsonDumps Json.indented
      (.obj (signatureMembers utcDatetimes sampleCheckpointSignature)) = _ :=
    if_pos (signatureMembers_intsWithin sampleCheckpointSignature)
  have hprepares : Prepares signatureStays (earlierPair samplePath)
      (earlierPair (checkpointSignaturePathFor samplePath)) :=
    ⟨⟨rfl, rfl, rfl, rfl⟩, ⟨rfl, rfl, rfl, rfl, rfl⟩, ⟨rfl, rfl, rfl, rfl⟩,
      ⟨rfl, rfl, rfl, rfl, rfl⟩⟩
  rw [exportCheckpointPair, Stateful.run_lift_bind_of_ok hcheckpoint,
    Stateful.run_lift_bind_of_ok hsignature, newFile_of_dumps sampleCheckpoint_dumps]
  obtain ⟨hnew, hearlier, hleft⟩ := exported_torn
    ((Json.Value.obj (checkpointMembers utcDatetimes sampleCheckpoint)).print Json.indented 0)
    ((Json.Value.obj (signatureMembers utcDatetimes sampleCheckpointSignature)).print
      Json.indented 0) (signaturePathFor_ne samplePath) hprepares rfl rfl
    (FileNode.noConfusion : earlierPair (checkpointSignaturePathFor samplePath) ≠ .absent)
  refine ⟨fun h => ?_, congrArg Except.ok hnew.symm, hearlier⟩
  have hnone := h.temporaries 1
  rw [exported] at hleft
  rw [hleft] at hnone
  cases hnone

end AgenticLab.TransparencyCheckpointExport
