import AgenticLab.Model.Tracing.AgentTraceArchive
import AgenticLab.Verification.Tracing.TraceBuilders
import Mathlib.Data.List.DropRight

/-! # Files of archived traces -/

namespace AgenticLab

namespace AgentTraceFileWriter

/-! ## File names -/

variable {characters : List Char} {character : Char}

theorem isNameChar_of_mem_collapse {replaced : Bool}
    (h : character ∈ collapse replaced characters) : isNameChar character = true := by
  induction characters generalizing replaced with
  | nil => cases h
  | cons first rest ih =>
    rw [collapse] at h
    split at h
    next hfirst =>
      rcases List.mem_cons.mp h with rfl | h
      · exact hfirst
      · exact ih h
    next =>
      split at h
      next => exact ih h
      next =>
        rcases List.mem_cons.mp h with rfl | h
        · decide
        · exact ih h

theorem trim_begins (characters : List Char) :
    trim characters <+: characters.dropWhile isSeparator :=
  List.rdropWhile_prefix isSeparator _

theorem mem_of_mem_trim (h : character ∈ trim characters) : character ∈ characters :=
  (List.dropWhile_sublist isSeparator).subset ((trim_begins characters).subset h)

theorem trim_head {characters rest : List Char} {first : Char}
    (h : trim characters = first :: rest) : isSeparator first = false := by
  obtain ⟨ending, heq⟩ := trim_begins characters
  rw [h, List.cons_append] at heq
  have hhead := List.head?_dropWhile_not isSeparator characters
  rw [← heq] at hhead
  simpa using hhead

theorem isAlphanum_of_isNameChar (h : isNameChar character = true)
    (hnot : isSeparator character = false) : character.isAlphanum = true := by
  simp only [isNameChar, isSeparator, Bool.or_eq_true, Bool.or_eq_false_iff] at h hnot
  rcases h with ((h | h) | h) | h
  · exact h
  · exact absurd h (by simp [hnot.1.1])
  · exact absurd h (by simp [hnot.1.2])
  · exact absurd h (by simp [hnot.2])

variable {fileName : String}

theorem isSafeFileName_iff : isSafeFileName fileName = true ↔
    ∃ first rest, fileName.toList = first :: rest ∧ first.isAlphanum = true ∧
      ∀ character ∈ rest, isNameChar character = true := by
  rw [isSafeFileName]
  cases fileName.toList with
  | nil => simp
  | cons first rest => simp

theorem stem_safe {traceId : String} (h : stem traceId ≠ "") :
    isSafeFileName (stem traceId) = true := by
  have hlist : (stem traceId).toList = trim (collapse false (strip traceId).toList) := by
    rw [stem, String.toList_ofList]
  cases htrim : trim (collapse false (strip traceId).toList) with
  | nil => exact absurd (by rw [stem, htrim]) h
  | cons first rest =>
    have hchars : ∀ character ∈ first :: rest, isNameChar character = true := by
      intro character hcharacter
      rw [← htrim] at hcharacter
      exact isNameChar_of_mem_collapse (mem_of_mem_trim hcharacter)
    obtain ⟨hfirst, hrest⟩ := List.forall_mem_cons.mp hchars
    exact isSafeFileName_iff.mpr ⟨first, rest, hlist.trans htrim,
      isAlphanum_of_isNameChar hfirst (trim_head htrim), hrest⟩

theorem isSafeFileName_append {name ending : String} (h : isSafeFileName name = true)
    (hending : ∀ character ∈ ending.toList, isNameChar character = true) :
    isSafeFileName (name ++ ending) = true := by
  obtain ⟨first, rest, heq, hfirst, hrest⟩ := isSafeFileName_iff.mp h
  refine isSafeFileName_iff.mpr ⟨first, rest ++ ending.toList, ?_, hfirst, ?_⟩
  · rw [String.toList_append, heq, List.cons_append]
  · exact List.forall_mem_append.mpr ⟨hrest, hending⟩

theorem pathParts_of_safe (h : isSafeFileName fileName = true) :
    pathParts fileName = [fileName] := by
  obtain ⟨first, rest, heq, hfirst, hrest⟩ := isSafeFileName_iff.mp h
  have hsingle : fileName.toList.splitOn '/' = [fileName.toList] := by
    refine List.splitOnP_eq_singleton fun character hcharacter => ?_
    rw [beq_eq_false_iff_ne]
    rintro rfl
    rw [heq] at hcharacter
    rcases List.mem_cons.mp hcharacter with rfl | hmem
    · exact absurd hfirst (by decide)
    · exact absurd (hrest _ hmem) (by decide)
  have hdot : fileName.toList ≠ ['.'] := by
    rw [heq]
    intro hlist
    rw [(List.cons.inj hlist).1] at hfirst
    exact absurd hfirst (by decide)
  have hnil : fileName.toList ≠ [] := by simp [heq]
  rw [pathParts, hsingle, List.filter_singleton]
  simp [hdot, hnil]

theorem safeTarget_of_safe (outputDirectory : List String) (h : isSafeFileName fileName = true) :
    safeTarget outputDirectory fileName = .ok (outputDirectory ++ [fileName]) := by
  have hparts := pathParts_of_safe h
  obtain ⟨first, rest, heq, hfirst, _⟩ := isSafeFileName_iff.mp h
  have hne : ∀ other : String, other.toList.any (·.isAlphanum) = false → fileName ≠ other := by
    rintro other hother rfl
    rw [List.any_eq_false] at hother
    exact hother first (by simp [heq]) hfirst
  have hdots : fileName ≠ ".." := hne ".." (by decide +kernel)
  have hresolve : resolvePath outputDirectory fileName = outputDirectory ++ [fileName] := by
    simp [resolvePath, hparts, hdots]
  have hname : pathName fileName = fileName := by simp [pathName, hparts]
  rw [safeTarget, validateFileName, hresolve, hname, h]
  simp [raiseIf, hdots, hne "." (by decide +kernel), hne "" (by decide +kernel)]

end AgentTraceFileWriter

open AgentTraceFileWriter

def AgentTraceExportResult.defaultName (exported : AgentTraceExportResult) : String :=
  stem exported.traceId ++ exported.format.fileExtension

theorem fileExtension_chars (format : AgentTraceExportFormat) :
    ∀ character ∈ format.fileExtension.toList, isNameChar character = true := by
  rw [← List.all_eq_true]
  cases format <;> decide +kernel

theorem append_fileExtension_inj {name name' : String} {format format' : AgentTraceExportFormat} :
    name ++ format.fileExtension = name' ++ format'.fileExtension ↔
      name = name' ∧ format = format' := by
  constructor
  · intro h
    have hlists := congrArg String.toList h
    rw [String.toList_append, String.toList_append] at hlists
    have hlast := congrArg List.getLast? hlists
    have hsame : format = format' := by
      cases format <;> cases format' <;>
        simp [AgentTraceExportFormat.fileExtension] at hlast <;> rfl
    refine ⟨String.toList_inj.mp ?_, hsame⟩
    rw [hsame] at hlists
    exact List.append_cancel_right hlists
  · rintro ⟨rfl, rfl⟩
    rfl

namespace AgentTraceArchive

variable {archive : AgentTraceArchive} {world next : ArchiveWorld}

variable (archive) in
def path (exported : AgentTraceExportResult) : List String :=
  archive.outputDirectory ++ [exported.defaultName]

theorem path_inj {exported exported' : AgentTraceExportResult} :
    archive.path exported = archive.path exported' ↔
      stem exported.traceId = stem exported'.traceId ∧ exported.format = exported'.format := by
  rw [path, path, List.append_cancel_left_eq, List.singleton_inj,
    AgentTraceExportResult.defaultName, AgentTraceExportResult.defaultName,
    append_fileExtension_inj]

structure Named (exported : AgentTraceExportResult) : Prop where
  stem_ne : stem exported.traceId ≠ ""
  extension : exported.fileExtension = exported.format.fileExtension

variable {exported : AgentTraceExportResult}

theorem Named.resolve (h : Named exported) :
    resolveFileName exported none = .ok exported.defaultName := by
  rw [resolveFileName, sanitizeTraceId, raiseIf, if_neg h.stem_ne, h.extension]
  rfl

theorem Named.safe (h : Named exported) : isSafeFileName exported.defaultName = true :=
  isSafeFileName_append (stem_safe h.stem_ne) (fileExtension_chars exported.format)

theorem exportTrace_spec {events : List AgentTraceEvent} {traceId : String}
    {format : AgentTraceExportFormat}
    (h : archive.exportTrace events traceId format = .ok exported) :
    exported.format = format ∧ exported.fileExtension = format.fileExtension := by
  rw [exportTrace, bind_eq_ok] at h
  obtain ⟨timeline, _, h⟩ := h
  obtain ⟨summary, _, h⟩ := bind_eq_ok.mp h
  rw [AgentTraceExporter.export, raiseIf_bind_eq_ok] at h
  obtain ⟨_, _, h⟩ := bind_eq_ok.mp h.2
  rw [raiseIf_bind_eq_ok, Except.ok.injEq] at h
  rw [← h.2]
  exact ⟨rfl, rfl⟩

theorem write_spec {result : AgentTraceFileWriteResult}
    {files files' : TraceFiles} (hextension : exported.fileExtension = exported.format.fileExtension)
    (h : write archive.outputDirectory exported archive.request files = .ok (result, files')) :
    Named exported ∧
      files' = Function.update files (archive.path exported) (some exported.content.toUTF8) := by
  rw [write, bind_eq_ok] at h
  obtain ⟨fileName, hname, h⟩ := h
  have hstem : stem exported.traceId ≠ "" := by
    intro hempty
    simp [request, resolveFileName, sanitizeTraceId, raiseIf, hempty] at hname
  have hnamed : Named exported := ⟨hstem, hextension⟩
  rw [request, hnamed.resolve, Except.ok.injEq] at hname
  subst hname
  rw [safeTarget_of_safe _ hnamed.safe, ok_bind, raiseIf_bind_eq_ok] at h
  obtain ⟨_, _, h⟩ := bind_eq_ok.mp h.2
  rw [Except.ok.injEq, Prod.mk.injEq] at h
  exact ⟨hnamed, h.2.symm⟩

inductive Saves (archive : AgentTraceArchive) : ArchiveWorld → ArchiveWorld → Prop
  | refl (world : ArchiveWorld) : Saves archive world world
  | write {world next : ArchiveWorld} (exported : AgentTraceExportResult)
      (hnamed : Named exported) (h : Saves archive
        { world with
          files := Function.update world.files (archive.path exported)
            (some exported.content.toUTF8)
          writes := exported :: world.writes } next) : Saves archive world next

theorem archiveFormats_saves (traceId : String) (formats : List AgentTraceExportFormat)
    (world : ArchiveWorld) : Saves archive world (archive.archiveFormats traceId formats world).2 := by
  induction formats generalizing world with
  | nil => exact .refl world
  | cons format formats ih =>
    rw [archiveFormats]
    split
    next => exact .refl world
    next exported hexport =>
      obtain ⟨hformat, hextension⟩ := exportTrace_spec hexport
      split
      next => exact .refl world
      next result files hwrite =>
        obtain ⟨hnamed, rfl⟩ := write_spec (hformat ▸ hextension) hwrite
        exact .write exported hnamed (ih _)

theorem policyArchive_saves (traceId : String) (world : ArchiveWorld) :
    Saves archive world (archive.policyArchive traceId world).2 := by
  rw [policyArchive]
  split
  next => exact .refl world
  next =>
    split
    next => exact .refl world
    next =>
      split
      next => exact .refl world
      next => exact archiveFormats_saves _ _ _

def Distinguished (world : ArchiveWorld) : Prop :=
  ∀ exported ∈ world.writes, ∀ other ∈ world.writes, exported.format = other.format →
    stem exported.traceId = stem other.traceId → exported.traceId = other.traceId

def Latest (world : ArchiveWorld) (exported : AgentTraceExportResult) : Prop :=
  world.writes.find? (fun other => other.traceId = exported.traceId ∧
    other.format = exported.format) = some exported

structure Separate (archive : AgentTraceArchive) (world : ArchiveWorld) : Prop where
  own : ∀ exported ∈ world.writes, ∀ other ∈ world.writes,
    archive.path exported = archive.path other →
      exported.traceId = other.traceId ∧ exported.format = other.format
  latest : ∀ exported, Latest world exported →
    world.files (archive.path exported) = some exported.content.toUTF8
  named : ∀ exported ∈ world.writes, resolveFileName exported none = .ok exported.defaultName ∧
    validateFileName exported.defaultName = .ok () ∧
    safeTarget archive.outputDirectory exported.defaultName = .ok (archive.path exported) ∧
    (archive.path exported).dropLast = archive.outputDirectory

/-- What every run keeps. -/
structure Kept (archive : AgentTraceArchive) (world : ArchiveWorld) : Prop where
  named : ∀ exported ∈ world.writes, Named exported
  latest : Distinguished world → ∀ exported, Latest world exported →
    world.files (archive.path exported) = some exported.content.toUTF8

theorem Kept.write (h : Kept archive world) (hnamed : Named exported) : Kept archive
      { world with
        files := Function.update world.files (archive.path exported) (some exported.content.toUTF8)
        writes := exported :: world.writes } where
  named := List.forall_mem_cons.mpr ⟨hnamed, h.named⟩
  latest hdistinguished other hlatest := by
    have hbefore : Distinguished world := fun first hfirst second hsecond =>
      hdistinguished first (List.mem_cons_of_mem _ hfirst) second (List.mem_cons_of_mem _ hsecond)
    rw [Latest, List.find?_cons] at hlatest
    split at hlatest
    next hsame =>
      rw [Option.some.injEq] at hlatest
      rw [← hlatest]
      exact Function.update_self ..
    next hother =>
      have hmem : other ∈ world.writes := List.mem_of_find?_eq_some hlatest
      have hne : archive.path other ≠ archive.path exported := by
        intro hpath
        obtain ⟨hstem, hformat⟩ := path_inj.mp hpath
        have hids := hdistinguished other (List.mem_cons_of_mem _ hmem) exported
          List.mem_cons_self hformat hstem
        simp [hids, hformat] at hother
      have hkept : Function.update world.files (archive.path exported)
          (some exported.content.toUTF8) (archive.path other) =
          world.files (archive.path other) := Function.update_of_ne hne _ _
      exact hkept.trans (h.latest hbefore other hlatest)

theorem Kept.saves (h : Kept archive world) (hsaves : Saves archive world next) :
    Kept archive next := by
  induction hsaves with
  | refl world => exact h
  | write exported hnamed _ ih => exact ih (h.write hnamed)

theorem Kept.step (h : Kept archive world) (action : Action) :
    Kept archive (archive.step world action) := by
  cases action with
  | recorder events => exact ⟨h.named, h.latest⟩
  | archive traceId => exact h.saves (policyArchive_saves traceId world)

def start (files : TraceFiles) : ArchiveWorld := ⟨[], files, []⟩

theorem kept_of_reachable {files : TraceFiles}
    (h : Runs.Reachable archive.step (fun _ _ => True) (start files) world) :
    Kept archive world := by
  refine Runs.Reachable.invariant (Kept archive) ⟨by simp [start], fun _ exported hlatest => ?_⟩
    (fun before action hkept _ => hkept.step action) h
  simp [Latest, start] at hlatest

/-- After a run every archived trace has files of its own if and only if the stems of the ids
tell them apart. -/
theorem separate_iff {files : TraceFiles}
    (h : Runs.Reachable archive.step (fun _ _ => True) (start files) world) :
    Separate archive world ↔ Distinguished world := by
  have hkept := kept_of_reachable h
  constructor
  · intro hseparate exported hexported other hother hformat hstem
    exact (hseparate.own exported hexported other hother (path_inj.mpr ⟨hstem, hformat⟩)).1
  · intro hdistinguished
    refine ⟨?_, hkept.latest hdistinguished, ?_⟩
    · intro exported hexported other hother hpath
      obtain ⟨hstem, hformat⟩ := path_inj.mp hpath
      exact ⟨hdistinguished exported hexported other hother hformat hstem, hformat⟩
    · intro exported hexported
      have hnamed := hkept.named exported hexported
      have htarget := safeTarget_of_safe archive.outputDirectory hnamed.safe
      have hvalid : validateFileName exported.defaultName = .ok () := by
        rw [safeTarget] at htarget
        obtain ⟨_, hvalid, _⟩ := bind_eq_ok.mp htarget
        exact hvalid
      exact ⟨hnamed.resolve, hvalid, htarget, by rw [path, List.dropLast_concat]⟩

def sampleExporter : AgentTraceExporter where
  content timeline _ _ := "Trace: " ++ timeline.traceId
  content_nonblank timeline _ _ := isBlank_append (by decide)

def samplePolicy : AgentTraceArchivePolicy :=
  ⟨[.text], true, true, true, true, by decide, by decide, by decide⟩

def sampleArchive : AgentTraceArchive := ⟨sampleExporter, (· / 1000), ["/", "traces"], samplePolicy⟩

def sampleEvent (traceId : String) : AgentTraceEvent :=
  ⟨⟨.agentStarted, "started", none, none, none, none, []⟩, traceId, 1, 0⟩

def archiveRun (traceIds : List String) : ArchiveWorld :=
  Runs.run sampleArchive.step (start fun _ => none)
    (.recorder (traceIds.map sampleEvent) :: traceIds.map .archive)

theorem archiveRun_reachable (traceIds : List String) :
    Runs.Reachable sampleArchive.step (fun _ _ => True) (start fun _ => none)
      (archiveRun traceIds) := Runs.reachable_run _

example : stem " run a/b " = "run-a-b" := by decide +kernel

/-- The export of `"run-a"` replaces the one of `"run a"`. -/
theorem archiveRun_not_separate :
    (archiveRun ["run a", "run-a"]).writes.map (fun exported =>
        (exported.traceId, exported.format)) = [("run-a", .text), ("run a", .text)] ∧
      (archiveRun ["run a", "run-a"]).files ["/", "traces", "run-a.txt"] =
        some "Trace: run-a".toUTF8 ∧
      ¬Separate sampleArchive (archiveRun ["run a", "run-a"]) := by
  have hwrites : (archiveRun ["run a", "run-a"]).writes.map (fun exported =>
      (exported.traceId, exported.format)) = [("run-a", .text), ("run a", .text)] := by
    decide +kernel
  refine ⟨hwrites, by decide +kernel, fun hseparate => ?_⟩
  obtain ⟨first, second, hlist⟩ : ∃ first second,
      (archiveRun ["run a", "run-a"]).writes = [first, second] := List.length_eq_two.mp
    (by simpa using congrArg List.length hwrites)
  have hsame := hseparate.own first (by simp [hlist]) second (by simp [hlist])
  simp only [hlist, List.map_cons, List.map_nil, List.cons.injEq, Prod.mk.injEq] at hwrites
  obtain ⟨⟨hfirst, hformat⟩, ⟨hsecond, hformat'⟩, _⟩ := hwrites
  rw [path_inj, hfirst, hsecond, hformat, hformat'] at hsame
  exact absurd (hsame ⟨by decide +kernel, rfl⟩).1 (by decide)

theorem separate_of_two : Separate sampleArchive (archiveRun ["run a", "run b"]) := by
  refine (separate_iff (archiveRun_reachable ["run a", "run b"])).mpr ?_
  have hdistinguished : ∀ exported ∈ (archiveRun ["run a", "run b"]).writes,
      ∀ other ∈ (archiveRun ["run a", "run b"]).writes,
        stem exported.traceId = stem other.traceId → exported.traceId = other.traceId := by
    decide +kernel
  exact fun exported hexported other hother _ => hdistinguished exported hexported other hother

end AgentTraceArchive

end AgenticLab
