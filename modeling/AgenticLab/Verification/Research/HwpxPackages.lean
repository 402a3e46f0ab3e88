import AgenticLab.Verification.Research.HwpxTextExtractor

/-! # Which packages are read as they were validated -/

namespace AgenticLab.LocalHwpxTextExtractor

open Slices (slice)

/-- A failure of the extractor itself, or one that an `except` clause turns into one. -/
def Handled (failure : Raised) : Prop :=
  failure.cls ∈ [badZipFile, .osError, .localHwpxTextExtractionError]

variable {failure : Raised}

theorem cls_exceptClause {path : String} :
    (exceptClause path failure).cls = .localHwpxTextExtractionError ↔ Handled failure := by
  unfold exceptClause Handled
  split_ifs with hbad hos
  · simp [hbad, extractionError]
  · simp [hos, extractionError]
  · simp [hbad, hos]

theorem handled_extractionError (message : String) : Handled (extractionError message) := by
  simp [Handled, extractionError]

theorem replaceBackslashes_idem (path : String) :
    replaceBackslashes (replaceBackslashes path) = replaceBackslashes path := by
  have hreplace : ((fun character => if character = '\\' then '/' else character) ∘
      fun character => if character = '\\' then '/' else character) =
      fun character : Char => if character = '\\' then '/' else character := by
    funext character
    by_cases hcharacter : character = '\\' <;> simp [hcharacter]
  rw [replaceBackslashes, replaceBackslashes, String.toList_ofList, List.map_map, hreplace]

variable {infos : List ZipInfo} {totalSize : ℕ}

theorem validateMembers_eq_ok {found members : List (String × ZipInfo)}
    (h : validateMembers found totalSize infos = .ok members) :
    members = found ++ infos.map (fun info => (replaceBackslashes info.filename, info)) ∧
      (∀ info ∈ infos, isUnsafe (replaceBackslashes info.filename) = false) ∧
      ((found.map Prod.fst).Nodup → (members.map Prod.fst).Nodup) := by
  induction infos generalizing found totalSize with
  | nil =>
    obtain rfl := Except.ok.inj h
    exact ⟨by simp, by simp, id⟩
  | cons info infos ih =>
    obtain ⟨hsafe, h⟩ := raiseIf_bind_eq_ok.mp h
    obtain ⟨hnew, h⟩ := raiseIf_bind_eq_ok.mp h
    obtain ⟨-, h⟩ := raiseIf_bind_eq_ok.mp h
    obtain ⟨-, h⟩ := raiseIf_bind_eq_ok.mp h
    obtain ⟨hmembers, hsafes, hnodup⟩ := ih h
    refine ⟨by simp [hmembers], ?_, fun hfound => hnodup ?_⟩
    · exact List.forall_mem_cons.mpr ⟨Bool.eq_false_iff.mpr hsafe, hsafes⟩
    · rw [List.map_append, List.map_singleton, List.nodup_append]
      refine ⟨hfound, List.nodup_singleton _, ?_⟩
      rintro name hname _ hpath rfl
      rw [List.mem_singleton.mp hpath] at hname
      exact hnew hname

theorem validateMembers_eq_error {found : List (String × ZipInfo)}
    (h : validateMembers found totalSize infos = .error failure) : Handled failure := by
  induction infos generalizing found totalSize with
  | nil => cases h
  | cons info infos ih =>
    rcases bind_eq_error.mp h with h | ⟨_, -, h⟩
    · exact (raiseIf_eq_error.mp h).2 ▸ handled_extractionError _
    rcases bind_eq_error.mp h with h | ⟨_, -, h⟩
    · exact (raiseIf_eq_error.mp h).2 ▸ handled_extractionError _
    rcases bind_eq_error.mp h with h | ⟨_, -, h⟩
    · exact (raiseIf_eq_error.mp h).2 ▸ handled_extractionError _
    rcases bind_eq_error.mp h with h | ⟨_, -, h⟩
    · exact (raiseIf_eq_error.mp h).2 ▸ handled_extractionError _
    · exact ih h

theorem validateArchive_eq_error {archive : List ZipInfo}
    (h : validateArchive archive = .error failure) : Handled failure := by
  rcases bind_eq_error.mp h with h | ⟨_, -, h⟩
  · exact (raiseIf_eq_error.mp h).2 ▸ handled_extractionError _
  · exact validateMembers_eq_error h

section

variable {archive : List ZipInfo} {members : List (String × ZipInfo)}

theorem validateArchive_eq_ok (h : validateArchive archive = .ok members) :
    members = archive.map (fun info => (replaceBackslashes info.filename, info)) ∧
      (∀ info ∈ archive, isUnsafe (replaceBackslashes info.filename) = false) ∧
      (members.map Prod.fst).Nodup := by
  obtain ⟨-, h⟩ := raiseIf_bind_eq_ok.mp h
  obtain ⟨hmembers, hsafe, hnodup⟩ := validateMembers_eq_ok h
  exact ⟨by simpa using hmembers, hsafe, hnodup List.nodup_nil⟩

variable {path : String} {info : ZipInfo}

theorem isUnsafe_of_mem (h : validateArchive archive = .ok members) (hmem : (path, info) ∈ members) :
    isUnsafe path = false := by
  obtain ⟨rfl, hsafe, -⟩ := validateArchive_eq_ok h
  obtain ⟨stored, hstored, heq⟩ := List.mem_map.mp hmem
  obtain ⟨rfl, rfl⟩ := Prod.mk.inj heq
  exact hsafe stored hstored

theorem eq_of_filename_eq (h : validateArchive archive = .ok members)
    (hmem : (path, info) ∈ members) {other : ZipInfo} (hother : other ∈ archive)
    (hname : other.filename = path) : other = info := by
  obtain ⟨rfl, -, hnodup⟩ := validateArchive_eq_ok h
  have hkey : replaceBackslashes path = path := by
    obtain ⟨stored, -, heq⟩ := List.mem_map.mp hmem
    rw [← (Prod.mk.inj heq).1, replaceBackslashes_idem]
  have hagain : (path, other) ∈
      archive.map fun info => (replaceBackslashes info.filename, info) :=
    List.mem_map.mpr ⟨other, hother, by rw [hname, hkey]⟩
  exact (Prod.mk.inj (List.inj_on_of_nodup_map hnodup hagain hmem rfl)).2

theorem archiveRead_of_mem (h : validateArchive archive = .ok members)
    (hmem : (path, info) ∈ members) :
    archiveRead archive path =
      if info.filename = path then info.stored
      else .error ⟨.keyError, "There is no item named " ++ path ++ " in the archive"⟩ := by
  unfold archiveRead
  cases hfind : archive.reverse.find? fun info => info.filename = path with
  | none =>
    have hne : info.filename ≠ path := by
      obtain ⟨rfl, -⟩ := validateArchive_eq_ok h
      obtain ⟨stored, hstored, heq⟩ := List.mem_map.mp hmem
      obtain ⟨-, rfl⟩ := Prod.mk.inj heq
      simpa using List.find?_eq_none.mp hfind stored (List.mem_reverse.mpr hstored)
    rw [if_neg hne]
  | some other =>
    have hname : other.filename = path := by simpa using List.find?_some hfind
    have hother : other ∈ archive := List.mem_reverse.mp (List.mem_of_find?_eq_some hfind)
    obtain rfl := eq_of_filename_eq h hmem hother hname
    rw [if_pos hname]

end

/-! ## References -/

section

variable (xml : XmlParser) (archive : List ZipInfo) (members : List (String × ZipInfo))

/-- The paths that the extractor comes to read: the content first, and each reference of the spine
once those before it are resolved and read. -/
inductive Reached : String → Prop where
  | content (hmember : contentHpfPath ∈ members.map Prod.fst) : Reached contentHpfPath
  | reference {root : Element Char} {before after : List String} {itemId path : String}
      (hmember : contentHpfPath ∈ members.map Prod.fst)
      (hroot : readXml xml archive contentHpfPath = .ok root)
      (hspine : spineReferences root = before ++ itemId :: after)
      (hnamed : "" ∉ spineReferences root)
      (hbefore : ∀ earlier ∈ before, ∃ earlierPath target,
        resolveReference members root earlier = .ok earlierPath ∧
          readXml xml archive earlierPath = .ok target)
      (hresolve : resolveReference members root itemId = .ok path) : Reached path

variable {xml archive members} {root : Element Char} {path : String} {failure : Raised}

theorem resolveManifestHref_eq_ok {href : String}
    (h : resolveManifestHref members href = .ok path) : path ∈ members.map Prod.fst := by
  obtain ⟨-, h⟩ := raiseIf_bind_eq_ok.mp h
  dsimp only at h
  split at h
  · cases h
  · rename_i found hfound
    obtain rfl := Except.ok.inj h
    have hmem : found ∈ [found] := List.mem_singleton_self found
    rw [← hfound] at hmem
    exact of_decide_eq_true (List.mem_filter.mp hmem).2
  · cases h

variable {itemId : String}

theorem resolveReference_eq_ok
    (h : resolveReference members root itemId = .ok path) : path ∈ members.map Prod.fst := by
  unfold resolveReference at h
  split at h
  · cases h
  · exact resolveManifestHref_eq_ok h

theorem resolveReference_eq_error
    (h : resolveReference members root itemId = .error failure) : Handled failure := by
  unfold resolveReference at h
  split at h
  · exact Except.error.inj h ▸ handled_extractionError _
  · rcases bind_eq_error.mp h with h | ⟨_, -, h⟩
    · exact (raiseIf_eq_error.mp h).2 ▸ handled_extractionError _
    · dsimp only at h
      split at h
      · exact Except.error.inj h ▸ handled_extractionError _
      · cases h
      · exact Except.error.inj h ▸ handled_extractionError _

theorem Reached.mem (h : Reached xml archive members path) : path ∈ members.map Prod.fst := by
  cases h with
  | content hmember => exact hmember
  | reference _ _ _ _ _ hresolve => exact resolveReference_eq_ok hresolve

theorem collectSections_of_error {before after : List String}
    (hbefore : ∀ earlier ∈ before, ∃ earlierPath target,
      resolveReference members root earlier = .ok earlierPath ∧
        readXml xml archive earlierPath = .ok target)
    (hresolve : resolveReference members root itemId = .ok path)
    (hread : readXml xml archive path = .error failure) :
    collectSections xml archive members root (before ++ itemId :: after) = .error failure := by
  induction before with
  | nil => simp [collectSections, hresolve, hread]
  | cons earlier before ih =>
    obtain ⟨⟨earlierPath, target, hearlier, htarget⟩, hbefore⟩ := List.forall_mem_cons.mp hbefore
    rw [List.cons_append, collectSections, hearlier, ok_bind, htarget, ok_bind, ih hbefore,
      error_bind]

theorem collectSections_eq_error {itemIds : List String}
    (h : collectSections xml archive members root itemIds = .error failure) :
    Handled failure ∨ ∃ before itemId after path, itemIds = before ++ itemId :: after ∧
      (∀ earlier ∈ before, ∃ earlierPath target,
        resolveReference members root earlier = .ok earlierPath ∧
          readXml xml archive earlierPath = .ok target) ∧
      resolveReference members root itemId = .ok path ∧
      readXml xml archive path = .error failure := by
  induction itemIds with
  | nil => cases h
  | cons itemId itemIds ih =>
    rcases bind_eq_error.mp h with hresolve | ⟨packagePath, hresolve, h⟩
    · exact .inl (resolveReference_eq_error hresolve)
    rcases bind_eq_error.mp h with hread | ⟨target, hread, h⟩
    · exact .inr ⟨[], itemId, itemIds, packagePath, rfl, by simp, hresolve, hread⟩
    rcases bind_eq_error.mp h with hrest | ⟨_, -, h⟩
    · rcases ih hrest with hown | ⟨before, later, after, path, rfl, hbefore, hlater, hfails⟩
      · exact .inl hown
      · exact .inr ⟨itemId :: before, later, after, path, rfl,
          List.forall_mem_cons.mpr ⟨⟨packagePath, target, hresolve, hread⟩, hbefore⟩, hlater,
          hfails⟩
    · cases h

theorem Reached.sectionPaths_eq_error (h : Reached xml archive members path)
    (hread : readXml xml archive path = .error failure) :
    sectionPaths xml archive members = .error failure := by
  cases h with
  | content hmember =>
    rw [sectionPaths, (raiseIf_eq_ok (u := ())).mpr (not_not.mpr hmember), ok_bind, hread,
      error_bind]
  | reference hmember hroot hspine hnamed hbefore hresolve =>
    have hspineNe : ¬(spineReferences _ = [] ∨ "" ∈ spineReferences _) :=
      not_or.mpr ⟨by rw [hspine]; simp, hnamed⟩
    rw [sectionPaths, (raiseIf_eq_ok (u := ())).mpr (not_not.mpr hmember), ok_bind, hroot, ok_bind]
    dsimp only
    rw [(raiseIf_eq_ok (u := ())).mpr hspineNe, ok_bind, hspine,
      collectSections_of_error hbefore hresolve hread, error_bind]

theorem sectionPaths_eq_error (h : sectionPaths xml archive members = .error failure) :
    Handled failure ∨
      ∃ path, Reached xml archive members path ∧ readXml xml archive path = .error failure := by
  rcases bind_eq_error.mp h with h | ⟨_, hmember, h⟩
  · exact .inl ((raiseIf_eq_error.mp h).2 ▸ handled_extractionError _)
  have hmember := not_not.mp (raiseIf_eq_ok.mp hmember)
  rcases bind_eq_error.mp h with hroot | ⟨root, hroot, h⟩
  · exact .inr ⟨contentHpfPath, .content hmember, hroot⟩
  rcases bind_eq_error.mp h with h | ⟨_, hspine, h⟩
  · exact .inl ((raiseIf_eq_error.mp h).2 ▸ handled_extractionError _)
  have hnamed := (not_or.mp (raiseIf_eq_ok.mp hspine)).2
  rcases bind_eq_error.mp h with hcollect | ⟨_, -, h⟩
  · rcases collectSections_eq_error hcollect with
      hown | ⟨before, itemId, after, path, hitems, hbefore, hresolve, hread⟩
    · exact .inl hown
    · exact .inr ⟨path, .reference hmember hroot hitems hnamed hbefore hresolve, hread⟩
  rcases bind_eq_error.mp h with h | ⟨_, -, h⟩
  · exact .inl ((raiseIf_eq_error.mp h).2 ▸ handled_extractionError _)
  · cases h

theorem extractTexts_ne_error {paths : List String}
    (hpaths : ∀ path ∈ paths, isSection xml archive path = true) :
    extractTexts xml archive paths ≠ .error failure := by
  induction paths with
  | nil => simp [extractTexts]
  | cons packagePath paths ih =>
    obtain ⟨hfirst, hrest⟩ := List.forall_mem_cons.mp hpaths
    unfold isSection at hfirst
    split at hfirst
    · rename_i target hread
      intro h
      rcases bind_eq_error.mp h with h | ⟨_, -, h⟩
      · rw [hread] at h
        cases h
      rcases bind_eq_error.mp h with h | ⟨_, -, h⟩
      · exact ih hrest h
      · cases h
    · cases hfirst

end

/-! ## Results -/

variable {content : List Char}

theorem slice_append_of_le {start stop : ℕ} (h : stop ≤ content.length)
    (more : List Char) : slice (content ++ more) start stop = slice content start stop := by
  by_cases hstart : start ≤ content.length
  · rw [slice, slice, List.drop_append_of_le_length hstart, List.take_append_of_le_length]
    rw [List.length_drop]
    omega
  · have hempty : stop - start = 0 := by omega
    rw [slice, slice, hempty, List.take_zero, List.take_zero]

theorem slice_append (content more : List Char) :
    slice (content ++ more) content.length (content.length + more.length) = more := by
  rw [slice, List.drop_left, Nat.add_sub_cancel_left, List.take_length]

theorem slice_subset (content : List Char) (start stop : ℕ) : slice content start stop ⊆ content :=
  fun _ hmem => List.mem_of_mem_drop (List.mem_of_mem_take hmem)

variable {part text : List Char}

theorem subset_joinWith {separator : List Char} {parts : List (List Char)}
    (h : part ∈ parts) : part ⊆ joinWith separator parts := by
  induction parts with
  | nil => cases h
  | cons first parts ih =>
    cases parts with
    | nil => rw [List.mem_singleton.mp h, joinWith]; exact fun _ => id
    | cons next parts =>
      rw [joinWith]
      rcases List.mem_cons.mp h with rfl | hrest
      · exact fun _ hmem => List.mem_append_left _ (List.mem_append_left _ hmem)
      · exact fun _ hmem => List.mem_append_right _ (ih hrest hmem)

theorem stripText_ne_nil_of_mem (hpart : stripText isSpace part ≠ [])
    (h : part ⊆ text) : stripText isSpace text ≠ [] := by
  intro hnil
  refine hpart ((stripText_eq_nil isSpace).mpr ?_)
  rw [List.filter_eq_nil_iff]
  exact fun character hmem =>
    List.filter_eq_nil_iff.mp ((stripText_eq_nil isSpace).mp hnil) character (h hmem)

theorem stripText_stripText_ne_nil (h : stripText isSpace text ≠ []) :
    stripText isSpace (stripText isSpace text) ≠ [] := by
  rwa [Ne, stripText_eq_nil, filter_stripText, ← stripText_eq_nil]

theorem stripText_sectionText {root : Element Char} (h : sectionText root ≠ []) :
    stripText isSpace (sectionText root) ≠ [] := by
  unfold sectionText sectionParts at h ⊢
  split_ifs at h ⊢ with hparagraphs
  · obtain ⟨part, parts, hcons⟩ := List.exists_cons_of_ne_nil hparagraphs
    have hmem : part ∈ paragraphTexts isSpace root := hcons ▸ List.mem_cons_self
    refine stripText_ne_nil_of_mem ?_ (subset_joinWith hmem)
    rw [paragraphTexts_eq] at hmem
    obtain ⟨hstripped, hne⟩ := List.mem_filter.mp hmem
    obtain ⟨text, -, rfl⟩ := List.mem_map.mp hstripped
    exact stripText_stripText_ne_nil (of_decide_eq_true hne)
  · exact stripText_stripText_ne_nil h

variable {fields : LocalHwpxTextSection}

theorem newSection_of_valid (hindex : 1 ≤ fields.sectionIndex)
    (hpath : isBlank fields.packagePath = false)
    (hcontent : fields.content ≠ [] → stripText isSpace fields.content ≠ [])
    (hrange : fields.endCharacter = fields.startCharacter + fields.content.length) :
    newSection fields = .ok fields := by
  refine raiseIf_bind_eq_ok.mpr ⟨by omega, raiseIf_bind_eq_ok.mpr ⟨by simp [hpath], ?_⟩⟩
  by_cases hne : fields.content ≠ []
  · have hpositive : 0 < fields.content.length := List.length_pos_iff.mpr hne
    rw [if_pos hne]
    exact raiseIf_bind_eq_ok.mpr ⟨hcontent hne, raiseIf_bind_eq_ok.mpr ⟨by omega,
      raiseIf_bind_eq_ok.mpr ⟨by omega, rfl⟩⟩⟩
  · have hlength : fields.content.length = 0 := by rw [not_not.mp hne]; rfl
    rw [if_neg hne]
    exact raiseIf_bind_eq_ok.mpr ⟨by omega, rfl⟩

theorem newSection_eq_error
    (h : newSection fields = .error failure) : failure.cls = .validationError := by
  have hinvalid {condition : Prop} [Decidable condition] {message : String}
      (hraises : raiseIf condition (invalid message) = .error failure) :
      failure.cls = .validationError := (raiseIf_eq_error.mp hraises).2 ▸ rfl
  rcases bind_eq_error.mp h with h | ⟨_, -, h⟩
  · exact hinvalid h
  rcases bind_eq_error.mp h with h | ⟨_, -, h⟩
  · exact hinvalid h
  split_ifs at h
  · rcases bind_eq_error.mp h with h | ⟨_, -, h⟩
    · exact hinvalid h
    rcases bind_eq_error.mp h with h | ⟨_, -, h⟩
    · exact hinvalid h
    rcases bind_eq_error.mp h with h | ⟨_, -, h⟩
    · exact hinvalid h
    · cases h
  · rcases bind_eq_error.mp h with h | ⟨_, -, h⟩
    · exact hinvalid h
    · cases h

structure Assembly.Fits (assembly : Assembly) : Prop where
  cursor : assembly.cursor = assembly.contentParts.flatten.length
  indexes : assembly.sections.map (·.sectionIndex) = List.range' 1 assembly.sections.length
  slices : ∀ textSection ∈ assembly.sections,
    textSection.endCharacter ≤ assembly.cursor ∧
      slice assembly.contentParts.flatten textSection.startCharacter textSection.endCharacter =
        textSection.content

def Assembly.nextStart (assembly : Assembly) (content : List Char) : ℕ :=
  if content ≠ [] ∧ assembly.contentParts ≠ [] then assembly.cursor + sectionSeparator.length
  else assembly.cursor

def Assembly.nextSection (assembly : Assembly) (extracted : String × List Char) :
    LocalHwpxTextSection :=
  ⟨assembly.sections.length + 1, extracted.1, extracted.2, assembly.nextStart extracted.2,
    assembly.nextStart extracted.2 + extracted.2.length⟩

def Assembly.next (assembly : Assembly) (extracted : String × List Char) : Assembly :=
  let parts := if extracted.2 ≠ [] ∧ assembly.contentParts ≠ [] then
    assembly.contentParts ++ [sectionSeparator] else assembly.contentParts
  ⟨if extracted.2 ≠ [] then parts ++ [extracted.2] else parts,
    assembly.nextStart extracted.2 + extracted.2.length,
    assembly.sections ++ [assembly.nextSection extracted]⟩

variable {assembly : Assembly}

theorem Assembly.Fits.next (h : assembly.Fits)
    (extracted : String × List Char) : (assembly.next extracted).Fits := by
  obtain ⟨packagePath, content⟩ := extracted
  obtain ⟨before, hparts, hstart⟩ : ∃ before : List Char,
      (assembly.next (packagePath, content)).contentParts.flatten =
        assembly.contentParts.flatten ++ before ++ content ∧
      assembly.nextStart content = (assembly.contentParts.flatten ++ before).length := by
    unfold Assembly.nextStart
    by_cases hcontent : content = []
    · exact ⟨[], by simp [Assembly.next, hcontent], by simp [hcontent, h.cursor]⟩
    by_cases hfirst : assembly.contentParts = []
    · exact ⟨[], by simp [Assembly.next, hcontent, hfirst], by simp [hfirst, h.cursor]⟩
    · exact ⟨sectionSeparator, by simp [Assembly.next, hcontent, hfirst],
        by simp [hcontent, hfirst, h.cursor]⟩
  refine ⟨?_, ?_, ?_⟩
  · rw [hparts, List.length_append, ← hstart]
    rfl
  · simp [Assembly.next, Assembly.nextSection, h.indexes, List.range'_concat, Nat.add_comm]
  · intro textSection hmem
    rcases List.mem_append.mp hmem with hold | hnew
    · obtain ⟨hend, hslice⟩ := h.slices textSection hold
      rw [hparts, List.append_assoc, slice_append_of_le (h.cursor ▸ hend), hslice]
      refine ⟨hend.trans ?_, rfl⟩
      simp only [Assembly.next, Assembly.nextStart]
      split_ifs <;> omega
    · obtain rfl := List.mem_singleton.mp hnew
      refine ⟨le_refl _, ?_⟩
      rw [hparts, Assembly.nextSection, hstart]
      exact slice_append _ _

theorem assembleSection_of_valid {extracted : String × List Char}
    (hpath : isBlank extracted.1 = false)
    (hcontent : extracted.2 ≠ [] → stripText isSpace extracted.2 ≠ []) :
    assembleSection assembly extracted = .ok (assembly.next extracted) := by
  have hnew : newSection (assembly.nextSection extracted) = .ok (assembly.nextSection extracted) :=
    newSection_of_valid (Nat.le_add_left _ _) hpath hcontent rfl
  exact bind_eq_ok.mpr ⟨_, hnew, rfl⟩

variable {extracted : List (String × List Char)}

theorem assembleAll_of_valid
    (hfits : assembly.Fits) (hpaths : ∀ text ∈ extracted, isBlank text.1 = false)
    (hcontents : ∀ text ∈ extracted, text.2 ≠ [] → stripText isSpace text.2 ≠ []) :
    ∃ final : Assembly, assembleAll assembly extracted = .ok final ∧ final.Fits := by
  induction extracted generalizing assembly with
  | nil => exact ⟨assembly, rfl, hfits⟩
  | cons text texts ih =>
    obtain ⟨hpath, hpaths⟩ := List.forall_mem_cons.mp hpaths
    obtain ⟨hcontent, hcontents⟩ := List.forall_mem_cons.mp hcontents
    rw [assembleAll, assembleSection_of_valid hpath hcontent, ok_bind]
    exact ih (hfits.next text) hpaths hcontents

theorem assembleSection_eq_error {extracted : String × List Char}
    (h : assembleSection assembly extracted = .error failure) : failure.cls = .validationError := by
  rcases bind_eq_error.mp h with h | ⟨_, -, h⟩
  · exact newSection_eq_error h
  · cases h

theorem assembleAll_eq_error (h : assembleAll assembly extracted = .error failure) :
    failure.cls = .validationError := by
  induction extracted generalizing assembly with
  | nil => cases h
  | cons text texts ih =>
    rcases bind_eq_error.mp h with h | ⟨_, -, h⟩
    · exact assembleSection_eq_error h
    · exact ih h

theorem isBlank_of_assembleAll {assembly final : Assembly}
    (h : assembleAll assembly extracted = .ok final) :
    ∀ text ∈ extracted, isBlank text.1 = false := by
  induction extracted generalizing assembly with
  | nil => simp
  | cons text texts ih =>
    obtain ⟨next, hnext, hrest⟩ := bind_eq_ok.mp h
    obtain ⟨textSection, hnew, -⟩ := bind_eq_ok.mp hnext
    obtain ⟨-, hnew⟩ := raiseIf_bind_eq_ok.mp hnew
    obtain ⟨hblank, -⟩ := raiseIf_bind_eq_ok.mp hnew
    exact List.forall_mem_cons.mpr ⟨Bool.eq_false_iff.mpr hblank, ih hrest⟩

theorem validateRanges_of_slices {sections : List LocalHwpxTextSection}
    (h : ∀ textSection ∈ sections, textSection.endCharacter ≤ content.length ∧
      slice content textSection.startCharacter textSection.endCharacter = textSection.content) :
    validateRanges content sections = .ok () := by
  induction sections with
  | nil => rfl
  | cons textSection sections ih =>
    obtain ⟨⟨hend, hslice⟩, hrest⟩ := List.forall_mem_cons.mp h
    exact raiseIf_bind_eq_ok.mpr ⟨not_lt.mpr hend,
      raiseIf_bind_eq_ok.mpr ⟨not_not.mpr hslice, ih hrest⟩⟩

theorem buildResult_of_valid (hsome : ∃ text ∈ extracted, text.2 ≠ [])
    (hpaths : ∀ text ∈ extracted, isBlank text.1 = false)
    (hcontents : ∀ text ∈ extracted, text.2 ≠ [] → stripText isSpace text.2 ≠ []) :
    ∃ result, buildResult extracted = .ok result := by
  have hfits : Assembly.Fits ⟨[], 0, []⟩ := ⟨rfl, rfl, by simp⟩
  obtain ⟨final, hfinal, hfits⟩ := assembleAll_of_valid hfits hpaths hcontents
  obtain ⟨text, hmem, htext⟩ := hsome
  have hempty : ¬extracted.all (·.2.isEmpty) = true := by
    simp only [List.all_eq_true, not_forall]
    exact ⟨text, hmem, by simpa using htext⟩
  have hstart : Assembly.Ordered ⟨[], 0, []⟩ := ⟨by simp, List.Pairwise.nil⟩
  obtain ⟨-, hsections⟩ := assembleAll_eq_ok hstart hfinal
  obtain ⟨textSection, hsection, rfl⟩ : ∃ textSection ∈ final.sections,
      (textSection.packagePath, textSection.content) = text :=
    List.mem_map.mp (hsections ▸ by simpa using hmem)
  have hnonblank : stripText isSpace final.contentParts.flatten ≠ [] := by
    refine stripText_ne_nil_of_mem (hcontents _ hmem htext) ?_
    dsimp only
    rw [← (hfits.slices textSection hsection).2]
    exact slice_subset _ _ _
  have hpositive : 0 < final.sections.length := List.length_pos_of_mem hsection
  refine ⟨_, raiseIf_bind_eq_ok.mpr ⟨hempty, bind_eq_ok.mpr ⟨final, hfinal,
    bind_eq_ok.mpr ⟨(), ?_, rfl⟩⟩⟩⟩
  exact raiseIf_bind_eq_ok.mpr ⟨Nat.not_lt.mpr hpositive, raiseIf_bind_eq_ok.mpr ⟨hnonblank,
    raiseIf_bind_eq_ok.mpr ⟨not_not.mpr rfl, raiseIf_bind_eq_ok.mpr ⟨not_not.mpr hfits.indexes,
      validateRanges_of_slices fun other hother =>
        ⟨hfits.cursor ▸ (hfits.slices other hother).1, (hfits.slices other hother).2⟩⟩⟩⟩⟩

/-! ## Extraction -/

section

variable {xml : XmlParser} {casefold : Casefold} {file : PackageFile} {archive : List ZipInfo}
  {members : List (String × ZipInfo)} {root : Element Char}

theorem collectSections_of_resolved {itemIds resolved : List String}
    (hresolved : itemIds.map (resolveReference members root) = resolved.map .ok)
    (htargets : ∀ path ∈ resolved, ∃ target, readXml xml archive path = .ok target) :
    collectSections xml archive members root itemIds =
      .ok (resolved.filter (isSection xml archive)) := by
  induction itemIds generalizing resolved with
  | nil =>
    obtain rfl := List.map_eq_nil_iff.mp hresolved.symm
    rfl
  | cons itemId itemIds ih =>
    obtain ⟨path, paths, rfl, hpath, hpaths⟩ := List.map_eq_cons_iff.mp hresolved.symm
    obtain ⟨⟨target, htarget⟩, htargets⟩ := List.forall_mem_cons.mp htargets
    rw [collectSections, ← hpath, ok_bind, htarget, ok_bind, ih hpaths.symm htargets]
    simp [List.filter_cons, isSection, htarget]

theorem SpineRead.sectionPaths_eq {resolved : List String}
    (h : SpineRead xml archive members root resolved)
    (hsection : ∃ path ∈ resolved, isSection xml archive path = true) :
    sectionPaths xml archive members = .ok (resolved.filter (isSection xml archive)) := by
  obtain ⟨path, hpath, hsection⟩ := hsection
  have hspine : ¬(spineReferences root = [] ∨ "" ∈ spineReferences root) := by
    refine not_or.mpr ⟨fun hnil => ?_, h.named⟩
    have hresolved := h.references
    rw [hnil, List.map_nil] at hresolved
    rw [List.map_eq_nil_iff.mp hresolved.symm] at hpath
    cases hpath
  refine raiseIf_bind_eq_ok.mpr ⟨not_not.mpr h.member, bind_eq_ok.mpr ⟨root, h.content,
    raiseIf_bind_eq_ok.mpr ⟨hspine, bind_eq_ok.mpr ⟨_,
      collectSections_of_resolved h.references h.targets, raiseIf_bind_eq_ok.mpr ⟨?_, rfl⟩⟩⟩⟩⟩
  exact List.ne_nil_of_mem (List.mem_filter.mpr ⟨hpath, hsection⟩)

variable {path : String}

theorem isSection_iff :
    isSection xml archive path = true ↔
      ∃ target, readXml xml archive path = .ok target ∧ localName target.tag = "sec" := by
  unfold isSection
  split
  · rename_i target hread
    simp [hread]
  · rename_i failure hread
    simp [hread]

/-- Extraction gives a valid result or the extractor's own failure, and each path that it reads is
safe and gives the member that was validated under it. -/
structure ReadsPackage (xml : XmlParser) (casefold : Casefold) (file : PackageFile) : Prop where
  returns : ∀ result, extract xml casefold file = .ok result → result.validate = .ok ()
  raises : ∀ failure, extract xml casefold file = .error failure →
    failure.cls = .localHwpxTextExtractionError
  reads : validatePath casefold file = .ok () → ∀ archive members path,
    file.archive = .ok archive → validateArchive archive = .ok members →
    Reached xml archive members path →
      isUnsafe path = false ∧
        ∃ info, (path, info) ∈ members ∧ archiveRead archive path = info.stored

/-- The archive opens, each member that is come to is stored under the name it was validated under
and can be read, and no section with others that have text has a blank name. -/
structure Readable (xml : XmlParser) (file : PackageFile) : Prop where
  opens : ∀ failure, file.archive = .error failure → Handled failure
  stored : ∀ archive members path info, file.archive = .ok archive →
    validateArchive archive = .ok members → Reached xml archive members path →
    (path, info) ∈ members →
      info.filename = path ∧
        ∀ failure, (info.stored >>= fun data => parseXml xml data path) = .error failure →
          Handled failure
  named : ∀ archive members root resolved, file.archive = .ok archive →
    validateArchive archive = .ok members → SpineRead xml archive members root resolved →
    (∃ path ∈ resolved, ∃ target, readXml xml archive path = .ok target ∧
      localName target.tag = "sec" ∧ sectionText target ≠ []) →
      ∀ path ∈ resolved, isSection xml archive path = true → isBlank path = false

variable {failure : Raised}

theorem validatePath_eq_error (h : validatePath casefold file = .error failure) :
    failure.cls = .localHwpxTextExtractionError := by
  rcases bind_eq_error.mp h with h | ⟨_, -, h⟩
  · exact (raiseIf_eq_error.mp h).2 ▸ rfl
  rcases bind_eq_error.mp h with h | ⟨_, -, h⟩
  · exact (raiseIf_eq_error.mp h).2 ▸ rfl
  · exact (raiseIf_eq_error.mp h).2 ▸ rfl

theorem extract_of_validatePath (h : validatePath casefold file = .ok ()) :
    extract xml casefold file =
      match readPackage xml file with
      | .ok extracted => buildResult extracted
      | .error failure => .error (exceptClause file.path failure) := by
  rw [extract, h]
  rfl

theorem exists_member (h : path ∈ members.map Prod.fst) : ∃ info, (path, info) ∈ members := by
  obtain ⟨⟨_, info⟩, hmem, rfl⟩ := List.mem_map.mp h
  exact ⟨info, hmem⟩

theorem Readable.readXml_handled (h : Readable xml file) (harchive : file.archive = .ok archive)
    (hmembers : validateArchive archive = .ok members) (hreached : Reached xml archive members path)
    (hread : readXml xml archive path = .error failure) : Handled failure := by
  obtain ⟨info, hinfo⟩ := exists_member hreached.mem
  obtain ⟨hname, hstored⟩ := h.stored archive members path info harchive hmembers hreached hinfo
  rw [readXml, archiveRead_of_mem hmembers hinfo, if_pos hname] at hread
  exact hstored failure hread

theorem Readable.readPackage_handled (h : Readable xml file)
    (hread : readPackage xml file = .error failure) : Handled failure := by
  rcases bind_eq_error.mp hread with harchive | ⟨archive, harchive, hread⟩
  · exact h.opens failure harchive
  rcases bind_eq_error.mp hread with hmembers | ⟨members, hmembers, hread⟩
  · exact validateArchive_eq_error hmembers
  rcases bind_eq_error.mp hread with hpaths | ⟨paths, hpaths, hread⟩
  · rcases sectionPaths_eq_error hpaths with hown | ⟨path, hreached, hfails⟩
    · exact hown
    · exact h.readXml_handled harchive hmembers hreached hfails
  · obtain ⟨root, resolved, -, rfl⟩ := sectionPaths_eq_ok hpaths
    exact absurd hread (extractTexts_ne_error fun path hmem => (List.mem_filter.mp hmem).2)

theorem Readable.buildResult_raises (h : Readable xml file) {extracted : List (String × List Char)}
    (hread : readPackage xml file = .ok extracted)
    (hbuild : buildResult extracted = .error failure) :
    failure.cls = .localHwpxTextExtractionError := by
  by_cases hempty : extracted.all (·.2.isEmpty) = true
  · rw [buildResult, raiseIf, if_pos hempty] at hbuild
    exact Except.error.inj hbuild ▸ rfl
  obtain ⟨archive, harchive, hread⟩ := bind_eq_ok.mp hread
  obtain ⟨members, hmembers, hread⟩ := bind_eq_ok.mp hread
  obtain ⟨paths, hpaths, hread⟩ := bind_eq_ok.mp hread
  obtain ⟨hfirst, htexts⟩ := extractTexts_eq_ok hread
  obtain ⟨root, resolved, hspine, rfl⟩ := sectionPaths_eq_ok hpaths
  obtain ⟨text, hmem, htext⟩ : ∃ text ∈ extracted, text.2 ≠ [] := by
    simpa using hempty
  have hpath {text : String × List Char} (hmem : text ∈ extracted) :
      text.1 ∈ resolved ∧ isSection xml archive text.1 = true :=
    List.mem_filter.mp (hfirst ▸ List.mem_map.mpr ⟨text, hmem, rfl⟩)
  obtain ⟨document, hdocument, hcontent⟩ := htexts text hmem
  obtain ⟨target, htarget, hsection⟩ := isSection_iff.mp (hpath hmem).2
  obtain rfl := Except.ok.inj (hdocument.symm.trans htarget)
  have hblank := h.named archive members root resolved harchive hmembers hspine
    ⟨text.1, (hpath hmem).1, document, hdocument, hsection, hcontent ▸ htext⟩
  obtain ⟨result, hresult⟩ := buildResult_of_valid ⟨text, hmem, htext⟩
    (fun other hother => hblank other.1 (hpath hother).1 (hpath hother).2) (by
      intro other hother hne
      obtain ⟨otherDocument, -, hother⟩ := htexts other hother
      rw [hother] at hne ⊢
      exact stripText_sectionText hne)
  rw [hresult] at hbuild
  cases hbuild

theorem Readable.readsPackage (h : validatePath casefold file = .ok () → Readable xml file) :
    ReadsPackage xml casefold file := by
  refine ⟨?_, ?_, ?_⟩
  · intro result hresult
    obtain ⟨⟨⟩, hpath, -⟩ := bind_eq_ok.mp hresult
    rw [extract_of_validatePath hpath] at hresult
    split at hresult
    · obtain ⟨-, hbuild⟩ := raiseIf_bind_eq_ok.mp hresult
      obtain ⟨assembly, -, hbuild⟩ := bind_eq_ok.mp hbuild
      obtain ⟨⟨⟩, hvalid, hbuild⟩ := bind_eq_ok.mp hbuild
      obtain rfl := Except.ok.inj hbuild
      exact hvalid
    · cases hresult
  · intro failure hfailure
    cases hpath : validatePath casefold file with
    | error raised =>
      rw [extract, hpath] at hfailure
      exact Except.error.inj hfailure ▸ validatePath_eq_error hpath
    | ok _ =>
      rw [extract_of_validatePath hpath] at hfailure
      split at hfailure
      · exact (h hpath).buildResult_raises ‹_› hfailure
      · rw [← Except.error.inj hfailure]
        exact cls_exceptClause.mpr ((h hpath).readPackage_handled ‹_›)
  · intro hpath archive members path harchive hmembers hreached
    obtain ⟨info, hinfo⟩ := exists_member hreached.mem
    have hname := ((h hpath).stored archive members path info harchive hmembers hreached hinfo).1
    refine ⟨isUnsafe_of_mem hmembers hinfo, info, hinfo, ?_⟩
    rw [archiveRead_of_mem hmembers hinfo, if_pos hname]

theorem ReadsPackage.handled (h : ReadsPackage xml casefold file)
    (hpath : validatePath casefold file = .ok ())
    (hread : readPackage xml file = .error failure) : Handled failure := by
  refine cls_exceptClause.mp (h.raises (exceptClause file.path failure) ?_)
  rw [extract_of_validatePath hpath, hread]

theorem readPackage_eq (harchive : file.archive = .ok archive)
    (hmembers : validateArchive archive = .ok members) :
    readPackage xml file = sectionPaths xml archive members >>= extractTexts xml archive := by
  rw [readPackage, harchive, ok_bind, hmembers, ok_bind]

theorem ReadsPackage.readable (h : ReadsPackage xml casefold file)
    (hpath : validatePath casefold file = .ok ()) : Readable xml file := by
  refine ⟨?_, ?_, ?_⟩
  · intro failure harchive
    exact h.handled hpath (by rw [readPackage, harchive, error_bind])
  · intro archive members path info harchive hmembers hreached hinfo
    have hraises {failure : Raised} (hread : readXml xml archive path = .error failure) :
        Handled failure := by
      refine h.handled hpath ?_
      rw [readPackage_eq harchive hmembers, hreached.sectionPaths_eq_error hread, error_bind]
    have hname : info.filename = path := by
      by_contra hne
      have hread : readXml xml archive path =
          .error ⟨.keyError, "There is no item named " ++ path ++ " in the archive"⟩ := by
        rw [readXml, archiveRead_of_mem hmembers hinfo, if_neg hne, error_bind]
      simpa [Handled, badZipFile] using hraises hread
    refine ⟨hname, fun failure hstored => hraises ?_⟩
    rw [readXml, archiveRead_of_mem hmembers hinfo, if_pos hname, hstored]
  · rintro archive members root resolved harchive hmembers hspine
      ⟨path, hmem, target, htarget, hsection, htext⟩ named hnamed hnamedSection
    have hpaths := hspine.sectionPaths_eq ⟨path, hmem, isSection_iff.mpr ⟨target, htarget, hsection⟩⟩
    cases hextract : extractTexts xml archive (resolved.filter (isSection xml archive)) with
    | error failure =>
      exact absurd hextract (extractTexts_ne_error fun path hmem => (List.mem_filter.mp hmem).2)
    | ok extracted =>
      obtain ⟨hfirst, htexts⟩ := extractTexts_eq_ok hextract
      have hread : readPackage xml file = .ok extracted := by
        rw [readPackage_eq harchive hmembers, hpaths, ok_bind, hextract]
      have hextracted {path : String} (hmem : path ∈ resolved)
          (hsection : isSection xml archive path = true) :
          ∃ text ∈ extracted, text.1 = path :=
        List.mem_map.mp (hfirst ▸ List.mem_filter.mpr ⟨hmem, hsection⟩)
      obtain ⟨text, hin, rfl⟩ := hextracted hmem (isSection_iff.mpr ⟨target, htarget, hsection⟩)
      obtain ⟨blank, hblank, rfl⟩ := hextracted hnamed hnamedSection
      obtain ⟨document, hdocument, hcontent⟩ := htexts text hin
      obtain rfl := Except.ok.inj (hdocument.symm.trans htarget)
      have hempty : ¬extracted.all (·.2.isEmpty) = true := by
        simp only [List.all_eq_true, not_forall]
        exact ⟨text, hin, by simpa [hcontent] using htext⟩
      cases hassemble : assembleAll ⟨[], 0, []⟩ extracted with
      | ok assembly => exact isBlank_of_assembleAll hassemble blank hblank
      | error failure =>
        have hbuild : buildResult extracted = .error failure := by
          rw [buildResult, raiseIf, if_neg hempty, ok_bind, hassemble, error_bind]
        have hown := h.raises failure (by
          rw [extract_of_validatePath hpath, hread]
          exact hbuild)
        rw [assembleAll_eq_error hassemble] at hown
        cases hown

end

/-- Extraction is total, and reads what it validated, exactly for packages that can be read under
the names they were validated under. -/
theorem readsPackage_iff (xml : XmlParser) (casefold : Casefold) (file : PackageFile) :
    ReadsPackage xml casefold file ↔ (validatePath casefold file = .ok () → Readable xml file) :=
  ⟨fun h hpath => h.readable hpath, Readable.readsPackage⟩

def backslashPackage : PackageFile :=
  ⟨"report.hwpx", true, true, ".hwpx", .ok [⟨"Contents\\content.hpf", 0, .ok []⟩]⟩

theorem backslashPackage_raises_keyError (xml : XmlParser) :
    extract xml asciiCasefold backslashPackage =
      .error ⟨.keyError, "There is no item named Contents/content.hpf in the archive"⟩ := by
  rfl

theorem not_readsPackage_backslashPackage :
    ¬ReadsPackage (fun _ => .ok ⟨"package", [], .nil⟩) asciiCasefold backslashPackage := by
  intro h
  cases h.raises _ (backslashPackage_raises_keyError _)

end AgenticLab.LocalHwpxTextExtractor
