import AgenticLab.Verification.Research.HwpxSectionText

/-! # What is extracted from a package -/

namespace AgenticLab.LocalHwpxTextExtractor

open Slices (slice)

/-! ## Results -/

section

variable {xml : XmlParser} {archive : List ZipInfo} {members : List (String × ZipInfo)}
  {root : Element Char}

def isSection (xml : XmlParser) (archive : List ZipInfo) (packagePath : String) : Bool :=
  match readXml xml archive packagePath with
  | .ok target => decide (localName target.tag = "sec")
  | .error _ => false

theorem collectSections_eq_ok {itemIds paths : List String}
    (h : collectSections xml archive members root itemIds = .ok paths) :
    ∃ resolved : List String, itemIds.map (resolveReference members root) = resolved.map .ok ∧
      (∀ path ∈ resolved, ∃ target, readXml xml archive path = .ok target) ∧
      paths = resolved.filter (isSection xml archive) := by
  induction itemIds generalizing paths with
  | nil =>
    obtain rfl := Except.ok.inj h
    exact ⟨[], rfl, by simp, rfl⟩
  | cons itemId itemIds ih =>
    obtain ⟨packagePath, hresolve, h⟩ := bind_eq_ok.mp h
    obtain ⟨target, hread, h⟩ := bind_eq_ok.mp h
    obtain ⟨rest, hrest, h⟩ := bind_eq_ok.mp h
    obtain rfl := Except.ok.inj h
    obtain ⟨resolved, hresolved, hreads, rfl⟩ := ih hrest
    refine ⟨packagePath :: resolved, by rw [List.map_cons, List.map_cons, hresolve, hresolved],
      List.forall_mem_cons.mpr ⟨⟨target, hread⟩, hreads⟩, ?_⟩
    simp [List.filter_cons, isSection, hread]

structure SpineRead (xml : XmlParser) (archive : List ZipInfo) (members : List (String × ZipInfo))
    (root : Element Char) (resolved : List String) : Prop where
  member : contentHpfPath ∈ members.map Prod.fst
  content : readXml xml archive contentHpfPath = .ok root
  named : "" ∉ spineReferences root
  references : (spineReferences root).map (resolveReference members root) = resolved.map .ok
  targets : ∀ path ∈ resolved, ∃ target, readXml xml archive path = .ok target

variable {paths : List String}

theorem sectionPaths_eq_ok (h : sectionPaths xml archive members = .ok paths) :
    ∃ (root : Element Char) (resolved : List String),
      SpineRead xml archive members root resolved ∧
        paths = resolved.filter (isSection xml archive) := by
  obtain ⟨hmember, h⟩ := raiseIf_bind_eq_ok.mp h
  obtain ⟨root, hroot, h⟩ := bind_eq_ok.mp h
  obtain ⟨hspine, h⟩ := raiseIf_bind_eq_ok.mp h
  obtain ⟨collected, hcollected, h⟩ := bind_eq_ok.mp h
  obtain ⟨-, h⟩ := raiseIf_bind_eq_ok.mp h
  obtain rfl := Except.ok.inj h
  obtain ⟨resolved, hresolved, hreads, hpaths⟩ := collectSections_eq_ok hcollected
  exact ⟨root, resolved, ⟨not_not.mp hmember, hroot, (not_or.mp hspine).2, hresolved, hreads⟩,
    hpaths⟩

variable {extracted : List (String × List Char)}

theorem extractTexts_eq_ok (h : extractTexts xml archive paths = .ok extracted) :
    extracted.map Prod.fst = paths ∧ ∀ text ∈ extracted, ∃ document,
      readXml xml archive text.1 = .ok document ∧ text.2 = sectionText document := by
  induction paths generalizing extracted with
  | nil =>
    obtain rfl := Except.ok.inj h
    exact ⟨rfl, by simp⟩
  | cons packagePath paths ih =>
    obtain ⟨document, hread, h⟩ := bind_eq_ok.mp h
    obtain ⟨rest, hrest, h⟩ := bind_eq_ok.mp h
    obtain rfl := Except.ok.inj h
    obtain ⟨hpaths, htexts⟩ := ih hrest
    refine ⟨by rw [List.map_cons, hpaths], ?_⟩
    rw [List.forall_mem_cons]
    exact ⟨⟨document, hread, rfl⟩, htexts⟩

theorem newSection_eq_ok {fields textSection : LocalHwpxTextSection}
    (h : newSection fields = .ok textSection) : textSection = fields := by
  obtain ⟨-, h⟩ := raiseIf_bind_eq_ok.mp h
  obtain ⟨-, h⟩ := raiseIf_bind_eq_ok.mp h
  split_ifs at h
  · obtain ⟨-, h⟩ := raiseIf_bind_eq_ok.mp h
    obtain ⟨-, h⟩ := raiseIf_bind_eq_ok.mp h
    obtain ⟨-, h⟩ := raiseIf_bind_eq_ok.mp h
    exact (Except.ok.inj h).symm
  · obtain ⟨-, h⟩ := raiseIf_bind_eq_ok.mp h
    exact (Except.ok.inj h).symm

def Assembly.Ordered (assembly : Assembly) : Prop :=
  (∀ textSection ∈ assembly.sections,
    textSection.startCharacter ≤ textSection.endCharacter ∧
      textSection.endCharacter ≤ assembly.cursor) ∧
  assembly.sections.Pairwise fun earlier later => earlier.endCharacter ≤ later.startCharacter

variable {assembly next : Assembly}

theorem assembleSection_eq_ok {extracted : String × List Char}
    (h : assembleSection assembly extracted = .ok next) :
    ∃ textSection, next.sections = assembly.sections ++ [textSection] ∧
      (textSection.packagePath, textSection.content) = extracted ∧
      assembly.cursor ≤ textSection.startCharacter ∧
      textSection.startCharacter ≤ textSection.endCharacter ∧
      textSection.endCharacter = next.cursor := by
  obtain ⟨textSection, hnew, h⟩ := bind_eq_ok.mp h
  obtain rfl := Except.ok.inj h
  obtain rfl := newSection_eq_ok hnew
  refine ⟨_, rfl, rfl, ?_, Nat.le_add_right _ _, rfl⟩
  dsimp only
  split_ifs
  · exact Nat.le_add_right _ _
  · exact Nat.le_refl _

theorem Assembly.Ordered.step {extracted : String × List Char} (hordered : assembly.Ordered)
    (h : assembleSection assembly extracted = .ok next) : next.Ordered := by
  obtain ⟨textSection, hsections, -, hstart, hrange, hcursor⟩ := assembleSection_eq_ok h
  obtain ⟨hbounds, hpairwise⟩ := hordered
  rw [Ordered, hsections]
  constructor
  · intro other hmem
    rcases List.mem_append.mp hmem with hold | hnew
    · exact ⟨(hbounds other hold).1, by have := (hbounds other hold).2; omega⟩
    · rw [List.mem_singleton.mp hnew]
      exact ⟨hrange, hcursor.le⟩
  · refine List.pairwise_append.mpr ⟨hpairwise, List.pairwise_singleton _ _, ?_⟩
    intro earlier hearlier later hlater
    rw [List.mem_singleton.mp hlater]
    exact (hbounds earlier hearlier).2.trans hstart

theorem assembleAll_eq_ok {assembly final : Assembly}
    (hordered : assembly.Ordered) (h : assembleAll assembly extracted = .ok final) :
    final.Ordered ∧ final.sections.map (fun textSection =>
      (textSection.packagePath, textSection.content)) =
        assembly.sections.map (fun textSection =>
          (textSection.packagePath, textSection.content)) ++ extracted := by
  induction extracted generalizing assembly with
  | nil =>
    obtain rfl := Except.ok.inj h
    exact ⟨hordered, (List.append_nil _).symm⟩
  | cons text texts ih =>
    obtain ⟨next, hnext, hrest⟩ := bind_eq_ok.mp h
    obtain ⟨hfinal, hsections⟩ := ih (hordered.step hnext) hrest
    obtain ⟨textSection, hadded, htext, -⟩ := assembleSection_eq_ok hnext
    refine ⟨hfinal, ?_⟩
    rw [hsections, hadded, List.map_append, List.map_singleton, htext, List.append_assoc,
      List.singleton_append]

theorem validateRanges_eq_ok {content : List Char} {sections : List LocalHwpxTextSection}
    (h : validateRanges content sections = .ok ()) :
    ∀ textSection ∈ sections,
      slice content textSection.startCharacter textSection.endCharacter = textSection.content := by
  induction sections with
  | nil => simp
  | cons textSection sections ih =>
    obtain ⟨-, h⟩ := raiseIf_bind_eq_ok.mp h
    obtain ⟨hslice, h⟩ := raiseIf_bind_eq_ok.mp h
    exact List.forall_mem_cons.mpr ⟨not_not.mp hslice, ih h⟩

variable {result : LocalHwpxTextExtractionResult}

theorem buildResult_eq_ok (h : buildResult extracted = .ok result) :
    (∀ textSection ∈ result.sections, textSection.startCharacter ≤ textSection.endCharacter ∧
      slice result.content textSection.startCharacter textSection.endCharacter =
        textSection.content) ∧
    (result.sections.Pairwise fun earlier later => earlier.endCharacter ≤ later.startCharacter) ∧
    result.sections.map (fun textSection => (textSection.packagePath, textSection.content)) =
      extracted := by
  obtain ⟨-, h⟩ := raiseIf_bind_eq_ok.mp h
  obtain ⟨assembly, hassembly, h⟩ := bind_eq_ok.mp h
  obtain ⟨⟨⟩, hvalid, h⟩ := bind_eq_ok.mp h
  obtain rfl := Except.ok.inj h
  have hstart : Assembly.Ordered ⟨[], 0, []⟩ := ⟨by simp, List.Pairwise.nil⟩
  obtain ⟨⟨hbounds, hpairwise⟩, hsections⟩ := assembleAll_eq_ok hstart hassembly
  obtain ⟨-, hvalid⟩ := raiseIf_bind_eq_ok.mp hvalid
  obtain ⟨-, hvalid⟩ := raiseIf_bind_eq_ok.mp hvalid
  obtain ⟨-, hvalid⟩ := raiseIf_bind_eq_ok.mp hvalid
  obtain ⟨-, hvalid⟩ := raiseIf_bind_eq_ok.mp hvalid
  have hslices := validateRanges_eq_ok hvalid
  exact ⟨fun textSection hmem => ⟨(hbounds textSection hmem).1, hslices textSection hmem⟩,
    hpairwise, by simpa using hsections⟩

structure FromPackage (xml : XmlParser) (file : PackageFile)
    (result : LocalHwpxTextExtractionResult) : Prop where
  slices : ∀ textSection ∈ result.sections,
    textSection.startCharacter ≤ textSection.endCharacter ∧
      slice result.content textSection.startCharacter textSection.endCharacter = textSection.content
  disjoint : result.sections.Pairwise fun earlier later =>
    earlier.endCharacter ≤ later.startCharacter
  spine : ∃ (archive : List ZipInfo) (members : List (String × ZipInfo)) (root : Element Char)
      (resolved : List String), file.archive = .ok archive ∧
    validateArchive archive = .ok members ∧ readXml xml archive contentHpfPath = .ok root ∧
    (spineReferences root).map (resolveReference members root) = resolved.map .ok ∧
    result.sections.map (·.packagePath) = resolved.filter (isSection xml archive) ∧
    ∀ textSection ∈ result.sections, ∃ document,
      readXml xml archive textSection.packagePath = .ok document ∧
        textSection.content = sectionText document

theorem extract_fromPackage {casefold : Casefold} {file : PackageFile}
    (h : extract xml casefold file = .ok result) : FromPackage xml file result := by
  obtain ⟨⟨⟩, -, h⟩ := bind_eq_ok.mp h
  cases hread : readPackage xml file with
  | error failure =>
    rw [hread] at h
    cases h
  | ok extracted =>
    rw [hread] at h
    obtain ⟨hslices, hpairwise, hsections⟩ := buildResult_eq_ok h
    obtain ⟨archive, harchive, hread⟩ := bind_eq_ok.mp hread
    obtain ⟨members, hmembers, hread⟩ := bind_eq_ok.mp hread
    obtain ⟨paths, hpaths, hread⟩ := bind_eq_ok.mp hread
    obtain ⟨hfirst, htexts⟩ := extractTexts_eq_ok hread
    obtain ⟨root, resolved, hspine, rfl⟩ := sectionPaths_eq_ok hpaths
    refine ⟨hslices, hpairwise, archive, members, root, resolved, harchive, hmembers,
      hspine.content, hspine.references, ?_, ?_⟩
    · rw [← hfirst, ← hsections, List.map_map]
      rfl
    · intro textSection hmem
      exact htexts (textSection.packagePath, textSection.content)
        (hsections ▸ List.mem_map.mpr ⟨textSection, hmem, rfl⟩)

end

/-- The text elements of a section are extracted once and in their order exactly where each of
them that is not blank stands in one pair of a paragraph and a text element, or none of them in a
pair; and a result consists of the sections of the spine. -/
theorem section_text_once (root : Element Char) :
    ((sectionParts (isSpace ∘ Prod.fst) root.number).map (List.map Prod.fst) =
        sectionParts isSpace root ∧
      (ExtractedOnce isSpace root ↔ CoveredOnce (!isSpace ·) root) ∧
      (CoveredOnce (fun _ => true) root → ∃ pieces : List (List Char),
        pieces.flatten = root.nodes.insideText false ∧
          sectionText root = joinWith sectionSeparator
            ((pieces.map (stripText isSpace)).filter fun text => text ≠ []))) ∧
    ∀ (xml : XmlParser) (casefold : Casefold) (file : PackageFile)
      (result : LocalHwpxTextExtractionResult), extract xml casefold file = .ok result →
        FromPackage xml file result :=
  ⟨⟨sectionParts_number isSpace root, extractedOnce_iff, exists_pieces_of_coveredOnce⟩,
    fun _ _ _ _ => extract_fromPackage⟩

def nestedParagraphs : Element Char :=
  ⟨"{hp}sec", [], .element "{hp}p" []
    (.element "{hp}t" [] (.text "A".toList .nil)
      (.element "{hp}p" [] (.element "{hp}t" [] (.text "B".toList .nil) .nil) .nil)) .nil⟩

theorem nestedParagraphs_extracted_twice :
    ¬ExtractedOnce isSpace nestedParagraphs ∧
      sectionText nestedParagraphs = "AB\n\nB".toList := by
  constructor
  · unfold ExtractedOnce
    decide +kernel
  · decide +kernel

end AgenticLab.LocalHwpxTextExtractor
