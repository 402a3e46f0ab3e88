import AgenticLab.Model.Research.ParsedDocumentCache
import AgenticLab.Verification.StateFile

/-! # What the cache of parsed documents reads back -/

namespace AgenticLab

/-! ## Members -/

variable {fields : Fields} {name : String}

theorem nat?_of_lookup {value : ℕ}
    (h : fields.lookup name = some (.atom (.int value))) : fields.nat? name = some value := by
  simp [Fields.nat?, Fields.int?, h, jsonInt?]

theorem optionalStr?_of_lookup {value : Option String}
    (h : fields.lookup name = some (.atom (optionalStrAtom value))) :
    fields.optionalStr? name = some value := by
  cases value <;> simp [Fields.optionalStr?, h, optionalStrAtom]

theorem fromValue?_value (contentType : ResearchSourceContentType) :
    ResearchSourceContentType.fromValue? contentType.value = some contentType := by
  cases contentType <;> decide

theorem contentType?_of_lookup {contentType : ResearchSourceContentType}
    (h : fields.lookup name = some (.atom (.str contentType.value))) :
    fields.contentType? name = some contentType := by
  simp [Fields.contentType?, str?_of_lookup h, fromValue?_value]

theorem textDict?_value (members : List (String × String)) :
    textDict? (textDictValue members) = some members := by
  rw [textDictValue, textDict?]
  induction members with
  | nil => rfl
  | cons member members ih =>
    rw [List.map_cons, List.mapM_cons, ih]
    rfl

theorem parserIdentityFromJson_members (parser : ParsedDocumentParserIdentity) :
    parserIdentityFromJson (.obj parser.members) = some parser := by
  have hkeys : parser.members.map Prod.fst = parserIdentityFieldNames := rfl
  rw [parserIdentityFromJson, objectFields?_eq hkeys]
  have htype : parser.members.contentType? "content_type" = some parser.contentType :=
    contentType?_of_lookup rfl
  have hid : parser.members.str? "parser_id" = some parser.parserId := str?_of_lookup rfl
  have hrevision : parser.members.positiveInt? "parser_revision" = some parser.parserRevision :=
    positiveInt?_of_lookup rfl
  have hconfiguration : parser.members.str? "configuration_identity" =
      some parser.configurationIdentity := str?_of_lookup rfl
  have hdependency : parser.members.optionalStr? "dependency_identity" =
      some parser.dependencyIdentity := optionalStr?_of_lookup rfl
  simp only [Option.bind_eq_bind, Option.bind_some, htype, hid, hrevision, hconfiguration,
    hdependency]
  rw [dif_pos ⟨parser.parserId_nonblank, parser.configuration_nonblank, parser.dependency_nonblank⟩]

theorem cacheIdentityFromJson_members (identity : ParsedDocumentCacheIdentity) :
    cacheIdentityFromJson (.obj identity.members) = some identity := by
  have hkeys : identity.members.map Prod.fst = cacheIdentityFieldNames := rfl
  rw [cacheIdentityFromJson, objectFields?_eq hkeys]
  have hversion : identity.members.literal? "schema_version"
      (.int parsedDocumentCacheSchemaVersion) = some () := literal?_of_lookup rfl
  have hdigest : identity.members.digest? "raw_content_sha256" =
      some identity.rawContentSha256 := digest?_of_lookup rfl
  have hsize : identity.members.nat? "raw_file_size_bytes" = some identity.rawFileSizeBytes :=
    nat?_of_lookup rfl
  have hparser : (identity.members.lookup "parser").bind parserIdentityFromJson =
      some identity.parser := parserIdentityFromJson_members identity.parser
  simp only [Option.bind_eq_bind, Option.bind_some, Option.pure_def, hversion, hdigest, hsize,
    hparser]

theorem sectionFromJson_members (part : ResearchSourceDocumentSection) :
    sectionFromJson (.obj part.members) = some part := by
  have hkeys : part.members.map Prod.fst = sectionFieldNames := rfl
  rw [sectionFromJson, objectFields?_eq hkeys]
  have hid : part.members.str? "section_id" = some part.sectionId := str?_of_lookup rfl
  have hheading : part.members.optionalStr? "heading" = some part.heading :=
    optionalStr?_of_lookup rfl
  have hcontent : part.members.str? "content" = some part.content := str?_of_lookup rfl
  have horder : part.members.nat? "order" = some part.order := nat?_of_lookup rfl
  have hstart : part.members.nat? "start_character" = some part.startCharacter :=
    nat?_of_lookup rfl
  have hend : part.members.nat? "end_character" = some part.endCharacter := nat?_of_lookup rfl
  have hmetadata : (part.members.lookup "metadata").bind textDict? = some part.sectionMetadata :=
    textDict?_value part.sectionMetadata
  simp only [Option.bind_eq_bind, Option.bind_some, hid, hheading, hcontent, horder, hstart, hend,
    hmetadata]
  rw [dif_pos part.valid]

theorem sectionsFromJson_members (sections : List ResearchSourceDocumentSection) :
    sectionsFromJson (.arr (sections.map fun part => .obj part.members)) = some sections := by
  rw [sectionsFromJson]
  induction sections with
  | nil => rfl
  | cons part sections ih =>
    rw [List.map_cons, List.mapM_cons, ih, sectionFromJson_members]
    rfl

section

variable {casefold : Casefold}

theorem documentFromJson_members (document : ParsedLocalDocument casefold) :
    documentFromJson casefold (.obj document.members) = some document := by
  have hkeys : document.members.map Prod.fst = documentFieldNames := rfl
  rw [documentFromJson, objectFields?_eq hkeys]
  have hcontent : document.members.str? "content" = some document.content := str?_of_lookup rfl
  have htype : document.members.contentType? "content_type" = some document.contentType :=
    contentType?_of_lookup rfl
  have hsections : (document.members.lookup "sections").bind sectionsFromJson =
      some document.sections := sectionsFromJson_members document.sections
  have hmetadata : (document.members.lookup "format_metadata").bind textDict? =
      some document.formatMetadata := textDict?_value document.formatMetadata
  simp only [Option.bind_eq_bind, Option.bind_some, hcontent, htype, hsections, hmetadata]
  rw [dif_pos document.valid]

theorem cacheEntryFromJson_members (entry : ParsedDocumentCacheEntry casefold) :
    cacheEntryFromJson casefold (.obj entry.members) = some entry := by
  have hkeys : entry.members.map Prod.fst = cacheEntryFieldNames := rfl
  rw [cacheEntryFromJson, objectFields?_eq hkeys]
  have hversion : entry.members.literal? "schema_version"
      (.int parsedDocumentCacheSchemaVersion) = some () := literal?_of_lookup rfl
  have hkey : entry.members.digest? "cache_key" = some entry.cacheKey := digest?_of_lookup rfl
  have hidentity : (entry.members.lookup "identity").bind cacheIdentityFromJson =
      some entry.identity := cacheIdentityFromJson_members entry.identity
  have hdocument : (entry.members.lookup "parsed_document").bind (documentFromJson casefold) =
      some entry.parsedDocument := documentFromJson_members entry.parsedDocument
  simp only [Option.bind_eq_bind, Option.bind_some, Option.pure_def, hversion, hkey, hidentity,
    hdocument]

theorem keysUnique_textDictValue {members : List (String × String)}
    (h : isTextDict members = true) : (textDictValue members).keysUnique = true := by
  have hatoms : ∀ members : List (String × String), Json.membersKeysUnique
      (members.map fun member => (member.1, .atom (.str member.2))) = true := by
    intro members
    induction members with
    | nil => rfl
    | cons member members ih => rw [List.map_cons, Json.membersKeysUnique, ih]; rfl
  rw [isTextDict, Bool.and_eq_true] at h
  rw [textDictValue, Json.Value.keysUnique, hatoms, Bool.and_true, List.map_map]
  exact h.1

theorem keysUnique_section (part : ResearchSourceDocumentSection) :
    (Json.Value.obj part.members).keysUnique = true := by
  have hmetadata : isTextDict part.sectionMetadata = true := by
    have hvalid := part.valid
    rw [validateSection, Bool.and_eq_true] at hvalid
    exact hvalid.2
  simp [ResearchSourceDocumentSection.members, Json.Value.keysUnique, Json.membersKeysUnique,
    keysUnique_textDictValue hmetadata]

theorem keysUnique_document (document : ParsedLocalDocument casefold) :
    (Json.Value.obj document.members).keysUnique = true := by
  have hmetadata : isTextDict document.formatMetadata = true := by
    have hvalid := document.valid
    rw [validateParsedDocument, Bool.and_eq_true] at hvalid
    exact hvalid.2
  have hsections : ∀ sections : List ResearchSourceDocumentSection, Json.itemsKeysUnique
      (sections.map fun part => .obj part.members) = true := by
    intro sections
    induction sections with
    | nil => rfl
    | cons part sections ih =>
      rw [List.map_cons, Json.itemsKeysUnique, ih, keysUnique_section, Bool.and_self]
  simp [ParsedLocalDocument.members, Json.Value.keysUnique, Json.membersKeysUnique,
    keysUnique_textDictValue hmetadata, hsections]

theorem keysUnique_entry (entry : ParsedDocumentCacheEntry casefold) :
    (Json.Value.obj entry.members).keysUnique = true := by
  have hatom : ∀ atom, (Json.Value.atom atom).keysUnique = true := fun _ => rfl
  have hidentity : (Json.Value.obj entry.identity.members).keysUnique = true := by
    simp [ParsedDocumentCacheIdentity.members, ParsedDocumentParserIdentity.members,
      Json.Value.keysUnique, Json.membersKeysUnique]
  rw [ParsedDocumentCacheEntry.members, Json.Value.keysUnique]
  simp [Json.membersKeysUnique, hatom, hidentity, keysUnique_document entry.parsedDocument]

end

end AgenticLab
