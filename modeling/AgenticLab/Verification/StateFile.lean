import AgenticLab.Library.Json.Text
import AgenticLab.Model.StateFile

/-! # State files are read back -/

namespace AgenticLab

variable {layout : Json.Layout} {value : Json.Value}

theorem jsonDumps_eq_ok {text : List Char} :
    jsonDumps layout value = .ok text ↔
      value.intsWithin maxStrDigits = true ∧ value.print layout 0 = text := by
  unfold jsonDumps
  split_ifs with h <;> simp [h]

theorem loadsNoDuplicateKeys_of_jsonDumps
    {text blanks : List Char} (h : jsonDumps layout value = .ok text)
    (hunique : value.keysUnique = true) (hblanks : ∀ c ∈ blanks, Json.isSpace c = true) :
    loadsNoDuplicateKeys (text ++ blanks) = some value := by
  obtain ⟨hints, rfl⟩ := jsonDumps_eq_ok.mp h
  rw [loadsNoDuplicateKeys, Json.parse_print layout 0 value hblanks]
  simp [hunique, hints]

section

variable {fields : Fields} {name : String}

theorem objectFields?_eq {names : List String} (h : fields.map Prod.fst = names) :
    objectFields? names (.obj fields) = some fields := by
  rw [objectFields?, h, if_pos (by simp)]

theorem positiveInt?_of_lookup {value : PositiveInt}
    (h : fields.lookup name = some (.atom (.int value.val))) :
    fields.positiveInt? name = some value := by
  simp [Fields.positiveInt?, Fields.int?, h, jsonInt?]

theorem str?_of_lookup {value : String} (h : fields.lookup name = some (.atom (.str value))) :
    fields.str? name = some value := by
  simp [Fields.str?, h, jsonStr?]

theorem keyId?_of_lookup {value : KeyId} (h : fields.lookup name = some (.atom (.str value.val))) :
    fields.keyId? name = some value := by
  simp [Fields.keyId?, str?_of_lookup h]

theorem digest?_of_lookup {value : Sha256Digest}
    (h : fields.lookup name = some (.atom (.str value.val))) :
    fields.digest? name = some value := by
  simp [Fields.digest?, str?_of_lookup h]

theorem datetime?_of_lookup {datetimes : DatetimeCodec} {value : UtcDatetime}
    (h : fields.lookup name = some (.atom (.str (datetimes.format value)))) :
    fields.datetime? datetimes name = some value := by
  simp [Fields.datetime?, str?_of_lookup h, datetimes.parse_format]

theorem literal?_of_lookup {expected : Json.Atom} (h : fields.lookup name = some (.atom expected)) :
    fields.literal? name expected = some () := by
  simp [Fields.literal?, h]

end

theorem digest_isShort (digest : Sha256Digest) : digest.val.length ≤ 512 := by
  have h := digest.property
  simp only [isValidSha256Digest, Bool.and_eq_true, beq_iff_eq] at h
  omega

theorem keyId_isShort (keyId : KeyId) : keyId.val.length ≤ 512 := by
  have h := keyId.property
  simp only [isValidKeyId, Bool.and_eq_true, decide_eq_true_eq] at h
  omega

/-! ## Whole files -/

namespace StateFormat

variable {State : Type} {format : StateFormat State}

/-- Documents are written and read as the same members, and fit into their file. -/
structure Lawful (format : StateFormat State) : Prop where
  fromJson_members : ∀ state, format.fromJson (.obj (format.members state)) = some state
  keysUnique : ∀ state, (Json.Value.obj (format.members state)).keysUnique = true
  fits : ∀ state, (Json.Value.obj (format.members state)).intsWithin maxStrDigits = true →
    (TextFile.encode ((Json.Value.obj (format.members state)).print Json.indented 0)).length <
      format.maxBytes

theorem fits_of_atoms (members : State → List (String × Json.Atom)) (names : List String)
    (hmembers : ∀ state, format.members state =
      (members state).map fun member => (member.1, .atom member.2))
    (hkeys : ∀ state, (members state).map Prod.fst = names) (hcount : names.length ≤ 14)
    (hnames : ∀ key ∈ names, key.length ≤ 40)
    (hshort : ∀ state, ∀ member ∈ members state, member.2.isShort = true)
    (hmax : 64 * 1024 ≤ format.maxBytes) (state : State)
    (hints : (Json.Value.obj (format.members state)).intsWithin maxStrDigits = true) :
    (TextFile.encode ((Json.Value.obj (format.members state)).print Json.indented 0)).length <
      format.maxBytes := by
  rw [hmembers] at hints ⊢
  have hkeyLength : ∀ member ∈ members state, member.1.length ≤ 40 := by
    intro member hmember
    exact hnames member.1 (hkeys state ▸ List.mem_map_of_mem hmember)
  have hlength : (members state).length ≤ 14 := by
    rw [← List.length_map Prod.fst, hkeys]
    exact hcount
  exact (Json.encode_print_members_length hlength hkeyLength (hshort state) hints).trans_le hmax

@[simp] theorem load_absent : format.load .absent = .ok none := rfl

variable {node : FileNode}

theorem load_eq_none : format.load node = .ok none ↔ node = .absent := by
  cases node with
  | absent => simp [load]
  | symlink => simp [load]
  | directory => simp [load]
  | regular content =>
    simp only [load, raiseIf_bind_eq_ok, reduceCtorEq, iff_false, not_and]
    intro _
    cases TextFile.decode content with
    | none => exact nofun
    | some text =>
      dsimp only
      cases (loadsNoDuplicateKeys text).bind format.fromJson with
      | none => exact nofun
      | some state => exact nofun

theorem isSymlinkOrDir_of_load {stored : Option State}
    (h : format.load node = .ok stored) : node.isSymlinkOrDir = false := by
  cases node with
  | absent => rfl
  | regular => rfl
  | symlink => simp [load] at h
  | directory => simp [load] at h

variable {state : State}

theorem Lawful.load_text (hlawful : format.Lawful) {text : List Char}
    (htext : format.text state = .ok text) :
    format.load (.regular (TextFile.encode (text ++ ['\n']))) = .ok (some state) := by
  have hload := loadsNoDuplicateKeys_of_jsonDumps htext (hlawful.keysUnique state)
    (List.all_eq_true.mp rfl : ∀ c ∈ ['\n'], Json.isSpace c = true)
  obtain ⟨hints, hprint⟩ := jsonDumps_eq_ok.mp htext
  have hfits := hlawful.fits state hints
  have hnewline : (TextFile.encode ['\n']).length = 1 := by decide
  have hsize : ¬format.maxBytes < (TextFile.encode (text ++ ['\n'])).length := by
    rw [← hprint, TextFile.encode_append, List.length_append]
    omega
  rw [load, raiseIf, if_neg hsize]
  simp only [ok_bind, TextFile.decode_encode, hload, Option.bind_some, hlawful.fromJson_members]
  rfl

theorem exportTo_of_text {text : List Char} (hnode : node.isSymlinkOrDir = false)
    (htext : format.text state = .ok text) (fault : Option ReplaceFault) :
    format.exportTo node state fault =
      ((match fault with
        | none => .ok ()
        | some _ => .error format.exportFailure),
        node.replace (TextFile.encode (text ++ ['\n'])) fault) := by
  rw [exportTo.eq_def, hnode, htext]
  rfl

theorem text_eq_error {failure : Raised} (h : format.text state = .error failure) :
    failure.cls = .valueError := by
  unfold text jsonDumps at h
  split_ifs at h
  exact Except.error.inj h ▸ rfl

theorem exportTo_eq_error {fault : Option ReplaceFault}
    {failure : Raised} (h : (format.exportTo node state fault).1 = .error failure) :
    failure = format.validationFailure ∨ failure = format.exportFailure ∨
      failure.cls = .valueError := by
  unfold exportTo at h
  split_ifs at h with hnode
  · exact .inl (Except.error.inj h).symm
  · cases htext : format.text state with
    | error raised =>
      rw [htext] at h
      exact .inr (.inr (Except.error.inj h ▸ text_eq_error htext))
    | ok text =>
      rw [htext] at h
      cases fault with
      | none => cases h
      | some fault => exact .inr (.inl (Except.error.inj h).symm)

/-- An export leaves its file alone and raises, or puts in place what is read back as the
state; it raises behind that when the directory cannot be synced. -/
theorem Lawful.exportTo_cases (hlawful : format.Lawful) (node : FileNode) (state : State)
    (fault : Option ReplaceFault) :
    ((∃ failure, (format.exportTo node state fault).1 = .error failure) ∧
        (format.exportTo node state fault).2 = node) ∨
      (fault ≠ some .beforeReplace ∧
        ((format.exportTo node state fault).1 = .ok () ↔ fault = none) ∧
        format.load (format.exportTo node state fault).2 = .ok (some state)) := by
  unfold exportTo
  cases hnode : node.isSymlinkOrDir with
  | true => exact .inl ⟨⟨_, rfl⟩, rfl⟩
  | false =>
    cases htext : format.text state with
    | error failure => exact .inl ⟨⟨_, rfl⟩, rfl⟩
    | ok text =>
      cases fault with
      | none => exact .inr ⟨nofun, iff_of_true rfl rfl, hlawful.load_text htext⟩
      | some fault =>
        cases fault with
        | beforeReplace => exact .inl ⟨⟨_, rfl⟩, rfl⟩
        | afterReplace => exact .inr ⟨nofun, iff_of_false nofun nofun, hlawful.load_text htext⟩

variable (format) in
/-- The value of a cell behind an export. -/
def cellAfter (stored : Option State) (call : State × Option ReplaceFault) : Option State :=
  if (format.text call.1).isOk ∧ call.2 ≠ some .beforeReplace then some call.1 else stored

/-- However its exports fail, a state file is one cell. -/
theorem Lawful.load_exports (hlawful : format.Lawful) {node : FileNode} {stored : Option State}
    (h : format.load node = .ok stored) (calls : List (State × Option ReplaceFault)) :
    format.load (calls.foldl (fun node call => (format.exportTo node call.1 call.2).2) node) =
      .ok (calls.foldl format.cellAfter stored) := by
  induction calls generalizing node stored with
  | nil => exact h
  | cons call calls ih =>
    obtain ⟨state, fault⟩ := call
    refine ih ?_
    have hnode := isSymlinkOrDir_of_load h
    cases htext : format.text state with
    | error failure => simpa [cellAfter, exportTo, hnode, htext, Except.isOk, Except.toBool]
    | ok text =>
      have hload := hlawful.load_text htext
      rcases fault with _ | _ | _ <;>
        simp [-TextFile.encode_append, cellAfter, exportTo_of_text hnode htext, htext, Except.isOk,
          Except.toBool, FileNode.replace, h, hload]

end StateFormat

theorem isValid_ascending : isValidSha256Digest
    "0123456789abcdef0123456789abcdef0123456789abcdef0123456789abcdef" = true := by
  decide

theorem isValid_descending : isValidSha256Digest
    "fedcba9876543210fedcba9876543210fedcba9876543210fedcba9876543210" = true := by
  decide

theorem log_length : 1 ≤ "log".length ∧ "log".length ≤ 128 := by decide

theorem logKey_length : 1 ≤ "log-key".length ∧ "log-key".length ≤ 128 := by decide

theorem isCalendarTime_newYear : isCalendarTime 2026 1 1 0 0 0 0 = true := by decide

theorem isCalendarTime_from : isCalendarTime 2026 7 1 0 0 0 0 = true := by decide

theorem isCalendarTime_until : isCalendarTime 2027 7 1 0 0 0 0 = true := by decide

end AgenticLab
