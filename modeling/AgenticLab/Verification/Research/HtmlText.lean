import AgenticLab.Model.Research.HtmlText
import AgenticLab.Verification.Research.BoundedResearchPlanningLoop

/-! # Which characters of a source reach its sections -/

namespace AgenticLab.HttpHtmlResearchSourceReader

open Slices (slice)

/-! ## Characters that are no spaces -/

def nonspace (text : List Char) : List Char := text.filter fun character => !isSpace character

@[simp] theorem nonspace_nil : nonspace [] = [] := rfl

@[simp] theorem nonspace_append (first second : List Char) :
    nonspace (first ++ second) = nonspace first ++ nonspace second := List.filter_append ..

theorem nonspace_cons (character : Char) (text : List Char) :
    nonspace (character :: text) = nonspace [character] ++ nonspace text := by
  rw [← nonspace_append, List.singleton_append]

variable {text : List Char}

theorem nonspace_cons_of_space {character : Char}
    (h : isSpace character = true) : nonspace (character :: text) = nonspace text := by
  simp [nonspace, h]

theorem nonspace_eq_nil : nonspace text = [] ↔ ∀ character ∈ text, isSpace character = true := by
  simp [nonspace]

theorem nonspace_flatten (texts : List (List Char)) :
    nonspace texts.flatten = (texts.map nonspace).flatten := by
  induction texts with
  | nil => rfl
  | cons text texts ih => rw [List.flatten_cons, nonspace_append, ih, List.map_cons, List.flatten_cons]

theorem nonspace_dropWhile (text : List Char) :
    nonspace (text.dropWhile isSpace) = nonspace text := by
  have hspaces : nonspace (text.takeWhile isSpace) = [] :=
    nonspace_eq_nil.mpr fun _ => List.mem_takeWhile_imp
  calc nonspace (text.dropWhile isSpace)
      = nonspace (text.takeWhile isSpace) ++ nonspace (text.dropWhile isSpace) := by
        rw [hspaces, List.nil_append]
    _ = nonspace text := by rw [← nonspace_append, List.takeWhile_append_dropWhile]

theorem nonspace_reverse (text : List Char) : nonspace text.reverse = (nonspace text).reverse :=
  List.filter_reverse ..

@[simp] theorem nonspace_stripChars (text : List Char) :
    nonspace (stripChars text) = nonspace text := by
  rw [stripChars, nonspace_reverse, nonspace_dropWhile, nonspace_reverse, nonspace_dropWhile,
    List.reverse_reverse]

theorem stripChars_eq_nil : stripChars text = [] ↔ nonspace text = [] := by
  constructor
  · intro h
    rw [← nonspace_stripChars, h, nonspace_nil]
  · intro h
    rw [stripChars, List.dropWhile_eq_nil_iff.mpr (nonspace_eq_nil.mp h)]
    rfl

theorem nonspace_joinWith {separator : List Char} (h : nonspace separator = [])
    (parts : List (List Char)) : nonspace (joinWith separator parts) = nonspace parts.flatten := by
  induction parts with
  | nil => rfl
  | cons part parts ih =>
    cases parts with
    | nil => simp [joinWith]
    | cons next parts =>
      rw [joinWith, nonspace_append, nonspace_append, h, List.append_nil, ih, ← nonspace_append,
        ← List.flatten_cons]

theorem nonspace_splitOnP (text : List Char) :
    nonspace (text.splitOnP isSpace).flatten = nonspace text := by
  induction text with
  | nil => simp
  | cons character text ih =>
    rw [List.splitOnP_cons_eq_if_modifyHead]
    split
    case isTrue hspace =>
      rw [List.flatten_cons, List.nil_append, ih, nonspace_cons_of_space hspace]
    case isFalse =>
      obtain ⟨word, words, hsplit⟩ := List.exists_cons_of_ne_nil (List.splitOnP_ne_nil isSpace text)
      rw [hsplit] at ih ⊢
      rw [List.modifyHead_cons, List.flatten_cons, List.cons_append, nonspace_cons,
        ← List.flatten_cons, ih, ← nonspace_cons]

theorem nonspace_splitWords (text : List Char) :
    nonspace (splitWords text).flatten = nonspace text := by
  have hflatten : (splitWords text).flatten = (text.splitOnP isSpace).flatten := by
    rw [splitWords]
    exact List.flatten_filter_ne_nil
  rw [hflatten, nonspace_splitOnP]

theorem isSpace_of_isLineBreak {character : Char} (h : isLineBreak character = true) :
    isSpace character = true := by
  simp only [isLineBreak, List.mem_cons, List.not_mem_nil, or_false, decide_eq_true_eq] at h
  simp only [isSpace, Bool.or_eq_true, Bool.and_eq_true, decide_eq_true_eq, beq_iff_eq]
  omega

theorem flatten_consLine (character : Char) (lines : List (List Char)) :
    (consLine character lines).flatten = character :: lines.flatten := by
  cases lines <;> rfl

theorem nonspace_splitLines (text : List Char) :
    nonspace (splitLines text).flatten = nonspace text := by
  induction text using splitLines.induct with
  | case1 => rfl
  | case2 rest ih =>
    have hspaces : nonspace ['\r', '\n'] = [] := by decide
    rw [splitLines, List.flatten_cons, List.nil_append, ih, ← List.nil_append (nonspace rest),
      ← hspaces, ← nonspace_append]
    rfl
  | case3 character rest hpair hbreak ih =>
    rw [splitLines, if_pos hbreak, List.flatten_cons, List.nil_append, ih,
      nonspace_cons_of_space (isSpace_of_isLineBreak hbreak)]
    exact hpair
  | case4 character rest hpair hbreak ih =>
    rw [splitLines, if_neg hbreak, flatten_consLine, nonspace_cons, ih, ← nonspace_cons]
    exact hpair

namespace VisibleTextParser

theorem nonspace_endParagraph (current : List (List Char)) :
    nonspace (endParagraph current).flatten = nonspace current.flatten := by
  unfold endParagraph
  split
  case isTrue hnil => rw [hnil]
  case isFalse =>
    rw [List.flatten_singleton, nonspace_joinWith (by decide)]

theorem nonspace_paragraphs (current lines : List (List Char)) :
    nonspace (paragraphs current lines).flatten = nonspace (current ++ lines).flatten := by
  induction lines generalizing current with
  | nil => rw [paragraphs, nonspace_endParagraph, List.append_nil]
  | cons line lines ih =>
    rw [paragraphs]
    split
    case isTrue => rw [ih, List.append_assoc, List.singleton_append]
    case isFalse hblank =>
      rw [List.flatten_append, nonspace_append, nonspace_endParagraph, ih, not_not.mp hblank]
      simp

theorem nonspace_text (parser : VisibleTextParser) :
    nonspace parser.text = nonspace parser.parts.flatten := by
  rw [text, nonspace_stripChars, nonspace_joinWith (by decide), nonspace_paragraphs,
    List.nil_append, nonspace_flatten, List.map_map]
  have hline : nonspace ∘ (fun line => joinWith [' '] (splitWords line)) = nonspace := by
    funext line
    rw [Function.comp_apply, nonspace_joinWith (by decide), nonspace_splitWords]
  rw [hline, ← nonspace_flatten, nonspace_splitLines]

end VisibleTextParser

/-! ## Open elements -/

def updateOpen (opened : List String) : HtmlEvent → List String
  | .startTag tag => if tag ∈ ignoredTags then tag :: opened else opened
  | .endTag tag => if tag ∈ ignoredTags then opened.erase tag else opened
  | .data _ => opened

/-- The non-whitespace characters of the text events outside of every ignored element. -/
def outsideText (opened : List String) : List HtmlEvent → List Char
  | [] => []
  | .data text :: events =>
    (if opened = [] then nonspace text else []) ++ outsideText opened events
  | .startTag tag :: events => outsideText (updateOpen opened (.startTag tag)) events
  | .endTag tag :: events => outsideText (updateOpen opened (.endTag tag)) events

def updateDepth (depth : ℕ) : HtmlEvent → ℕ
  | .startTag tag => if tag ∈ ignoredTags then depth + 1 else depth
  | .endTag tag => if tag ∈ ignoredTags then depth - 1 else depth
  | .data _ => depth

def keptText (depth : ℕ) : List HtmlEvent → List Char
  | [] => []
  | .data text :: events => (if depth = 0 then nonspace text else []) ++ keptText depth events
  | .startTag tag :: events => keptText (updateDepth depth (.startTag tag)) events
  | .endTag tag :: events => keptText (updateDepth depth (.endTag tag)) events

namespace VisibleTextParser

@[simp] theorem ignoredDepth_handle (parser : VisibleTextParser) (event : HtmlEvent) :
    (parser.handle event).ignoredDepth = updateDepth parser.ignoredDepth event := by
  cases event <;> simp only [handle, updateDepth] <;> split_ifs <;> rfl

theorem parts_handle (parser : VisibleTextParser) (event : HtmlEvent) (events : List HtmlEvent) :
    nonspace (parser.handle event).parts.flatten ++
        keptText (updateDepth parser.ignoredDepth event) events =
      nonspace parser.parts.flatten ++ keptText parser.ignoredDepth (event :: events) := by
  have hbreak : nonspace ['\n'] = [] := by decide
  cases event with
  | startTag tag =>
    simp only [handle, keptText]
    split_ifs <;> simp [hbreak]
  | endTag tag =>
    simp only [handle, keptText]
    split_ifs <;> simp [hbreak]
  | data text =>
    simp only [handle, keptText, updateDepth]
    by_cases hdepth : parser.ignoredDepth = 0
    · by_cases htext : nonspace text = []
      · simp [hdepth, htext, stripChars_eq_nil]
      · simp [hdepth, htext, stripChars_eq_nil]
    · simp [hdepth]

theorem nonspace_feed (parser : VisibleTextParser) (events : List HtmlEvent) :
    nonspace (parser.feed events).parts.flatten =
      nonspace parser.parts.flatten ++ keptText parser.ignoredDepth events := by
  induction events generalizing parser with
  | nil => simp [feed, keptText]
  | cons event events ih =>
    calc nonspace (parser.feed (event :: events)).parts.flatten
        = nonspace ((parser.handle event).feed events).parts.flatten := rfl
      _ = nonspace (parser.handle event).parts.flatten ++
            keptText (updateDepth parser.ignoredDepth event) events := by
          rw [ih, ignoredDepth_handle]
      _ = nonspace parser.parts.flatten ++ keptText parser.ignoredDepth (event :: events) :=
          parts_handle parser event events

end VisibleTextParser

theorem nonspace_htmlToText (events : List HtmlEvent) :
    nonspace (htmlToText events) = keptText 0 events := by
  rw [htmlToText, VisibleTextParser.nonspace_text, VisibleTextParser.nonspace_feed]
  rfl

variable {depth : ℕ} {opened : List String}

theorem updateDepth_le (h : depth ≤ opened.length)
    (event : HtmlEvent) : updateDepth depth event ≤ (updateOpen opened event).length := by
  cases event with
  | startTag tag =>
    simp only [updateDepth, updateOpen]
    split_ifs <;> simp [h]
  | endTag tag =>
    simp only [updateDepth, updateOpen]
    split_ifs
    · have hlength := List.length_erase_add_one (a := tag) (l := opened)
      by_cases hmem : tag ∈ opened
      · have := hlength hmem
        omega
      · rw [List.erase_of_not_mem hmem]
        omega
    · exact h
  | data text => exact h

theorem length_outsideText_le (h : depth ≤ opened.length) (events : List HtmlEvent) :
    (outsideText opened events).length ≤ (keptText depth events).length := by
  induction events generalizing depth opened with
  | nil => exact le_refl _
  | cons event events ih =>
    cases event with
    | startTag tag => exact ih (updateDepth_le h (.startTag tag))
    | endTag tag => exact ih (updateDepth_le h (.endTag tag))
    | data text =>
      have hrest := ih h
      simp only [outsideText, keptText, List.length_append]
      by_cases hopened : opened = []
      · have hdepth : depth = 0 := by simpa [hopened] using h
        simp only [hopened, hdepth, if_true] at hrest ⊢
        omega
      · simp only [hopened, if_false, List.length_nil]
        omega

theorem keptText_eq_iff (h : depth ≤ opened.length) (events : List HtmlEvent) :
    keptText depth events = outsideText opened events ↔
      ∀ before text after, events = before ++ .data text :: after → nonspace text ≠ [] →
        before.foldl updateOpen opened ≠ [] → 0 < before.foldl updateDepth depth := by
  induction events generalizing depth opened with
  | nil => simp [keptText, outsideText]
  | cons event events ih =>
    have hstep := ih (updateDepth_le h event)
    have hcut : (∀ before text after, event :: events = before ++ .data text :: after →
        nonspace text ≠ [] → before.foldl updateOpen opened ≠ [] →
          0 < before.foldl updateDepth depth) ↔
        (∀ text, event = .data text → nonspace text ≠ [] → opened ≠ [] → 0 < depth) ∧
          ∀ before text after, events = before ++ .data text :: after → nonspace text ≠ [] →
            before.foldl updateOpen (updateOpen opened event) ≠ [] →
              0 < before.foldl updateDepth (updateDepth depth event) := by
      constructor
      · intro hall
        refine ⟨fun text hevent => hall [] text events (by rw [hevent]; rfl), ?_⟩
        intro before text after hevents
        exact hall (event :: before) text after (by rw [hevents]; rfl)
      · rintro ⟨hfirst, hlater⟩ before text after hevents
        cases before with
        | nil => exact hfirst text (List.cons.inj hevents).1
        | cons head before =>
          obtain ⟨rfl, hrest⟩ := List.cons.inj hevents
          exact hlater before text after hrest
    rw [hcut, ← hstep]
    cases event with
    | startTag tag => simp [keptText, outsideText]
    | endTag tag => simp [keptText, outsideText]
    | data text =>
      simp only [keptText, outsideText, updateDepth, updateOpen, HtmlEvent.data.injEq, forall_eq']
      by_cases hopened : opened = []
      · have hdepth : depth = 0 := by simpa [hopened] using h
        simp [hopened, hdepth]
      · by_cases hdepth : depth = 0
        · by_cases htext : nonspace text = []
          · simp [hopened, htext]
          · simp only [hdepth, hopened, if_true, if_false, List.nil_append, htext,
              not_false_eq_true, ne_eq, lt_irrefl, imp_false, not_true, false_and, iff_false]
            intro heq
            have hlength := congrArg List.length heq
            have hle := length_outsideText_le h events
            have hpos := List.length_pos_iff.mpr htext
            rw [List.length_append] at hlength
            rw [hdepth] at hle
            omega
        · simp [hopened, hdepth, Nat.pos_of_ne_zero hdepth]

def tagBalance : HtmlEvent → ℤ
  | .startTag tag => if tag ∈ ignoredTags then 1 else 0
  | .endTag tag => if tag ∈ ignoredTags then -1 else 0
  | .data _ => 0

def balance (events : List HtmlEvent) : ℤ := (events.map tagBalance).sum

theorem balance_concat (events : List HtmlEvent) (event : HtmlEvent) :
    balance (events ++ [event]) = balance events + tagBalance event := by
  simp [balance]

theorem le_depth_iff (events : List HtmlEvent) {level : ℕ} (h : 1 ≤ level) :
    level ≤ events.foldl updateDepth 0 ↔
      ∃ recent, recent <:+ events ∧ (level : ℤ) ≤ balance recent := by
  induction events using List.reverseRecOn generalizing level with
  | nil =>
    simp only [List.foldl_nil, List.suffix_nil, exists_eq_left, balance, List.map_nil, List.sum_nil]
    omega
  | append_singleton events event ih =>
    have hsuffix : (∃ recent, recent <:+ events ++ [event] ∧ (level : ℤ) ≤ balance recent) ↔
        ∃ recent, recent <:+ events ∧ (level : ℤ) ≤ balance recent + tagBalance event := by
      constructor
      · rintro ⟨recent, hrecent, hlevel⟩
        rcases List.suffix_concat_iff.mp hrecent with rfl | ⟨rest, rfl, hrest⟩
        · simp only [balance, List.map_nil, List.sum_nil] at hlevel
          omega
        · exact ⟨rest, hrest, by rwa [← balance_concat]⟩
      · rintro ⟨recent, hrecent, hlevel⟩
        refine ⟨recent ++ [event], List.suffix_concat_iff.mpr (.inr ⟨recent, rfl, hrecent⟩), ?_⟩
        rwa [balance_concat]
    rw [hsuffix, List.foldl_append, List.foldl_cons, List.foldl_nil]
    cases event with
    | startTag tag =>
      simp only [updateDepth, tagBalance]
      split_ifs
      · rcases Nat.lt_or_ge level 2 with hone | htwo
        · refine iff_of_true (by omega) ⟨[], List.nil_suffix, ?_⟩
          simp only [balance, List.map_nil, List.sum_nil]
          omega
        · rw [← Nat.sub_le_iff_le_add, ih (by omega)]
          refine exists_congr fun recent => and_congr_right fun _ => ?_
          omega
      · simp only [add_zero]
        exact ih h
    | endTag tag =>
      simp only [updateDepth, tagBalance]
      split_ifs
      · have hshift (depth : ℕ) : level ≤ depth - 1 ↔ level + 1 ≤ depth := by omega
        rw [hshift, ih (by omega)]
        refine exists_congr fun recent => and_congr_right fun _ => ?_
        push_cast
        omega
      · simp only [add_zero]
        exact ih h
    | data text =>
      simp only [updateDepth, tagBalance, add_zero]
      exact ih h

/-- Every text inside an ignored element follows more start tags than end tags of such elements,
counted from some place on. -/
def HiddenTextsCounted (events : List HtmlEvent) : Prop :=
  ∀ before text after, events = before ++ .data text :: after → nonspace text ≠ [] →
    before.foldl updateOpen [] ≠ [] → ∃ recent, recent <:+ before ∧ 0 < balance recent

theorem htmlToText_iff (events : List HtmlEvent) :
    nonspace (htmlToText events) = outsideText [] events ↔ HiddenTextsCounted events := by
  rw [nonspace_htmlToText, keptText_eq_iff (le_refl 0)]
  refine forall_congr' fun before => forall_congr' fun text => forall_congr' fun after =>
    forall_congr' fun _ => forall_congr' fun _ => forall_congr' fun _ => ?_
  exact le_depth_iff before (le_refl 1)

/-! ## Sections -/

theorem isBlank_formatSectionId (order : ℕ) : isBlank (formatSectionId order) = false :=
  isBlank_append (by decide)

variable {order start : ℕ}

theorem newSection_eq_ok {paragraph : List Char} (horder : 1 ≤ order)
    (hblank : stripChars paragraph ≠ []) :
    newSection ⟨formatSectionId order, none, paragraph, order, start, start + paragraph.length, []⟩ =
      .ok ⟨formatSectionId order, none, paragraph, order, start, start + paragraph.length, []⟩ := by
  have hlength : 0 < paragraph.length := by
    rw [List.length_pos_iff]
    rintro rfl
    exact hblank rfl
  have hid := isBlank_formatSectionId order
  have hstop : ¬start + paragraph.length < 1 := by omega
  have hrange : ¬start + paragraph.length ≤ start := by omega
  simp [newSection, raiseIf, hid, hblank, hstop, hrange, Nat.pos_iff_ne_zero.mp horder,
    validateMetadata]

variable {content paragraph : List Char}

theorem find_of_starts
    (h : paragraph <+: content.drop start) : find content paragraph start = some start := by
  unfold find findIn
  exact if_pos h

/-- What the sections of a text are, from the place `before` on. -/
structure SectionsOf (content : List Char) (built before : ℕ)
    (sections : List ResearchSourceDocumentSection) : Prop where
  ranges : ∀ documentSection ∈ sections, before ≤ documentSection.startCharacter ∧
    documentSection.startCharacter < documentSection.endCharacter ∧
    documentSection.endCharacter ≤ content.length ∧
    slice content documentSection.startCharacter documentSection.endCharacter =
      documentSection.content
  increasing : sections.Pairwise fun first second => first.endCharacter ≤ second.startCharacter
  orders : sections.map (·.order) = List.range' (built + 1) sections.length
  ids : sections.map (·.sectionId) = (sections.map (·.order)).map formatSectionId
  covers : nonspace (content.drop before) = nonspace (sections.map (·.content)).flatten

variable {content : List Char} {built before later : ℕ}
  {sections : List ResearchSourceDocumentSection}

theorem SectionsOf.skip (h : SectionsOf content built later sections) (hle : before ≤ later)
    (hblank : nonspace (content.drop before) = nonspace (content.drop later)) :
    SectionsOf content built before sections where
  ranges := fun documentSection hmem =>
    ⟨hle.trans (h.ranges documentSection hmem).1, (h.ranges documentSection hmem).2⟩
  increasing := h.increasing
  orders := h.orders
  ids := h.ids
  covers := hblank.trans h.covers

theorem SectionsOf.cons
    (h : SectionsOf content (built + 1) later sections)
    (hparagraph : paragraph <+: content.drop before) (hne : paragraph ≠ [])
    (hlater : before + paragraph.length ≤ later)
    (hcovers : nonspace (content.drop before) =
      nonspace paragraph ++ nonspace (content.drop later)) :
    SectionsOf content built before
      (⟨formatSectionId (built + 1), none, paragraph, built + 1, before,
        before + paragraph.length, []⟩ :: sections) where
  ranges := by
    intro documentSection hmem
    rcases List.mem_cons.mp hmem with rfl | hmem
    · have hlength := hparagraph.length_le
      have hpos := List.length_pos_iff.mpr hne
      rw [List.length_drop] at hlength
      refine ⟨le_refl _, by dsimp only; omega, by dsimp only; omega, ?_⟩
      rw [slice, Nat.add_sub_cancel_left]
      exact (List.prefix_iff_eq_take.mp hparagraph).symm
    · obtain ⟨hstart, hrest⟩ := h.ranges documentSection hmem
      exact ⟨by omega, hrest⟩
  increasing := List.pairwise_cons.mpr
    ⟨fun documentSection hmem => hlater.trans (h.ranges documentSection hmem).1, h.increasing⟩
  orders := by rw [List.map_cons, h.orders, List.length_cons, List.range'_succ]
  ids := by rw [List.map_cons, h.ids, List.map_cons, List.map_cons]
  covers := by rw [hcovers, h.covers, List.map_cons, List.flatten_cons, nonspace_append]

variable {built before : ℕ}

theorem sectionsOf_nil
    (h : nonspace (content.drop before) = []) : SectionsOf content built before [] where
  ranges := fun _ hmem => absurd hmem List.not_mem_nil
  increasing := List.Pairwise.nil
  orders := rfl
  ids := rfl
  covers := by rw [h]; rfl

theorem buildFrom_sectionsOf {paragraphs : List (List Char)} (hne : paragraphs ≠ [])
    (h : content.drop before = DoubledSeparator.join '\n' paragraphs) :
    ∃ sections, buildFrom content built before paragraphs = .ok sections ∧
      SectionsOf content built before sections := by
  induction paragraphs generalizing built before with
  | nil => exact absurd rfl hne
  | cons paragraph paragraphs ih =>
    have hfirst : paragraph <+: content.drop before ∧
        nonspace (content.drop before) =
          nonspace paragraph ++ nonspace (content.drop (before + paragraph.length + 2)) ∧
        (paragraphs ≠ [] → content.drop (before + paragraph.length + 2) =
          DoubledSeparator.join '\n' paragraphs) := by
      cases paragraphs with
      | nil =>
        have hend : content.drop (before + paragraph.length + 2) = [] := by
          have hlength := congrArg List.length h
          rw [List.length_drop, DoubledSeparator.join] at hlength
          exact List.drop_eq_nil_of_le (by omega)
        rw [h, hend, DoubledSeparator.join]
        exact ⟨List.prefix_refl _, by simp [DoubledSeparator.join], fun hnil => absurd rfl hnil⟩
      | cons next paragraphs =>
        rw [DoubledSeparator.join] at h
        have hrest : content.drop (before + paragraph.length + 2) =
            DoubledSeparator.join '\n' (next :: paragraphs) := by
          rw [Nat.add_assoc, ← List.drop_drop, h, ← List.drop_drop, List.drop_left]
          rfl
        refine ⟨h ▸ List.prefix_append _ _, ?_, fun _ => hrest⟩
        rw [hrest, h, nonspace_append, nonspace_cons_of_space (by decide),
          nonspace_cons_of_space (by decide)]
    obtain ⟨hstarts, hcovers, hrest⟩ := hfirst
    have hnext (following : ℕ) : ∃ sections,
        buildFrom content following (before + paragraph.length + 2) paragraphs = .ok sections ∧
          SectionsOf content following (before + paragraph.length + 2) sections := by
      by_cases hlast : paragraphs = []
      · subst hlast
        refine ⟨[], rfl, sectionsOf_nil ?_⟩
        rw [DoubledSeparator.join] at h
        have hlength := congrArg List.length h
        rw [List.length_drop] at hlength
        rw [List.drop_eq_nil_of_le (by omega), nonspace_nil]
      · exact ih hlast (hrest hlast)
    rw [buildFrom]
    split
    case isTrue hblank =>
      obtain ⟨sections, hbuild, hsections⟩ := hnext built
      refine ⟨sections, hbuild, hsections.skip (by omega) ?_⟩
      rw [hcovers, stripChars_eq_nil.mp hblank, List.nil_append]
    case isFalse hblank =>
      obtain ⟨sections, hbuild, hsections⟩ := hnext (built + 1)
      have hparagraph : paragraph ≠ [] := by
        rintro rfl
        exact hblank rfl
      rw [find_of_starts hstarts]
      simp only
      rw [newSection_eq_ok (Nat.le_add_left 1 built) hblank, ok_bind, hbuild, ok_bind]
      exact ⟨_, rfl, hsections.cons hstarts hparagraph (by omega) hcovers⟩

theorem buildSections_sectionsOf (content : List Char) :
    ∃ sections, buildSections content = .ok sections ∧ SectionsOf content 0 0 sections := by
  refine buildFrom_sectionsOf (DoubledSeparator.split_ne_nil content) ?_
  rw [List.drop_zero, DoubledSeparator.join_split]

/-! ## Documents -/

/-- `casefold` leaves lower-case letters, digits and hyphens as they are. -/
def KeepsLowercase (casefold : Casefold) : Prop :=
  ∀ text : String, (∀ character ∈ text.toList,
    character.isLower = true ∨ character.isDigit = true ∨ character = '-') → casefold text = text

theorem formatSectionId_toList (order : ℕ) :
    (formatSectionId order).toList = "section-".toList ++
      (List.replicate (3 - (Nat.toDigits 10 order).length) '0' ++ Nat.toDigits 10 order) := by
  rw [formatSectionId, String.toList_append, List.leftpad]
  exact congrArg _ String.toList_ofList

theorem isDigit_of_mem_padded {character : Char}
    (h : character ∈ List.replicate (3 - (Nat.toDigits 10 order).length) '0' ++
      Nat.toDigits 10 order) : character.isDigit = true := by
  rw [List.mem_append, List.mem_replicate] at h
  rcases h with ⟨-, rfl⟩ | hdigit
  · rfl
  · exact Nat.isDigit_of_mem_toDigits (by decide) (by decide) hdigit

theorem formatSectionId_injective : Function.Injective formatSectionId := by
  intro order other h
  rw [← String.toList_inj, formatSectionId_toList, formatSectionId_toList] at h
  have hdigits := congrArg (fun digits => Nat.ofDigitChars 10 digits 0) (List.append_cancel_left h)
  simpa only [Nat.ofDigitChars_append, Nat.ofDigitChars_replicate_zero, Nat.mul_zero,
    Nat.ofDigitChars_ten_toDigits] using hdigits

theorem strip_formatSectionId (order : ℕ) : strip (formatSectionId order) = formatSectionId order := by
  obtain ⟨digits, last, hlast⟩ : ∃ digits last, Nat.toDigits 10 order = digits ++ [last] := by
    rcases List.eq_nil_or_concat (Nat.toDigits 10 order) with hnil | ⟨digits, last, h⟩
    · exact absurd hnil Nat.toDigits_ne_nil
    · exact ⟨digits, last, by rw [h, List.concat_eq_append]⟩
  have hdigit : last.isDigit = true :=
    @isDigit_of_mem_padded order last (by rw [hlast]; simp)
  have hstarts : "section-".toList = 's' :: "ection-".toList := by decide
  have hshape : (formatSectionId order).toList = 's' :: ("ection-".toList ++
      (List.replicate (3 - (Nat.toDigits 10 order).length) '0' ++ digits)) ++ [last] := by
    rw [formatSectionId_toList, hstarts, hlast]
    simp
  exact strip_eq_self hshape (by decide) (isSpace_of_isDigit hdigit)

variable {casefold : Casefold}

theorem normalizeId_formatSectionId (h : KeepsLowercase casefold)
    (order : ℕ) : normalizeId casefold (formatSectionId order) = formatSectionId order := by
  rw [normalizeId, strip_formatSectionId]
  refine h _ fun character hmem => ?_
  rw [formatSectionId_toList, List.mem_append] at hmem
  rcases hmem with hletter | hdigit
  · have hall : ∀ character ∈ "section-".toList,
        character.isLower = true ∨ character.isDigit = true ∨ character = '-' := by
      simp
    exact hall character hletter
  · exact .inr (.inl (isDigit_of_mem_padded hdigit))

variable {document : ResearchSourceDocument}

theorem validateRanges_eq_ok
    (h : ∀ documentSection ∈ sections,
      documentSection.endCharacter ≤ document.content.length ∧
        slice document.content documentSection.startCharacter documentSection.endCharacter =
          documentSection.content) : document.validateRanges sections = .ok () := by
  induction sections with
  | nil => rfl
  | cons documentSection sections ih =>
    obtain ⟨hend, hcontent⟩ := h documentSection List.mem_cons_self
    rw [ResearchSourceDocument.validateRanges, raiseIf, if_neg (not_lt.mpr hend), ok_bind, raiseIf,
      if_neg (not_not.mpr hcontent), ok_bind]
    exact ih fun other hother => h other (List.mem_cons_of_mem _ hother)

theorem validateReadDocument_eq_ok (hcasefold : KeepsLowercase casefold)
    (hblank : stripChars document.content ≠ [])
    (herror : document.error = none) (hcharacters : document.characterCount = document.content.length)
    (hwords : document.wordCount = (splitWords document.content).length)
    (hsections : SectionsOf document.content 0 0 document.sections) :
    document.validateReadDocument casefold = .ok () := by
  have horders : (document.sections.map (·.order)).Nodup := by
    rw [hsections.orders]
    exact List.nodup_range'
  have hids : (document.sections.map fun documentSection =>
      normalizeId casefold documentSection.sectionId).Nodup := by
    have hmap : (document.sections.map fun documentSection =>
        normalizeId casefold documentSection.sectionId) =
        (document.sections.map (·.order)).map formatSectionId := by
      calc (document.sections.map fun documentSection =>
            normalizeId casefold documentSection.sectionId)
          = (document.sections.map (·.sectionId)).map (normalizeId casefold) := by
            rw [List.map_map]
            rfl
        _ = (document.sections.map (·.order)).map formatSectionId := by
            rw [hsections.ids, List.map_map]
            exact List.map_congr_left fun order _ => normalizeId_formatSectionId hcasefold order
    rw [hmap]
    exact horders.map formatSectionId_injective
  have hranges := validateRanges_eq_ok fun documentSection hmem =>
    (hsections.ranges documentSection hmem).2.2
  simp [ResearchSourceDocument.validateReadDocument, raiseIf, hblank, herror, hcharacters, hwords,
    hids, horders, hranges]

/-- The parser shows exactly the text outside of ignored elements if its counter covers every text
inside of one. The sections of a text always cover it and make a valid document. -/
theorem html_text_and_sections {casefold : Casefold} (hcasefold : KeepsLowercase casefold) :
    (∀ events, nonspace (htmlToText events) = outsideText [] events ↔ HiddenTextsCounted events) ∧
    ∀ content, ∃ sections, buildSections content = .ok sections ∧
      SectionsOf content 0 0 sections ∧
      (stripChars content ≠ [] → ∀ document : ResearchSourceDocument,
        document.content = content → document.sections = sections → document.error = none →
          document.characterCount = content.length →
          document.wordCount = (splitWords content).length →
            document.validateReadDocument casefold = .ok ()) := by
  refine ⟨htmlToText_iff, fun content => ?_⟩
  obtain ⟨sections, hbuild, hsections⟩ := buildSections_sectionsOf content
  refine ⟨sections, hbuild, hsections, ?_⟩
  rintro hblank document rfl rfl herror hcharacters hwords
  exact validateReadDocument_eq_ok hcasefold hblank herror hcharacters hwords hsections

theorem keepsLowercase_asciiCasefold : KeepsLowercase asciiCasefold :=
  fun _ htext => asciiCasefold_eq_self htext

theorem html_text_and_sections_ascii :
    ∃ sections, buildSections ['a', '\n', '\n', '\n', 'b'] = .ok sections ∧
      SectionsOf ['a', '\n', '\n', '\n', 'b'] 0 0 sections := by
  obtain ⟨sections, hbuild, hsections, -⟩ :=
    (html_text_and_sections keepsLowercase_asciiCasefold).2 ['a', '\n', '\n', '\n', 'b']
  exact ⟨sections, hbuild, hsections⟩

/-- An end tag of another kind reveals the text of an open element. -/
theorem htmlToText_reveals :
    nonspace (htmlToText [.startTag "template", .endTag "noscript", .data ['x'],
      .endTag "template"]) ≠
        outsideText [] [.startTag "template", .endTag "noscript", .data ['x'],
          .endTag "template"] := by
  decide +kernel

end AgenticLab.HttpHtmlResearchSourceReader
