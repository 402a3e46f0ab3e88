import AgenticLab.Verification.Rag.DocumentChunker

/-! # Paragraph chunks

What `chunk_document_by_paragraphs` puts into one chunk, and why no paragraph is lost. -/

namespace AgenticLab

open Slices (slice)
open Windows (windows)

namespace DocumentChunker

variable {μ : Type} {documentId text : String} {metadata : μ}

theorem isSpace_newline : isSpace '\n' = true := by decide

theorem isBlank_ofList {part : List Char} :
    isBlank (.ofList part) = true ↔ ∀ character ∈ part, isSpace character = true := by
  rw [isBlank_iff, String.toList_ofList]

structure IsParagraph (characters : List Char) (paragraph : ℕ × ℕ) : Prop where
  lt : paragraph.1 < paragraph.2
  le : paragraph.2 ≤ characters.length
  notBlank : isBlank (.ofList (slice characters paragraph.1 paragraph.2)) = false

theorem slice_middle (before part after : List Char) :
    slice (before ++ part ++ after) before.length (before.length + part.length) = part := by
  simp [slice]

variable {before part after : List Char}

theorem isParagraph_middle (hpart : isBlank (.ofList part) = false) :
    IsParagraph (before ++ part ++ after) (before.length, before.length + part.length) := by
  refine ⟨?_, ?_, ?_⟩
  · have hne : part ≠ [] := by
      rintro rfl
      exact absurd hpart (by decide)
    exact Nat.lt_add_of_pos_right (List.length_pos_of_ne_nil hne)
  · simp
  · rwa [slice_middle]

theorem join_cons_cons (part next : List Char) (parts : List (List Char)) :
    DoubledSeparator.join '\n' (part :: next :: parts) =
      part ++ ['\n', '\n'] ++ DoubledSeparator.join '\n' (next :: parts) := by
  simp [DoubledSeparator.join]

structure Spans (characters : List Char) (cursor : ℕ) (spans : List (ℕ × ℕ)) : Prop where
  paragraph : ∀ span ∈ spans, cursor ≤ span.1 ∧ IsParagraph characters span
  apart : spans.Pairwise fun span next => span.2 ≤ next.1
  covers : ∀ position character, cursor ≤ position → characters[position]? = some character →
    isSpace character = false → ∃ span ∈ spans, span.1 ≤ position ∧ position < span.2

theorem Spans.nil (characters : List Char) {cursor : ℕ} (h : characters.length ≤ cursor) :
    Spans characters cursor [] where
  paragraph _ hmem := absurd hmem List.not_mem_nil
  apart := .nil
  covers position character hle hget _ := by
    have hlt := (List.getElem?_eq_some_iff.mp hget).1
    omega

theorem Spans.cons {spans : List (ℕ × ℕ)}
    (h : Spans (before ++ part ++ after) (before.length + part.length + 2) spans)
    (hafter : ∀ character ∈ after.take 2, isSpace character = true) :
    Spans (before ++ part ++ after) before.length
      (if isBlank (.ofList part) then spans
        else (before.length, before.length + part.length) :: spans) := by
  have hbehind : ∀ position character, before.length + part.length ≤ position →
      (before ++ part ++ after)[position]? = some character → isSpace character = false →
      ∃ span ∈ spans, span.1 ≤ position ∧ position < span.2 := by
    intro position character hle hget hspace
    by_cases hfar : before.length + part.length + 2 ≤ position
    · exact h.covers position character hfar hget hspace
    · rw [List.getElem?_append_right (by simpa using hle)] at hget
      have hmem : character ∈ after.take 2 := by
        refine List.mem_of_getElem? (i := position - (before ++ part).length) ?_
        rw [List.getElem?_take_of_lt (by simp only [List.length_append]; omega)]
        exact hget
      rw [hafter character hmem] at hspace
      cases hspace
  have hparagraph : ∀ span ∈ spans, before.length + part.length ≤ span.1 ∧
      IsParagraph (before ++ part ++ after) span := by
    intro span hspan
    obtain ⟨hle, hspan⟩ := h.paragraph span hspan
    exact ⟨by omega, hspan⟩
  by_cases hblank : isBlank (.ofList part) = true
  · rw [if_pos hblank]
    refine ⟨fun span hspan => ?_, h.apart, fun position character hle hget hspace => ?_⟩
    · obtain ⟨hle, hspan⟩ := hparagraph span hspan
      exact ⟨by omega, hspan⟩
    · refine hbehind position character ?_ hget hspace
      by_contra hinside
      rw [List.getElem?_append_left (by simp only [List.length_append]; omega),
        List.getElem?_append_right hle] at hget
      rw [isBlank_ofList.mp hblank character (List.mem_of_getElem? hget)] at hspace
      cases hspace
  · rw [if_neg hblank]
    refine ⟨List.forall_mem_cons.mpr ⟨?_, fun span hspan => ?_⟩,
      List.pairwise_cons.mpr ⟨fun span hspan => (hparagraph span hspan).1, h.apart⟩,
      fun position character hle hget hspace => ?_⟩
    · exact ⟨le_rfl, isParagraph_middle (Bool.eq_false_iff.mpr hblank)⟩
    · obtain ⟨hle, hspan⟩ := hparagraph span hspan
      exact ⟨by omega, hspan⟩
    · by_cases hinside : position < before.length + part.length
      · exact ⟨_, List.mem_cons_self, hle, hinside⟩
      · obtain ⟨span, hspan, hcovers⟩ := hbehind position character (by omega) hget hspace
        exact ⟨span, List.mem_cons_of_mem _ hspan, hcovers⟩

theorem spansFrom_spec (parts : List (List Char)) (before : List Char) :
    Spans (before ++ DoubledSeparator.join '\n' parts) before.length
      (spansFrom before.length parts) := by
  induction parts generalizing before with
  | nil => exact Spans.nil _ (by simp [DoubledSeparator.join])
  | cons part parts ih =>
    cases parts with
    | nil =>
      have hrest : Spans (before ++ part ++ []) (before.length + part.length + 2) [] :=
        Spans.nil _ (by simp)
      have hspans := hrest.cons (by simp)
      rwa [List.append_nil] at hspans
    | cons next parts =>
      have hrest := ih (before ++ part ++ ['\n', '\n'])
      have hlength : (before ++ part ++ ['\n', '\n']).length =
          before.length + part.length + 2 := by simp [Nat.add_assoc]
      rw [hlength, List.append_assoc (before ++ part)] at hrest
      have hspans := hrest.cons (by
        simp only [List.cons_append, List.nil_append, List.take_succ_cons, List.take_zero,
          List.forall_mem_cons, List.not_mem_nil, false_implies, implies_true, and_true]
        exact ⟨isSpace_newline, isSpace_newline⟩)
      rw [join_cons_cons, List.append_assoc part, ← List.append_assoc before]
      exact hspans

theorem paragraphSpans_spec (text : String) : Spans text.toList 0 (paragraphSpans text) := by
  have hspans := spansFrom_spec (DoubledSeparator.split '\n' text.toList) []
  rwa [DoubledSeparator.join_split, List.nil_append] at hspans

/-! ## Ranges -/

structure Neighbours (text : String) (sizes : ChunkSizes) (range next : ℕ × ℕ) : Prop where
  starts : range.1 < next.1
  ends : range.2 < next.2
  overlap : range.2 - next.1 ≤ sizes.chunkOverlap
  shared : next.1 < range.2 → ∃ paragraph ∈ paragraphSpans text,
    sizes.chunkSize < paragraph.2 - paragraph.1 ∧ paragraph.1 ≤ range.1 ∧ next.2 ≤ paragraph.2

theorem Neighbours.of_le {sizes : ChunkSizes} {range next : ℕ × ℕ} (hrange : range.1 < range.2)
    (hle : range.2 ≤ next.1) (hnext : next.1 < next.2) : Neighbours text sizes range next :=
  ⟨by omega, by omega, by omega, fun hlt => by omega⟩

/-- The ranges that have been made of the paragraphs in `done`, which end ahead of `limit`. -/
structure Grouped (text : String) (sizes : ChunkSizes) (done : List (ℕ × ℕ))
    (ranges : List (ℕ × ℕ)) (current : Option (ℕ × ℕ)) (limit : ℕ) : Prop where
  valid : ∀ range ∈ ranges ++ current.toList, range.1 < range.2 ∧ range.2 ≤ limit ∧
    range.2 - range.1 ≤ sizes.chunkSize
  chain : ranges.IsChain (Neighbours text sizes)
  apart : ∀ range ∈ ranges, ∀ next ∈ current, range.2 ≤ next.1
  limit_le : limit ≤ text.length
  covers : ∀ paragraph ∈ done, ∀ position, paragraph.1 ≤ position → position < paragraph.2 →
    ∃ range ∈ ranges ++ current.toList, range.1 ≤ position ∧ position < range.2

section

variable {sizes : ChunkSizes} {done ranges : List (ℕ × ℕ)} {current : Option (ℕ × ℕ)}
  {limit : ℕ} {paragraph : ℕ × ℕ} {later : List (ℕ × ℕ)}

theorem isChain_append (h : ranges.IsChain (Neighbours text sizes))
    (hlater : later.IsChain (Neighbours text sizes))
    (hvalid : ∀ range ∈ ranges, range.1 < range.2) (hvalid' : ∀ next ∈ later, next.1 < next.2)
    (hle : ∀ range ∈ ranges, ∀ next ∈ later, range.2 ≤ next.1) :
    (ranges ++ later).IsChain (Neighbours text sizes) := by
  refine List.isChain_append.mpr ⟨h, hlater, fun range hrange next hnext => ?_⟩
  have hmem := List.mem_of_getLast? hrange
  have hmem' := List.mem_of_head? hnext
  exact .of_le (hvalid range hmem) (hle range hmem next hmem') (hvalid' next hmem')

theorem Grouped.appended (h : Grouped text sizes done ranges current limit) :
    Grouped text sizes done (ranges ++ current.toList) none limit where
  valid range hrange := h.valid range (by simpa using hrange)
  chain := by
    refine isChain_append h.chain ?_ (fun range hrange => (h.valid range ?_).1)
      (fun range hrange => (h.valid range ?_).1) fun range hrange next hnext =>
        h.apart range hrange next (by simpa using hnext)
    · cases current with
      | none => exact .nil
      | some range => exact .singleton range
    · exact List.mem_append_left _ hrange
    · exact List.mem_append_right _ hrange
  apart _ _ _ hnext := absurd hnext (by simp)
  limit_le := h.limit_le
  covers paragraph hparagraph position hle hlt := by
    simpa using h.covers paragraph hparagraph position hle hlt

theorem Grouped.add (h : Grouped text sizes done ranges none limit)
    (hparagraph : IsParagraph text.toList paragraph) (hlimit : limit ≤ paragraph.1)
    (hvalid : ∀ next ∈ later, paragraph.1 ≤ next.1 ∧ next.1 < next.2 ∧ next.2 ≤ paragraph.2 ∧
      next.2 - next.1 ≤ sizes.chunkSize)
    (hchain : later.IsChain (Neighbours text sizes))
    (hcovers : ∀ position, paragraph.1 ≤ position → position < paragraph.2 →
      ∃ next ∈ later, next.1 ≤ position ∧ position < next.2) :
    Grouped text sizes (done ++ [paragraph]) (ranges ++ later) none paragraph.2 := by
  have hlt := hparagraph.lt
  have hranges : ∀ range ∈ ranges, range.1 < range.2 ∧ range.2 ≤ limit ∧
      range.2 - range.1 ≤ sizes.chunkSize := fun range hrange => h.valid range (by simpa using hrange)
  refine ⟨fun range hrange => ?_, ?_, fun _ _ _ hnext => absurd hnext (by simp), ?_, ?_⟩
  · simp only [Option.toList_none, List.append_nil, List.mem_append] at hrange
    rcases hrange with hrange | hrange
    · obtain ⟨hrange, hle, hsize⟩ := hranges range hrange
      exact ⟨hrange, by omega, hsize⟩
    · obtain ⟨_, hrange, hle, hsize⟩ := hvalid range hrange
      exact ⟨hrange, hle, hsize⟩
  · refine isChain_append h.chain hchain (fun range hrange => (hranges range hrange).1)
      (fun next hnext => (hvalid next hnext).2.1) fun range hrange next hnext => ?_
    have hend := (hranges range hrange).2.1
    have hstart := (hvalid next hnext).1
    omega
  · have hle := hparagraph.le
    rwa [String.length_toList] at hle
  · intro other hother position hstart hend
    rw [List.mem_append, List.mem_singleton] at hother
    simp only [Option.toList_none, List.append_nil, List.mem_append]
    rcases hother with hother | rfl
    · obtain ⟨range, hrange, hposition⟩ := h.covers other hother position hstart hend
      simp only [Option.toList_none, List.append_nil] at hrange
      exact ⟨range, .inl hrange, hposition⟩
    · obtain ⟨next, hnext, hposition⟩ := hcovers position hstart hend
      exact ⟨next, .inr hnext, hposition⟩

theorem Grouped.start (h : Grouped text sizes done ranges none limit)
    (hparagraph : IsParagraph text.toList paragraph) (hlimit : limit ≤ paragraph.1)
    (hshort : paragraph.2 - paragraph.1 ≤ sizes.chunkSize) :
    Grouped text sizes (done ++ [paragraph]) ranges (some paragraph) paragraph.2 := by
  have hadd : Grouped text sizes (done ++ [paragraph]) (ranges ++ [paragraph]) none paragraph.2 :=
    h.add hparagraph hlimit (List.forall_mem_singleton.mpr ⟨le_rfl, hparagraph.lt, le_rfl, hshort⟩)
      (.singleton _) fun position hle hlt => ⟨paragraph, List.mem_singleton_self _, hle, hlt⟩
  refine ⟨fun range hrange => hadd.valid range (by simpa using hrange), h.chain,
    fun range hrange next hnext => ?_, hadd.limit_le, fun other hother position hle hlt => by
      simpa using hadd.covers other hother position hle hlt⟩
  have hend := (h.valid range (by simpa using hrange)).2.1
  rw [Option.mem_def, Option.some.injEq] at hnext
  rw [← hnext]
  omega

theorem Grouped.extend {range : ℕ × ℕ} (h : Grouped text sizes done ranges (some range) limit)
    (hparagraph : IsParagraph text.toList paragraph) (hlimit : limit ≤ paragraph.1)
    (hfits : paragraph.2 - range.1 ≤ sizes.chunkSize) :
    Grouped text sizes (done ++ [paragraph]) ranges (some (range.1, paragraph.2)) paragraph.2 := by
  have hlt := hparagraph.lt
  obtain ⟨hrange, hend, _⟩ := h.valid range (by simp)
  refine ⟨fun other hother => ?_, h.chain, fun other hother next hnext => ?_, ?_, ?_⟩
  · simp only [Option.toList_some, List.mem_append, List.mem_singleton] at hother
    rcases hother with hother | rfl
    · obtain ⟨hother, hle, hsize⟩ := h.valid other (List.mem_append_left _ hother)
      exact ⟨hother, by omega, hsize⟩
    · exact ⟨by dsimp only; omega, le_rfl, hfits⟩
  · rw [Option.mem_def, Option.some.injEq] at hnext
    rw [← hnext]
    exact h.apart other hother range rfl
  · have hle := hparagraph.le
    rwa [String.length_toList] at hle
  · intro other hother position hstart hstop
    rw [List.mem_append, List.mem_singleton] at hother
    simp only [Option.toList_some, List.mem_append, List.mem_singleton]
    rcases hother with hother | rfl
    · obtain ⟨found, hfound, hposition⟩ := h.covers other hother position hstart hstop
      simp only [Option.toList_some, List.mem_append, List.mem_singleton] at hfound
      rcases hfound with hfound | rfl
      · exact ⟨found, .inl hfound, hposition⟩
      · exact ⟨(found.1, paragraph.2), .inr rfl, hposition.1, by dsimp only; omega⟩
    · exact ⟨(range.1, other.2), .inr rfl, by dsimp only; omega, hstop⟩

def pieces (sizes : ChunkSizes) (paragraph : ℕ × ℕ) : List (ℕ × ℕ) :=
  (windows sizes.chunkSize sizes.chunkOverlap (paragraph.2 - paragraph.1) sizes.smaller 0).map
    fun window => (paragraph.1 + window.1, paragraph.1 + window.2)

theorem Grouped.addPieces (h : Grouped text sizes done ranges none limit)
    (hmem : paragraph ∈ paragraphSpans text) (hlimit : limit ≤ paragraph.1)
    (hlong : sizes.chunkSize < paragraph.2 - paragraph.1) :
    Grouped text sizes (done ++ [paragraph]) (ranges ++ pieces sizes paragraph) none
      paragraph.2 := by
  have hparagraph := ((paragraphSpans_spec text).paragraph paragraph hmem).2
  refine h.add hparagraph hlimit (fun next hnext => ?_) ?_ fun position hle hlt => ?_
  · obtain ⟨window, hwindow, rfl⟩ := List.mem_map.mp hnext
    obtain ⟨_, hlt, hle, hsize⟩ := Windows.bounds hwindow
    dsimp only
    omega
  · refine (List.isChain_map _).mpr (Windows.isChain.imp_of_mem_imp
      fun window next hwindow hnext hfollows => ?_)
    obtain ⟨_, hlt, hle, _⟩ := Windows.bounds hwindow
    obtain ⟨_, hlt', hle', _⟩ := Windows.bounds hnext
    have hstarts := hfollows.start_lt sizes.smaller
    have hoverlap := hfollows.overlap
    have hfurther := hfollows.further
    exact ⟨by dsimp only; omega, by dsimp only; omega, by dsimp only; omega,
      fun _ => ⟨paragraph, hmem, hlong, by dsimp only; omega, by dsimp only; omega⟩⟩
  · obtain ⟨window, hwindow, hstart, hend⟩ : ∃ window ∈ windows sizes.chunkSize
        sizes.chunkOverlap (paragraph.2 - paragraph.1) sizes.smaller 0,
        window.1 ≤ position - paragraph.1 ∧ position - paragraph.1 < window.2 :=
      Windows.covers (Nat.zero_le _) (by omega)
    exact ⟨_, List.mem_map_of_mem hwindow, by dsimp only; omega, by dsimp only; omega⟩

end

section

variable {sizes : ChunkSizes} {done ranges : List (ℕ × ℕ)} {current : Option (ℕ × ℕ)}
  {limit : ℕ}

theorem appendChunk_eq (hid : isBlank documentId = false) {range : ℕ × ℕ}
    (hlt : range.1 < range.2) (hle : range.2 ≤ text.length) :
    appendChunk documentId text metadata (chunksFrom documentId text metadata 0 ranges) range =
      .ok (chunksFrom documentId text metadata 0 (ranges ++ [range])) := by
  rw [appendChunk, newDocumentChunk_chunkAt hid hlt hle, ok_bind, chunksFrom_append,
    length_chunksFrom, Nat.zero_add]
  rfl

theorem appendCurrent_eq (hid : isBlank documentId = false)
    (h : Grouped text sizes done ranges current limit) :
    appendCurrent documentId text metadata
        ⟨chunksFrom documentId text metadata 0 ranges, current⟩ =
      .ok (chunksFrom documentId text metadata 0 (ranges ++ current.toList)) := by
  cases current with
  | none => simp [appendCurrent]
  | some range =>
    obtain ⟨hlt, hle, _⟩ := h.valid range (by simp)
    exact appendChunk_eq hid hlt (hle.trans h.limit_le)

theorem appendAll_eq (hid : isBlank documentId = false) (paragraphText : String) (offset : ℕ)
    {pieces : List (ℕ × ℕ)}
    (hpieces : ∀ piece ∈ pieces, piece.1 < piece.2 ∧ offset + piece.2 ≤ text.length)
    (ordinal : ℕ) (ranges : List (ℕ × ℕ)) :
    (chunksFrom documentId paragraphText metadata ordinal pieces).foldlM (fun chunks subchunk =>
        appendChunk documentId text metadata chunks
          (offset + subchunk.startChar, offset + subchunk.endChar))
        (chunksFrom documentId text metadata 0 ranges) =
      .ok (chunksFrom documentId text metadata 0
        (ranges ++ pieces.map fun piece => (offset + piece.1, offset + piece.2))) := by
  induction pieces generalizing ordinal ranges with
  | nil => simp [chunksFrom]
  | cons piece pieces ih =>
    obtain ⟨⟨hlt, hle⟩, hlater⟩ := List.forall_mem_cons.mp hpieces
    have hfirst : appendChunk documentId text metadata
        (chunksFrom documentId text metadata 0 ranges) (offset + piece.1, offset + piece.2) =
          .ok (chunksFrom documentId text metadata 0
            (ranges ++ [(offset + piece.1, offset + piece.2)])) :=
      appendChunk_eq hid (by dsimp only; omega) hle
    rw [chunksFrom, List.foldlM_cons]
    simp only [chunkAt]
    rw [hfirst, ok_bind, ih hlater, List.append_assoc, List.map_cons]
    rfl

variable (metadata) in
theorem addParagraph_spec (hid : isBlank documentId = false)
    (h : Grouped text sizes done ranges current limit) {paragraph : ℕ × ℕ}
    (hmem : paragraph ∈ paragraphSpans text) (hlimit : limit ≤ paragraph.1) :
    ∃ ranges' current', addParagraph documentId text metadata sizes.chunkSize sizes.chunkOverlap
        ⟨chunksFrom documentId text metadata 0 ranges, current⟩ paragraph =
          .ok ⟨chunksFrom documentId text metadata 0 ranges', current'⟩ ∧
      Grouped text sizes (done ++ [paragraph]) ranges' current' paragraph.2 := by
  have hparagraph := ((paragraphSpans_spec text).paragraph paragraph hmem).2
  have hlt := hparagraph.lt
  have hle : paragraph.2 ≤ text.length := by
    rw [← String.length_toList]
    exact hparagraph.le
  by_cases hlong : sizes.chunkSize < paragraph.2 - paragraph.1
  · refine ⟨_, none, ?_, h.appended.addPieces hmem hlimit hlong⟩
    have hlength : (textSlice text paragraph.1 paragraph.2).length = paragraph.2 - paragraph.1 :=
      length_textSlice hle
    have hnotBlank : isBlank (textSlice text paragraph.1 paragraph.2) = false := by
      rw [textSlice_eq]
      exact hparagraph.notBlank
    have hpieces : ∀ piece ∈ windows sizes.chunkSize sizes.chunkOverlap
        (paragraph.2 - paragraph.1) sizes.smaller 0,
        piece.1 < piece.2 ∧ paragraph.1 + piece.2 ≤ text.length := by
      intro piece hpiece
      obtain ⟨_, hlt, hle, _⟩ := Windows.bounds hpiece
      omega
    rw [addParagraph, if_pos (by omega), appendCurrent_eq hid h, ok_bind,
      chunkDocumentText_eq hid hnotBlank, ok_bind, hlength, appendAll_eq hid _ _ hpieces]
    rfl
  · rw [addParagraph, if_neg (by omega)]
    cases current with
    | none => exact ⟨ranges, some paragraph, rfl, h.start hparagraph hlimit (by omega)⟩
    | some range =>
      by_cases hfits : paragraph.2 - range.1 ≤ sizes.chunkSize
      · exact ⟨ranges, some (range.1, paragraph.2), by simp; omega,
          h.extend hparagraph hlimit hfits⟩
      · obtain ⟨hrange, hend, _⟩ := h.valid range (by simp)
        refine ⟨ranges ++ [range], some paragraph, ?_,
          h.appended.start hparagraph hlimit (by omega)⟩
        dsimp only
        rw [if_neg (by omega), appendChunk_eq hid hrange (hend.trans h.limit_le)]
        rfl

variable (metadata) in
theorem addParagraphs_spec (hid : isBlank documentId = false) {rest : List (ℕ × ℕ)}
    (h : Grouped text sizes done ranges current limit) (hrest : rest ⊆ paragraphSpans text)
    (hapart : rest.Pairwise fun span next => span.2 ≤ next.1)
    (hlimit : ∀ paragraph ∈ rest, limit ≤ paragraph.1) :
    ∃ ranges' current' limit', rest.foldlM
        (addParagraph documentId text metadata sizes.chunkSize sizes.chunkOverlap)
        ⟨chunksFrom documentId text metadata 0 ranges, current⟩ =
          .ok ⟨chunksFrom documentId text metadata 0 ranges', current'⟩ ∧
      Grouped text sizes (done ++ rest) ranges' current' limit' := by
  induction rest generalizing done ranges current limit with
  | nil => exact ⟨ranges, current, limit, rfl, by rwa [List.append_nil]⟩
  | cons paragraph rest ih =>
    obtain ⟨hfirst, hlater⟩ := List.pairwise_cons.mp hapart
    obtain ⟨ranges', current', hadd, hgrouped⟩ :=
      addParagraph_spec metadata hid h (hrest List.mem_cons_self)
        (hlimit paragraph List.mem_cons_self)
    obtain ⟨ranges'', current'', limit'', hrun, hend⟩ :=
      ih hgrouped (fun span hspan => hrest (List.mem_cons_of_mem _ hspan)) hlater hfirst
    refine ⟨ranges'', current'', limit'', ?_, ?_⟩
    · rw [List.foldlM_cons, hadd, ok_bind, hrun]
    · rwa [List.append_assoc] at hend

end

theorem chunkId_injective {ordinal ordinal' : ℕ}
    (h : documentId ++ ":chunk:" ++ BoundedResearchPlanningLoop.fourDigits ordinal =
      documentId ++ ":chunk:" ++ BoundedResearchPlanningLoop.fourDigits ordinal') :
    ordinal = ordinal' := by
  refine BoundedResearchPlanningLoop.fourDigits_injective ?_
  rw [← String.toList_inj] at h ⊢
  simp only [String.toList_append] at h
  exact List.append_cancel_left h

theorem nodup_chunkId {ordinal : ℕ} {ranges : List (ℕ × ℕ)} :
    ((chunksFrom documentId text metadata ordinal ranges).map (·.chunkId)).Nodup := by
  have heq : (chunksFrom documentId text metadata ordinal ranges).map (·.chunkId) =
      ((chunksFrom documentId text metadata ordinal ranges).map (·.ordinal)).map fun ordinal =>
        documentId ++ ":chunk:" ++ BoundedResearchPlanningLoop.fourDigits ordinal := by
    rw [List.map_map]
    refine List.map_congr_left fun chunk hchunk => ?_
    rw [(mem_chunksFrom hchunk).2]
    rfl
  rw [heq, map_ordinal_chunksFrom]
  exact List.Nodup.map (fun _ _ h => chunkId_injective h) List.nodup_range'

structure NextTo (text : String) (chunkSize chunkOverlap : ℤ) (chunk next : DocumentChunk μ) :
    Prop where
  starts : chunk.startChar < next.startChar
  ends : chunk.endChar < next.endChar
  overlap : (chunk.endChar : ℤ) - next.startChar ≤ chunkOverlap
  shared : next.startChar < chunk.endChar → ∃ paragraph ∈ paragraphSpans text,
    chunkSize < (paragraph.2 : ℤ) - paragraph.1 ∧ paragraph.1 ≤ chunk.startChar ∧
      next.endChar ≤ paragraph.2

structure CoversDocument (text : String) (chunkSize chunkOverlap : ℤ)
    (chunks : List (DocumentChunk μ)) : Prop where
  ordinals : chunks.map (·.ordinal) = List.range chunks.length
  ids : (chunks.map (·.chunkId)).Nodup
  texts : ∀ chunk ∈ chunks, chunk.text = textSlice text chunk.startChar chunk.endChar ∧
    chunk.endChar ≤ text.length ∧ (chunk.text.length : ℤ) ≤ chunkSize
  neighbours : chunks.IsChain (NextTo text chunkSize chunkOverlap)
  covers : ∀ position character, text.toList[position]? = some character →
    isSpace character = false →
    ∃ chunk ∈ chunks, chunk.startChar ≤ position ∧ position < chunk.endChar

variable (documentId metadata) in
theorem Grouped.coversDocument {sizes : ChunkSizes} {ranges : List (ℕ × ℕ)} {limit : ℕ}
    (h : Grouped text sizes (paragraphSpans text) ranges none limit) :
    CoversDocument text sizes.chunkSize sizes.chunkOverlap
      (chunksFrom documentId text metadata 0 ranges) where
  ordinals := by
    rw [map_ordinal_chunksFrom, length_chunksFrom, List.range_eq_range']
  ids := nodup_chunkId
  texts chunk hchunk := by
    obtain ⟨hmem, heq⟩ := mem_chunksFrom hchunk
    obtain ⟨hlt, hle, hsize⟩ := h.valid _ (by simpa using hmem)
    have hend := hle.trans h.limit_le
    have htext : chunk.text = textSlice text chunk.startChar chunk.endChar := by
      rw [heq]
      rfl
    have hlength : chunk.text.length = chunk.endChar - chunk.startChar := by
      rw [htext]
      exact length_textSlice hend
    refine ⟨htext, hend, ?_⟩
    rw [hlength]
    exact_mod_cast hsize
  neighbours := by
    refine (isChain_chunksFrom documentId text metadata 0 h.chain).imp fun chunk next hnext => ?_
    refine ⟨hnext.starts, hnext.ends, ?_, fun hlt => ?_⟩
    · have hoverlap := hnext.overlap
      simp only [rangeOf] at hoverlap
      omega
    · obtain ⟨paragraph, hmem, hlong, hstart, hend⟩ := hnext.shared hlt
      exact ⟨paragraph, hmem, by omega, hstart, hend⟩
  covers position character hget hspace := by
    obtain ⟨paragraph, hmem, hle, hlt⟩ :=
      (paragraphSpans_spec text).covers position character (Nat.zero_le _) hget hspace
    obtain ⟨range, hrange, hposition⟩ := h.covers paragraph hmem position hle hlt
    simp only [Option.toList_none, List.append_nil] at hrange
    rw [← map_rangeOf_chunksFrom documentId text metadata 0 ranges] at hrange
    obtain ⟨chunk, hchunk, rfl⟩ := List.mem_map.mp hrange
    exact ⟨chunk, hchunk, hposition⟩

/-- Paragraph chunking covers the document. -/
theorem chunkDocumentByParagraphs_covers {chunkSize chunkOverlap : ℤ} (metadata : μ)
    (hid : isBlank documentId = false) (htext : isBlank text = false) (hsize : 1 ≤ chunkSize)
    (hoverlap : 0 ≤ chunkOverlap) (hsmaller : chunkOverlap < chunkSize) :
    ∃ chunks, chunkDocumentByParagraphs documentId text chunkSize chunkOverlap metadata =
      .ok chunks ∧ CoversDocument text chunkSize chunkOverlap chunks := by
  obtain ⟨sizes, rfl, rfl⟩ : ∃ sizes : ChunkSizes, (sizes.chunkSize : ℤ) = chunkSize ∧
      (sizes.chunkOverlap : ℤ) = chunkOverlap :=
    ⟨⟨chunkSize.toNat, chunkOverlap.toNat, by omega⟩, by dsimp only; omega, by dsimp only; omega⟩
  have hstart : Grouped text sizes [] [] none 0 :=
    ⟨by simp, .nil, by simp, Nat.zero_le _, by simp⟩
  obtain ⟨ranges, current, limit, hrun, hgrouped⟩ :=
    addParagraphs_spec metadata hid hstart (List.Subset.refl _)
      (paragraphSpans_spec text).apart fun _ _ => Nat.zero_le _
  refine ⟨_, ?_, hgrouped.appended.coversDocument documentId metadata⟩
  rw [chunkDocumentByParagraphs, checkTexts_eq hid htext, ok_bind, checkSizes_eq, ok_bind]
  have hrun' : (paragraphSpans text).foldlM
      (addParagraph documentId text metadata sizes.chunkSize sizes.chunkOverlap) ⟨[], none⟩ =
        .ok ⟨chunksFrom documentId text metadata 0 ranges, current⟩ := hrun
  rw [hrun', ok_bind, appendCurrent_eq hid hgrouped]

theorem chunkDocumentByParagraphs_covers_mixed :
    ∃ chunks, chunkDocumentByParagraphs "document" "ab\n\ncd\n\nefghijklmn" 6 2 () = .ok chunks ∧
      CoversDocument "ab\n\ncd\n\nefghijklmn" 6 2 chunks :=
  chunkDocumentByParagraphs_covers () (by decide +kernel) (by decide +kernel) (by decide)
    (by decide) (by decide)

end DocumentChunker

end AgenticLab
