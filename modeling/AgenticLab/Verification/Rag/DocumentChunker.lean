import AgenticLab.Library.Slices
import AgenticLab.Model.Rag.DocumentChunker
import AgenticLab.Verification.Research.BoundedResearchPlanningLoop
import Mathlib.Data.List.Chain

/-! # Character chunks

The chunks of `chunk_document_text` are the overlapping windows of the text, so the text can be put
together from them again. -/

namespace AgenticLab

open Slices (slice)
open Windows (windows Follows reassemble)

theorem textSlice_eq (text : String) (start stop : ℕ) :
    textSlice text start stop = .ofList (slice text.toList start stop) := by
  rw [textSlice, slice, List.drop_take]

theorem toList_textSlice (text : String) (start stop : ℕ) :
    (textSlice text start stop).toList = slice text.toList start stop := by
  rw [textSlice_eq, String.toList_ofList]

theorem length_textSlice {text : String} {start stop : ℕ} (h : stop ≤ text.length) :
    (textSlice text start stop).length = stop - start := by
  rw [← String.length_toList, toList_textSlice, Slices.length_slice]
  rwa [String.length_toList]

theorem ne_empty_of_not_blank {text : String} (h : isBlank text = false) : text ≠ "" := by
  rintro rfl
  exact absurd h (by decide)

namespace DocumentChunker

variable {μ : Type} {documentId text : String} {metadata : μ}

/-! ## Chunks of given ranges -/

theorem newDocumentChunk_chunkAt {ordinal startChar endChar : ℕ} (hid : isBlank documentId = false)
    (hlt : startChar < endChar) (hle : endChar ≤ text.length) :
    newDocumentChunk (chunkAt documentId text metadata ordinal startChar endChar) =
      .ok (chunkAt documentId text metadata ordinal startChar endChar) := by
  have hlength : (textSlice text startChar endChar).length = endChar - startChar :=
    length_textSlice hle
  have hdocument : documentId.length ≠ 0 := by
    rw [Ne, String.length_eq_zero_iff]
    exact ne_empty_of_not_blank hid
  have hchunkId : (documentId ++ ":chunk:" ++
      BoundedResearchPlanningLoop.fourDigits ordinal).length ≠ 0 := by
    simp only [String.length_append]
    omega
  rw [newDocumentChunk]
  simp only [raiseIf_bind_eq_ok]
  simp only [chunkAt, hlength]
  refine ⟨?_, ?_, ?_, ?_, ?_, ?_, rfl⟩ <;> omega

variable (documentId text metadata) in
def chunksFrom (ordinal : ℕ) : List (ℕ × ℕ) → List (DocumentChunk μ)
  | [] => []
  | range :: ranges =>
    chunkAt documentId text metadata ordinal range.1 range.2 :: chunksFrom (ordinal + 1) ranges

def rangeOf (chunk : DocumentChunk μ) : ℕ × ℕ := (chunk.startChar, chunk.endChar)

section

variable {ordinal : ℕ} {ranges : List (ℕ × ℕ)}

@[simp] theorem length_chunksFrom :
    (chunksFrom documentId text metadata ordinal ranges).length = ranges.length := by
  induction ranges generalizing ordinal with
  | nil => rfl
  | cons range ranges ih => rw [chunksFrom, List.length_cons, List.length_cons, ih]

variable (documentId text metadata ordinal ranges) in
theorem map_rangeOf_chunksFrom :
    (chunksFrom documentId text metadata ordinal ranges).map rangeOf = ranges := by
  induction ranges generalizing ordinal with
  | nil => rfl
  | cons range ranges ih =>
    rw [chunksFrom, List.map_cons, ih]
    rfl

theorem map_ordinal_chunksFrom :
    (chunksFrom documentId text metadata ordinal ranges).map (·.ordinal) =
      List.range' ordinal ranges.length := by
  induction ranges generalizing ordinal with
  | nil => rfl
  | cons range ranges ih =>
    rw [chunksFrom, List.map_cons, ih, List.length_cons, List.range'_succ]
    rfl

theorem mem_chunksFrom {chunk : DocumentChunk μ}
    (h : chunk ∈ chunksFrom documentId text metadata ordinal ranges) :
    rangeOf chunk ∈ ranges ∧ chunk =
      chunkAt documentId text metadata chunk.ordinal chunk.startChar chunk.endChar := by
  induction ranges generalizing ordinal with
  | nil => exact absurd h List.not_mem_nil
  | cons range ranges ih =>
    rcases List.mem_cons.mp h with rfl | hlater
    · exact ⟨List.mem_cons_self, rfl⟩
    · exact ⟨List.mem_cons_of_mem _ (ih hlater).1, (ih hlater).2⟩

theorem chunksFrom_append {later : List (ℕ × ℕ)} :
    chunksFrom documentId text metadata ordinal (ranges ++ later) =
      chunksFrom documentId text metadata ordinal ranges ++
        chunksFrom documentId text metadata (ordinal + ranges.length) later := by
  induction ranges generalizing ordinal with
  | nil => rfl
  | cons range ranges ih =>
    rw [List.cons_append, chunksFrom, ih, chunksFrom, List.length_cons, List.cons_append,
      Nat.add_right_comm, Nat.add_assoc]

theorem map_toList_chunksFrom :
    (chunksFrom documentId text metadata ordinal ranges).map (·.text.toList) =
      ranges.map fun range => slice text.toList range.1 range.2 := by
  induction ranges generalizing ordinal with
  | nil => rfl
  | cons range ranges ih =>
    rw [chunksFrom, List.map_cons, List.map_cons, ih]
    exact congrArg (· :: _) (toList_textSlice text range.1 range.2)

variable (documentId text metadata ordinal) in
theorem isChain_chunksFrom {R : ℕ × ℕ → ℕ × ℕ → Prop} (h : ranges.IsChain R) :
    (chunksFrom documentId text metadata ordinal ranges).IsChain
      fun chunk next => R (rangeOf chunk) (rangeOf next) := by
  rw [← map_rangeOf_chunksFrom documentId text metadata ordinal ranges] at h
  exact (List.isChain_map rangeOf).mp h

end

theorem chunkLoop_eq (hid : isBlank documentId = false) (sizes : ChunkSizes)
    (startChar ordinal : ℕ) :
    chunkLoop documentId text sizes metadata startChar ordinal =
      .ok (chunksFrom documentId text metadata ordinal (windows sizes.chunkSize sizes.chunkOverlap
        text.length sizes.smaller startChar)) := by
  induction startChar using Windows.windows.induct sizes.chunkSize sizes.chunkOverlap text.length
    sizes.smaller generalizing ordinal with
  | case1 startChar hend =>
    rw [chunkLoop, windows, if_neg (by omega), if_pos hend]
    rfl
  | case2 startChar hnot hlast =>
    rw [chunkLoop, windows, if_pos (by omega), if_pos hlast, if_neg hnot, if_pos hlast,
      newDocumentChunk_chunkAt hid (by omega) le_rfl]
    rfl
  | case3 startChar hnot hmore ih =>
    have hsmaller := sizes.smaller
    rw [chunkLoop, windows, if_pos (by omega), if_neg hmore, if_neg hnot, if_neg hmore]
    dsimp only
    rw [newDocumentChunk_chunkAt hid (by omega) (by omega), ok_bind, ih]
    rfl

theorem checkTexts_eq (hid : isBlank documentId = false) (htext : isBlank text = false) :
    checkTexts documentId text = .ok () := by
  rw [checkTexts, raiseIf_bind_eq_ok, raiseIf_bind_eq_ok, raiseIf_eq_ok]
  exact ⟨by simp [hid], ne_empty_of_not_blank htext, by simp [htext]⟩

theorem checkSizes_eq (sizes : ChunkSizes) :
    checkSizes sizes.chunkSize sizes.chunkOverlap = .ok sizes := by
  have hsmaller := sizes.smaller
  rw [checkSizes, dif_neg (by omega), dif_neg (by omega), dif_neg (by omega)]
  rfl

theorem chunkDocumentText_eq (hid : isBlank documentId = false) (htext : isBlank text = false)
    (sizes : ChunkSizes) :
    chunkDocumentText documentId text sizes.chunkSize sizes.chunkOverlap metadata =
      .ok (chunksFrom documentId text metadata 0 (windows sizes.chunkSize sizes.chunkOverlap
        text.length sizes.smaller 0)) := by
  rw [chunkDocumentText, checkTexts_eq hid htext, ok_bind, checkSizes_eq, ok_bind, chunkLoop_eq hid]

/-- A chunk is followed by another one. -/
structure Precedes (chunkSize chunkOverlap : ℤ) (chunk next : DocumentChunk μ) : Prop where
  full : (chunk.text.length : ℤ) = chunkSize
  overlap : (chunk.endChar : ℤ) - next.startChar = chunkOverlap
  starts : chunk.startChar < next.startChar
  further : chunk.endChar < next.endChar

/-- Character chunking can be reversed. -/
theorem chunkDocumentText_reversible {chunkSize chunkOverlap : ℤ} (metadata : μ)
    (hid : isBlank documentId = false) (htext : isBlank text = false) (hsize : 1 ≤ chunkSize)
    (hoverlap : 0 ≤ chunkOverlap) (hsmaller : chunkOverlap < chunkSize) :
    ∃ chunks, chunkDocumentText documentId text chunkSize chunkOverlap metadata = .ok chunks ∧
      (∀ chunk ∈ chunks, chunk.text = textSlice text chunk.startChar chunk.endChar) ∧
      chunks.IsChain (Precedes chunkSize chunkOverlap) ∧
      reassemble chunkOverlap.toNat (chunks.map (·.text.toList)) = text.toList := by
  obtain ⟨sizes, rfl, rfl⟩ : ∃ sizes : ChunkSizes, (sizes.chunkSize : ℤ) = chunkSize ∧
      (sizes.chunkOverlap : ℤ) = chunkOverlap :=
    ⟨⟨chunkSize.toNat, chunkOverlap.toNat, by omega⟩, by dsimp only; omega, by dsimp only; omega⟩
  refine ⟨_, chunkDocumentText_eq hid htext sizes, fun chunk hchunk => ?_, ?_, ?_⟩
  · rw [(mem_chunksFrom hchunk).2]
    rfl
  · have hwindows : (windows sizes.chunkSize sizes.chunkOverlap text.length sizes.smaller 0).IsChain
        (Follows sizes.chunkSize sizes.chunkOverlap) := Windows.isChain
    refine (isChain_chunksFrom documentId text metadata 0 hwindows).imp_of_mem_imp
      fun chunk next hchunk _ hfollows => ?_
    obtain ⟨hmem, hchunk⟩ := mem_chunksFrom hchunk
    obtain ⟨_, hlt, hle, _⟩ := Windows.bounds hmem
    have hfull := hfollows.full
    have hoverlap := hfollows.overlap
    have hlength : chunk.text.length = chunk.endChar - chunk.startChar := by
      rw [hchunk]
      exact length_textSlice hle
    have hstarts := hfollows.start_lt sizes.smaller
    have hfurther := hfollows.further
    simp only [rangeOf] at hfull hoverlap hstarts hfurther hlt
    exact ⟨by omega, by omega, hstarts, hfurther⟩
  · have hpositive : 0 < text.toList.length := by
      rw [String.length_toList, Nat.pos_iff_ne_zero, Ne, String.length_eq_zero_iff]
      exact ne_empty_of_not_blank htext
    rw [map_toList_chunksFrom, Int.toNat_natCast]
    exact Windows.reassemble_windows String.length_toList (by rwa [String.length_toList] at hpositive)

theorem chunkDocumentText_reversible_overlapping :
    ∃ chunks, chunkDocumentText "document" "abcdef" 3 2 () = .ok chunks ∧
      (∀ chunk ∈ chunks, chunk.text = textSlice "abcdef" chunk.startChar chunk.endChar) ∧
      chunks.IsChain (Precedes 3 2) ∧
      reassemble (2 : ℤ).toNat (chunks.map (·.text.toList)) = "abcdef".toList :=
  chunkDocumentText_reversible () (by decide +kernel) (by decide +kernel) (by decide) (by decide)
    (by decide)

end DocumentChunker

end AgenticLab
