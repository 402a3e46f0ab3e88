import AgenticLab.Model.Research.ParagraphEvidenceExtractor
import Mathlib.Data.List.DropRight

/-! # Which characters the passages of a document contain -/

namespace AgenticLab

open Patterns

namespace ParagraphEvidenceExtractor

variable {extractor : ParagraphEvidenceExtractor} {content : List Char}
  {start stop position place : ℕ}

def TextAt (content : List Char) (place : ℕ) : Prop := AcceptsAt content isText place

/-- Ranges of at most `maximum` characters between `start` and `stop`, in order and apart from each
other, without whitespace around them. -/
structure Ranged (content : List Char) (maximum start stop : ℕ) (ranges : List (ℕ × ℕ)) : Prop where
  apart : ranges.Pairwise fun a b => a.2 ≤ b.1
  within : ∀ range ∈ ranges, start ≤ range.1 ∧ range.1 < range.2 ∧ range.2 ≤ stop
  short : ∀ range ∈ ranges, range.2 - range.1 ≤ maximum
  trimmed : ∀ range ∈ ranges, TextAt content range.1 ∧ TextAt content (range.2 - 1)

/-- Every character between `start` and `stop` that is not whitespace stands in one of them. -/
def Covers (content : List Char) (start stop : ℕ) (ranges : List (ℕ × ℕ)) : Prop :=
  ∀ place, TextAt content place → start ≤ place → place < stop →
    ∃ range ∈ ranges, range.1 ≤ place ∧ place < range.2

theorem textAt_iff : TextAt content place ↔
    place < content.length ∧ ¬AcceptsAt content isSpace place := by
  unfold TextAt AcceptsAt isText
  by_cases hplace : place < content.length
  · simp [hplace]
  · simp [hplace]

theorem TextAt.lt_length (h : TextAt content place) : place < content.length := (textAt_iff.mp h).1

/-! ## The splitting of a long paragraph -/

variable {limit : ℕ}

theorem skipSpaces_le (h : position ≤ limit) : skipSpaces content limit position ≤ limit := by
  fun_induction skipSpaces content limit position with
  | case1 position hspace ih => exact ih (by omega)
  | case2 => exact h

theorem skipSpaces_stops (h : skipSpaces content limit position < limit) :
    ¬AcceptsAt content isSpace (skipSpaces content limit position) := by
  fun_induction skipSpaces content limit position with
  | case1 position hspace ih => exact ih h
  | case2 position hstop => exact fun hspace => hstop ⟨h, hspace⟩

theorem le_of_textAt_skipSpaces (htext : TextAt content place) (hle : position ≤ place)
    (hlt : place < limit) : skipSpaces content limit position ≤ place := by
  fun_induction skipSpaces content limit position with
  | case1 position hspace ih =>
    refine ih ?_
    obtain rfl | hlt := Nat.eq_or_lt_of_le hle
    · exact absurd hspace.2 (textAt_iff.mp htext).2
    · exact hlt
  | case2 => exact hle

theorem dropSpaces_le : dropSpaces content limit position ≤ position := by
  fun_induction dropSpaces content limit position with
  | case1 => exact le_refl 0
  | case2 position hspace ih => omega
  | case3 => exact le_refl _

theorem dropSpaces_stops (h : limit < dropSpaces content limit position) :
    ¬AcceptsAt content isSpace (dropSpaces content limit position - 1) := by
  fun_induction dropSpaces content limit position with
  | case1 => omega
  | case2 position hspace ih => exact ih h
  | case3 position hstop => exact fun hspace => hstop ⟨h, hspace⟩

theorem lt_of_textAt_dropSpaces (htext : TextAt content place)
    (hlt : place < position) : place < dropSpaces content limit position := by
  fun_induction dropSpaces content limit position with
  | case1 => omega
  | case2 position hspace ih =>
    refine ih ?_
    obtain rfl | hlt := Nat.eq_or_lt_of_le (Nat.le_of_lt_succ hlt)
    · exact absurd hspace.2 (textAt_iff.mp htext).2
    · exact hlt
  | case3 => exact hlt

theorem rfind_lt {character : Char} {boundary : ℕ}
    (h : rfind content character start stop = some boundary) : boundary < stop := by
  have hmem := List.mem_of_find?_eq_some h
  exact List.mem_range.mp (List.mem_reverse.mp hmem)

theorem spaceTarget_le : extractor.spaceTarget content stop position limit ≤ limit := by
  unfold spaceTarget
  split
  · split
    · rename_i boundary hfound
      have hlt := rfind_lt hfound
      split <;> omega
    · exact le_refl limit
  · exact le_refl limit

theorem partTarget_le : extractor.partTarget content stop position ≤
    min (position + extractor.maximumCharacters) stop := by
  rw [partTarget]
  split
  · exact le_refl _
  · exact spaceTarget_le

variable {ranges : List (ℕ × ℕ)}

theorem Ranged.widen {maximum before : ℕ}
    (h : Ranged content maximum start stop ranges) (hle : before ≤ start) :
    Ranged content maximum before stop ranges where
  apart := h.apart
  within := by
    intro range hrange
    obtain ⟨hstart, hbounds⟩ := h.within range hrange
    exact ⟨by omega, hbounds⟩
  short := h.short
  trimmed := h.trimmed

theorem Ranged.cons {maximum middle : ℕ} {range : ℕ × ℕ}
    (h : Ranged content maximum middle stop ranges) (hle : middle ≤ stop)
    (hrange : start ≤ range.1 ∧ range.1 < range.2 ∧ range.2 ≤ middle)
    (hshort : range.2 - range.1 ≤ maximum)
    (htrimmed : TextAt content range.1 ∧ TextAt content (range.2 - 1)) :
    Ranged content maximum start stop (range :: ranges) where
  apart := by
    refine List.pairwise_cons.mpr ⟨fun other hother => ?_, h.apart⟩
    exact le_trans hrange.2.2 (h.within other hother).1
  within := by
    intro other hother
    obtain rfl | hother := List.mem_cons.mp hother
    · exact ⟨hrange.1, hrange.2.1, le_trans hrange.2.2 hle⟩
    · obtain ⟨hstart, hbounds⟩ := h.within other hother
      exact ⟨by omega, hbounds⟩
  short := List.forall_mem_cons.mpr ⟨hshort, h.short⟩
  trimmed := List.forall_mem_cons.mpr ⟨htrimmed, h.trimmed⟩

theorem ranged_nil (content : List Char) (maximum start stop : ℕ) :
    Ranged content maximum start stop [] where
  apart := .nil
  within := by simp
  short := by simp
  trimmed := by simp

theorem splitFrom_spec (hstop : stop ≤ content.length) {cursor : ℕ} (hcursor : cursor ≤ stop) :
    Ranged content extractor.maximumCharacters cursor stop
        (extractor.splitFrom content stop cursor) ∧
      Covers content cursor stop (extractor.splitFrom content stop cursor) := by
  fun_induction splitFrom extractor content stop cursor with
  | case1 cursor hlt target partStart partEnd rest hpart ih =>
    have htarget : target ≤ min (cursor + extractor.maximumCharacters) stop := partTarget_le
    have hstart : cursor ≤ partStart := le_skipSpaces content target cursor
    have hend : partEnd ≤ target := dropSpaces_le
    have hnext : target ≤ skipSpaces content stop target := le_skipSpaces content stop target
    obtain ⟨hranged, hcovers⟩ := ih (skipSpaces_le (by omega))
    have hfirst : TextAt content partStart :=
      textAt_iff.mpr ⟨by omega, skipSpaces_stops (by omega : partStart < target)⟩
    have hlast : TextAt content (partEnd - 1) :=
      textAt_iff.mpr ⟨by omega, dropSpaces_stops hpart⟩
    refine ⟨hranged.cons (skipSpaces_le (by omega)) ⟨hstart, hpart, by omega⟩
      (by dsimp only; omega) ⟨hfirst, hlast⟩, ?_⟩
    intro place htext hle hplace
    by_cases hinside : place < target
    · exact ⟨_, List.mem_cons_self, le_of_textAt_skipSpaces htext hle hinside,
        lt_of_textAt_dropSpaces htext hinside⟩
    · obtain ⟨range, hrange, hmem⟩ := hcovers place htext
        (le_of_textAt_skipSpaces htext (by omega) hplace) hplace
      exact ⟨range, List.mem_cons_of_mem _ hrange, hmem⟩
  | case2 cursor hlt target partStart partEnd rest hpart ih =>
    have htarget : target ≤ min (cursor + extractor.maximumCharacters) stop := partTarget_le
    have hbefore : cursor < target := extractor.lt_partTarget content hlt
    have hnext : target ≤ skipSpaces content stop target := le_skipSpaces content stop target
    obtain ⟨hranged, hcovers⟩ := ih (skipSpaces_le (by omega))
    refine ⟨hranged.widen (by omega), ?_⟩
    intro place htext hle hplace
    refine hcovers place htext (le_of_textAt_skipSpaces htext ?_ hplace) hplace
    -- the part before `target` is empty, so a character in it would be whitespace
    by_contra hinside
    have hfirst := le_of_textAt_skipSpaces htext hle (Nat.lt_of_not_le hinside)
    have hlast : place < partEnd := lt_of_textAt_dropSpaces htext (Nat.lt_of_not_le hinside)
    exact hpart (lt_of_le_of_lt hfirst hlast)
  | case3 cursor hle =>
    refine ⟨ranged_nil content _ _ _, fun place _ hstart hplace => ?_⟩
    omega

theorem splitLongText_spec (hstop : stop ≤ content.length) (hlt : start < stop)
    (hfirst : TextAt content start) (hlast : TextAt content (stop - 1)) :
    Ranged content extractor.maximumCharacters start stop
        (extractor.splitLongText content start stop) ∧
      Covers content start stop (extractor.splitLongText content start stop) := by
  unfold splitLongText
  split_ifs with hshort
  · refine ⟨(ranged_nil content _ stop stop).cons (le_refl stop) ⟨le_refl start, hlt, le_refl stop⟩
      hshort ⟨hfirst, hlast⟩, ?_⟩
    exact fun place _ hstart hplace => ⟨_, List.mem_singleton_self _, hstart, hplace⟩
  · exact splitFrom_spec hstop hlt.le

/-- A place where a paragraph may end: the end of the text, or a line break with another one behind
nothing but whitespace. -/
def EndsAt (content : List Char) (place : ℕ) : Prop := ∃ stop, stop ∈ ends content paragraphEnd place

theorem endsAt_iff : EndsAt content place ↔
    place = content.length ∨ AcceptsAt content (· == '\n') place ∧
      ∃ other, place < other ∧ AcceptsAt content (· == '\n') other ∧
        ∀ between, place < between → between < other → AcceptsAt content isSpace between := by
  unfold EndsAt paragraphEnd
  simp only [mem_ends_either, mem_ends_seq, mem_ends_one, mem_ends_many, mem_ends_textEnd]
  constructor
  · rintro ⟨stop, ⟨_, ⟨hfirst, rfl⟩, other, ⟨hle, hspaces⟩, hsecond, rfl⟩ | ⟨rfl, hend⟩⟩
    · exact .inr ⟨hfirst, other, hle, hsecond, fun between hlt => hspaces between hlt⟩
    · exact .inl hend
  · rintro (hend | ⟨hfirst, other, hlt, hsecond, hspaces⟩)
    · exact ⟨place, .inr ⟨rfl, hend⟩⟩
    · exact ⟨other + 1, .inl ⟨place + 1, ⟨hfirst, rfl⟩, other,
        ⟨hlt, fun between hle => hspaces between hle⟩, hsecond, rfl⟩⟩

theorem mem_ends_paragraphPattern : stop ∈ ends content paragraphPattern start ↔
    TextAt content start ∧ start < stop ∧ TextAt content (stop - 1) ∧ EndsAt content stop := by
  unfold paragraphPattern
  simp only [mem_ends_seq, mem_ends_one, mem_ends_either, mem_ends_few, mem_ends_empty,
    mem_ends_ahead]
  constructor
  · rintro ⟨_, ⟨hstart, rfl⟩, last, hlast, rfl, hends⟩
    obtain ⟨place, ⟨hle, _⟩, htext, rfl⟩ | rfl := hlast
    · exact ⟨hstart, by omega, htext, hends⟩
    · exact ⟨hstart, by omega, hstart, hends⟩
  · rintro ⟨hstart, hlt, htext, hends⟩
    refine ⟨start + 1, ⟨hstart, rfl⟩, stop, ?_, rfl, hends⟩
    obtain rfl | hlt := Nat.eq_or_lt_of_le hlt
    · exact .inr rfl
    · refine .inl ⟨stop - 1, ⟨by omega, fun place _ hplace => ?_⟩, htext, by omega⟩
      have hlength := htext.lt_length
      have hin : place < content.length := by omega
      simp [AcceptsAt, hin]

/-- The whitespace behind the last character is empty, or it is a line break with another one
behind it. -/
def EndsParagraph (content : List Char) : Prop :=
  content.rtakeWhile isSpace = [] ∨ ∃ rest, content.rtakeWhile isSpace = '\n' :: rest ∧ '\n' ∈ rest

def textLength (content : List Char) : ℕ := (content.rdropWhile isSpace).length

theorem content_eq (content : List Char) :
    content.rdropWhile isSpace ++ content.rtakeWhile isSpace = content :=
  List.rdropWhile_append_rtakeWhile

theorem getElem?_textLength_add (content : List Char) (index : ℕ) :
    content[textLength content + index]? = (content.rtakeWhile isSpace)[index]? := by
  calc content[textLength content + index]?
      = (content.rdropWhile isSpace ++ content.rtakeWhile isSpace)[textLength content + index]? := by
        rw [content_eq]
    _ = (content.rtakeWhile isSpace)[index]? := by
        rw [textLength, List.getElem?_append_right (by omega), Nat.add_sub_cancel_left]

theorem textLength_add_length (content : List Char) :
    textLength content + (content.rtakeWhile isSpace).length = content.length := by
  rw [textLength, ← List.length_append, content_eq]

theorem TextAt.lt_textLength (h : TextAt content place) : place < textLength content := by
  by_contra hle
  obtain ⟨hlength, hspace⟩ := textAt_iff.mp h
  have hsplit := textLength_add_length content
  have hindex : place - textLength content < (content.rtakeWhile isSpace).length := by omega
  have hplace := getElem?_textLength_add content (place - textLength content)
  rw [Nat.add_sub_cancel' (Nat.le_of_not_lt hle), List.getElem?_eq_getElem hindex] at hplace
  refine hspace ?_
  rw [AcceptsAt, hplace, Option.any_some]
  exact List.mem_rtakeWhile_imp (List.getElem_mem hindex)

theorem textAt_last (h : 0 < textLength content) : TextAt content (textLength content - 1) := by
  have hne : content.rdropWhile isSpace ≠ [] := List.length_pos_iff.mp h
  have hlast := List.rdropWhile_last_not isSpace content hne
  have hplace : content[textLength content - 1]? =
      some ((content.rdropWhile isSpace).getLast hne) := by
    calc content[textLength content - 1]?
        = (content.rdropWhile isSpace ++ content.rtakeWhile isSpace)[textLength content - 1]? := by
          rw [content_eq]
      _ = some ((content.rdropWhile isSpace).getLast hne) := by
          rw [textLength] at h ⊢
          rw [List.getElem?_append_left (by omega), ← List.getLast?_eq_getElem?,
            List.getLast?_eq_some_getLast hne]
  rw [TextAt, AcceptsAt, hplace]
  simpa [isText] using hlast

theorem endsAt_textLength : EndsAt content (textLength content) ↔ EndsParagraph content := by
  have hsplit := textLength_add_length content
  have haccepts : ∀ accepts index, AcceptsAt content accepts (textLength content + index) ↔
      AcceptsAt (content.rtakeWhile isSpace) accepts index := by
    intro accepts index
    rw [AcceptsAt, AcceptsAt, getElem?_textLength_add]
  rw [endsAt_iff, EndsParagraph]
  constructor
  · rintro (hend | ⟨hfirst, other, hlt, hsecond, _⟩)
    · exact .inl (List.length_eq_zero_iff.mp (by omega))
    · rw [← Nat.add_zero (textLength content), haccepts] at hfirst
      obtain ⟨index, rfl⟩ := Nat.exists_eq_add_of_lt hlt
      rw [Nat.add_assoc, haccepts] at hsecond
      cases htail : content.rtakeWhile isSpace with
      | nil => simp [htail, AcceptsAt] at hfirst
      | cons first rest =>
        rw [htail] at hfirst hsecond
        simp only [AcceptsAt, List.getElem?_cons_zero, Option.any_some, beq_iff_eq] at hfirst
        simp only [AcceptsAt, List.getElem?_cons_succ, Option.any_eq_true, beq_iff_eq,
          exists_eq_right] at hsecond
        exact .inr ⟨rest, by rw [hfirst], List.mem_of_getElem? hsecond⟩
  · rintro (hnil | ⟨rest, htail, hmem⟩)
    · rw [hnil, List.length_nil] at hsplit
      exact .inl hsplit
    · obtain ⟨index, hindex, hbreak⟩ := List.getElem_of_mem hmem
      refine .inr ⟨?_, textLength content + (index + 1), by omega, ?_, ?_⟩
      · rw [← Nat.add_zero (textLength content), haccepts, htail]
        rfl
      · rw [haccepts, htail]
        simp [AcceptsAt, hindex, hbreak]
      · intro between hlt hbefore
        obtain ⟨offset, rfl⟩ := Nat.exists_eq_add_of_lt hlt
        have hoffset : offset + 1 < (content.rtakeWhile isSpace).length := by
          rw [htail, List.length_cons]
          omega
        rw [Nat.add_assoc, haccepts, AcceptsAt, List.getElem?_eq_getElem hoffset, Option.any_some]
        exact List.mem_rtakeWhile_imp (List.getElem_mem hoffset)

/-! ## The ranges of a document -/

theorem ranged_flatMap {maximum : ℕ} {found : List (ℕ × ℕ)} {split : ℕ × ℕ → List (ℕ × ℕ)}
    (hapart : found.Pairwise fun a b => a.2 ≤ b.1)
    (hfound : ∀ paragraph ∈ found, paragraph.2 ≤ stop ∧
      Ranged content maximum paragraph.1 paragraph.2 (split paragraph)) :
    Ranged content maximum 0 stop (found.flatMap split) where
  apart := by
    refine List.pairwise_flatMap.mpr ⟨fun paragraph hmem => (hfound paragraph hmem).2.apart, ?_⟩
    refine hapart.imp_of_mem fun {a b} ha hb hle first hfirst second hsecond => ?_
    have hbefore := ((hfound a ha).2.within first hfirst).2.2
    have hafter := ((hfound b hb).2.within second hsecond).1
    omega
  within := by
    intro range hrange
    obtain ⟨paragraph, hmem, hrange⟩ := List.mem_flatMap.mp hrange
    obtain ⟨hle, hranged⟩ := hfound paragraph hmem
    obtain ⟨_, hlt, hstop⟩ := hranged.within range hrange
    exact ⟨Nat.zero_le _, hlt, le_trans hstop hle⟩
  short := by
    intro range hrange
    obtain ⟨paragraph, hmem, hrange⟩ := List.mem_flatMap.mp hrange
    exact (hfound paragraph hmem).2.short range hrange
  trimmed := by
    intro range hrange
    obtain ⟨paragraph, hmem, hrange⟩ := List.mem_flatMap.mp hrange
    exact (hfound paragraph hmem).2.trimmed range hrange

variable {paragraph : ℕ × ℕ}

theorem paragraph_spec (h : paragraph ∈ findAll content paragraphPattern 0) :
    TextAt content paragraph.1 ∧ paragraph.1 < paragraph.2 ∧ TextAt content (paragraph.2 - 1) ∧
      EndsAt content paragraph.2 :=
  mem_ends_paragraphPattern.mp (mem_ends_of_matchEnd? (findAll_bounds h).2.2)

theorem split_paragraph_spec (h : paragraph ∈ findAll content paragraphPattern 0) :
    Ranged content extractor.maximumCharacters paragraph.1 paragraph.2
        (extractor.splitLongText content paragraph.1 paragraph.2) ∧
      Covers content paragraph.1 paragraph.2
        (extractor.splitLongText content paragraph.1 paragraph.2) := by
  obtain ⟨hfirst, hlt, hlast, _⟩ := paragraph_spec h
  have hlength := hlast.lt_length
  exact splitLongText_spec (by omega) hlt hfirst hlast

theorem covers_candidateRanges (h : EndsAt content (textLength content)) :
    Covers content 0 content.length (extractor.candidateRanges content) := by
  intro place htext _ hlength
  have hfound : (∃ paragraph ∈ findAll content paragraphPattern 0,
      paragraph.1 ≤ place ∧ place < paragraph.2) ∨
        ∀ stop, matchEnd? content paragraphPattern place = some stop → stop ≤ place :=
    findAll_complete (Nat.zero_le place) hlength.le
  obtain ⟨paragraph, hmem, hle, hlt⟩ | hnone := hfound
  · obtain ⟨range, hrange, hplace⟩ := (split_paragraph_spec hmem).2 place htext hle hlt
    exact ⟨range, List.mem_flatMap.mpr ⟨paragraph, hmem, hrange⟩, hplace⟩
  · have hbefore := htext.lt_textLength
    have hends : textLength content ∈ ends content paragraphPattern place :=
      mem_ends_paragraphPattern.mpr ⟨htext, hbefore, textAt_last (by omega), h⟩
    cases hmatch : matchEnd? content paragraphPattern place with
    | none =>
      rw [matchEnd?, List.head?_eq_none_iff] at hmatch
      rw [hmatch] at hends
      cases hends
    | some stop =>
      have hle := hnone stop hmatch
      have hlt := (mem_ends_paragraphPattern.mp (mem_ends_of_matchEnd? hmatch)).2.1
      omega

theorem endsAt_of_covers (hpos : 0 < textLength content)
    (h : Covers content 0 content.length (extractor.candidateRanges content)) :
    EndsAt content (textLength content) := by
  have htext := textAt_last hpos
  obtain ⟨range, hrange, hle, hlt⟩ := h _ htext (Nat.zero_le _) htext.lt_length
  obtain ⟨paragraph, hmem, hrange⟩ := List.mem_flatMap.mp hrange
  obtain ⟨_, _, hstop⟩ := (split_paragraph_spec hmem).1.within range hrange
  obtain ⟨_, _, hlast, hends⟩ := paragraph_spec hmem
  have hlastLt := hlast.lt_textLength
  have heq : paragraph.2 = textLength content := by omega
  rwa [← heq]

theorem textLength_pos {text : String} (h : isBlank text = false) : 0 < textLength text.toList := by
  rw [textLength, List.length_pos_iff]
  intro hnil
  rw [List.rdropWhile_eq_nil_iff] at hnil
  exact absurd (isBlank_iff.mpr hnil) (by rw [h]; decide)

/-- The ranges are always in order, apart, short enough and trimmed; they contain every character
that is not whitespace exactly when the text ends as a paragraph may. -/
theorem candidateRanges_cover_iff (extractor : ParagraphEvidenceExtractor) (text : String)
    (hread : isBlank text = false) :
    Ranged text.toList extractor.maximumCharacters 0 text.length
        (extractor.candidateRanges text.toList) ∧
      Covers text.toList 0 text.length (extractor.candidateRanges text.toList) ↔
    EndsParagraph text.toList := by
  rw [← endsAt_textLength, ← String.length_toList]
  constructor
  · exact fun h => endsAt_of_covers (textLength_pos hread) h.2
  · intro h
    refine ⟨ranged_flatMap (pairwise_findAll _ _ _) fun paragraph hmem => ?_,
      covers_candidateRanges h⟩
    have hlength := (paragraph_spec hmem).2.2.1.lt_length
    exact ⟨by omega, (split_paragraph_spec hmem).1⟩

def defaultExtractor : ParagraphEvidenceExtractor where
  maximumCharacters := 1200
  minimumCharacters := 80
  maximum_ge := by decide
  minimum_pos := by decide
  minimum_le := by decide

theorem candidateRanges_cover_lines_iff :
    Ranged "first\n\nsecond".toList 1200 0 13
        (defaultExtractor.candidateRanges "first\n\nsecond".toList) ∧
      Covers "first\n\nsecond".toList 0 13
        (defaultExtractor.candidateRanges "first\n\nsecond".toList) ↔
    EndsParagraph "first\n\nsecond".toList :=
  candidateRanges_cover_iff defaultExtractor "first\n\nsecond" (by decide)

/-- A text that ends with one line break has no last paragraph. -/
theorem line_break_not_covered :
    ¬∀ (extractor : ParagraphEvidenceExtractor) (text : String), isBlank text = false →
      Ranged text.toList extractor.maximumCharacters 0 text.length
          (extractor.candidateRanges text.toList) ∧
        Covers text.toList 0 text.length (extractor.candidateRanges text.toList) := by
  intro h
  have hcovers := (h defaultExtractor "text\n" (by decide)).2
  rw [← String.length_toList] at hcovers
  have hends := endsAt_of_covers (textLength_pos (by decide)) hcovers
  have htail : "text\n".toList.rtakeWhile isSpace = ['\n'] := by decide
  obtain hnil | ⟨rest, hrest, hmem⟩ := endsAt_textLength.mp hends
  · rw [htail] at hnil
    cases hnil
  · rw [htail] at hrest
    cases hrest
    cases hmem

end ParagraphEvidenceExtractor

end AgenticLab
