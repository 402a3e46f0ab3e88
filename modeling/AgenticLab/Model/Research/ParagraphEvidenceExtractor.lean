import AgenticLab.Library.Patterns
import AgenticLab.Model.Application.Values

/-! # Passages of a document

`candidate_chunks` and `_split_long_text` of `app/research/paragraph_evidence_extractor.py`, as far
as they read the text: the ranges that stand before the filters and the scores. -/

namespace AgenticLab

open Patterns (Pattern AcceptsAt findAll)

/-- The two parameters that the ranges depend on, with the checks of the constructor. -/
structure ParagraphEvidenceExtractor where
  maximumCharacters : ℕ
  minimumCharacters : ℕ
  maximum_ge : 200 ≤ maximumCharacters
  minimum_pos : 1 ≤ minimumCharacters
  minimum_le : minimumCharacters ≤ maximumCharacters

namespace ParagraphEvidenceExtractor

/-- `\S`, for a character. -/
def isText (character : Char) : Bool := !isSpace character

/-- `\n\s*\n|\Z` -/
def paragraphEnd : Pattern Char :=
  .either (.seq (.one (· == '\n')) (.seq (.many isSpace) (.one (· == '\n')))) .textEnd

/-- `\S(?:.*?\S)?(?=\n\s*\n|\Z)`, where a dot is any character. -/
def paragraphPattern : Pattern Char :=
  .seq (.one isText) (.seq (.either (.seq (.few fun _ => true) (.one isText)) .empty)
    (.ahead paragraphEnd))

/-- `content.rfind(character, start, stop)`, without a result in the place of -1. -/
def rfind (content : List Char) (character : Char) (start stop : ℕ) : Option ℕ :=
  (List.range stop).reverse.find? fun place =>
    decide (start ≤ place) && content[place]? == some character

/-- `while position < limit and content[position].isspace(): position += 1` -/
def skipSpaces (content : List Char) (limit position : ℕ) : ℕ :=
  if position < limit ∧ AcceptsAt content isSpace position then
    skipSpaces content limit (position + 1)
  else position
termination_by limit - position

/-- `while position > limit and content[position - 1].isspace(): position -= 1` -/
def dropSpaces (content : List Char) (limit : ℕ) : ℕ → ℕ
  | 0 => 0
  | position + 1 =>
    if limit < position + 1 ∧ AcceptsAt content isSpace position then
      dropSpaces content limit position
    else position + 1

variable (extractor : ParagraphEvidenceExtractor) (content : List Char)

/-- The last space that leaves a part long enough, where the limit stands before the end. -/
def spaceTarget (stop cursor limit : ℕ) : ℕ :=
  if limit < stop then
    match rfind content ' ' (cursor + extractor.minimumCharacters) limit with
    | some boundary => if cursor < boundary then boundary else limit
    | none => limit
  else limit

/-- Where the part that starts at `cursor` stops. -/
def partTarget (stop cursor : ℕ) : ℕ :=
  let limit := min (cursor + extractor.maximumCharacters) stop
  let target := extractor.spaceTarget content stop cursor limit
  if target ≤ cursor then limit else target

theorem lt_partTarget {stop cursor : ℕ} (h : cursor < stop) :
    cursor < extractor.partTarget content stop cursor := by
  have hmaximum := extractor.maximum_ge
  rw [partTarget]
  split <;> omega

theorem le_skipSpaces (content : List Char) (limit position : ℕ) :
    position ≤ skipSpaces content limit position := by
  fun_induction skipSpaces content limit position with
  | case1 position _ ih => omega
  | case2 => exact le_refl _

/-- The loop of `_split_long_text`. -/
def splitFrom (stop cursor : ℕ) : List (ℕ × ℕ) :=
  if cursor < stop then
    let target := extractor.partTarget content stop cursor
    let partStart := skipSpaces content target cursor
    let partEnd := dropSpaces content partStart target
    let rest := splitFrom stop (skipSpaces content stop target)
    if partStart < partEnd then (partStart, partEnd) :: rest else rest
  else []
termination_by stop - cursor
decreasing_by
  have hlt : cursor < stop := by assumption
  have htarget := extractor.lt_partTarget content hlt
  have hskip := le_skipSpaces content stop (extractor.partTarget content stop cursor)
  omega

def splitLongText (start stop : ℕ) : List (ℕ × ℕ) :=
  if stop - start ≤ extractor.maximumCharacters then [(start, stop)]
  else extractor.splitFrom content stop start

/-- The ranges that `candidate_chunks` goes through. -/
def candidateRanges : List (ℕ × ℕ) :=
  (findAll content paragraphPattern 0).flatMap fun found =>
    extractor.splitLongText content found.1 found.2

end ParagraphEvidenceExtractor

end AgenticLab
