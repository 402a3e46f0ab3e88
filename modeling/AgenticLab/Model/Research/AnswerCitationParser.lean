import AgenticLab.Library.Patterns
import AgenticLab.Model.Application.Values
import Mathlib.Data.List.DropRight

/-! # Statements of an answer

`DeterministicAnswerCitationParser` of `app/research/deterministic_answer_citation_parser.py` with
what it reads and builds of `app/schemas/answer_citation_validation.py`. -/

namespace AgenticLab.DeterministicAnswerCitationParser

open Patterns (Pattern findAll removeAll)

/-! ## Texts -/

/-- The characters at which `str.splitlines` ends a line. -/
def isLineBreak (character : Char) : Bool :=
  let code := character.toNat
  (10 ≤ code && code ≤ 13) || (28 ≤ code && code ≤ 30) || code == 0x85 || code == 0x2028 ||
    code == 0x2029

def consLine (character : Char) : List (List Char) → List (List Char)
  | [] => [[character]]
  | line :: lines => (character :: line) :: lines

/-- `str.splitlines(keepends=True)` -/
def splitlines : List Char → List (List Char)
  | [] => []
  | [character] => [[character]]
  | first :: second :: rest =>
    if first = '\r' ∧ second = '\n' then [first, second] :: splitlines rest
    else if isLineBreak first = true then [first] :: splitlines (second :: rest)
    else consLine first (splitlines (second :: rest))

/-- `str.lstrip()` -/
def lstrip (text : List Char) : List Char := text.dropWhile isSpace

/-- `str.rstrip()` -/
def rstrip (text : List Char) : List Char := text.rdropWhile isSpace

def isLineEnding (character : Char) : Bool := character = '\r' || character = '\n'

/-- `str.rstrip("\r\n")` -/
def rstripLineEnding (text : List Char) : List Char := text.rdropWhile isLineEnding

/-- The zeros of the decimal digits of Unicode 15. Each of them starts the digits from zero to
nine. -/
def decimalZeros : List ℕ :=
  [0x30, 0x660, 0x6f0, 0x7c0, 0x966, 0x9e6, 0xa66, 0xae6, 0xb66, 0xbe6, 0xc66, 0xce6, 0xd66, 0xde6,
    0xe50, 0xed0, 0xf20, 0x1040, 0x1090, 0x17e0, 0x1810, 0x1946, 0x19d0, 0x1a80, 0x1a90, 0x1b50,
    0x1bb0, 0x1c40, 0x1c50, 0xa620, 0xa8d0, 0xa900, 0xa9d0, 0xa9f0, 0xaa50, 0xabf0, 0xff10, 0x104a0,
    0x10d30, 0x11066, 0x110f0, 0x11136, 0x111d0, 0x112f0, 0x11450, 0x114d0, 0x11650, 0x116c0,
    0x11730, 0x118e0, 0x11950, 0x11c50, 0x11d50, 0x11da0, 0x11f50, 0x16a60, 0x16ac0, 0x16b50,
    0x1d7ce, 0x1d7d8, 0x1d7e2, 0x1d7ec, 0x1d7f6, 0x1e140, 0x1e2f0, 0x1e4d0, 0x1e950, 0x1fbf0]

/-- `\d` -/
def isDecimal (character : Char) : Bool :=
  decimalZeros.any fun first => first ≤ character.toNat && character.toNat < first + 10

/-- `[A-Za-z]` -/
def isLetter (character : Char) : Bool :=
  ('A' ≤ character && character ≤ 'Z') || ('a' ≤ character && character ≤ 'z')

/-- What the parser reads of a request: its answer, the identifiers of the citations of its context
and the limit of its budget. -/
structure AnswerCitationValidationRequest where
  answer : String
  citationIds : List String
  maximumStatements : ℕ

structure AnswerStatement where
  statementId : String
  text : String
  startCharacter : ℕ
  endCharacter : ℕ
  citedIds : List String
  deriving DecidableEq, Repr

/-- The fields of the model, then `validate_statement`. -/
def AnswerStatement.validate (statement : AnswerStatement) : Except Raised Unit := do
  raiseIf (statement.endCharacter = 0)
    ⟨.validationError, "end_character: Input should be greater than 0"⟩
  raiseIf (isBlank statement.statementId ∨ isBlank statement.text)
    ⟨.validationError, "statement identity and text must not be blank"⟩
  raiseIf (statement.endCharacter ≤ statement.startCharacter)
    ⟨.validationError, "statement character range is invalid"⟩
  raiseIf (∃ value ∈ statement.citedIds, isBlank value)
    ⟨.validationError, "statement cited_ids must not contain blanks"⟩
  raiseIf (¬statement.citedIds.Nodup) ⟨.validationError, "statement cited_ids must be unique"⟩

/-! ## The parser -/

def citationPattern : Pattern Char :=
  .seq (.one (· == '[')) (.seq (.one isLetter) (.seq (.one isDecimal)
    (.seq (.many isDecimal) (.one (· == ']')))))

/-- `match.group(1)` -/
def citedId (text : List Char) (range : ℕ × ℕ) : String :=
  String.ofList ((text.take (range.2 - 1)).drop (range.1 + 1))

def citedIds (text : List Char) : List String :=
  (findAll text citationPattern 0).map (citedId text)

/-- `_CITATION_PATTERN.sub("", text)` -/
def markerFreeText (text : List Char) : List Char :=
  removeAll text (findAll text citationPattern 0) 0

/-- `f"statement-{number:03d}"` -/
def statementId (number : ℕ) : String :=
  "statement-" ++ String.ofList ((Nat.toDigits 10 number).leftpad 3 '0')

def parseError (message : String) : Raised := ⟨.answerCitationParseError, message⟩

def checkMarkers (citationIds : List String) (text : List Char) : Except Raised Unit := do
  raiseIf ('[' ∈ markerFreeText text ∨ ']' ∈ markerFreeText text)
    (parseError "answer statement contains a malformed citation marker")
  raiseIf (¬(citedIds text).Nodup)
    (parseError "answer statement contains a duplicate citation marker")
  raiseIf (∃ value ∈ citedIds text, value ∉ citationIds)
    (parseError "answer statement references an unknown citation marker")

def parseLines (request : AnswerCitationValidationRequest) :
    List (List Char) → ℕ → List AnswerStatement → Except Raised (List AnswerStatement)
  | [], _, statements => .ok statements
  | rawLine :: rawLines, offset, statements =>
    let line := rstripLineEnding rawLine
    let leading := line.length - (lstrip line).length
    let strippedRight := rstrip line
    if isBlank (String.ofList strippedRight) = true then
      parseLines request rawLines (offset + rawLine.length) statements
    else do
      let start := offset + leading
      let stop := offset + strippedRight.length
      let text := (request.answer.toList.take stop).drop start
      checkMarkers request.citationIds text
      let statement : AnswerStatement :=
        ⟨statementId (statements.length + 1), String.ofList text, start, stop, citedIds text⟩
      statement.validate
      raiseIf (request.maximumStatements < (statements ++ [statement]).length)
        (parseError "answer statement count exceeds validation budget")
      parseLines request rawLines (offset + rawLine.length) (statements ++ [statement])

def parse (request : AnswerCitationValidationRequest) : Except Raised (List AnswerStatement) := do
  let statements ← parseLines request (splitlines request.answer.toList) 0 []
  raiseIf (statements = []) (parseError "answer contains no nonblank statements")
  return statements

end AgenticLab.DeterministicAnswerCitationParser
