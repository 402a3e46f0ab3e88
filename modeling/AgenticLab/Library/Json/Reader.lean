import AgenticLab.Library.Json.Value

/-! # Reading JSON text

One pass over the characters makes tokens, one pass over the tokens makes the value; both
steps are total and stop at the first error. The accepted texts are those of `json.loads`,
but for strings with a lone surrogate, which are no text. -/

namespace Json

inductive Token where
  | openBrace
  | closeBrace
  | openBracket
  | closeBracket
  | colon
  | comma
  | atom (atom : Atom)
  deriving DecidableEq

/-! ## Characters to tokens -/

/-- Where the lexer stands. Characters already read are kept in reverse. -/
inductive LexMode where
  | idle
  | word (read : List Char)
  | string (read : List Char)
  | escape (read : List Char)
  | unicode (read : List Char) (high : Option ℕ) (missing : ℕ) (code : ℕ)
  | surrogate (read : List Char) (high : ℕ)
  | surrogateEscape (read : List Char) (high : ℕ)

structure LexState where
  tokens : List Token
  mode : LexMode

def wordAtom? (word : List Char) : Option Atom :=
  if word = "null".toList then some .null
  else if word = "true".toList then some (.bool true)
  else if word = "false".toList then some (.bool false)
  else if h : isFloatWord word = true then some (.float ⟨word, h⟩)
  else (wholeWord? word).map Atom.int

def punctuation? : Char → Option Token
  | '{' => some .openBrace
  | '}' => some .closeBrace
  | '[' => some .openBracket
  | ']' => some .closeBracket
  | ':' => some .colon
  | ',' => some .comma
  | _ => none

def lexIdle (tokens : List Token) (character : Char) : Option LexState :=
  if isSpace character then some ⟨tokens, .idle⟩
  else if character = '"' then some ⟨tokens, .string []⟩
  else if isWordChar character then some ⟨tokens, .word [character]⟩
  else (punctuation? character).map fun token => ⟨token :: tokens, .idle⟩

def simpleEscape? : Char → Option Char
  | '"' => some '"'
  | '\\' => some '\\'
  | '/' => some '/'
  | 'b' => some (Char.ofNat 8)
  | 'f' => some (Char.ofNat 12)
  | 'n' => some '\n'
  | 'r' => some '\r'
  | 't' => some '\t'
  | _ => none

def hexValue? (character : Char) : Option ℕ :=
  if '0' ≤ character ∧ character ≤ '9' then some (character.toNat - '0'.toNat)
  else if 'a' ≤ character ∧ character ≤ 'f' then some (character.toNat - 'a'.toNat + 10)
  else if 'A' ≤ character ∧ character ≤ 'F' then some (character.toNat - 'A'.toNat + 10)
  else none

/-- The character of a finished `\u` escape; a high surrogate waits for its low half. -/
def finishUnicode (read : List Char) (high : Option ℕ) (code : ℕ) : Option LexMode :=
  match high with
  | none =>
    if 0xD800 ≤ code ∧ code ≤ 0xDBFF then some (.surrogate read code)
    else if 0xDC00 ≤ code ∧ code ≤ 0xDFFF then none
    else some (.string (Char.ofNat code :: read))
  | some first =>
    if 0xDC00 ≤ code ∧ code ≤ 0xDFFF then
      some (.string (Char.ofNat (0x10000 + (first - 0xD800) * 0x400 + (code - 0xDC00)) :: read))
    else none

def lexStep (s : LexState) (character : Char) : Option LexState :=
  match s.mode with
  | .idle => lexIdle s.tokens character
  | .word read =>
    if isWordChar character then some ⟨s.tokens, .word (character :: read)⟩
    else (wordAtom? read.reverse).bind fun atom => lexIdle (.atom atom :: s.tokens) character
  | .string read =>
    if character = '"' then some ⟨.atom (.str (String.ofList read.reverse)) :: s.tokens, .idle⟩
    else if character = '\\' then some ⟨s.tokens, .escape read⟩
    else if character.toNat < 32 then none
    else some ⟨s.tokens, .string (character :: read)⟩
  | .escape read =>
    if character = 'u' then some ⟨s.tokens, .unicode read none 4 0⟩
    else (simpleEscape? character).map fun plain => ⟨s.tokens, .string (plain :: read)⟩
  | .unicode read high missing code =>
    (hexValue? character).bind fun digit =>
      if missing ≤ 1 then
        (finishUnicode read high (16 * code + digit)).map fun mode => ⟨s.tokens, mode⟩
      else some ⟨s.tokens, .unicode read high (missing - 1) (16 * code + digit)⟩
  | .surrogate read high =>
    if character = '\\' then some ⟨s.tokens, .surrogateEscape read high⟩ else none
  | .surrogateEscape read high =>
    if character = 'u' then some ⟨s.tokens, .unicode read (some high) 4 0⟩ else none

/-- The tokens at the end of the text, in order. -/
def LexState.finish (s : LexState) : Option (List Token) :=
  match s.mode with
  | .idle => some s.tokens.reverse
  | .word read => (wordAtom? read.reverse).map fun atom => (.atom atom :: s.tokens).reverse
  | _ => none

def lex (text : List Char) : Option (List Token) :=
  (text.foldlM lexStep ⟨[], .idle⟩).bind LexState.finish

/-! ## Tokens to values -/

/-- A container that waits for a value. What it holds already is kept in reverse. -/
inductive Frame where
  | arr (items : List Value)
  | member (members : List (String × Value)) (key : String)

inductive ParseState where
  | value (stack : List Frame)
  | arrayStart (stack : List Frame)
  | objectStart (stack : List Frame)
  | key (members : List (String × Value)) (stack : List Frame)
  | colon (members : List (String × Value)) (key : String) (stack : List Frame)
  | after (value : Value) (stack : List Frame)

def startValue (stack : List Frame) : Token → Option ParseState
  | .atom atom => some (.after (.atom atom) stack)
  | .openBracket => some (.arrayStart stack)
  | .openBrace => some (.objectStart stack)
  | _ => none

def parseStep : ParseState → Token → Option ParseState
  | .value stack, token => startValue stack token
  | .arrayStart stack, .closeBracket => some (.after (.arr []) stack)
  | .arrayStart stack, token => startValue (.arr [] :: stack) token
  | .objectStart stack, .closeBrace => some (.after (.obj []) stack)
  | .objectStart stack, .atom (.str key) => some (.colon [] key stack)
  | .key members stack, .atom (.str key) => some (.colon members key stack)
  | .colon members key stack, .colon => some (.value (.member members key :: stack))
  | .after value (.arr items :: stack), .comma => some (.value (.arr (value :: items) :: stack))
  | .after value (.arr items :: stack), .closeBracket =>
    some (.after (.arr (value :: items).reverse) stack)
  | .after value (.member members key :: stack), .comma =>
    some (.key ((key, value) :: members) stack)
  | .after value (.member members key :: stack), .closeBrace =>
    some (.after (.obj ((key, value) :: members).reverse) stack)
  | _, _ => none

def ParseState.finish : ParseState → Option Value
  | .after result [] => some result
  | _ => none

def parseTokens (tokens : List Token) : Option Value :=
  (tokens.foldlM parseStep (.value [])).bind ParseState.finish

def parse (text : List Char) : Option Value := (lex text).bind parseTokens

end Json
