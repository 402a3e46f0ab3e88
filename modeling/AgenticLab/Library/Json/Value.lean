import Mathlib.Data.List.Sort

/-! # JSON values and their text

Values as Python's `json` module reads and writes them: whole numbers of any size, other
numbers by the text they were written with, objects as the list of their members. The writer
escapes as `json.dumps` does with `ensure_ascii=False`. -/

namespace Json

/-! ## Numbers -/

def isExponent : List Char → Bool
  | sign :: rest =>
    let digits := match rest with
      | '+' :: more => more
      | '-' :: more => more
      | _ => rest
    (sign == 'e' || sign == 'E') && !digits.isEmpty && digits.all Char.isDigit
  | [] => false

def isFraction : List Char → Bool
  | '.' :: rest =>
    let digits := rest.takeWhile Char.isDigit
    let tail := rest.dropWhile Char.isDigit
    !digits.isEmpty && (tail.isEmpty || isExponent tail)
  | rest => isExponent rest

/-- Digits without a leading zero, unless zero itself. -/
def isWhole (digits : List Char) : Bool :=
  !digits.isEmpty && digits.all Char.isDigit && (digits.head? != some '0' || digits.length == 1)

def dropMinus : List Char → List Char
  | '-' :: rest => rest
  | word => word

def isWordChar (character : Char) : Bool :=
  character.isAlphanum || character == '+' || character == '-' || character == '.'

/-- `NaN` and the infinities are accepted as Python accepts them. -/
def isFloatWord (word : List Char) : Bool :=
  let body := dropMinus word
  word.all isWordChar &&
    (word == "NaN".toList || body == "Infinity".toList ||
      isWhole (body.takeWhile Char.isDigit) && isFraction (body.dropWhile Char.isDigit))

def wholeWord? : List Char → Option ℤ
  | '-' :: digits => if isWhole digits then some (-(Nat.ofDigitChars 10 digits 0 : ℤ)) else none
  | digits => if isWhole digits then some (Nat.ofDigitChars 10 digits 0 : ℤ) else none

inductive Atom where
  | null
  | bool (value : Bool)
  | int (value : ℤ)
  | float (lexeme : {word : List Char // isFloatWord word = true})
  | str (value : String)
  deriving DecidableEq

inductive Value where
  | atom (atom : Atom)
  | arr (items : List Value)
  | obj (members : List (String × Value))

/-! ## Writing -/

def intDigits : ℤ → List Char
  | .ofNat n => Nat.toDigits 10 n
  | .negSucc n => '-' :: Nat.toDigits 10 (n + 1)

def hexDigit (digit : ℕ) : Char := "0123456789abcdef".toList.getD digit '0'

def escapeChar (character : Char) : List Char :=
  if character = '"' then ['\\', '"']
  else if character = '\\' then ['\\', '\\']
  else if character = '\n' then ['\\', 'n']
  else if character = '\r' then ['\\', 'r']
  else if character = '\t' then ['\\', 't']
  else if character = Char.ofNat 8 then ['\\', 'b']
  else if character = Char.ofNat 12 then ['\\', 'f']
  else if character.toNat < 32 then
    ['\\', 'u', '0', '0', hexDigit (character.toNat / 16), hexDigit (character.toNat % 16)]
  else [character]

def Atom.print : Atom → List Char
  | .null => "null".toList
  | .bool true => "true".toList
  | .bool false => "false".toList
  | .int value => intDigits value
  | .float lexeme => lexeme.val
  | .str value => '"' :: (value.toList.flatMap escapeChar ++ ['"'])

def isSpace (character : Char) : Bool :=
  character == ' ' || character == '\t' || character == '\n' || character == '\r'

/-- The layout choices of `json.dumps`: the width of one indentation level, if any, and the
blanks behind a comma and behind a colon. -/
structure Layout where
  indent : Option ℕ
  afterComma : {blanks : List Char // blanks.all isSpace = true}
  afterColon : {blanks : List Char // blanks.all isSpace = true}

/-- `separators=(",", ":")` -/
def compact : Layout := ⟨none, ⟨[], rfl⟩, ⟨[], rfl⟩⟩

/-- `indent=2` with the default separators. -/
def indented : Layout := ⟨some 2, ⟨[], rfl⟩, ⟨[' '], rfl⟩⟩

def Layout.newline (layout : Layout) (level : ℕ) : List Char :=
  match layout.indent with
  | none => []
  | some width => '\n' :: List.replicate (width * level) ' '

def Layout.comma (layout : Layout) (level : ℕ) : List Char :=
  ',' :: (layout.afterComma.val ++ layout.newline level)

mutual

def Value.print (layout : Layout) (level : ℕ) : Value → List Char
  | .atom atom => atom.print
  | .arr [] => ['[', ']']
  | .arr (item :: items) =>
    '[' :: (layout.newline (level + 1) ++ (item.print layout (level + 1) ++
      (printItems layout (level + 1) items ++ (layout.newline level ++ [']']))))
  | .obj [] => ['{', '}']
  | .obj ((key, value) :: members) =>
    '{' :: (layout.newline (level + 1) ++ (Atom.print (.str key) ++
      (':' :: (layout.afterColon.val ++ (value.print layout (level + 1) ++
        (printMembers layout (level + 1) members ++ (layout.newline level ++ ['}'])))))))

def printItems (layout : Layout) (level : ℕ) : List Value → List Char
  | [] => []
  | item :: items =>
    layout.comma level ++ (item.print layout level ++ printItems layout level items)

def printMembers (layout : Layout) (level : ℕ) : List (String × Value) → List Char
  | [] => []
  | (key, value) :: members =>
    layout.comma level ++ (Atom.print (.str key) ++ (':' :: (layout.afterColon.val ++
      (value.print layout level ++ printMembers layout level members))))

end

/-! ## Reordering and measuring -/

mutual

/-- `sort_keys=True`, on every level. -/
def Value.sortKeys : Value → Value
  | .atom atom => .atom atom
  | .arr items => .arr (sortKeysItems items)
  | .obj members => .obj ((sortKeysMembers members).insertionSort fun a b => a.1 ≤ b.1)

def sortKeysItems : List Value → List Value
  | [] => []
  | item :: items => item.sortKeys :: sortKeysItems items

def sortKeysMembers : List (String × Value) → List (String × Value)
  | [] => []
  | (key, value) :: members => (key, value.sortKeys) :: sortKeysMembers members

end

mutual

/-- Every whole number has at most `limit` digits, the sign not counted. -/
def Value.intsWithin (limit : ℕ) : Value → Bool
  | .atom (.int value) => decide ((Nat.toDigits 10 value.natAbs).length ≤ limit)
  | .atom _ => true
  | .arr items => itemsIntsWithin limit items
  | .obj members => membersIntsWithin limit members

def itemsIntsWithin (limit : ℕ) : List Value → Bool
  | [] => true
  | item :: items => item.intsWithin limit && itemsIntsWithin limit items

def membersIntsWithin (limit : ℕ) : List (String × Value) → Bool
  | [] => true
  | (_, value) :: members => value.intsWithin limit && membersIntsWithin limit members

end

mutual

/-- No object holds a key twice. -/
def Value.keysUnique : Value → Bool
  | .atom _ => true
  | .arr items => itemsKeysUnique items
  | .obj members => decide (members.map Prod.fst).Nodup && membersKeysUnique members

def itemsKeysUnique : List Value → Bool
  | [] => true
  | item :: items => item.keysUnique && itemsKeysUnique items

def membersKeysUnique : List (String × Value) → Bool
  | [] => true
  | (_, value) :: members => value.keysUnique && membersKeysUnique members

end

end Json

/-! # Sorted keys lose nothing but the order -/

namespace Json

@[simp] theorem Value.sortKeys_atom (atom : Atom) : (Value.atom atom).sortKeys = .atom atom := by
  rw [sortKeys]

theorem sortKeysMembers_eq_map (members : List (String × Value)) :
    sortKeysMembers members = members.map fun member => (member.1, member.2.sortKeys) := by
  induction members with
  | nil => rfl
  | cons member members ih => rw [sortKeysMembers, ih, List.map_cons]

theorem sortKeysItems_eq_map (items : List Value) :
    sortKeysItems items = items.map Value.sortKeys := by
  induction items with
  | nil => rfl
  | cons item items ih => rw [sortKeysItems, ih, List.map_cons]

@[simp] theorem Value.sortKeys_arr (items : List Value) :
    (Value.arr items).sortKeys = .arr (items.map sortKeys) := by
  rw [sortKeys, sortKeysItems_eq_map]

theorem eq_of_perm_of_keys {ν : Type*} {members others : List (String × ν)}
    (hperm : members.Perm others) (hkeys : members.map Prod.fst = others.map Prod.fst)
    (hnodup : (members.map Prod.fst).Nodup) : members = others := by
  refine List.ext_getElem hperm.length_eq fun i hi hother => ?_
  have hmem : members[i] ∈ others := hperm.subset (List.getElem_mem hi)
  have hkey : members[i].1 = others[i].1 := by
    have hget := congrArg (fun keys => keys[i]?) hkeys
    simpa [hi, hother] using hget
  exact List.inj_on_of_nodup_map (hkeys ▸ hnodup) hmem (List.getElem_mem hother) hkey

/-- Objects with the same keys in the same order are equal member by member when they are equal
after sorting. -/
theorem sortKeys_obj_injective {members others : List (String × Value)}
    (hkeys : members.map Prod.fst = others.map Prod.fst) (hnodup : (members.map Prod.fst).Nodup)
    (h : (Value.obj members).sortKeys = (Value.obj others).sortKeys) :
    sortKeysMembers members = sortKeysMembers others := by
  have hfst : ∀ members : List (String × Value),
      (sortKeysMembers members).map Prod.fst = members.map Prod.fst := by
    intro members
    rw [sortKeysMembers_eq_map, List.map_map]
    rfl
  have hsorted := Value.obj.inj h
  have hperm : (sortKeysMembers members).Perm (sortKeysMembers others) := by
    refine (List.perm_insertionSort (fun a b => a.1 ≤ b.1) _).symm.trans ?_
    rw [hsorted]
    exact List.perm_insertionSort _ _
  refine eq_of_perm_of_keys hperm ?_ ?_
  · rw [hfst, hfst, hkeys]
  · rw [hfst]
    exact hnodup

end Json
