import AgenticLab.Library.Json.RoundTrip
import AgenticLab.Library.TextFile

/-! # The shape of written JSON

Compact text has no line feed, and a character of a string takes at most six bytes. -/

namespace Json

theorem newline_not_mem_escapeChar (c : Char) : '\n' ∉ escapeChar c := by
  have hhex : ∀ digit < 16, hexDigit digit ≠ '\n' := by decide
  unfold escapeChar
  split_ifs with hquote hslash hnewline hreturn htab hback hform hcontrol
  all_goals try decide
  · have hhigh := hhex (c.toNat / 16) (by omega)
    have hlow := hhex (c.toNat % 16) (by omega)
    simp [Ne.symm hhigh, Ne.symm hlow]
  · simpa using Ne.symm hnewline

theorem newline_not_mem_atom (a : Atom) : '\n' ∉ a.print := by
  by_cases hword : a.isWord = true
  · intro hmem
    have hchar := (Atom.print_word hword).2.1 '\n' hmem
    revert hchar
    decide
  · match a, hword with
    | .str value, _ =>
      simp only [Atom.print, List.mem_cons, List.mem_append, List.mem_flatMap,
        List.not_mem_nil, or_false, not_or, not_exists, not_and]
      exact ⟨by decide, fun c _ => newline_not_mem_escapeChar c, by decide⟩

mutual

theorem newline_not_mem_print (level : ℕ) (v : Value) : '\n' ∉ v.print compact level := by
  match v with
  | .atom a =>
    rw [Value.print]
    exact newline_not_mem_atom a
  | .arr [] => rw [Value.print]; decide
  | .arr (item :: items) =>
    have hitem := newline_not_mem_print (level + 1) item
    have hitems := newline_not_mem_printItems (level + 1) items
    rw [Value.print]
    simp [Layout.newline, compact] at hitem hitems ⊢
    exact ⟨hitem, hitems⟩
  | .obj [] => rw [Value.print]; decide
  | .obj ((key, value) :: members) =>
    have hkey := newline_not_mem_atom (.str key)
    have hvalue := newline_not_mem_print (level + 1) value
    have hmembers := newline_not_mem_printMembers (level + 1) members
    rw [Value.print]
    simp [Layout.newline, compact] at hvalue hmembers ⊢
    exact ⟨hkey, hvalue, hmembers⟩

theorem newline_not_mem_printItems (level : ℕ) (items : List Value) :
    '\n' ∉ printItems compact level items := by
  match items with
  | [] => rw [printItems]; simp
  | item :: items =>
    have hitem := newline_not_mem_print level item
    have hitems := newline_not_mem_printItems level items
    rw [printItems]
    simp [Layout.comma, Layout.newline, compact] at hitem hitems ⊢
    exact ⟨hitem, hitems⟩

theorem newline_not_mem_printMembers (level : ℕ) (members : List (String × Value)) :
    '\n' ∉ printMembers compact level members := by
  match members with
  | [] => rw [printMembers]; simp
  | (key, value) :: members =>
    have hkey := newline_not_mem_atom (.str key)
    have hvalue := newline_not_mem_print level value
    have hmembers := newline_not_mem_printMembers level members
    rw [printMembers]
    simp [Layout.comma, Layout.newline, compact] at hvalue hmembers ⊢
    exact ⟨hkey, hvalue, hmembers⟩

end

/-! ## Size in bytes -/

open TextFile in
theorem encode_escapeChar_length (c : Char) : (encode (escapeChar c)).length ≤ 6 := by
  have hhex : ∀ digit < 16, (String.utf8EncodeChar (hexDigit digit)).length = 1 := by decide
  unfold escapeChar
  split_ifs with hquote hslash hnewline hreturn htab hback hform hcontrol
  all_goals try decide
  · have hhigh := hhex (c.toNat / 16) (by omega)
    have hlow := hhex (c.toNat % 16) (by omega)
    have hbytes : encode ['\\', 'u', '0', '0', hexDigit (c.toNat / 16), hexDigit (c.toNat % 16)] =
        encode ['\\', 'u', '0', '0'] ++ (String.utf8EncodeChar (hexDigit (c.toNat / 16)) ++
          (String.utf8EncodeChar (hexDigit (c.toNat % 16)) ++ [])) := rfl
    have hprefix : (encode ['\\', 'u', '0', '0']).length = 4 := by decide
    rw [hbytes]
    simp only [List.length_append, List.length_nil]
    omega
  · have hc := encode_length_le [c]
    rw [List.length_singleton] at hc
    omega

open TextFile in
theorem encode_print_str_length (value : String) :
    (encode (Atom.print (.str value))).length ≤ 6 * value.length + 2 := by
  have hbody : ∀ text : List Char, (encode (text.flatMap escapeChar)).length ≤ 6 * text.length := by
    intro text
    induction text with
    | nil => simp [encode]
    | cons c rest ih =>
      have hc := encode_escapeChar_length c
      rw [List.flatMap_cons, encode_append, List.length_append, List.length_cons]
      omega
  have hvalue := hbody value.toList
  have hsplit : encode (Atom.print (.str value)) =
      encode ['"'] ++ (encode (value.toList.flatMap escapeChar) ++ encode ['"']) := by
    rw [← encode_append, ← encode_append]
    rfl
  have hquote : (encode ['"']).length = 1 := by decide
  rw [String.length_toList] at hvalue
  rw [hsplit, List.length_append, List.length_append]
  omega

open TextFile in
/-- Indented members with single values take a bounded number of bytes each. -/
theorem encode_printMembers_length {bound : ℕ} (members : List (String × Atom))
    (h : ∀ member ∈ members, (encode (Atom.print (.str member.1))).length +
      (encode member.2.print).length ≤ bound) :
    (encode (printMembers indented 1 (members.map fun member => (member.1, .atom member.2)))).length
      ≤ members.length * (bound + 6) := by
  induction members with
  | nil => simp [printMembers, encode]
  | cons member members ih =>
    obtain ⟨key, a⟩ := member
    have hmember := h (key, a) List.mem_cons_self
    have hrest := ih fun other hother => h other (List.mem_cons_of_mem _ hother)
    have hcomma : (encode (indented.comma 1)).length = 4 := by decide
    have hcolon : (encode [':', ' ']).length = 2 := by decide
    have hsplit : printMembers indented 1
        (((key, a) :: members).map fun member => (member.1, .atom member.2)) =
        indented.comma 1 ++ (Atom.print (.str key) ++ ([':', ' '] ++ (a.print ++
          printMembers indented 1 (members.map fun member => (member.1, .atom member.2))))) := by
      rw [List.map_cons, printMembers, Value.print]
      rfl
    rw [hsplit]
    simp only [encode_append, List.length_append, List.length_cons, Nat.add_mul, Nat.one_mul] at *
    omega

open TextFile in
theorem encode_print_obj_length {bound : ℕ} (members : List (String × Atom))
    (h : ∀ member ∈ members, (encode (Atom.print (.str member.1))).length +
      (encode member.2.print).length ≤ bound) :
    (encode ((Value.obj (members.map fun member => (member.1, .atom member.2))).print
      indented 0)).length ≤ members.length * (bound + 6) + 8 := by
  match members with
  | [] =>
    have hbytes : (encode ['{', '}']).length = 2 := by decide
    rw [List.map_nil, Value.print]
    omega
  | (key, a) :: members =>
    have hmember := h (key, a) List.mem_cons_self
    have hrest := encode_printMembers_length members
      fun other hother => h other (List.mem_cons_of_mem _ hother)
    have hopen : (encode ('{' :: indented.newline 1)).length = 4 := by decide
    have hclose : (encode (indented.newline 0 ++ ['}'])).length = 2 := by decide
    have hcolon : (encode [':', ' ']).length = 2 := by decide
    have hsplit : (Value.obj (((key, a) :: members).map
        fun member => (member.1, .atom member.2))).print indented 0 =
        ('{' :: indented.newline 1) ++ (Atom.print (.str key) ++ ([':', ' '] ++ (a.print ++
          (printMembers indented 1 (members.map fun member => (member.1, .atom member.2)) ++
            (indented.newline 0 ++ ['}']))))) := by
      rw [List.map_cons, Value.print, Value.print]
      rfl
    rw [hsplit]
    simp only [encode_append, List.length_append, List.length_cons, Nat.add_mul, Nat.one_mul] at *
    omega

open TextFile in
theorem encode_print_int_length (value : ℤ) :
    (encode (Atom.print (.int value))).length ≤ (Nat.toDigits 10 value.natAbs).length + 1 := by
  have hdigits : ∀ n : ℕ, ∀ c ∈ Nat.toDigits 10 n, c.val ≤ 127 := by
    intro n c hc
    have hdigit : c.isDigit = true := Nat.isDigit_of_mem_toDigits (by omega) (by omega) hc
    have hrange : '0'.val ≤ c.val ∧ c.val ≤ '9'.val := by
      simpa [Char.isDigit] using hdigit
    exact UInt32.le_trans hrange.2 (by decide)
  have hascii : ∀ c ∈ intDigits value, c.val ≤ 127 := by
    intro c hc
    cases value with
    | ofNat n => exact hdigits n c hc
    | negSucc n =>
      rcases List.mem_cons.mp hc with rfl | hc
      · decide
      · exact hdigits (n + 1) c hc
  rw [Atom.print, encode_length_of_ascii hascii]
  cases value <;> simp [intDigits]

/-- A single value that is no longer than a state file's: text of at most 512 characters, and
no numbers but whole ones. -/
def Atom.isShort : Atom → Bool
  | .str value => decide (value.length ≤ 512)
  | .float _ => false
  | _ => true

open TextFile in
theorem encode_print_short_length {a : Atom} (hshort : a.isShort = true)
    (hints : (Value.atom a).intsWithin 4300 = true) : (encode a.print).length ≤ 4301 := by
  cases a with
  | null => decide
  | bool value => cases value <;> decide
  | float => simp [Atom.isShort] at hshort
  | str value =>
    have hvalue := encode_print_str_length value
    have hlength : value.length ≤ 512 := by simpa [Atom.isShort] using hshort
    omega
  | int value =>
    have hvalue := encode_print_int_length value
    have hlength : (Nat.toDigits 10 value.natAbs).length ≤ 4300 := by
      simpa [Value.intsWithin] using hints
    omega

theorem intsWithin_of_mem {limit : ℕ} {members : List (String × Value)}
    (h : membersIntsWithin limit members = true) :
    ∀ member ∈ members, member.2.intsWithin limit = true := by
  induction members with
  | nil => simp
  | cons first members ih =>
    obtain ⟨key, value⟩ := first
    rw [membersIntsWithin, Bool.and_eq_true] at h
    intro member hmember
    rcases List.mem_cons.mp hmember with rfl | hmember
    · exact h.1
    · exact ih h.2 member hmember

open TextFile in
theorem encode_print_members_length {members : List (String × Atom)}
    (hcount : members.length ≤ 14) (hkeys : ∀ member ∈ members, member.1.length ≤ 40)
    (hshort : ∀ member ∈ members, member.2.isShort = true)
    (hints : (Value.obj (members.map fun member => (member.1, .atom member.2))).intsWithin 4300 =
      true) :
    (encode ((Value.obj (members.map fun member => (member.1, .atom member.2))).print
      indented 0)).length < 64 * 1024 := by
  have hmember : ∀ member ∈ members, (encode (Atom.print (.str member.1))).length +
      (encode member.2.print).length ≤ 4543 := by
    intro member hmember
    have hkey := encode_print_str_length member.1
    have hkeyLength := hkeys member hmember
    have hvalue := encode_print_short_length (hshort member hmember)
      (intsWithin_of_mem hints (member.1, .atom member.2)
        (List.mem_map_of_mem (f := fun member => (member.1, Value.atom member.2)) hmember))
    omega
  have hlength := encode_print_obj_length members hmember
  have hmul : members.length * (4543 + 6) ≤ 14 * (4543 + 6) := Nat.mul_le_mul_right _ hcount
  omega

/-! ## Size without blanks -/

def Atom.widthBound : Atom → ℕ
  | .null => 4
  | .bool _ => 5
  | .int value => (Nat.toDigits 10 value.natAbs).length + 1
  | .float lexeme => 4 * lexeme.val.length
  | .str value => 6 * value.length + 2

mutual

/-- The bytes of a value are not more, whatever has to be escaped. -/
def Value.widthBound : Value → ℕ
  | .atom atom => atom.widthBound
  | .arr items => itemsWidthBound items + 2
  | .obj members => membersWidthBound members + 2

def itemsWidthBound : List Value → ℕ
  | [] => 0
  | item :: items => item.widthBound + 1 + itemsWidthBound items

def membersWidthBound : List (String × Value) → ℕ
  | [] => 0
  | (key, value) :: members => 6 * key.length + value.widthBound + 4 + membersWidthBound members

end

section

open TextFile

theorem encode_print_atom_length (a : Atom) : (encode a.print).length ≤ a.widthBound := by
  cases a with
  | null => decide
  | bool value => cases value <;> decide
  | int value => exact encode_print_int_length value
  | float lexeme => exact encode_length_le lexeme.val
  | str value => exact encode_print_str_length value

mutual

theorem encode_print_length_le (level : ℕ) (v : Value) :
    (encode (v.print compact level)).length ≤ v.widthBound := by
  match v with
  | .atom a =>
    rw [Value.print, Value.widthBound]
    exact encode_print_atom_length a
  | .arr [] =>
    rw [Value.print, Value.widthBound, itemsWidthBound]
    decide
  | .arr (item :: items) =>
    have hitem := encode_print_length_le (level + 1) item
    have hitems := encode_printItems_length_le (level + 1) items
    have hopen : (encode ['[']).length = 1 := by decide
    have hclose : (encode [']']).length = 1 := by decide
    have hsplit : (Value.arr (item :: items)).print compact level =
        ['['] ++ (item.print compact (level + 1) ++
          (printItems compact (level + 1) items ++ [']'])) := by
      rw [Value.print]
      rfl
    simp only [hsplit, encode_append, List.length_append, hopen, hclose, Value.widthBound,
      itemsWidthBound]
    omega
  | .obj [] =>
    rw [Value.print, Value.widthBound, membersWidthBound]
    decide
  | .obj ((key, value) :: members) =>
    have hkey := encode_print_str_length key
    have hvalue := encode_print_length_le (level + 1) value
    have hmembers := encode_printMembers_length_le (level + 1) members
    have hopen : (encode ['{']).length = 1 := by decide
    have hcolon : (encode [':']).length = 1 := by decide
    have hclose : (encode ['}']).length = 1 := by decide
    have hsplit : (Value.obj ((key, value) :: members)).print compact level =
        ['{'] ++ (Atom.print (.str key) ++ ([':'] ++ (value.print compact (level + 1) ++
          (printMembers compact (level + 1) members ++ ['}'])))) := by
      rw [Value.print]
      rfl
    simp only [hsplit, encode_append, List.length_append, hopen, hcolon, hclose,
      Value.widthBound, membersWidthBound]
    omega

theorem encode_printItems_length_le (level : ℕ) (items : List Value) :
    (encode (printItems compact level items)).length ≤ itemsWidthBound items := by
  match items with
  | [] => rw [printItems, itemsWidthBound]; rfl
  | item :: items =>
    have hitem := encode_print_length_le level item
    have hitems := encode_printItems_length_le level items
    have hcomma : (encode (compact.comma level)).length = 1 := rfl
    simp only [printItems, encode_append, List.length_append, hcomma, itemsWidthBound]
    omega

theorem encode_printMembers_length_le (level : ℕ) (members : List (String × Value)) :
    (encode (printMembers compact level members)).length ≤ membersWidthBound members := by
  match members with
  | [] => rw [printMembers, membersWidthBound]; rfl
  | (key, value) :: members =>
    have hkey := encode_print_str_length key
    have hvalue := encode_print_length_le level value
    have hmembers := encode_printMembers_length_le level members
    have hcomma : (encode (compact.comma level)).length = 1 := rfl
    have hcolon : (encode [':']).length = 1 := by decide
    have hsplit : printMembers compact level ((key, value) :: members) =
        compact.comma level ++ (Atom.print (.str key) ++ ([':'] ++
          (value.print compact level ++ printMembers compact level members))) := by
      rw [printMembers]
      rfl
    simp only [hsplit, encode_append, List.length_append, hcomma, hcolon, membersWidthBound]
    omega

end

end

theorem membersIntsWithin_eq_all (limit : ℕ) (members : List (String × Value)) :
    membersIntsWithin limit members = members.all fun member => member.2.intsWithin limit := by
  induction members with
  | nil => rfl
  | cons member members ih => rw [membersIntsWithin, List.all_cons, ih]

mutual

theorem intsWithin_sortKeys (limit : ℕ) (v : Value) :
    v.sortKeys.intsWithin limit = v.intsWithin limit := by
  match v with
  | .atom a => rfl
  | .arr items =>
    rw [Value.sortKeys, Value.intsWithin, Value.intsWithin, itemsIntsWithin_sortKeys]
  | .obj members =>
    have hperm := List.perm_insertionSort (fun a b : String × Value => a.1 ≤ b.1)
      (sortKeysMembers members)
    rw [Value.sortKeys, Value.intsWithin, Value.intsWithin, membersIntsWithin_eq_all,
      hperm.all_eq, ← membersIntsWithin_eq_all, membersIntsWithin_sortKeys]

theorem itemsIntsWithin_sortKeys (limit : ℕ) (items : List Value) :
    itemsIntsWithin limit (sortKeysItems items) = itemsIntsWithin limit items := by
  match items with
  | [] => rfl
  | item :: items =>
    rw [sortKeysItems, itemsIntsWithin, itemsIntsWithin, intsWithin_sortKeys,
      itemsIntsWithin_sortKeys]

theorem membersIntsWithin_sortKeys (limit : ℕ) (members : List (String × Value)) :
    membersIntsWithin limit (sortKeysMembers members) = membersIntsWithin limit members := by
  match members with
  | [] => rfl
  | (key, value) :: members =>
    rw [sortKeysMembers, membersIntsWithin, membersIntsWithin, intsWithin_sortKeys,
      membersIntsWithin_sortKeys]

end
end Json

/-! # The size of indented text -/

namespace Json

mutual

/-- The bytes of an indented value are not more, whatever has to be escaped. -/
def Value.indentedBound (level : ℕ) : Value → ℕ
  | .atom atom => atom.widthBound
  | .arr items => itemsIndentedBound (level + 1) items + 2 * level + 4
  | .obj members => membersIndentedBound (level + 1) members + 2 * level + 4

def itemsIndentedBound (level : ℕ) : List Value → ℕ
  | [] => 0
  | item :: items =>
    item.indentedBound level + 2 * level + 2 + itemsIndentedBound level items

def membersIndentedBound (level : ℕ) : List (String × Value) → ℕ
  | [] => 0
  | (key, value) :: members => 6 * key.length + value.indentedBound level + 2 * level + 6 +
      membersIndentedBound level members

end

open TextFile

theorem encode_newline_length (level : ℕ) :
    (encode (indented.newline level)).length = 2 * level + 1 := by
  have hascii : ∀ c ∈ indented.newline level, c.val ≤ 127 := by
    intro c hc
    rcases List.mem_cons.mp hc with rfl | hc
    · decide
    · rw [List.eq_of_mem_replicate hc]
      decide
  rw [encode_length_of_ascii hascii]
  simp [Layout.newline, indented]

theorem encode_comma_length (level : ℕ) :
    (encode (indented.comma level)).length = 2 * level + 2 := by
  have hsplit : indented.comma level = [','] ++ indented.newline level := rfl
  have hcomma : (encode [',']).length = 1 := by decide
  rw [hsplit, encode_append, List.length_append, encode_newline_length, hcomma]
  omega

mutual

theorem encode_print_indented_length_le (level : ℕ) (v : Value) :
    (encode (v.print indented level)).length ≤ v.indentedBound level := by
  match v with
  | .atom a =>
    rw [Value.print, Value.indentedBound]
    exact encode_print_atom_length a
  | .arr [] =>
    have hbytes : (encode ['[', ']']).length = 2 := by decide
    rw [Value.print, hbytes, Value.indentedBound]
    omega
  | .arr (item :: items) =>
    have hitem := encode_print_indented_length_le (level + 1) item
    have hitems := encode_printItems_indented_length_le (level + 1) items
    have hopen : (encode ['[']).length = 1 := by decide
    have hclose : (encode [']']).length = 1 := by decide
    have hsplit : (Value.arr (item :: items)).print indented level =
        ['['] ++ (indented.newline (level + 1) ++ (item.print indented (level + 1) ++
          (printItems indented (level + 1) items ++ (indented.newline level ++ [']'])))) := by
      rw [Value.print]
      rfl
    simp only [hsplit, encode_append, List.length_append, hopen, hclose, encode_newline_length,
      Value.indentedBound, itemsIndentedBound]
    omega
  | .obj [] =>
    have hbytes : (encode ['{', '}']).length = 2 := by decide
    rw [Value.print, hbytes, Value.indentedBound]
    omega
  | .obj ((key, value) :: members) =>
    have hkey := encode_print_str_length key
    have hvalue := encode_print_indented_length_le (level + 1) value
    have hmembers := encode_printMembers_indented_length_le (level + 1) members
    have hopen : (encode ['{']).length = 1 := by decide
    have hcolon : (encode [':', ' ']).length = 2 := by decide
    have hclose : (encode ['}']).length = 1 := by decide
    have hsplit : (Value.obj ((key, value) :: members)).print indented level =
        ['{'] ++ (indented.newline (level + 1) ++ (Atom.print (.str key) ++ ([':', ' '] ++
          (value.print indented (level + 1) ++ (printMembers indented (level + 1) members ++
            (indented.newline level ++ ['}'])))))) := by
      rw [Value.print]
      rfl
    simp only [hsplit, encode_append, List.length_append, hopen, hcolon, hclose,
      encode_newline_length, Value.indentedBound, membersIndentedBound]
    omega

theorem encode_printItems_indented_length_le (level : ℕ) (items : List Value) :
    (encode (printItems indented level items)).length ≤ itemsIndentedBound level items := by
  match items with
  | [] => rw [printItems, itemsIndentedBound]; rfl
  | item :: items =>
    have hitem := encode_print_indented_length_le level item
    have hitems := encode_printItems_indented_length_le level items
    simp only [printItems, encode_append, List.length_append, encode_comma_length,
      itemsIndentedBound]
    omega

theorem encode_printMembers_indented_length_le (level : ℕ) (members : List (String × Value)) :
    (encode (printMembers indented level members)).length ≤
      membersIndentedBound level members := by
  match members with
  | [] => rw [printMembers, membersIndentedBound]; rfl
  | (key, value) :: members =>
    have hkey := encode_print_str_length key
    have hvalue := encode_print_indented_length_le level value
    have hmembers := encode_printMembers_indented_length_le level members
    have hcolon : (encode [':', ' ']).length = 2 := by decide
    have hsplit : printMembers indented level ((key, value) :: members) =
        indented.comma level ++ (Atom.print (.str key) ++ ([':', ' '] ++
          (value.print indented level ++ printMembers indented level members))) := by
      rw [printMembers]
      rfl
    simp only [hsplit, encode_append, List.length_append, encode_comma_length, hcolon,
      membersIndentedBound]
    omega

end

end Json
