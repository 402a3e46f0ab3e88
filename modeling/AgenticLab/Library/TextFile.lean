import Mathlib.Data.List.Basic

/-! # Text in files

UTF-8 text as a list of bytes, and the lines of a file as a binary read yields them: each
with its line feed, the last one possibly without. -/

namespace TextFile

def encode (text : List Char) : List UInt8 := text.flatMap String.utf8EncodeChar

def decode (bytes : List UInt8) : Option (List Char) :=
  (String.fromUTF8? bytes.toByteArray).map String.toList

@[simp] theorem encode_append (first rest : List Char) :
    encode (first ++ rest) = encode first ++ encode rest := List.flatMap_append

theorem decode_encode (text : List Char) : decode (encode text) = some text := by
  have hbytes : (encode text).toByteArray = (String.ofList text).toByteArray := by
    rw [String.toByteArray_ofList]
    rfl
  have hvalid : (encode text).toByteArray.IsValidUTF8 := hbytes ▸ (String.ofList text).isValidUTF8
  have hstring : String.fromUTF8 (encode text).toByteArray hvalid = String.ofList text :=
    String.toByteArray_inj.mp hbytes
  rw [decode, String.fromUTF8?, dif_pos hvalid, hstring, Option.map_some, String.toList_ofList]

variable {bytes : List UInt8} {text : List Char}

theorem encode_of_decode (h : decode bytes = some text) : encode text = bytes := by
  rw [decode, String.fromUTF8?] at h
  split at h
  · rename_i hvalid
    obtain rfl := Option.some.inj h
    have hbytes : (String.ofList (String.fromUTF8 bytes.toByteArray hvalid).toList).toByteArray =
        bytes.toByteArray := by
      rw [String.ofList_toList]
      rfl
    rw [String.toByteArray_ofList] at hbytes
    exact List.toByteArray_inj.mp hbytes
  · cases h
theorem encode_length_le (text : List Char) : (encode text).length ≤ 4 * text.length := by
  induction text with
  | nil => simp [encode]
  | cons c rest ih =>
    have hc : (String.utf8EncodeChar c).length ≤ 4 := by
      rw [String.length_utf8EncodeChar]
      exact Char.utf8Size_le_four c
    rw [encode, List.flatMap_cons, List.length_append, List.length_cons]
    rw [encode] at ih
    omega

theorem encode_length_of_ascii (h : ∀ c ∈ text, c.val ≤ 127) :
    (encode text).length = text.length := by
  induction text with
  | nil => simp [encode]
  | cons c rest ih =>
    have hc : (String.utf8EncodeChar c).length = 1 := by
      rw [String.length_utf8EncodeChar]
      exact Char.utf8Size_eq_one_iff.mpr (h c List.mem_cons_self)
    have hrest := ih fun c hc => h c (List.mem_cons_of_mem _ hc)
    rw [encode] at hrest
    rw [encode, List.flatMap_cons, List.length_append, List.length_cons, hc, hrest, Nat.add_comm]

def lineFeed : UInt8 := 10

theorem ascii_mem_utf8EncodeChar {byte : UInt8} (hascii : byte.toNat < 128) {c : Char}
    (h : byte ∈ String.utf8EncodeChar c) : c.toNat = byte.toNat := by
  have hne : ∀ n : ℕ, 128 ≤ n → n < 256 → byte ≠ UInt8.ofNat n := by
    intro n hlow hhigh heq
    have htoNat := congrArg UInt8.toNat heq
    rw [UInt8.toNat_ofNat', Nat.mod_eq_of_lt hhigh] at htoNat
    omega
  unfold String.utf8EncodeChar at h
  extract_lets v at h
  split_ifs at h with hone htwo hthree
  · have htoNat := congrArg UInt8.toNat (List.mem_singleton.mp h)
    rw [UInt8.toNat_ofNat', Nat.mod_eq_of_lt (by omega)] at htoNat
    exact htoNat.symm
  all_goals
    simp only [List.mem_cons, List.not_mem_nil, or_false] at h
    exfalso
    first
    | rcases h with h | h <;> exact hne _ (by omega) (by omega) h
    | rcases h with h | h | h <;> exact hne _ (by omega) (by omega) h
    | rcases h with h | h | h | h <;> exact hne _ (by omega) (by omega) h

theorem lineFeed_mem_utf8EncodeChar {c : Char} (h : lineFeed ∈ String.utf8EncodeChar c) :
    c = '\n' := by
  have htoNat := ascii_mem_utf8EncodeChar (by decide) h
  exact Char.ext (UInt32.toNat_inj.mp htoNat)

theorem zero_not_mem_encode (h : Char.ofNat 0 ∉ text) : (0 : UInt8) ∉ encode text := by
  intro hmem
  obtain ⟨c, hc, hbyte⟩ := List.mem_flatMap.mp hmem
  have htoNat := ascii_mem_utf8EncodeChar (by decide) hbyte
  have hzero : c = Char.ofNat 0 := Char.ext (UInt32.toNat_inj.mp htoNat)
  exact h (hzero ▸ hc)

theorem encode_injective {text other : List Char} (h : encode text = encode other) :
    text = other := by
  have hdecode := congrArg decode h
  rw [decode_encode, decode_encode] at hdecode
  exact Option.some.inj hdecode

theorem lineFeed_not_mem_encode (h : '\n' ∉ text) : lineFeed ∉ encode text := by
  intro hmem
  obtain ⟨c, hc, hbyte⟩ := List.mem_flatMap.mp hmem
  exact h (lineFeed_mem_utf8EncodeChar hbyte ▸ hc)

def rawLines : List UInt8 → List (List UInt8)
  | [] => []
  | byte :: rest =>
    if byte = lineFeed then [byte] :: rawLines rest
    else
      match rawLines rest with
      | [] => [[byte]]
      | line :: lines => (byte :: line) :: lines

theorem rawLines_line {body : List UInt8} (h : lineFeed ∉ body) (rest : List UInt8) :
    rawLines (body ++ lineFeed :: rest) = (body ++ [lineFeed]) :: rawLines rest := by
  induction body with
  | nil => simp [rawLines]
  | cons byte body ih =>
    have hbyte : byte ≠ lineFeed := fun heq => h (heq ▸ List.mem_cons_self)
    rw [List.cons_append, rawLines, if_neg hbyte, ih fun hmem => h (List.mem_cons_of_mem _ hmem)]
    rfl

theorem rawLines_of_not_mem (hne : bytes ≠ []) (h : lineFeed ∉ bytes) :
    rawLines bytes = [bytes] := by
  induction bytes with
  | nil => exact absurd rfl hne
  | cons byte rest ih =>
    have hbyte : byte ≠ lineFeed := fun heq => h (heq ▸ List.mem_cons_self)
    rw [rawLines, if_neg hbyte]
    by_cases hrest : rest = []
    · rw [hrest, rawLines]
    · rw [ih hrest fun hmem => h (List.mem_cons_of_mem _ hmem)]

theorem rawLines_append {first : List UInt8}
    (h : ∀ line ∈ rawLines first, line.getLast? = some lineFeed) (rest : List UInt8) :
    rawLines (first ++ rest) = rawLines first ++ rawLines rest := by
  induction first with
  | nil => rfl
  | cons byte first ih =>
    rw [List.cons_append, rawLines, rawLines]
    rw [rawLines] at h
    by_cases hbyte : byte = lineFeed
    · rw [if_pos hbyte] at h
      rw [if_pos hbyte, if_pos hbyte, ih fun line hline => h line (by simp [hline])]
      rfl
    · rw [if_neg hbyte] at h
      rw [if_neg hbyte, if_neg hbyte]
      cases hlines : rawLines first with
      | nil =>
        -- an open line cannot end in a line feed
        rw [hlines] at h
        exact absurd (h [byte] (by simp)) (by simpa using hbyte)
      | cons line lines =>
        rw [hlines] at h ih
        have hline : line ≠ [] := by
          rintro rfl
          exact absurd (h [byte] (by simp)) (by simpa using hbyte)
        have hlast := h (byte :: line) (by simp)
        rw [List.getLast?_cons_of_ne_nil hline] at hlast
        rw [ih]
        · rfl
        · intro other hother
          rcases List.mem_cons.mp hother with rfl | hmem
          · exact hlast
          · exact h other (by simp [hmem])

end TextFile
