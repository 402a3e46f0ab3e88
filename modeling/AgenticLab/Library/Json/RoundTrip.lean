import AgenticLab.Library.Json.Reader
import Mathlib.Data.List.TakeWhile
import Mathlib.Tactic.IntervalCases

/-! # Written JSON reads back -/

namespace Json

mutual

def Value.tokens : Value → List Token
  | .atom atom => [.atom atom]
  | .arr [] => [.openBracket, .closeBracket]
  | .arr (item :: items) => .openBracket :: (item.tokens ++ itemTokens items)
  | .obj [] => [.openBrace, .closeBrace]
  | .obj ((key, value) :: members) =>
    .openBrace :: .atom (.str key) :: .colon :: (value.tokens ++ memberTokens members)

def itemTokens : List Value → List Token
  | [] => [.closeBracket]
  | item :: items => .comma :: (item.tokens ++ itemTokens items)

def memberTokens : List (String × Value) → List Token
  | [] => [.closeBrace]
  | (key, value) :: members =>
    .comma :: .atom (.str key) :: .colon :: (value.tokens ++ memberTokens members)

end

section

variable {σ α : Type*} {f : σ → α → Option σ} {s t : σ}

theorem foldlM_cons_some {a : α} {rest : List α} (h : f s a = some t) :
    (a :: rest).foldlM f s = rest.foldlM f t := by
  rw [List.foldlM_cons, h]
  rfl

theorem foldlM_append_some {first rest : List α} (h : first.foldlM f s = some t) :
    (first ++ rest).foldlM f s = rest.foldlM f t := by
  rw [List.foldlM_append, h]
  rfl

end

/-- No value starts with a closing bracket, so the start of an array takes its first item. -/
theorem Value.tokens_eq_cons (v : Value) :
    ∃ token rest, v.tokens = token :: rest ∧ token ≠ .closeBracket := by
  match v with
  | .atom _ => exact ⟨_, _, by rw [Value.tokens], by simp⟩
  | .arr [] => exact ⟨_, _, by rw [Value.tokens], by simp⟩
  | .arr (_ :: _) => exact ⟨_, _, by rw [Value.tokens], by simp⟩
  | .obj [] => exact ⟨_, _, by rw [Value.tokens], by simp⟩
  | .obj ((_, _) :: _) => exact ⟨_, _, by rw [Value.tokens], by simp⟩

theorem foldlM_arrayStart (v : Value) (stack : List Frame) :
    v.tokens.foldlM parseStep (.arrayStart stack) =
      v.tokens.foldlM parseStep (.value (.arr [] :: stack)) := by
  obtain ⟨token, rest, htokens, hne⟩ := v.tokens_eq_cons
  have hstep : parseStep (.arrayStart stack) token = parseStep (.value (.arr [] :: stack)) token := by
    cases token <;> first | rfl | exact absurd rfl hne
  rw [htokens, List.foldlM_cons, List.foldlM_cons, hstep]

mutual

theorem foldlM_tokens (v : Value) (stack : List Frame) :
    v.tokens.foldlM parseStep (.value stack) = some (.after v stack) := by
  match v with
  | .atom _ => rw [Value.tokens]; rfl
  | .arr [] => rw [Value.tokens]; rfl
  | .arr (item :: items) =>
    have hitem := foldlM_tokens item (.arr [] :: stack)
    rw [← foldlM_arrayStart] at hitem
    rw [Value.tokens]
    refine (foldlM_cons_some rfl).trans ?_
    exact (foldlM_append_some hitem).trans (foldlM_itemTokens items item [] stack)
  | .obj [] => rw [Value.tokens]; rfl
  | .obj ((key, value) :: members) =>
    have hvalue := foldlM_tokens value (.member [] key :: stack)
    rw [Value.tokens]
    refine (foldlM_cons_some rfl).trans ((foldlM_cons_some rfl).trans ?_)
    refine (foldlM_cons_some rfl).trans ?_
    exact (foldlM_append_some hvalue).trans (foldlM_memberTokens members key value [] stack)

theorem foldlM_itemTokens (items : List Value) (v : Value) (before : List Value)
    (stack : List Frame) :
    (itemTokens items).foldlM parseStep (.after v (.arr before :: stack)) =
      some (.after (.arr (before.reverse ++ v :: items)) stack) := by
  match items with
  | [] =>
    rw [itemTokens]
    refine (foldlM_cons_some rfl).trans ?_
    rw [List.reverse_cons]
    rfl
  | item :: items =>
    have hitem := foldlM_tokens item (.arr (v :: before) :: stack)
    have hitems := foldlM_itemTokens items item (v :: before) stack
    rw [List.reverse_cons, List.append_assoc] at hitems
    rw [itemTokens]
    refine (foldlM_cons_some rfl).trans ?_
    exact (foldlM_append_some hitem).trans hitems

theorem foldlM_memberTokens (members : List (String × Value)) (k : String) (v : Value)
    (before : List (String × Value)) (stack : List Frame) :
    (memberTokens members).foldlM parseStep (.after v (.member before k :: stack)) =
      some (.after (.obj (before.reverse ++ (k, v) :: members)) stack) := by
  match members with
  | [] =>
    rw [memberTokens]
    refine (foldlM_cons_some rfl).trans ?_
    rw [List.reverse_cons]
    rfl
  | (key, value) :: members =>
    have hvalue := foldlM_tokens value (.member ((k, v) :: before) key :: stack)
    have hmembers := foldlM_memberTokens members key value ((k, v) :: before) stack
    rw [List.reverse_cons, List.append_assoc] at hmembers
    rw [memberTokens]
    refine (foldlM_cons_some rfl).trans ((foldlM_cons_some rfl).trans ?_)
    refine (foldlM_cons_some rfl).trans ?_
    exact (foldlM_append_some hvalue).trans hmembers

end

theorem parseTokens_tokens (v : Value) : parseTokens v.tokens = some v := by
  rw [parseTokens, foldlM_tokens]
  rfl

/-! ## Words -/

theorem toDigits_head?_eq_zero {n : ℕ} (h : (Nat.toDigits 10 n).head? = some '0') : n = 0 := by
  induction n using Nat.strong_induction_on with
  | _ n ih =>
    rcases Nat.lt_or_ge n 10 with hlt | hge
    · rw [Nat.toDigits_of_lt_base hlt] at h
      interval_cases n <;> simp_all
    · rw [Nat.toDigits_of_base_le (by omega) hge,
        List.head?_append_of_ne_nil _ Nat.toDigits_ne_nil] at h
      have := ih (n / 10) (by omega) h
      omega

theorem isWhole_toDigits (n : ℕ) : isWhole (Nat.toDigits 10 n) = true := by
  have hdigits : ∀ c ∈ Nat.toDigits 10 n, c.isDigit = true := fun c hc =>
    Nat.isDigit_of_mem_toDigits (by omega) (by omega) hc
  have hne : Nat.toDigits 10 n ≠ [] := Nat.toDigits_ne_nil
  have hlead : (Nat.toDigits 10 n).head? ≠ some '0' ∨ (Nat.toDigits 10 n).length = 1 := by
    by_cases hzero : n = 0
    · right
      rw [hzero]
      rfl
    · left
      exact fun h => hzero (toDigits_head?_eq_zero h)
  simp only [isWhole, Bool.and_eq_true, Bool.not_eq_true', List.isEmpty_eq_false_iff,
    List.all_eq_true, Bool.or_eq_true, bne_iff_ne, beq_iff_eq]
  exact ⟨⟨hne, hdigits⟩, hlead⟩

variable {digits : List Char}

theorem isDigit_of_isWhole (h : isWhole digits = true) : ∀ c ∈ digits, c.isDigit = true := by
  simp only [isWhole, Bool.and_eq_true, List.all_eq_true] at h
  exact h.1.2

variable {c : Char}

theorem isWordChar_of_isDigit (h : c.isDigit = true) : isWordChar c = true := by
  simp [isWordChar, Char.isAlphanum, h]

theorem isFloatWord_of_isWhole (h : isWhole digits = true) :
    isFloatWord digits = false ∧ isFloatWord ('-' :: digits) = false := by
  have hdigits := isDigit_of_isWhole h
  have htake : digits.takeWhile Char.isDigit = digits := List.takeWhile_eq_self_iff.mpr hdigits
  have hdrop : digits.dropWhile Char.isDigit = [] := List.dropWhile_eq_nil_iff.mpr hdigits
  have hminus : dropMinus digits = digits := by
    match digits, hdigits with
    | [], _ => rfl
    | c :: rest, hdigits =>
      have hc := hdigits c List.mem_cons_self
      unfold dropMinus
      split
      · next heq =>
          injection heq with hc' _
          subst hc'
          simp at hc
      · rfl
  have hnan : digits ≠ "NaN".toList := by
    rintro rfl
    revert h
    decide
  have hinfinity : digits ≠ "Infinity".toList := by
    rintro rfl
    revert h
    decide
  have hfraction : isFraction [] = false := rfl
  constructor
  · simp only [isFloatWord, hminus, htake, hdrop, hfraction, beq_eq_false_iff_ne.mpr hnan,
      beq_eq_false_iff_ne.mpr hinfinity, Bool.and_false, Bool.or_false]
  · have hsigned : '-' :: digits ≠ "NaN".toList := by simp
    have hbody : dropMinus ('-' :: digits) = digits := rfl
    simp only [isFloatWord, hbody, htake, hdrop, hfraction, beq_eq_false_iff_ne.mpr hsigned,
      beq_eq_false_iff_ne.mpr hinfinity, Bool.and_false, Bool.or_false]

theorem wordAtom?_of_isWhole (h : isWhole digits = true) :
    wordAtom? digits = some (.int (Nat.ofDigitChars 10 digits 0 : ℕ)) ∧
      wordAtom? ('-' :: digits) = some (.int (-(Nat.ofDigitChars 10 digits 0 : ℕ))) := by
  obtain ⟨hfloat, hsignedFloat⟩ := isFloatWord_of_isWhole h
  have hnot : ∀ word : List Char, isWhole word = false → digits ≠ word := by
    rintro word hword rfl
    simp [h] at hword
  have hwhole : wholeWord? digits = some (Nat.ofDigitChars 10 digits 0 : ℤ) := by
    unfold wholeWord?
    split
    · next rest =>
        have hminus := isDigit_of_isWhole h '-' List.mem_cons_self
        simp at hminus
    · rw [if_pos h]
  constructor
  · rw [wordAtom?, if_neg (hnot _ (by decide)), if_neg (hnot _ (by decide)),
      if_neg (hnot _ (by decide)), dif_neg (by simp [hfloat]), hwhole]
    rfl
  · rw [wordAtom?, if_neg (by simp), if_neg (by simp), if_neg (by simp),
      dif_neg (by simp [hsignedFloat]), wholeWord?, if_pos h]
    rfl

def Atom.isWord : Atom → Bool
  | .str _ => false
  | _ => true

theorem Atom.print_word {a : Atom} (h : a.isWord = true) :
    a.print ≠ [] ∧ (∀ c ∈ a.print, isWordChar c = true) ∧ wordAtom? a.print = some a := by
  match a, h with
  | .null, _ => exact ⟨by decide, List.all_eq_true.mp rfl, rfl⟩
  | .bool true, _ => exact ⟨by decide, List.all_eq_true.mp rfl, rfl⟩
  | .bool false, _ => exact ⟨by decide, List.all_eq_true.mp rfl, rfl⟩
  | .float ⟨word, hfloat⟩, _ =>
    have hnot : ∀ other : List Char, isFloatWord other = false → word ≠ other := by
      rintro other hother rfl
      simp [hfloat] at hother
    refine ⟨hnot [] rfl, ?_, ?_⟩
    · simp only [isFloatWord, Bool.and_eq_true, List.all_eq_true] at hfloat
      exact hfloat.1
    · rw [Atom.print, wordAtom?, if_neg (hnot _ (by decide)), if_neg (hnot _ (by decide)),
        if_neg (hnot _ (by decide)), dif_pos hfloat]
  | .int (.ofNat n), _ =>
    have hwhole := isWhole_toDigits n
    refine ⟨Nat.toDigits_ne_nil, fun c hc =>
      isWordChar_of_isDigit (isDigit_of_isWhole hwhole c hc), ?_⟩
    rw [Atom.print, intDigits, (wordAtom?_of_isWhole hwhole).1,
      Nat.ofDigitChars_toDigits (by omega) (by omega)]
    rfl
  | .int (.negSucc n), _ =>
    have hwhole := isWhole_toDigits (n + 1)
    refine ⟨by simp [Atom.print, intDigits], ?_, ?_⟩
    · intro c hc
      rcases List.mem_cons.mp hc with rfl | hc
      · rfl
      · exact isWordChar_of_isDigit (isDigit_of_isWhole hwhole c hc)
    · rw [Atom.print, intDigits, (wordAtom?_of_isWhole hwhole).2,
        Nat.ofDigitChars_toDigits (by omega) (by omega)]
      rfl

theorem hexValue?_hexDigit : ∀ digit < 16, hexValue? (hexDigit digit) = some digit := by
  decide

theorem foldlM_escapeChar (tokens : List Token) (read : List Char) (c : Char) :
    (escapeChar c).foldlM lexStep ⟨tokens, .string read⟩ = some ⟨tokens, .string (c :: read)⟩ := by
  unfold escapeChar
  split_ifs with hquote hslash hnewline hreturn htab hback hform hcontrol
  · subst hquote; rfl
  · subst hslash; rfl
  · subst hnewline; rfl
  · subst hreturn; rfl
  · subst htab; rfl
  · subst hback; rfl
  · subst hform; rfl
  · have hhigh := hexValue?_hexDigit (c.toNat / 16) (by omega)
    have hlow := hexValue?_hexDigit (c.toNat % 16) (by omega)
    have hcode : 16 * (c.toNat / 16) + c.toNat % 16 = c.toNat := Nat.div_add_mod _ _
    refine (foldlM_cons_some rfl).trans ((foldlM_cons_some rfl).trans ?_)
    refine (foldlM_cons_some rfl).trans ((foldlM_cons_some rfl).trans ?_)
    have hfifth : lexStep ⟨tokens, .unicode read none 2 0⟩ (hexDigit (c.toNat / 16)) =
        some ⟨tokens, .unicode read none 1 (c.toNat / 16)⟩ := by
      simp [lexStep, hhigh]
    have hsixth : lexStep ⟨tokens, .unicode read none 1 (c.toNat / 16)⟩
        (hexDigit (c.toNat % 16)) = some ⟨tokens, .string (c :: read)⟩ := by
      have hlow' : ¬(0xD800 ≤ c.toNat ∧ c.toNat ≤ 0xDBFF) := by omega
      have hhigh' : ¬(0xDC00 ≤ c.toNat ∧ c.toNat ≤ 0xDFFF) := by omega
      simp only [lexStep, hlow, Option.bind_some, le_refl, if_true, finishUnicode, hcode,
        if_neg hlow', if_neg hhigh', Option.map_some, Char.ofNat_toNat]
    exact (foldlM_cons_some hfifth).trans ((foldlM_cons_some hsixth).trans rfl)
  · refine (foldlM_cons_some ?_).trans rfl
    simp only [lexStep, if_neg hquote, if_neg hslash, if_neg hcontrol]

theorem foldlM_escaped (tokens : List Token) (text read : List Char) :
    (text.flatMap escapeChar).foldlM lexStep ⟨tokens, .string read⟩ =
      some ⟨tokens, .string (text.reverse ++ read)⟩ := by
  induction text generalizing read with
  | nil => rfl
  | cons c rest ih =>
    rw [List.flatMap_cons]
    refine (foldlM_append_some (foldlM_escapeChar tokens read c)).trans ?_
    rw [ih, List.reverse_cons, List.append_assoc]
    rfl

theorem foldlM_print_str (tokens : List Token) (value : String) :
    (Atom.print (.str value)).foldlM lexStep ⟨tokens, .idle⟩ =
      some ⟨.atom (.str value) :: tokens, .idle⟩ := by
  have hopen : lexStep ⟨tokens, .idle⟩ '"' = some ⟨tokens, .string []⟩ := rfl
  have hclose : lexStep ⟨tokens, .string value.toList.reverse⟩ '"' =
      some ⟨.atom (.str value) :: tokens, .idle⟩ := by
    simp [lexStep]
  have hbody := foldlM_escaped tokens value.toList []
  rw [List.append_nil] at hbody
  refine (foldlM_cons_some hopen).trans ((foldlM_append_some hbody).trans ?_)
  exact (foldlM_cons_some hclose).trans rfl

/-! ## Settled states

After a value the lexer is idle, or it still holds a finished word that the next character
other than a word character will turn into a token. -/

inductive Settled : LexState → List Token → Prop where
  | idle (tokens : List Token) : Settled ⟨tokens, .idle⟩ tokens
  | word {tokens : List Token} {read : List Char} {a : Atom}
      (h : wordAtom? read.reverse = some a) : Settled ⟨tokens, .word read⟩ (.atom a :: tokens)

variable {s : LexState} {tokens : List Token}

theorem Settled.step (h : Settled s tokens)
    (hc : isWordChar c = false) : lexStep s c = lexIdle tokens c := by
  cases h with
  | idle => rfl
  | word hword =>
    simp only [lexStep, hc, Bool.false_eq_true, if_false, hword, Option.bind_some]

theorem Settled.finish (h : Settled s tokens) : s.finish = some tokens.reverse := by
  cases h with
  | idle => rfl
  | word hword => simp [LexState.finish, hword]

theorem isWordChar_of_isSpace (h : isSpace c = true) : isWordChar c = false := by
  simp only [isSpace, Bool.or_eq_true, beq_iff_eq] at h
  rcases h with ((rfl | rfl) | rfl) | rfl <;> decide

theorem Settled.blanks (h : Settled s tokens)
    {blanks : List Char} (hblanks : ∀ c ∈ blanks, isSpace c = true) :
    ∃ t, blanks.foldlM lexStep s = some t ∧ Settled t tokens := by
  induction blanks generalizing s with
  | nil => exact ⟨s, rfl, h⟩
  | cons c rest ih =>
    have hc := hblanks c List.mem_cons_self
    have hstep : lexStep s c = some ⟨tokens, .idle⟩ := by
      rw [h.step (isWordChar_of_isSpace hc), lexIdle, if_pos hc]
    obtain ⟨t, hrest, ht⟩ := ih (Settled.idle tokens)
      (fun x hx => hblanks x (List.mem_cons_of_mem c hx))
    exact ⟨t, (foldlM_cons_some hstep).trans hrest, ht⟩

variable {token : Token}

theorem Settled.punctuation (h : Settled s tokens) (hc : punctuation? c = some token) :
    lexStep s c = some ⟨token :: tokens, .idle⟩ := by
  have hplain : isWordChar c = false ∧ isSpace c = false ∧ c ≠ '"' := by
    unfold punctuation? at hc
    split at hc <;> first | decide | cases hc
  rw [h.step hplain.1, lexIdle, if_neg (by simp [hplain.2.1]), if_neg hplain.2.2,
    if_neg (by simp [hplain.1]), hc]
  rfl

theorem foldlM_word (tokens : List Token) {word read : List Char}
    (hword : ∀ c ∈ word, isWordChar c = true) :
    word.foldlM lexStep ⟨tokens, .word read⟩ = some ⟨tokens, .word (word.reverse ++ read)⟩ := by
  induction word generalizing read with
  | nil => rfl
  | cons c rest ih =>
    have hstep : lexStep ⟨tokens, .word read⟩ c = some ⟨tokens, .word (c :: read)⟩ := by
      simp only [lexStep, hword c List.mem_cons_self, if_true]
    refine (foldlM_cons_some hstep).trans ?_
    rw [ih (fun x hx => hword x (List.mem_cons_of_mem c hx)), List.reverse_cons, List.append_assoc]
    rfl

theorem foldlM_print_atom (tokens : List Token) (a : Atom) :
    ∃ t, a.print.foldlM lexStep ⟨tokens, .idle⟩ = some t ∧ Settled t (.atom a :: tokens) := by
  by_cases hword : a.isWord = true
  · obtain ⟨hne, hchars, hatom⟩ := Atom.print_word hword
    generalize a.print = word at hne hchars hatom
    match word, hne with
    | c :: rest, _ =>
      have hc := hchars c List.mem_cons_self
      have hplain : isSpace c = false ∧ c ≠ '"' := by
        constructor
        · by_contra hspace
          rw [isWordChar_of_isSpace (by simpa using hspace)] at hc
          simp at hc
        · rintro rfl
          revert hc
          decide
      have hstep : lexStep ⟨tokens, .idle⟩ c = some ⟨tokens, .word [c]⟩ := by
        rw [lexStep, lexIdle, if_neg (by simp [hplain.1]), if_neg hplain.2, if_pos hc]
      refine ⟨⟨tokens, .word (rest.reverse ++ [c])⟩, (foldlM_cons_some hstep).trans
        (foldlM_word tokens fun x hx => hchars x (List.mem_cons_of_mem c hx)), ?_⟩
      refine Settled.word ?_
      rwa [List.reverse_append, List.reverse_reverse, List.reverse_singleton, List.singleton_append]
  · match a, hword with
    | .str value, _ => exact ⟨_, foldlM_print_str tokens value, Settled.idle _⟩

/-! ## Written values -/

theorem Layout.newline_isSpace (layout : Layout) (level : ℕ) :
    ∀ c ∈ layout.newline level, isSpace c = true := by
  intro c hc
  unfold Layout.newline at hc
  split at hc
  · simp at hc
  · rcases List.mem_cons.mp hc with rfl | hc
    · rfl
    · rw [List.eq_of_mem_replicate hc]
      rfl

/-- Read between two tokens, `text` adds the tokens `added`. -/
def Starts (text : List Char) (added : List Token) : Prop :=
  ∀ tokens, ∃ t, text.foldlM lexStep ⟨tokens, .idle⟩ = some t ∧ Settled t (added.reverse ++ tokens)

/-- Read behind a value, `text` adds the tokens `added`. -/
def Continues (text : List Char) (added : List Token) : Prop :=
  ∀ s tokens, Settled s tokens →
    ∃ t, text.foldlM lexStep s = some t ∧ Settled t (added.reverse ++ tokens)

theorem Starts.append {first rest : List Char} {added more : List Token}
    (hfirst : Starts first added) (hrest : Continues rest more) :
    Starts (first ++ rest) (added ++ more) := by
  intro tokens
  obtain ⟨s, hs, hsettled⟩ := hfirst tokens
  obtain ⟨t, ht, hend⟩ := hrest s _ hsettled
  refine ⟨t, (foldlM_append_some hs).trans ht, ?_⟩
  rwa [List.reverse_append, List.append_assoc]

variable {added : List Token}

theorem Starts.blanks {blanks text : List Char} (hblanks : ∀ c ∈ blanks, isSpace c = true)
    (h : Starts text added) : Starts (blanks ++ text) added := by
  induction blanks with
  | nil => exact h
  | cons c rest ih =>
    intro tokens
    have hstep : lexStep ⟨tokens, .idle⟩ c = some ⟨tokens, .idle⟩ := by
      rw [lexStep, lexIdle, if_pos (hblanks c List.mem_cons_self)]
    obtain ⟨t, ht, hend⟩ := ih (fun x hx => hblanks x (List.mem_cons_of_mem c hx)) tokens
    exact ⟨t, (foldlM_cons_some hstep).trans ht, hend⟩

theorem Continues.blanks {blanks text : List Char} (hblanks : ∀ c ∈ blanks, isSpace c = true)
    (h : Continues text added) : Continues (blanks ++ text) added := by
  intro s tokens hs
  obtain ⟨mid, hmid, hsettled⟩ := hs.blanks hblanks
  obtain ⟨t, ht, hend⟩ := h mid tokens hsettled
  exact ⟨t, (foldlM_append_some hmid).trans ht, hend⟩

variable {text : List Char}

/-- Punctuation may follow a value, and what follows it starts between two tokens. -/
theorem Starts.punctuation (hc : punctuation? c = some token) (h : Starts text added) :
    Continues (c :: text) (token :: added) := by
  intro s tokens hs
  obtain ⟨t, ht, hend⟩ := h (token :: tokens)
  refine ⟨t, (foldlM_cons_some (hs.punctuation hc)).trans ht, ?_⟩
  rwa [List.reverse_cons, List.append_assoc]

theorem Continues.starts (h : Continues text added) :
    Starts text added := fun tokens => h _ tokens (Settled.idle tokens)

theorem starts_nil : Starts [] [] := fun tokens => ⟨_, rfl, Settled.idle tokens⟩

theorem starts_atom (a : Atom) : Starts a.print [.atom a] := fun tokens => foldlM_print_atom tokens a

theorem continues_close (layout : Layout) (level : ℕ)
    (hc : punctuation? c = some token) : Continues (layout.newline level ++ [c]) [token] :=
  (starts_nil.punctuation hc).blanks (layout.newline_isSpace level)

theorem Starts.comma (layout : Layout) (level : ℕ)
    (h : Starts text added) : Continues (layout.comma level ++ text) (.comma :: added) := by
  have hblanks : ∀ c ∈ layout.afterComma.val, isSpace c = true :=
    List.all_eq_true.mp layout.afterComma.property
  have hlines := (h.blanks (layout.newline_isSpace level)).blanks hblanks
  rw [← List.append_assoc] at hlines
  exact hlines.punctuation rfl

theorem Starts.member (layout : Layout) (key : String) (h : Starts text added) :
    Starts (Atom.print (.str key) ++ (':' :: (layout.afterColon.val ++ text)))
      (.atom (.str key) :: .colon :: added) := by
  have hblanks : ∀ c ∈ layout.afterColon.val, isSpace c = true :=
    List.all_eq_true.mp layout.afterColon.property
  exact (starts_atom (.str key)).append ((h.blanks hblanks).punctuation rfl)

mutual

theorem starts_print (layout : Layout) (level : ℕ) (v : Value) :
    Starts (v.print layout level) v.tokens := by
  match v with
  | .atom a =>
    rw [Value.print, Value.tokens]
    exact starts_atom a
  | .arr [] =>
    rw [Value.print, Value.tokens]
    exact ((starts_nil.punctuation rfl).starts.punctuation rfl).starts
  | .arr (item :: items) =>
    have hitem := starts_print layout (level + 1) item
    have hitems := continues_printItems layout (level + 1) items
      (continues_close layout level (c := ']') rfl)
    rw [Value.print, Value.tokens]
    exact (((hitem.append hitems).blanks (layout.newline_isSpace _)).punctuation rfl).starts
  | .obj [] =>
    rw [Value.print, Value.tokens]
    exact ((starts_nil.punctuation rfl).starts.punctuation rfl).starts
  | .obj ((key, value) :: members) =>
    have hvalue := starts_print layout (level + 1) value
    have hmembers := continues_printMembers layout (level + 1) members
      (continues_close layout level (c := '}') rfl)
    rw [Value.print, Value.tokens]
    exact ((((hvalue.append hmembers).member layout key).blanks
      (layout.newline_isSpace _)).punctuation rfl).starts

theorem continues_printItems (layout : Layout) (level : ℕ) (items : List Value)
    {close : List Char} (hclose : Continues close [.closeBracket]) :
    Continues (printItems layout level items ++ close) (itemTokens items) := by
  match items with
  | [] =>
    rw [printItems, itemTokens]
    exact hclose
  | item :: items =>
    have hitem := starts_print layout level item
    have hitems := continues_printItems layout level items hclose
    rw [printItems, itemTokens, List.append_assoc, List.append_assoc]
    exact (hitem.append hitems).comma layout level

theorem continues_printMembers (layout : Layout) (level : ℕ) (members : List (String × Value))
    {close : List Char} (hclose : Continues close [.closeBrace]) :
    Continues (printMembers layout level members ++ close) (memberTokens members) := by
  match members with
  | [] =>
    rw [printMembers, memberTokens]
    exact hclose
  | (key, value) :: members =>
    have hvalue := starts_print layout level value
    have hmembers := continues_printMembers layout level members hclose
    have hmember := (hvalue.append hmembers).member layout key
    rw [printMembers, memberTokens]
    simp only [List.append_assoc, List.cons_append] at hmember ⊢
    exact hmember.comma layout level

end

theorem parse_print (layout : Layout) (level : ℕ) (v : Value) {blanks : List Char}
    (hblanks : ∀ c ∈ blanks, isSpace c = true) :
    parse (v.print layout level ++ blanks) = some v := by
  obtain ⟨s, hs, hsettled⟩ := starts_print layout level v []
  obtain ⟨t, ht, hend⟩ := hsettled.blanks hblanks
  rw [parse, lex, (foldlM_append_some hs).trans ht, Option.bind_some, hend.finish,
    List.append_nil, List.reverse_reverse, Option.bind_some, parseTokens_tokens]

theorem print_injective (layout : Layout) {v w : Value}
    (h : v.print layout 0 = w.print layout 0) : v = w := by
  have hv := parse_print layout 0 v (by simp : ∀ c ∈ ([] : List Char), isSpace c = true)
  have hw := parse_print layout 0 w (by simp : ∀ c ∈ ([] : List Char), isSpace c = true)
  rw [h] at hv
  exact Option.some.inj (hv.symm.trans hw)

end Json

/-! # Characters that may be written as escapes

A character that has no place outside of strings, and none behind a backslash, may be written as an
escape wherever it stands in a text: the text reads as before. -/

namespace Json

/-- Only within a string does the lexer take the character. -/
structure OnlyInStrings (character : Char) : Prop where
  space : isSpace character = false
  quote : character ≠ '"'
  backslash : character ≠ '\\'
  word : isWordChar character = false
  punctuation : punctuation? character = none
  unicode : character ≠ 'u'
  simple : simpleEscape? character = none
  hex : hexValue? character = none
  printable : ¬character.toNat < 32

variable {c : Char}

theorem OnlyInStrings.lexIdle (h : OnlyInStrings c) (tokens : List Token) :
    lexIdle tokens c = none := by
  simp [Json.lexIdle, h.space, h.quote, h.word, h.punctuation]

variable {s t : LexState}

theorem OnlyInStrings.lexStep (h : OnlyInStrings c)
    (hstep : lexStep s c = some t) :
    ∃ read, s.mode = .string read ∧ t = ⟨s.tokens, .string (c :: read)⟩ := by
  obtain ⟨tokens, mode⟩ := s
  cases mode with
  | idle => simp [Json.lexStep, h.lexIdle] at hstep
  | word read => simp [Json.lexStep, h.word, h.lexIdle] at hstep
  | string read =>
    simp only [Json.lexStep, if_neg h.quote, if_neg h.backslash, if_neg h.printable,
      Option.some.injEq] at hstep
    exact ⟨read, rfl, hstep.symm⟩
  | escape read => simp [Json.lexStep, h.unicode, h.simple] at hstep
  | unicode read high missing code => simp [Json.lexStep, h.hex] at hstep
  | surrogate read high => simp [Json.lexStep, h.backslash] at hstep
  | surrogateEscape read high => simp [Json.lexStep, h.unicode] at hstep

def Escapes (escape : Char → List Char) : Prop :=
  ∀ c, escape c = [c] ∨ OnlyInStrings c ∧ ∀ tokens read,
    (escape c).foldlM lexStep ⟨tokens, .string read⟩ = some ⟨tokens, .string (c :: read)⟩

variable {escape : Char → List Char} {text : List Char}

theorem foldlM_flatMap_escape (h : Escapes escape)
    (hread : text.foldlM lexStep s = some t) : (text.flatMap escape).foldlM lexStep s = some t := by
  induction text generalizing s with
  | nil => exact hread
  | cons c rest ih =>
    obtain ⟨middle, hstep, hrest⟩ := Option.bind_eq_some_iff.mp hread
    rw [List.flatMap_cons, List.foldlM_append]
    refine Option.bind_eq_some_iff.mpr ⟨middle, ?_, ih hrest⟩
    obtain hsame | ⟨honly, hescape⟩ := h c
    · rw [hsame]
      simpa using hstep
    · obtain ⟨read, hmode, rfl⟩ := honly.lexStep hstep
      obtain ⟨tokens, mode⟩ := s
      obtain rfl : mode = .string read := hmode
      exact hescape tokens read

theorem parse_flatMap_escape (h : Escapes escape) {v : Value}
    (hparse : parse text = some v) : parse (text.flatMap escape) = some v := by
  obtain ⟨tokens, hlex, hvalue⟩ := Option.bind_eq_some_iff.mp hparse
  obtain ⟨final, hread, hfinish⟩ := Option.bind_eq_some_iff.mp hlex
  have hescaped : lex (text.flatMap escape) = some tokens :=
    Option.bind_eq_some_iff.mpr ⟨final, foldlM_flatMap_escape h hread, hfinish⟩
  exact Option.bind_eq_some_iff.mpr ⟨tokens, hescaped, hvalue⟩

end Json
