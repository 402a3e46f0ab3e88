import Mathlib.Data.List.Infix

/-! # Fields before single separators

Some fields, each with a separator behind it, and then anything. -/

namespace SeparatedFields

variable {α : Type*} (separator : α)

def join (fields : List (List α)) (last : List α) : List α :=
  fields.foldr (fun field rest => field ++ separator :: rest) last

variable {separator}

@[simp] theorem join_nil (last : List α) : join separator [] last = last := rfl

@[simp] theorem join_cons (field : List α) (fields : List (List α)) (last : List α) :
    join separator (field :: fields) last = field ++ separator :: join separator fields last := rfl

variable {field other rest otherRest : List α}

theorem split_injective (hfield : separator ∉ field)
    (hother : separator ∉ other) (h : field ++ separator :: rest = other ++ separator :: otherRest) :
    field = other ∧ rest = otherRest := by
  induction field generalizing other with
  | nil =>
    cases other with
    | nil => exact ⟨rfl, (List.cons.inj h).2⟩
    | cons a other =>
      have hhead : separator = a := (List.cons.inj h).1
      exact absurd (hhead ▸ List.mem_cons_self) hother
  | cons a field ih =>
    cases other with
    | nil =>
      have hhead : a = separator := (List.cons.inj h).1
      exact absurd (hhead ▸ List.mem_cons_self) hfield
    | cons b other =>
      obtain ⟨rfl, htail⟩ := List.cons.inj h
      obtain ⟨hsame, hrest⟩ := ih (fun hmem => hfield (List.mem_cons_of_mem _ hmem))
        (fun hmem => hother (List.mem_cons_of_mem _ hmem)) htail
      exact ⟨by rw [hsame], hrest⟩

/-- Without a condition, one of two fields may reach past the separator of the other. -/
theorem split_or_longer (h : field ++ separator :: rest = other ++ separator :: otherRest) :
    (field = other ∧ rest = otherRest) ∨ field ++ [separator] <+: other ∨
      other ++ [separator] <+: field := by
  induction field generalizing other with
  | nil =>
    cases other with
    | nil => exact .inl ⟨rfl, (List.cons.inj h).2⟩
    | cons a other =>
      have hhead : separator = a := (List.cons.inj h).1
      exact .inr (.inl (hhead ▸ List.prefix_append [separator] other))
  | cons a field ih =>
    cases other with
    | nil =>
      have hhead : a = separator := (List.cons.inj h).1
      exact .inr (.inr (hhead ▸ List.prefix_append [a] field))
    | cons b other =>
      obtain ⟨rfl, htail⟩ := List.cons.inj h
      rcases ih htail with ⟨rfl, hrest⟩ | hlonger | hlonger
      · exact .inl ⟨rfl, hrest⟩
      · exact .inr (.inl (List.cons_prefix_cons.mpr ⟨rfl, hlonger⟩))
      · exact .inr (.inr (List.cons_prefix_cons.mpr ⟨rfl, hlonger⟩))

theorem join_injective {fields others : List (List α)} {last otherLast : List α}
    (hfields : ∀ field ∈ fields, separator ∉ field) (hothers : ∀ field ∈ others, separator ∉ field)
    (hlength : fields.length = others.length)
    (h : join separator fields last = join separator others otherLast) :
    fields = others ∧ last = otherLast := by
  induction fields generalizing others with
  | nil =>
    cases others with
    | nil => exact ⟨rfl, h⟩
    | cons other others => simp at hlength
  | cons field fields ih =>
    cases others with
    | nil => simp at hlength
    | cons other others =>
      obtain ⟨hfield, hrest⟩ := List.forall_mem_cons.mp hfields
      obtain ⟨hother, hrestOthers⟩ := List.forall_mem_cons.mp hothers
      have hsplit := split_injective hfield hother h
      obtain ⟨hsame, hlast⟩ := ih hrest hrestOthers (by simpa using hlength) hsplit.2
      exact ⟨by rw [hsplit.1, hsame], hlast⟩

end SeparatedFields

/-! # Fields between doubled separators

Lists cut at two separators in a row, from left to right. -/

namespace DoubledSeparator

variable {α : Type*}

def join (separator : α) : List (List α) → List α
  | [] => []
  | [field] => field
  | field :: next :: fields => field ++ separator :: separator :: join separator (next :: fields)

variable [DecidableEq α] {separator : α}

variable (separator) in
def split : List α → List (List α)
  | [] => [[]]
  | [a] => [[a]]
  | a :: b :: rest =>
    if a = separator ∧ b = separator then [] :: split rest
    else (split (b :: rest)).modifyHead (a :: ·)

theorem split_ne_nil (text : List α) : split separator text ≠ [] := by
  induction text using split.induct separator with
  | case1 => simp [split]
  | case2 => simp [split]
  | case3 a b rest hcut ih => simp [split, hcut]
  | case4 a b rest hkeep ih => simp [split, hkeep, ih]

omit [DecidableEq α] in
theorem join_cons_of_ne_nil {field : List α} {fields : List (List α)} (h : fields ≠ []) :
    join separator (field :: fields) =
      field ++ separator :: separator :: join separator fields := by
  cases fields with
  | nil => exact absurd rfl h
  | cons next fields => rfl

omit [DecidableEq α] in
theorem join_modifyHead {a : α} {fields : List (List α)} (h : fields ≠ []) :
    join separator (fields.modifyHead (a :: ·)) = a :: join separator fields := by
  cases fields with
  | nil => exact absurd rfl h
  | cons field fields =>
    cases fields with
    | nil => simp [join]
    | cons next fields => simp [join]

theorem join_split (text : List α) : join separator (split separator text) = text := by
  induction text using split.induct separator with
  | case1 => rfl
  | case2 => rfl
  | case3 a b rest hcut ih =>
    rw [split, if_pos hcut, join_cons_of_ne_nil (split_ne_nil rest), ih, hcut.1, hcut.2]
    rfl
  | case4 a b rest hkeep ih =>
    rw [split, if_neg hkeep, join_modifyHead (split_ne_nil (b :: rest)), ih]

theorem split_of_not_infix {text : List α} (h : ¬[separator, separator] <:+: text) :
    split separator text = [text] := by
  induction text using split.induct separator with
  | case1 => rfl
  | case2 => rfl
  | case3 a b rest hcut ih =>
    refine absurd ?_ h
    rw [hcut.1, hcut.2]
    exact ⟨[], rest, rfl⟩
  | case4 a b rest hkeep ih =>
    rw [split, if_neg hkeep, ih fun hpair => h (hpair.trans (List.suffix_cons a _).isInfix)]
    rfl

theorem split_append {field rest : List α} (h : separator ∉ field) :
    split separator (field ++ separator :: separator :: rest) =
      field :: split separator rest := by
  induction field with
  | nil => simp [split]
  | cons a field ih =>
    have ha : a ≠ separator := fun heq => h (heq ▸ List.mem_cons_self)
    have hfield := ih fun hmem => h (List.mem_cons_of_mem a hmem)
    cases field with
    | nil =>
      rw [List.nil_append] at hfield
      simp [split, ha]
    | cons b field =>
      rw [List.cons_append, List.cons_append, split, if_neg fun heq => ha heq.1,
        ← List.cons_append, hfield]
      rfl

end DoubledSeparator
