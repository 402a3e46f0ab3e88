import AgenticLab.Model.Exceptions
import Mathlib.Data.List.TakeWhile
import Mathlib.Data.Rat.Floor

/-! # Texts and times of the application records -/

namespace AgenticLab

/-! ## Texts -/

/-- `str.isspace` for one character. -/
def isSpace (character : Char) : Bool :=
  let code := character.toNat
  (9 ≤ code && code ≤ 13) || (28 ≤ code && code ≤ 32) || code == 0x85 || code == 0xa0 ||
    code == 0x1680 || (0x2000 ≤ code && code ≤ 0x200a) || code == 0x2028 || code == 0x2029 ||
    code == 0x202f || code == 0x205f || code == 0x3000

def strip (text : String) : String :=
  String.ofList (((text.toList.dropWhile isSpace).reverse.dropWhile isSpace).reverse)

/-- `text[start:end]` -/
def textSlice (text : String) (start stop : ℕ) : String :=
  String.ofList ((text.toList.take stop).drop start)

/-- `not value.strip()` -/
def isBlank (text : String) : Bool := strip text == ""

variable {text : String}

theorem isBlank_iff :
    isBlank text = true ↔ ∀ character ∈ text.toList, isSpace character = true := by
  have hempty : isBlank text = true ↔
      ((text.toList.dropWhile isSpace).reverse.dropWhile isSpace).reverse = [] := by
    rw [isBlank, beq_iff_eq, strip, ← String.toList_inj, String.toList_ofList]
    rfl
  rw [hempty, List.reverse_eq_nil_iff]
  constructor
  · intro h
    rw [List.dropWhile_eq_nil_iff] at h
    cases hrest : text.toList.dropWhile isSpace with
    | nil => exact List.dropWhile_eq_nil_iff.mp hrest
    | cons first rest =>
      have hspace := h first (by simp [hrest])
      have hhead := List.head?_dropWhile_not isSpace text.toList
      rw [hrest] at hhead
      exact absurd (hspace.symm.trans hhead) (by decide)
  · intro h
    rw [List.dropWhile_eq_nil_iff.mpr h]
    rfl

theorem isBlank_append {first second : String} (h : isBlank first = false) :
    isBlank (first ++ second) = false := by
  rw [Bool.eq_false_iff, Ne, isBlank_iff] at h ⊢
  intro hall
  exact h fun character hmem => hall character (by simp [hmem])

theorem strip_eq_empty (h : isBlank (strip text) = true) : strip text = "" := by
  rw [isBlank_iff, strip, String.toList_ofList] at h
  cases hrest : (text.toList.dropWhile isSpace).reverse.dropWhile isSpace with
  | nil =>
    rw [strip, hrest]
    rfl
  | cons last rest =>
    have hspace := h last (by simp [hrest])
    have hhead := List.head?_dropWhile_not isSpace (text.toList.dropWhile isSpace).reverse
    rw [hrest] at hhead
    exact absurd (hspace.symm.trans hhead) (by decide)

@[simp] theorem isBlank_strip (text : String) : isBlank (strip text) = isBlank text := by
  rw [Bool.eq_iff_iff]
  constructor
  · intro h
    exact beq_iff_eq.mpr (strip_eq_empty h)
  · intro h
    rw [eq_of_beq h]
    rfl

theorem strip_eq_self {first last : Char} {middle : List Char}
    (htext : text.toList = first :: middle ++ [last]) (hfirst : isSpace first = false)
    (hlast : isSpace last = false) : strip text = text := by
  rw [← String.toList_inj, strip, String.toList_ofList, htext, List.cons_append,
    List.dropWhile_cons_of_neg (by simp [hfirst]), List.reverse_cons, List.reverse_append,
    List.reverse_singleton, List.singleton_append, List.cons_append,
    List.dropWhile_cons_of_neg (by simp [hlast])]
  simp

theorem isSpace_of_isDigit {character : Char} (h : character.isDigit = true) :
    isSpace character = false := by
  rw [Bool.eq_false_iff]
  intro hspace
  simp only [isSpace, Char.isDigit, Bool.or_eq_true, Bool.and_eq_true, decide_eq_true_eq,
    beq_iff_eq, UInt32.le_iff_toNat_le] at hspace h
  have hnat : character.val.toNat = character.toNat := rfl
  have hzero : '0'.val.toNat = 48 := rfl
  have hnine : '9'.val.toNat = 57 := rfl
  omega

theorem isBlank_toString (value : ℕ) : isBlank (toString value) = false := by
  rw [Bool.eq_false_iff, Ne, isBlank_iff]
  intro hall
  have hdigits : (toString value).toList = Nat.toDigits 10 value := Nat.toList_repr
  obtain ⟨digit, hdigit⟩ := List.exists_mem_of_ne_nil _ (Nat.toDigits_ne_nil (n := value) (b := 10))
  have hspace := isSpace_of_isDigit (Nat.isDigit_of_mem_toDigits (by decide) (by decide) hdigit)
  rw [hall digit (hdigits ▸ hdigit)] at hspace
  cases hspace

/-- `str.casefold` is left to the platform. -/
abbrev Casefold := String → String

/-- `casefold` on ASCII texts. -/
def asciiCasefold : Casefold := fun text => String.ofList (text.toList.map Char.toLower)

theorem toLower_of_not_upper {character : Char} (h : ¬('A' ≤ character ∧ character ≤ 'Z')) :
    character.toLower = character := by
  exact dif_neg h

theorem asciiCasefold_eq_self (htext : ∀ character ∈ text.toList,
    character.isLower = true ∨ character.isDigit = true ∨ character = '-') :
    asciiCasefold text = text := by
  rw [asciiCasefold, ← String.toList_inj, String.toList_ofList]
  refine (List.map_congr_left fun character hmem => ?_).trans (List.map_id _)
  refine toLower_of_not_upper ?_
  rintro ⟨hlow, hhigh⟩
  rw [Char.le_def, UInt32.le_iff_toNat_le] at hlow hhigh
  have hA : 'A'.val.toNat = 65 := rfl
  have hZ : 'Z'.val.toNat = 90 := rfl
  rcases htext character hmem with hlower | hdigit | rfl
  · change (character.val ≥ 'a'.val && character.val ≤ 'z'.val) = true at hlower
    simp only [Bool.and_eq_true, decide_eq_true_eq, ge_iff_le, UInt32.le_iff_toNat_le] at hlower
    have ha : 'a'.val.toNat = 97 := rfl
    omega
  · simp only [Char.isDigit, Bool.and_eq_true, decide_eq_true_eq, ge_iff_le,
      UInt32.le_iff_toNat_le] at hdigit
    have hnine : '9'.val.toNat = 57 := rfl
    omega
  · exact absurd hlow (by decide)

def normalizeId (casefold : Casefold) (value : String) : String := casefold (strip value)

/-- `for field_name, value in {...}.items(): if not value.strip(): raise ValueError(...)` -/
def requireTexts : List (String × String) → Except Raised Unit
  | [] => .ok ()
  | (fieldName, value) :: rest => do
      raiseIf (isBlank value) ⟨.validationError, fieldName ++ " must not be blank"⟩
      requireTexts rest

def requireOptionalTexts : List (String × Option String) → Except Raised Unit
  | [] => .ok ()
  | (fieldName, value) :: rest => do
      raiseIf (value.any isBlank)
        ⟨.validationError, fieldName ++ " must not be blank when provided"⟩
      requireOptionalTexts rest

/-- The loop over `metadata.items()`. -/
def validateMetadata : List (String × String) → Except Raised Unit
  | [] => .ok ()
  | (key, value) :: rest => do
      raiseIf (isBlank key) ⟨.validationError, "metadata keys must not be blank"⟩
      raiseIf (isBlank value) ⟨.validationError, "metadata values must not be blank"⟩
      validateMetadata rest

theorem requireTexts_eq_ok {texts : List (String × String)} :
    requireTexts texts = .ok () ↔ ∀ text ∈ texts, isBlank text.2 = false := by
  induction texts with
  | nil => simp [requireTexts]
  | cons text texts ih =>
    obtain ⟨fieldName, value⟩ := text
    rw [requireTexts, raiseIf_bind_eq_ok, Bool.not_eq_true, ih, List.forall_mem_cons]

theorem requireOptionalTexts_eq_ok {texts : List (String × Option String)} :
    requireOptionalTexts texts = .ok () ↔ ∀ text ∈ texts, text.2.any isBlank = false := by
  induction texts with
  | nil => simp [requireOptionalTexts]
  | cons text texts ih =>
    obtain ⟨fieldName, value⟩ := text
    rw [requireOptionalTexts, raiseIf_bind_eq_ok, Bool.not_eq_true, ih, List.forall_mem_cons]

theorem validateMetadata_eq_ok {metadata : List (String × String)} :
    validateMetadata metadata = .ok () ↔
      ∀ member ∈ metadata, isBlank member.1 = false ∧ isBlank member.2 = false := by
  induction metadata with
  | nil => simp [validateMetadata]
  | cons member rest ih =>
    rw [validateMetadata, raiseIf_bind_eq_ok, raiseIf_bind_eq_ok, ih, List.forall_mem_cons]
    simp [and_assoc]

/-- `dict.update` with one member. -/
def dictSet (members : List (String × String)) (key value : String) : List (String × String) :=
  if members.any (·.1 == key) then
    members.map fun member => if member.1 = key then (key, value) else member
  else members ++ [(key, value)]

/-! ## Times -/

/-- The end of the year 9999 in microseconds from the first of January of the year 1. -/
def maxWall : ℕ := 3652059 * 86400 * 1000000

/-- A `datetime`: its wall clock in microseconds, and its fixed distance from UTC unless it is
naive. -/
structure Datetime where
  wall : ℕ
  utcoffset : Option ℤ
  wall_lt : wall < maxWall
  deriving DecidableEq

namespace Datetime

def instant (t : Datetime) : ℤ := t.wall - t.utcoffset.getD 0

/-- `value.tzinfo is None` -/
def isNaive (t : Datetime) : Bool := t.utcoffset.isNone

instance : Preorder Datetime where
  le a b := a.instant ≤ b.instant
  lt a b := a.instant < b.instant
  le_refl a := Int.le_refl a.instant
  le_trans _ _ _ := Int.le_trans
  lt_iff_le_not_ge _ _ := Int.lt_iff_le_and_not_ge

instance (a b : Datetime) : Decidable (a ≤ b) := inferInstanceAs (Decidable (a.instant ≤ b.instant))
instance (a b : Datetime) : Decidable (a < b) := inferInstanceAs (Decidable (a.instant < b.instant))

@[simp] theorem not_lt {a b : Datetime} : ¬a < b ↔ b ≤ a := Int.not_lt

@[simp] theorem not_le {a b : Datetime} : ¬a ≤ b ↔ b < a := Int.not_le

def roundHalfEven (x : ℚ) : ℤ :=
  let below := x.floor
  if x - below < 1 / 2 then below
  else if x - below = 1 / 2 then if below % 2 = 0 then below else below + 1
  else below + 1

/-- `timedelta(seconds=seconds)` in microseconds. -/
def timedelta (seconds : ℚ) : Except Raised ℤ :=
  let microseconds := roundHalfEven (seconds * 1000000)
  if (microseconds / 86400000000).natAbs ≤ 999999999 then .ok microseconds
  else .error ⟨.overflowError, "days must have magnitude <= 999999999"⟩

/-- `t + delta` -/
def add (t : Datetime) (delta : ℤ) : Except Raised Datetime :=
  if h : 0 ≤ t.wall + delta ∧ (t.wall + delta).toNat < maxWall then
    .ok ⟨(t.wall + delta).toNat, t.utcoffset, h.2⟩
  else .error ⟨.overflowError, "date value out of range"⟩

/-- `t + timedelta(seconds=seconds)` -/
def addSeconds (t : Datetime) (seconds : ℚ) : Except Raised Datetime := do
  t.add (← timedelta seconds)

/-- The checks of `value.tzinfo is None` for each given time. -/
def requireAware : List (String × Option Datetime) → Except Raised Unit
  | [] => .ok ()
  | (fieldName, value) :: rest => do
      raiseIf (value.any isNaive) ⟨.validationError, fieldName ++ " must be timezone-aware"⟩
      requireAware rest

end Datetime

theorem maxWall_pos : 0 < maxWall := by decide

theorem isBlank_of_mem_none : ∀ text ∈ (none : Option String), isBlank text = false := by simp

end AgenticLab
