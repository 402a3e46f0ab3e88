import AgenticLab.Library.Trimming
import AgenticLab.Model.Research.AnswerCitationParser
import Mathlib.Data.List.Nodup

/-! # Answer parsing is exact -/

namespace AgenticLab.DeterministicAnswerCitationParser

open Patterns (AcceptsAt ends findAll findAll_bounds findAll_complete matchEnd?
  mem_ends_of_matchEnd? mem_removeAll pairwise_findAll)
open Trimming

def spaceCode (code : ℕ) : Bool :=
  (9 ≤ code && code ≤ 13) || (28 ≤ code && code ≤ 32) || code == 0x85 || code == 0xa0 ||
    code == 0x1680 || (0x2000 ≤ code && code ≤ 0x200a) || code == 0x2028 || code == 0x2029 ||
    code == 0x202f || code == 0x205f || code == 0x3000

theorem isSpace_eq_spaceCode (character : Char) :
    isSpace character = spaceCode character.toNat := rfl

theorem decimalZeros_spec : ∀ first ∈ decimalZeros, ∀ value < 10,
    spaceCode (first + value) = false ∧ first + value ≠ 91 ∧ first + value ≠ 93 := by
  decide

variable {character : Char}

theorem isDecimal_spec (h : isDecimal character = true) :
    isSpace character = false ∧ character ≠ '[' ∧ character ≠ ']' := by
  obtain ⟨first, hfirst, hrange⟩ := List.any_eq_true.mp h
  rw [Bool.and_eq_true, decide_eq_true_iff, decide_eq_true_iff] at hrange
  have hspec := decimalZeros_spec first hfirst (character.toNat - first) (by omega)
  rw [Nat.add_sub_cancel' hrange.1] at hspec
  refine ⟨hspec.1, ?_, ?_⟩
  · rintro rfl
    exact hspec.2.1 rfl
  · rintro rfl
    exact hspec.2.2 rfl

theorem isLetter_spec (h : isLetter character = true) :
    isSpace character = false ∧ character ≠ '[' ∧ character ≠ ']' := by
  have hrange : 65 ≤ character.toNat ∧ character.toNat ≤ 122 ∧ character.toNat ≠ 91 ∧
      character.toNat ≠ 93 := by
    simp only [isLetter, Bool.or_eq_true, Bool.and_eq_true, decide_eq_true_eq, Char.le_def,
      UInt32.le_iff_toNat_le] at h
    change (65 ≤ character.toNat ∧ character.toNat ≤ 90) ∨
      (97 ≤ character.toNat ∧ character.toNat ≤ 122) at h
    omega
  refine ⟨?_, ?_, ?_⟩
  · rw [isSpace_eq_spaceCode]
    simp only [spaceCode, Bool.or_eq_false_iff, Bool.and_eq_false_imp, decide_eq_true_eq,
      decide_eq_false_iff_not, beq_eq_false_iff_ne]
    omega
  · rintro rfl
    exact hrange.2.2.1 rfl
  · rintro rfl
    exact hrange.2.2.2 rfl

theorem isSpace_of_isLineEnding (character : Char) (h : isLineEnding character = true) :
    isSpace character = true := by
  rw [isLineEnding, Bool.or_eq_true, decide_eq_true_iff, decide_eq_true_iff] at h
  rcases h with rfl | rfl <;> rfl

/-! ## Markers -/

/-- The text has `[letter digits]` between the positions. -/
structure IsMarker (text : List Char) (start stop : ℕ) : Prop where
  length : start + 4 ≤ stop
  opening : AcceptsAt text (· == '[') start
  letter : AcceptsAt text isLetter (start + 1)
  digits : ∀ place, start + 2 ≤ place → place < stop - 1 → AcceptsAt text isDecimal place
  closing : AcceptsAt text (· == ']') (stop - 1)

section

variable {text : List Char} {start stop place : ℕ}

theorem acceptsAt_iff {accepts : Char → Bool} : AcceptsAt text accepts place ↔
    ∃ character, text[place]? = some character ∧ accepts character = true := by
  rw [AcceptsAt, Option.any_eq_true]

theorem mem_ends_citationPattern :
    stop ∈ ends text citationPattern start ↔ IsMarker text start stop := by
  simp only [citationPattern, Patterns.mem_ends_seq, Patterns.mem_ends_one, Patterns.mem_ends_many]
  constructor
  · rintro ⟨_, ⟨hopening, rfl⟩, _, ⟨hletter, rfl⟩, _, ⟨hdigit, rfl⟩, last, ⟨hle, hdigits⟩, hclosing,
      rfl⟩
    refine ⟨by omega, hopening, hletter, fun place hstart hstop => ?_, hclosing⟩
    obtain rfl | hlt := Nat.eq_or_lt_of_le hstart
    · exact hdigit
    · exact hdigits place hlt (by omega)
  · intro h
    have hlength := h.length
    refine ⟨_, ⟨h.opening, rfl⟩, _, ⟨h.letter, rfl⟩, _,
      ⟨h.digits (start + 2) (le_refl _) (by omega), rfl⟩, stop - 1, ⟨by omega, ?_⟩, h.closing,
      by omega⟩
    intro place hstart hstop
    exact h.digits place (by omega) hstop

theorem IsMarker.inside (h : IsMarker text start stop) (hstart : start < place)
    (hstop : place + 1 < stop) : ∃ character, text[place]? = some character ∧
      isSpace character = false ∧ character ≠ '[' ∧ character ≠ ']' := by
  obtain rfl | hlt := Nat.eq_or_lt_of_le hstart
  · obtain ⟨character, hcharacter, hletter⟩ := acceptsAt_iff.mp h.letter
    exact ⟨character, hcharacter, isLetter_spec hletter⟩
  · obtain ⟨character, hcharacter, hdigit⟩ := acceptsAt_iff.mp (h.digits place hlt (by omega))
    exact ⟨character, hcharacter, isDecimal_spec hdigit⟩

theorem IsMarker.opening_eq (h : IsMarker text start stop) : text[start]? = some '[' := by
  obtain ⟨character, hcharacter, heq⟩ := acceptsAt_iff.mp h.opening
  rwa [eq_of_beq heq] at hcharacter

theorem IsMarker.closing_eq (h : IsMarker text start stop) : text[stop - 1]? = some ']' := by
  obtain ⟨character, hcharacter, heq⟩ := acceptsAt_iff.mp h.closing
  rwa [eq_of_beq heq] at hcharacter

theorem IsMarker.stop_le (h : IsMarker text start stop) : stop ≤ text.length := by
  obtain ⟨hlt, -⟩ := List.getElem?_eq_some_iff.mp h.closing_eq
  omega

variable {other : ℕ}

theorem IsMarker.stop_le_stop (h : IsMarker text start stop)
    (hother : IsMarker text start other) : stop ≤ other := by
  by_contra hlt
  have hlength := hother.length
  obtain ⟨character, hcharacter, -, -, hne⟩ :=
    h.inside (show start < other - 1 by omega) (by omega)
  rw [hother.closing_eq] at hcharacter
  exact hne (Option.some.inj hcharacter).symm

theorem IsMarker.stop_eq (h : IsMarker text start stop)
    (hother : IsMarker text start other) : stop = other :=
  le_antisymm (h.stop_le_stop hother) (hother.stop_le_stop h)

theorem IsMarker.eq_of_inside {last : ℕ} (h : IsMarker text start stop)
    (hother : IsMarker text other last) (hle : start ≤ other) (hlt : other < stop) :
    start = other := by
  by_contra hne
  by_cases hlast : other + 1 < stop
  · obtain ⟨character, hcharacter, -, hopening, -⟩ := h.inside (by omega) hlast
    rw [hother.opening_eq] at hcharacter
    exact hopening (Option.some.inj hcharacter).symm
  · have hclosing := h.closing_eq
    rw [show stop - 1 = other by omega, hother.opening_eq] at hclosing
    exact absurd (Option.some.inj hclosing) (by decide)

theorem matchEnd?_eq_some_iff :
    matchEnd? text citationPattern start = some stop ↔ IsMarker text start stop := by
  constructor
  · intro h
    exact mem_ends_citationPattern.mp (mem_ends_of_matchEnd? h)
  · intro h
    have hmem := mem_ends_citationPattern.mpr h
    obtain ⟨other, hother⟩ := Option.isSome_iff_exists.mp
      (List.isSome_head?.mpr (List.ne_nil_of_mem hmem))
    have hmarker := mem_ends_citationPattern.mp (List.mem_of_mem_head? hother)
    rw [matchEnd?, hother, h.stop_eq hmarker]

theorem mem_findAll_iff :
    (start, stop) ∈ findAll text citationPattern 0 ↔ IsMarker text start stop := by
  constructor
  · intro h
    exact matchEnd?_eq_some_iff.mp (findAll_bounds h).2.2
  · intro h
    have hlength := h.length
    have hstop := h.stop_le
    obtain ⟨⟨other, last⟩, hfound, hle, hlt⟩ | hnone := @findAll_complete _ text citationPattern start
      0 (Nat.zero_le start) (by omega)
    · have hother := matchEnd?_eq_some_iff.mp (findAll_bounds hfound).2.2
      obtain rfl := hother.eq_of_inside h hle hlt
      obtain rfl := hother.stop_eq h
      exact hfound
    · have hle := hnone stop (matchEnd?_eq_some_iff.mpr h)
      omega

end

structure WellMarked (citationIds : List String) (raw : List Char) : Prop where
  brackets : ∀ place, (raw[place]? = some '[' ∨ raw[place]? = some ']') →
    ∃ start stop, IsMarker raw start stop ∧ start ≤ place ∧ place < stop
  available : ∀ start stop, IsMarker raw start stop → citedId raw (start, stop) ∈ citationIds
  once : ∀ start stop other last, IsMarker raw start stop → IsMarker raw other last →
    citedId raw (start, stop) = citedId raw (other, last) → start = other

section

variable {text : List Char} {citationIds : List String}

theorem mem_markerFreeText {character : Char} : character ∈ markerFreeText text ↔
    ∃ place, text[place]? = some character ∧
      ∀ start stop, IsMarker text start stop → ¬(start ≤ place ∧ place < stop) := by
  rw [markerFreeText, mem_removeAll (pairwise_findAll text citationPattern 0)]
  · constructor
    · rintro ⟨place, -, hplace, hfree⟩
      exact ⟨place, hplace, fun start stop hmarker => hfree (start, stop) (mem_findAll_iff.mpr hmarker)⟩
    · rintro ⟨place, hplace, hfree⟩
      exact ⟨place, Nat.zero_le place, hplace, fun range hrange =>
        hfree range.1 range.2 (mem_findAll_iff.mp hrange)⟩
  · intro range hrange
    have hbounds := findAll_bounds hrange
    exact ⟨hbounds.1, hbounds.2.1.le⟩

theorem nodup_findAll : (findAll text citationPattern 0).Nodup := by
  refine (pairwise_findAll text citationPattern 0).imp_of_mem fun {first second} hfirst _ hle => ?_
  have hbounds := findAll_bounds hfirst
  rintro rfl
  omega

theorem nodup_citedIds_iff : (citedIds text).Nodup ↔
    ∀ start stop other last, IsMarker text start stop → IsMarker text other last →
      citedId text (start, stop) = citedId text (other, last) → start = other := by
  rw [citedIds, List.nodup_map_iff_inj_on nodup_findAll]
  constructor
  · intro h start stop other last hmarker hother heq
    exact congrArg Prod.fst (h _ (mem_findAll_iff.mpr hmarker) _ (mem_findAll_iff.mpr hother) heq)
  · rintro h ⟨start, stop⟩ hmarker ⟨other, last⟩ hother heq
    rw [mem_findAll_iff] at hmarker hother
    obtain rfl := h _ _ _ _ hmarker hother heq
    rw [hmarker.stop_eq hother]

theorem checkMarkers_eq_ok_iff :
    checkMarkers citationIds text = .ok () ↔ WellMarked citationIds text := by
  rw [checkMarkers, raiseIf_bind_eq_ok, raiseIf_bind_eq_ok, raiseIf_eq_ok, not_not,
    nodup_citedIds_iff]
  constructor
  · rintro ⟨hfree, honce, hknown⟩
    refine ⟨fun place hplace => ?_, fun start stop hmarker => ?_, honce⟩
    · by_contra hnone
      have hremains : ∀ start stop, IsMarker text start stop → ¬(start ≤ place ∧ place < stop) :=
        fun start stop hmarker hinside => hnone ⟨start, stop, hmarker, hinside⟩
      exact hfree (hplace.imp (fun h => mem_markerFreeText.mpr ⟨place, h, hremains⟩)
        fun h => mem_markerFreeText.mpr ⟨place, h, hremains⟩)
    · by_contra hunknown
      exact hknown ⟨_, List.mem_map.mpr ⟨_, mem_findAll_iff.mpr hmarker, rfl⟩, hunknown⟩
  · intro h
    refine ⟨?_, h.once, ?_⟩
    · have hinside : ∀ character ∈ ['[', ']'], character ∉ markerFreeText text := by
        intro character hcharacter hmem
        obtain ⟨place, hplace, hfree⟩ := mem_markerFreeText.mp hmem
        obtain ⟨start, stop, hmarker, hrange⟩ := h.brackets place (by
          rcases List.mem_pair.mp hcharacter with rfl | rfl
          · exact .inl hplace
          · exact .inr hplace)
        exact hfree start stop hmarker hrange
      rintro (hmem | hmem)
      · exact hinside '[' (by simp) hmem
      · exact hinside ']' (by simp) hmem
    · rintro ⟨value, hvalue, hunknown⟩
      obtain ⟨⟨start, stop⟩, hfound, rfl⟩ := List.mem_map.mp hvalue
      exact hunknown (h.available start stop (mem_findAll_iff.mp hfound))

end

/-! ## From a line to its text -/

section

variable {raw lead core trail : List Char} {start stop place : ℕ} {character : Char}

theorem isSpace_of_getElem? {spaces : List Char} (h : ∀ character ∈ spaces, isSpace character = true)
    (hplace : spaces[place]? = some character) : isSpace character = true :=
  h character (List.mem_of_getElem? hplace)

theorem getElem?_core (h : Trim isSpace raw lead core trail)
    (hcharacter : isSpace character = false) :
    raw[lead.length + place]? = some character ↔ core[place]? = some character := by
  rw [h.text_eq, List.getElem?_append_right (Nat.le_add_right _ _), Nat.add_sub_cancel_left]
  by_cases hlt : place < core.length
  · rw [List.getElem?_append_left hlt]
  · rw [List.getElem?_append_right (Nat.le_of_not_lt hlt)]
    refine iff_of_false (fun hplace => ?_) (fun hplace => ?_)
    · rw [isSpace_of_getElem? h.trail_space hplace] at hcharacter
      exact absurd hcharacter (by decide)
    · exact hlt (List.getElem?_eq_some_iff.mp hplace).1

theorem length_lead_le (h : Trim isSpace raw lead core trail)
    (hcharacter : isSpace character = false) (hplace : raw[place]? = some character) :
    lead.length ≤ place := by
  by_contra hlt
  rw [h.text_eq, List.getElem?_append_left (Nat.lt_of_not_le hlt)] at hplace
  rw [isSpace_of_getElem? h.lead_space hplace] at hcharacter
  exact absurd hcharacter (by decide)

theorem acceptsAt_core (h : Trim isSpace raw lead core trail) {accepts : Char → Bool}
    (haccepts : ∀ character, accepts character = true → isSpace character = false) :
    AcceptsAt raw accepts (lead.length + place) ↔ AcceptsAt core accepts place := by
  rw [acceptsAt_iff, acceptsAt_iff]
  constructor
  · rintro ⟨character, hplace, haccepted⟩
    exact ⟨character, (getElem?_core h (haccepts character haccepted)).mp hplace, haccepted⟩
  · rintro ⟨character, hplace, haccepted⟩
    exact ⟨character, (getElem?_core h (haccepts character haccepted)).mpr hplace, haccepted⟩

theorem isSpace_of_beq {character bracket : Char} (hbracket : isSpace bracket = false)
    (h : (character == bracket) = true) : isSpace character = false := by
  rwa [eq_of_beq h]

theorem isMarker_core (h : Trim isSpace raw lead core trail) :
    IsMarker raw (lead.length + start) (lead.length + stop) ↔ IsMarker core start stop := by
  have hopening : AcceptsAt raw (· == '[') (lead.length + start) ↔
      AcceptsAt core (· == '[') start := acceptsAt_core h fun _ => isSpace_of_beq rfl
  have hclosing : AcceptsAt raw (· == ']') (lead.length + (stop - 1)) ↔
      AcceptsAt core (· == ']') (stop - 1) := acceptsAt_core h fun _ => isSpace_of_beq rfl
  have hletter : AcceptsAt raw isLetter (lead.length + (start + 1)) ↔
      AcceptsAt core isLetter (start + 1) := acceptsAt_core h fun _ hletter =>
    (isLetter_spec hletter).1
  constructor
  · rintro ⟨hlength, hfirst, hsecond, hdigits, hlast⟩
    rw [show lead.length + stop - 1 = lead.length + (stop - 1) by omega] at hlast
    refine ⟨by omega, hopening.mp hfirst, hletter.mp hsecond, fun place hstart hstop => ?_,
      hclosing.mp hlast⟩
    exact (acceptsAt_core h fun _ hdigit => (isDecimal_spec hdigit).1).mp
      (hdigits (lead.length + place) (by omega) (by omega))
  · rintro ⟨hlength, hfirst, hsecond, hdigits, hlast⟩
    refine ⟨by omega, hopening.mpr hfirst, hletter.mpr hsecond, fun place hstart hstop => ?_, ?_⟩
    · have hdigit := hdigits (place - lead.length) (by omega) (by omega)
      have hplace := (acceptsAt_core h fun _ hdigit => (isDecimal_spec hdigit).1).mpr hdigit
      rwa [show lead.length + (place - lead.length) = place by omega] at hplace
    · rw [show lead.length + stop - 1 = lead.length + (stop - 1) by omega]
      exact hclosing.mpr hlast

theorem exists_isMarker_core (h : Trim isSpace raw lead core trail)
    (hmarker : IsMarker raw start stop) :
    ∃ first last, start = lead.length + first ∧ stop = lead.length + last ∧
      IsMarker core first last := by
  have hle := length_lead_le h rfl hmarker.opening_eq
  have hlength := hmarker.length
  have hstart : start = lead.length + (start - lead.length) := by omega
  have hstop : stop = lead.length + (stop - lead.length) := by omega
  refine ⟨start - lead.length, stop - lead.length, hstart, hstop, (isMarker_core h).mp ?_⟩
  rwa [← hstart, ← hstop]

theorem citedId_core (h : Trim isSpace raw lead core trail) (hmarker : IsMarker core start stop) :
    citedId raw (lead.length + start, lead.length + stop) = citedId core (start, stop) := by
  have hlength := hmarker.length
  have hstop := hmarker.stop_le
  rw [citedId, citedId, h.text_eq,
    show lead.length + stop - 1 = lead.length + (stop - 1) by omega, List.take_length_add_append,
    Nat.add_assoc, List.drop_length_add_append, List.take_append_of_le_length (by omega)]

variable {citationIds : List String}

theorem wellMarked_core (h : Trim isSpace raw lead core trail) :
    WellMarked citationIds raw ↔ WellMarked citationIds core := by
  constructor
  · rintro ⟨hbrackets, havailable, honce⟩
    refine ⟨fun place hplace => ?_, fun start stop hmarker => ?_,
      fun start stop other last hmarker hother heq => ?_⟩
    · obtain ⟨start, stop, hmarker, hle, hlt⟩ := hbrackets (lead.length + place)
        (hplace.imp (getElem?_core h rfl).mpr (getElem?_core h rfl).mpr)
      obtain ⟨first, last, rfl, rfl, hcore⟩ := exists_isMarker_core h hmarker
      exact ⟨first, last, hcore, by omega, by omega⟩
    · rw [← citedId_core h hmarker]
      exact havailable _ _ ((isMarker_core h).mpr hmarker)
    · rw [← citedId_core h hmarker, ← citedId_core h hother] at heq
      have hplace := honce _ _ _ _ ((isMarker_core h).mpr hmarker) ((isMarker_core h).mpr hother) heq
      omega
  · rintro ⟨hbrackets, havailable, honce⟩
    refine ⟨fun place hplace => ?_, fun start stop hmarker => ?_,
      fun start stop other last hmarker hother heq => ?_⟩
    · have hle : lead.length ≤ place := hplace.elim (length_lead_le h rfl) (length_lead_le h rfl)
      have hshift : place = lead.length + (place - lead.length) := by omega
      rw [hshift] at hplace
      obtain ⟨start, stop, hmarker, hstart, hstop⟩ := hbrackets (place - lead.length)
        (hplace.imp (getElem?_core h rfl).mp (getElem?_core h rfl).mp)
      exact ⟨_, _, (isMarker_core h).mpr hmarker, by omega, by omega⟩
    · obtain ⟨first, last, rfl, rfl, hcore⟩ := exists_isMarker_core h hmarker
      rw [citedId_core h hcore]
      exact havailable _ _ hcore
    · obtain ⟨start, stop, rfl, rfl, hcore⟩ := exists_isMarker_core h hmarker
      obtain ⟨other, last, rfl, rfl, hcore'⟩ := exists_isMarker_core h hother
      rw [citedId_core h hcore, citedId_core h hcore'] at heq
      rw [honce _ _ _ _ hcore hcore' heq]

theorem wellMarked_of_spaces
    (h : ∀ character ∈ raw, isSpace character = true) : WellMarked citationIds raw := by
  have hnone : ∀ start stop, ¬IsMarker raw start stop := fun start stop hmarker =>
    absurd (isSpace_of_getElem? h hmarker.opening_eq) (by decide)
  refine ⟨fun place hplace => ?_, fun start stop hmarker => (hnone start stop hmarker).elim,
    fun start stop _ _ hmarker => (hnone start stop hmarker).elim⟩
  rcases hplace with hplace | hplace
  · exact absurd (isSpace_of_getElem? h hplace) (by decide)
  · exact absurd (isSpace_of_getElem? h hplace) (by decide)

end

def statementOf (number offset : ℕ) (lead core : List Char) : AnswerStatement :=
  ⟨statementId number, String.ofList core, offset + lead.length,
    offset + lead.length + core.length, citedIds core⟩

section

variable {raw lead core trail : List Char} {citationIds : List String}

theorem isBlank_ofList_iff {text : List Char} :
    isBlank (String.ofList text) = true ↔ ∀ character ∈ text, isSpace character = true := by
  rw [isBlank_iff, String.toList_ofList]

theorem isBlank_core (h : Trim isSpace raw lead core trail) :
    isBlank (String.ofList core) = false := by
  obtain ⟨first, rest, rfl, hfirst⟩ := h.head_text
  rw [Bool.eq_false_iff, Ne, isBlank_ofList_iff]
  intro hall
  rw [hall first List.mem_cons_self] at hfirst
  exact absurd hfirst (by decide)

theorem isBlank_citedId {start stop : ℕ} (h : IsMarker core start stop) :
    isBlank (citedId core (start, stop)) = false := by
  have hlength := h.length
  obtain ⟨character, hcharacter, hspace, -⟩ := h.inside (Nat.lt_succ_self start) (by omega)
  rw [Bool.eq_false_iff, Ne, citedId, isBlank_ofList_iff]
  intro hall
  have hmem : character ∈ (core.take (stop - 1)).drop (start + 1) := by
    refine List.mem_iff_getElem?.mpr ⟨0, ?_⟩
    rw [List.getElem?_drop, List.getElem?_take, if_pos (by omega)]
    exact hcharacter
  rw [hall character hmem] at hspace
  exact absurd hspace (by decide)

theorem validate_statementOf (h : Trim isSpace raw lead core trail)
    (hmarked : WellMarked citationIds core) (number offset : ℕ) :
    (statementOf number offset lead core).validate = .ok () := by
  have hlength : 0 < core.length := by
    obtain ⟨first, rest, rfl, -⟩ := h.head_text
    exact Nat.succ_pos _
  have hid : isBlank (statementId number) = false := isBlank_append (by decide)
  refine raiseIf_bind_eq_ok.mpr ⟨?_, raiseIf_bind_eq_ok.mpr ⟨?_, raiseIf_bind_eq_ok.mpr ⟨?_,
    raiseIf_bind_eq_ok.mpr ⟨?_, raiseIf_eq_ok.mpr (not_not.mpr (nodup_citedIds_iff.mpr
      hmarked.once))⟩⟩⟩⟩
  · change ¬offset + lead.length + core.length = 0
    omega
  · change ¬(isBlank (statementId number) = true ∨ isBlank (String.ofList core) = true)
    simp [hid, isBlank_core h]
  · change ¬offset + lead.length + core.length ≤ offset + lead.length
    omega
  · rintro ⟨value, hvalue, hblank⟩
    obtain ⟨⟨start, stop⟩, hfound, rfl⟩ := List.mem_map.mp hvalue
    rw [isBlank_citedId (mem_findAll_iff.mp hfound)] at hblank
    exact absurd hblank (by decide)

end

/-! ## All lines -/

def isText (raw : List Char) : Bool := raw.any fun character => !isSpace character

variable {raw : List Char}

theorem isText_iff :
    isText raw = true ↔ ∃ character ∈ raw, isSpace character = false := by
  simp [isText]

theorem isText_eq_false_iff :
    isText raw = false ↔ ∀ character ∈ raw, isSpace character = true := by
  simp [isText]

/-- The statements of lines of which the first one starts at `offset`. -/
inductive Statements : ℕ → ℕ → List (List Char) → List AnswerStatement → Prop where
  | nil (offset number : ℕ) : Statements offset number [] []
  | blank {offset number : ℕ} {raw : List Char} {lines : List (List Char)}
      {statements : List AnswerStatement} (h : isText raw = false)
      (hrest : Statements (offset + raw.length) number lines statements) :
      Statements offset number (raw :: lines) statements
  | text {offset number : ℕ} {raw lead core trail : List Char} {lines : List (List Char)}
      {statements : List AnswerStatement} (h : Trim isSpace raw lead core trail)
      (hrest : Statements (offset + raw.length) (number + 1) lines statements) :
      Statements offset number (raw :: lines) (statementOf number offset lead core :: statements)

theorem isText_of_trim {lead core trail : List Char}
    (h : Trim isSpace raw lead core trail) : isText raw = true := by
  obtain ⟨first, rest, rfl, hfirst⟩ := h.head_text
  refine isText_iff.mpr ⟨first, ?_, hfirst⟩
  rw [h.text_eq]
  simp

theorem exists_statements (offset number : ℕ) (lines : List (List Char)) :
    ∃ statements, Statements offset number lines statements := by
  induction lines generalizing offset number with
  | nil => exact ⟨[], .nil offset number⟩
  | cons raw lines ih =>
    cases htext : isText raw with
    | false =>
      obtain ⟨statements, hrest⟩ := ih (offset + raw.length) number
      exact ⟨statements, .blank htext hrest⟩
    | true =>
      obtain ⟨lead, core, trail, htrim⟩ := exists_trim (isText_iff.mp htext)
      obtain ⟨statements, hrest⟩ := ih (offset + raw.length) (number + 1)
      exact ⟨_, .text htrim hrest⟩

theorem Statements.length_eq {offset number : ℕ} {lines : List (List Char)}
    {statements : List AnswerStatement} (h : Statements offset number lines statements) :
    statements.length = (lines.filter isText).length := by
  induction h with
  | nil => rfl
  | blank htext _ ih => rw [List.filter_cons_of_neg (by simp [htext]), ih]
  | text htrim _ ih =>
    rw [List.filter_cons_of_pos (isText_of_trim htrim), List.length_cons, List.length_cons, ih]

section

variable {request : AnswerCitationValidationRequest} {raw lead core trail before : List Char}
  {lines : List (List Char)} {offset : ℕ} {statements result : List AnswerStatement}

theorem parseLines_blank (h : isText raw = false) :
    parseLines request (raw :: lines) offset statements =
      parseLines request lines (offset + raw.length) statements := by
  have hblank : isBlank (String.ofList (rstrip (rstripLineEnding raw))) = true := by
    rw [isBlank_ofList_iff]
    intro character hmem
    refine isText_eq_false_iff.mp h character ?_
    exact (List.rdropWhile_prefix _ _).subset ((List.rdropWhile_prefix _ _).subset hmem)
  rw [parseLines, if_pos hblank]

theorem parseLines_text (h : Trim isSpace raw lead core trail)
    (hanswer : request.answer.toList = before ++ (raw :: lines).flatten)
    (hoffset : before.length = offset) :
    parseLines request (raw :: lines) offset statements = (do
      checkMarkers request.citationIds core
      (statementOf (statements.length + 1) offset lead core).validate
      raiseIf (request.maximumStatements < statements.length + 1)
        (parseError "answer statement count exceeds validation budget")
      parseLines request lines (offset + raw.length)
        (statements ++ [statementOf (statements.length + 1) offset lead core])) := by
  have hcut := h.rdropWhile isSpace_of_isLineEnding
  have hlead : (rstripLineEnding raw).length - (lstrip (rstripLineEnding raw)).length =
      lead.length := by
    have hstart : lstrip (rstripLineEnding raw) = core ++ trail.rdropWhile isLineEnding :=
      hcut.dropWhile_eq
    have htext : rstripLineEnding raw = lead ++ (core ++ trail.rdropWhile isLineEnding) :=
      hcut.text_eq
    rw [hstart, htext, List.length_append, Nat.add_sub_cancel]
  have hright : rstrip (rstripLineEnding raw) = lead ++ core := hcut.rdropWhile_eq
  have hblank : ¬isBlank (String.ofList (lead ++ core)) = true := by
    obtain ⟨first, rest, rfl, hfirst⟩ := h.head_text
    rw [isBlank_ofList_iff]
    intro hall
    rw [hall first (by simp)] at hfirst
    exact absurd hfirst (by decide)
  have hstop : offset + (lead ++ core).length = offset + lead.length + core.length := by
    rw [List.length_append, Nat.add_assoc]
  have htext : (request.answer.toList.take (offset + lead.length + core.length)).drop
      (offset + lead.length) = core := by
    rw [hanswer, List.flatten_cons, h.text_eq, ← hoffset, Nat.add_assoc, List.append_assoc,
      List.append_assoc, List.take_length_add_append, List.take_length_add_append, List.take_left',
      List.drop_length_add_append, List.drop_left']
    · rfl
    · rfl
  rw [parseLines]
  simp only [hright, hlead, if_neg hblank, hstop, htext]
  simp only [List.length_append, List.length_singleton]
  rfl

theorem parseLines_text_eq_ok_iff (h : Trim isSpace raw lead core trail)
    (hanswer : request.answer.toList = before ++ (raw :: lines).flatten)
    (hoffset : before.length = offset) :
    parseLines request (raw :: lines) offset statements = .ok result ↔
      WellMarked request.citationIds raw ∧ statements.length + 1 ≤ request.maximumStatements ∧
        parseLines request lines (offset + raw.length)
          (statements ++ [statementOf (statements.length + 1) offset lead core]) = .ok result := by
  rw [parseLines_text h hanswer hoffset, wellMarked_core h, bind_eq_ok]
  constructor
  · rintro ⟨_, hmarked, hrest⟩
    rw [validate_statementOf h (checkMarkers_eq_ok_iff.mp hmarked), ok_bind, raiseIf_bind_eq_ok,
      not_lt] at hrest
    exact ⟨checkMarkers_eq_ok_iff.mp hmarked, hrest⟩
  · rintro ⟨hmarked, hlimit, hrest⟩
    refine ⟨(), checkMarkers_eq_ok_iff.mpr hmarked, ?_⟩
    rw [validate_statementOf h hmarked, ok_bind, raiseIf_bind_eq_ok, not_lt]
    exact ⟨hlimit, hrest⟩

/-- The loop succeeds when each line is well marked and the budget is kept, with the statements of
the lines. -/
theorem parseLines_eq_ok_iff (hanswer : request.answer.toList = before ++ lines.flatten)
    (hoffset : before.length = offset) (hlimit : statements.length ≤ request.maximumStatements) :
    parseLines request lines offset statements = .ok result ↔
      (∀ raw ∈ lines, WellMarked request.citationIds raw) ∧
        ∃ more, Statements offset (statements.length + 1) lines more ∧
          result = statements ++ more ∧ result.length ≤ request.maximumStatements := by
  induction lines generalizing before offset statements with
  | nil =>
    constructor
    · intro h
      obtain rfl := Except.ok.inj h
      exact ⟨nofun, [], .nil _ _, (List.append_nil _).symm, hlimit⟩
    · rintro ⟨-, more, hmore, rfl, -⟩
      cases hmore
      rw [parseLines, List.append_nil]
  | cons raw lines ih =>
    have hrest : request.answer.toList = (before ++ raw) ++ lines.flatten := by
      rw [hanswer, List.flatten_cons, List.append_assoc]
    have hnext : (before ++ raw).length = offset + raw.length := by
      rw [List.length_append, hoffset]
    cases htext : isText raw with
    | false =>
      have hmarked : WellMarked request.citationIds raw :=
        wellMarked_of_spaces (isText_eq_false_iff.mp htext)
      rw [parseLines_blank htext, ih hrest hnext hlimit, List.forall_mem_cons]
      constructor
      · rintro ⟨hall, more, hmore, hresult⟩
        exact ⟨⟨hmarked, hall⟩, more, .blank htext hmore, hresult⟩
      · rintro ⟨⟨-, hall⟩, more, hmore, hresult⟩
        cases hmore with
        | blank _ hmore => exact ⟨hall, more, hmore, hresult⟩
        | text htrim _ =>
          rw [isText_of_trim htrim] at htext
          cases htext
    | true =>
      rw [List.forall_mem_cons]
      constructor
      · intro h
        obtain ⟨lead, core, trail, htrim⟩ := exists_trim (isText_iff.mp htext)
        obtain ⟨hmarked, hroom, hrun⟩ := (parseLines_text_eq_ok_iff htrim hanswer hoffset).mp h
        obtain ⟨hall, more, hmore, rfl, hresult⟩ := (ih hrest hnext (by simpa using hroom)).mp hrun
        rw [List.length_append, List.length_singleton] at hmore
        exact ⟨⟨hmarked, hall⟩, _, .text htrim hmore, by simp, hresult⟩
      · rintro ⟨⟨hmarked, hall⟩, more, hmore, rfl, hresult⟩
        cases hmore with
        | blank hblank _ =>
          rw [hblank] at htext
          cases htext
        | @text _ _ _ lead core trail _ more htrim hmore =>
          have hroom : statements.length + 1 ≤ request.maximumStatements := by
            simp only [List.length_append, List.length_cons] at hresult
            omega
          refine (parseLines_text_eq_ok_iff htrim hanswer hoffset).mpr ⟨hmarked, hroom, ?_⟩
          refine (ih hrest hnext (by simpa using hroom)).mpr ⟨hall, more, ?_, by simp, hresult⟩
          rwa [List.length_append, List.length_singleton]

end

theorem flatten_consLine (character : Char) (lines : List (List Char)) :
    (consLine character lines).flatten = character :: lines.flatten := by
  cases lines with
  | nil => rfl
  | cons raw lines => rfl

theorem flatten_splitlines (text : List Char) : (splitlines text).flatten = text := by
  fun_induction splitlines text with
  | case1 => rfl
  | case2 character => rfl
  | case3 first second rest hbreak ih => simp [ih]
  | case4 first second rest hbreak hline ih => simp [ih]
  | case5 first second rest hbreak hline ih => rw [flatten_consLine, ih]

example : splitlines ['a', '\r', '\n', '\n', 'b'] = [['a', '\r', '\n'], ['\n'], ['b']] := by decide

/-! ## The statements of an answer -/

def lineRanges : ℕ → List (List Char) → List (ℕ × List Char)
  | _, [] => []
  | offset, raw :: lines => (offset, raw) :: lineRanges (offset + raw.length) lines

def IsStatementOf (source : ℕ × List Char) (statement : AnswerStatement) : Prop :=
  ∃ lead core trail, Trim isSpace source.2 lead core trail ∧
    statement.text = String.ofList core ∧
    statement.startCharacter = source.1 + lead.length ∧
    statement.endCharacter = source.1 + lead.length + core.length ∧
    statement.citedIds = citedIds core

structure ExactStatements (answer : String) (statements : List AnswerStatement) : Prop where
  lines : List.Forall₂ IsStatementOf
    ((lineRanges 0 (splitlines answer.toList)).filter fun source => isText source.2) statements
  text_eq : ∀ statement ∈ statements, statement.text =
    textSlice answer statement.startCharacter statement.endCharacter
  trimmed : ∀ statement ∈ statements, strip statement.text = statement.text
  disjoint : statements.Pairwise fun first second => first.endCharacter ≤ second.startCharacter
  outside : ∀ place character, answer.toList[place]? = some character →
    (∀ statement ∈ statements,
      ¬(statement.startCharacter ≤ place ∧ place < statement.endCharacter)) →
    isSpace character = true

section

variable {answer : String} {raw lead core trail before : List Char} {lines : List (List Char)}
  {offset number : ℕ} {statements : List AnswerStatement}

theorem strip_core (h : Trim isSpace raw lead core trail) :
    strip (String.ofList core) = String.ofList core := by
  obtain ⟨first, rest, hcore, hfirst⟩ := h.head_text
  obtain ⟨front, last, hend, hlast⟩ := h.last_text
  have hdrop : core.dropWhile isSpace = core := by
    rw [hcore]
    exact List.dropWhile_cons_of_neg (by simp [hfirst])
  rw [strip, String.toList_ofList, hdrop]
  change String.ofList (core.rdropWhile isSpace) = String.ofList core
  rw [hend, List.rdropWhile_concat_neg _ _ _ (by simp [hlast])]

theorem Statements.isStatementOf (h : Statements offset number lines statements) : List.Forall₂
    IsStatementOf ((lineRanges offset lines).filter fun source => isText source.2) statements := by
  induction h with
  | nil => exact .nil
  | blank htext _ ih =>
    rw [lineRanges, List.filter_cons_of_neg (by simp [htext])]
    exact ih
  | text htrim _ ih =>
    simp only [lineRanges, List.filter_cons, isText_of_trim htrim, if_true]
    exact .cons ⟨_, _, _, htrim, rfl, rfl, rfl, rfl⟩ ih

theorem length_of_trim (h : Trim isSpace raw lead core trail) :
    raw.length = lead.length + core.length + trail.length := by
  rw [h.text_eq, List.length_append, List.length_append, Nat.add_assoc]

theorem Statements.offset_le (h : Statements offset number lines statements) :
    ∀ statement ∈ statements, offset ≤ statement.startCharacter := by
  induction h with
  | nil => exact nofun
  | blank _ _ ih => exact fun statement hmem => le_trans (Nat.le_add_right _ _) (ih statement hmem)
  | text _ _ ih =>
    intro statement hmem
    rcases List.mem_cons.mp hmem with rfl | hrest
    · exact Nat.le_add_right _ _
    · exact le_trans (Nat.le_add_right _ _) (ih statement hrest)

theorem Statements.disjoint (h : Statements offset number lines statements) :
    statements.Pairwise fun first second => first.endCharacter ≤ second.startCharacter := by
  induction h with
  | nil => exact .nil
  | blank _ _ ih => exact ih
  | text htrim hrest ih =>
    refine List.pairwise_cons.mpr ⟨fun statement hmem => ?_, ih⟩
    have hle := hrest.offset_le statement hmem
    rw [length_of_trim htrim] at hle
    change _ + _ + _ ≤ _
    omega

theorem Statements.text_eq (h : Statements offset number lines statements)
    (hanswer : answer.toList = before ++ lines.flatten) (hoffset : before.length = offset) :
    ∀ statement ∈ statements, strip statement.text = statement.text ∧ statement.text =
      textSlice answer statement.startCharacter statement.endCharacter := by
  induction h generalizing before with
  | nil => exact nofun
  | @blank _ _ raw lines _ _ _ ih =>
    refine @ih (before ++ raw) ?_ ?_
    · rw [hanswer, List.flatten_cons, List.append_assoc]
    · rw [List.length_append, hoffset]
  | @text offset _ raw lead core trail lines _ htrim _ ih =>
    intro statement hmem
    rcases List.mem_cons.mp hmem with rfl | hrest
    · refine ⟨strip_core htrim, congrArg String.ofList ?_⟩
      change core = (answer.toList.take (offset + lead.length + core.length)).drop
        (offset + lead.length)
      rw [hanswer, List.flatten_cons, htrim.text_eq, ← hoffset, Nat.add_assoc, List.append_assoc,
        List.append_assoc, List.take_length_add_append, List.take_length_add_append,
        List.take_left', List.drop_length_add_append, List.drop_left']
      · rfl
      · rfl
    · refine @ih (before ++ raw) ?_ ?_ statement hrest
      · rw [hanswer, List.flatten_cons, List.append_assoc]
      · rw [List.length_append, hoffset]

theorem Statements.outside (h : Statements offset number lines statements) {place : ℕ}
    {character : Char} (hplace : lines.flatten[place]? = some character)
    (hfree : ∀ statement ∈ statements,
      ¬(statement.startCharacter ≤ offset + place ∧ offset + place < statement.endCharacter)) :
    isSpace character = true := by
  induction h generalizing place with
  | nil => exact absurd hplace (by simp)
  | @blank offset _ raw lines _ htext _ ih =>
    rw [List.flatten_cons] at hplace
    by_cases hlt : place < raw.length
    · rw [List.getElem?_append_left hlt] at hplace
      exact isSpace_of_getElem? (isText_eq_false_iff.mp htext) hplace
    · have hle := Nat.le_of_not_lt hlt
      rw [List.getElem?_append_right hle] at hplace
      refine ih hplace fun statement hmem => ?_
      rw [Nat.add_assoc, Nat.add_sub_cancel' hle]
      exact hfree statement hmem
  | @text offset _ raw lead core trail lines _ htrim _ ih =>
    rw [List.flatten_cons] at hplace
    have hlength := length_of_trim htrim
    by_cases hlt : place < raw.length
    · rw [List.getElem?_append_left hlt] at hplace
      have hfirst : ¬(offset + lead.length ≤ offset + place ∧
          offset + place < offset + lead.length + core.length) :=
        hfree _ List.mem_cons_self
      by_contra hspace
      rw [Bool.not_eq_true] at hspace
      have hle := length_lead_le htrim hspace hplace
      rw [show place = lead.length + (place - lead.length) by omega,
        getElem?_core htrim hspace] at hplace
      have hcore := (List.getElem?_eq_some_iff.mp hplace).1
      exact hfirst ⟨by omega, by omega⟩
    · have hle := Nat.le_of_not_lt hlt
      rw [List.getElem?_append_right hle] at hplace
      refine ih hplace fun statement hmem => ?_
      rw [Nat.add_assoc, Nat.add_sub_cancel' hle]
      exact hfree statement (List.mem_cons_of_mem _ hmem)

theorem Statements.exact (h : Statements 0 1 (splitlines answer.toList) statements) :
    ExactStatements answer statements := by
  have hanswer : answer.toList = [] ++ (splitlines answer.toList).flatten :=
    (flatten_splitlines answer.toList).symm
  refine ⟨h.isStatementOf, fun statement hmem => (h.text_eq hanswer rfl statement hmem).2,
    fun statement hmem => (h.text_eq hanswer rfl statement hmem).1, h.disjoint, ?_⟩
  intro place character hplace hfree
  rw [← flatten_splitlines answer.toList] at hplace
  refine h.outside hplace ?_
  simpa using hfree

end

variable {request : AnswerCitationValidationRequest} {statements : List AnswerStatement}

theorem parse_eq_ok_iff : parse request = .ok statements ↔
    statements ≠ [] ∧
      (∀ raw ∈ splitlines request.answer.toList, WellMarked request.citationIds raw) ∧
      Statements 0 1 (splitlines request.answer.toList) statements ∧
      statements.length ≤ request.maximumStatements := by
  have hanswer : request.answer.toList = [] ++ (splitlines request.answer.toList).flatten :=
    (flatten_splitlines request.answer.toList).symm
  have hlines := fun result => @parseLines_eq_ok_iff request [] (splitlines request.answer.toList) 0
    [] result hanswer rfl (Nat.zero_le _)
  rw [parse, bind_eq_ok]
  constructor
  · rintro ⟨result, hrun, hrest⟩
    obtain ⟨hne, hresult⟩ := raiseIf_bind_eq_ok.mp hrest
    obtain rfl := Except.ok.inj hresult
    obtain ⟨hmarked, more, hmore, rfl, hlimit⟩ := (hlines result).mp hrun
    exact ⟨hne, hmarked, hmore, hlimit⟩
  · rintro ⟨hne, hmarked, hmore, hlimit⟩
    exact ⟨statements, (hlines statements).mpr ⟨hmarked, statements, hmore, rfl, hlimit⟩,
      raiseIf_bind_eq_ok.mpr ⟨hne, rfl⟩⟩

/-- Parsing succeeds exactly for well marked answers within the budget, with one statement for each
line that is not blank. -/
theorem parse_exact (request : AnswerCitationValidationRequest) :
    ((∃ statements, parse request = .ok statements) ↔
      (∃ raw ∈ splitlines request.answer.toList, isText raw = true) ∧
        ((splitlines request.answer.toList).filter isText).length ≤ request.maximumStatements ∧
        ∀ raw ∈ splitlines request.answer.toList, WellMarked request.citationIds raw) ∧
      ∀ statements, parse request = .ok statements →
        ExactStatements request.answer statements := by
  refine ⟨?_, fun statements h => (parse_eq_ok_iff.mp h).2.2.1.exact⟩
  constructor
  · rintro ⟨statements, h⟩
    obtain ⟨hne, hmarked, hmore, hlimit⟩ := parse_eq_ok_iff.mp h
    have hlength := hmore.length_eq
    have hsome : (splitlines request.answer.toList).filter isText ≠ [] := by
      rw [← List.length_pos_iff, ← hlength]
      exact List.length_pos_iff.mpr hne
    obtain ⟨raw, hline⟩ := List.exists_mem_of_ne_nil _ hsome
    exact ⟨⟨raw, List.mem_filter.mp hline⟩, hlength ▸ hlimit, hmarked⟩
  · rintro ⟨⟨raw, hmem, htext⟩, hlimit, hmarked⟩
    obtain ⟨statements, hmore⟩ := exists_statements 0 1 (splitlines request.answer.toList)
    have hlength := hmore.length_eq
    refine ⟨statements, parse_eq_ok_iff.mpr ⟨?_, hmarked, hmore, hlength ▸ hlimit⟩⟩
    rw [← List.length_pos_iff, hlength]
    exact List.length_pos_of_mem (List.mem_filter.mpr ⟨hmem, htext⟩)

end AgenticLab.DeterministicAnswerCitationParser
