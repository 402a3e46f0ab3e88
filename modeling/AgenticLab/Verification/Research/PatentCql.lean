import AgenticLab.Library.SeparatedFields
import AgenticLab.Model.Research.PatentCql

/-! # Reading the CQL queries of a patent concept plan back -/

namespace AgenticLab.EpoOpsPatentCqlPlanner

inductive Clause where
  | titleAbstract (term : String)
  | publishedBefore (date : String)
  deriving DecidableEq

/-- The rest of a quoted string, and the text behind it. A backslash escapes the next character, and
only one that escapes a double quote is no part of the string. -/
def readString : Bool → List Char → Option (List Char × List Char)
  | _, [] => none
  | true, character :: rest => (readString false rest).map fun (value, after) =>
      (if character = '"' then character :: value else '\\' :: character :: value, after)
  | false, character :: rest =>
      if character = '\\' then readString true rest
      else if character = '"' then some ([], rest)
      else (readString false rest).map fun (value, after) => (character :: value, after)

def titleAbstractMark : List Char := ['t', 'a', ' ', 'a', 'l', 'l', ' ', '"']

def publishedBeforeMark : List Char := ['p', 'd', ' ', '<', ' ']

def conjunctionMark : List Char := [' ', 'a', 'n', 'd', ' ']

def readClause (text : List Char) : Option (Clause × List Char) :=
  if text.take titleAbstractMark.length = titleAbstractMark then
    (readString false (text.drop titleAbstractMark.length)).map fun (value, after) =>
      (.titleAbstract (String.ofList value), after)
  else if text.take publishedBeforeMark.length = publishedBeforeMark then
    let rest := text.drop publishedBeforeMark.length
    some (.publishedBefore (String.ofList (rest.takeWhile Char.isDigit)),
      rest.dropWhile Char.isDigit)
  else none

def readClauses : ℕ → List Char → Option (List Clause)
  | _, [] => some []
  | 0, _ :: _ => none
  | fuel + 1, text => do
      guard (text.take conjunctionMark.length = conjunctionMark)
      let (clause, after) ← readClause (text.drop conjunctionMark.length)
      let clauses ← readClauses fuel after
      return clause :: clauses

/-- The conjunction that a query says. -/
def readQuery (query : String) : Option (List Clause) := do
  let (clause, after) ← readClause query.toList
  let clauses ← readClauses query.length after
  return clause :: clauses

/-- Whether a backslash is left that escapes what follows. -/
def escapes : Bool → List Char → Bool
  | escaped, [] => escaped
  | escaped, character :: rest => escapes (!escaped && character == '\\') rest

def EndsInEscape (term : String) : Prop :=
  (term.toList.reverse.takeWhile (· == '\\')).length % 2 = 1

instance (term : String) : Decidable (EndsInEscape term) := inferInstanceAs (Decidable (_ = _))

theorem escapes_concat (escaped : Bool) (text : List Char) (character : Char) :
    escapes escaped (text ++ [character]) = (!escapes escaped text && character == '\\') := by
  induction text generalizing escaped with
  | nil => rfl
  | cons first rest ih => exact ih _

theorem endsInEscape_iff (term : String) :
    EndsInEscape term ↔ escapes false term.toList = true := by
  rw [EndsInEscape]
  induction term.toList using List.reverseRecOn with
  | nil => simp [escapes]
  | append_singleton text character ih =>
    rw [escapes_concat, List.reverse_append, List.reverse_singleton, List.singleton_append,
      List.takeWhile_cons]
    by_cases hbackslash : character = '\\'
    · cases hescapes : escapes false text <;> simp [hescapes] at ih <;>
        simp [hbackslash] <;> omega
    · simp [hbackslash]

variable {text after value rest : List Char}

theorem readString_eq (escaped : Bool) (hquote : '"' ∉ text) (h : escapes escaped text = false) :
    readString escaped (text ++ '"' :: after) =
      some (if escaped then '\\' :: text else text, after) := by
  induction text generalizing escaped with
  | nil =>
    obtain rfl : escaped = false := h
    rfl
  | cons first rest ih =>
    obtain ⟨hfirst, hrest⟩ := not_or.mp (List.mem_cons.not.mp hquote)
    have hread := ih _ hrest h
    have hne : first ≠ '"' := fun heq => hfirst heq.symm
    cases escaped with
    | true => simpa [readString, hne] using hread
    | false =>
      by_cases hbackslash : first = '\\'
      · simpa [readString, hbackslash] using hread
      · have hbeq : (first == '\\') = false := by simpa using hbackslash
        simpa [readString, hne, hbackslash, hbeq] using hread

/-- A backslash left at the end takes the closing quote into the string. -/
theorem quote_mem_of_readString (escaped : Bool) (hquote : '"' ∉ text)
    (h : escapes escaped text = true)
    (hread : readString escaped (text ++ '"' :: after) = some (value, rest)) : '"' ∈ value := by
  induction text generalizing escaped value with
  | nil =>
    obtain rfl : escaped = true := h
    obtain ⟨⟨value, rest⟩, -, heq⟩ := Option.map_eq_some_iff.mp hread
    obtain ⟨rfl, -⟩ := Prod.mk.inj heq
    simp
  | cons first text ih =>
    obtain ⟨hfirst, hrest⟩ := not_or.mp (List.mem_cons.not.mp hquote)
    cases escaped with
    | true =>
      obtain ⟨⟨value, rest⟩, hinner, heq⟩ := Option.map_eq_some_iff.mp hread
      obtain ⟨rfl, rfl⟩ := Prod.mk.inj heq
      have hmem := ih _ hrest h hinner
      split_ifs <;> simp [hmem]
    | false =>
      rw [List.cons_append, readString] at hread
      split_ifs at hread with hbackslash
      · exact ih true hrest (by simpa [escapes, hbackslash] using h) hread
      · exact absurd ‹_› fun heq : first = '"' => hfirst heq.symm
      · obtain ⟨⟨value, rest⟩, hinner, heq⟩ := Option.map_eq_some_iff.mp hread
        obtain ⟨rfl, rfl⟩ := Prod.mk.inj heq
        have hbeq : (first == '\\') = false := by simpa using hbackslash
        exact List.mem_cons_of_mem _ (ih false hrest (by simpa [escapes, hbeq] using h) hinner)

/-! ## One query -/

namespace Clause

def written : Clause → List Char
  | titleAbstract term => titleAbstractMark ++ (term.toList ++ ['"'])
  | publishedBefore date => publishedBeforeMark ++ date.toList

def Plain : Clause → Prop
  | titleAbstract term => '"' ∉ term.toList
  | publishedBefore date => ∀ digit ∈ date.toList, digit.isDigit = true

def EndsInEscape : Clause → Prop
  | titleAbstract term => EpoOpsPatentCqlPlanner.EndsInEscape term
  | publishedBefore _ => False

end Clause

def following (clauses : List Clause) : List Char :=
  clauses.flatMap fun clause => conjunctionMark ++ clause.written

variable {clause other : Clause} {clauses : List Clause}

theorem readClause_titleAbstract (rest : List Char) :
    readClause (titleAbstractMark ++ rest) = (readString false rest).map fun (value, after) =>
      (.titleAbstract (String.ofList value), after) := by
  rw [readClause, if_pos List.take_left, List.drop_left]

theorem readClause_publishedBefore (rest : List Char) :
    readClause (publishedBeforeMark ++ rest) =
      some (.publishedBefore (String.ofList (rest.takeWhile Char.isDigit)),
        rest.dropWhile Char.isDigit) := by
  have hmark : (publishedBeforeMark ++ rest).take titleAbstractMark.length ≠
      titleAbstractMark := fun h =>
    absurd (congrArg List.head? h) (by simp [publishedBeforeMark, titleAbstractMark])
  rw [readClause, if_neg hmark, if_pos List.take_left]
  simp only [List.drop_left]

theorem readClause_eq (hplain : clause.Plain) (h : ¬clause.EndsInEscape) :
    readClause (clause.written ++ following clauses) = some (clause, following clauses) := by
  cases clause with
  | titleAbstract term =>
    have hescapes : escapes false term.toList = false := by
      rw [Bool.eq_false_iff, Ne, ← endsInEscape_iff]
      exact h
    rw [Clause.written, List.append_assoc, List.append_assoc, readClause_titleAbstract,
      List.singleton_append, readString_eq false hplain hescapes]
    simp
  | publishedBefore date =>
    have hend : (following clauses).takeWhile Char.isDigit = [] ∧
        (following clauses).dropWhile Char.isDigit = following clauses := by
      cases clauses <;> simp [following, conjunctionMark]
    rw [Clause.written, List.append_assoc, readClause_publishedBefore,
      List.takeWhile_append_of_pos hplain, List.dropWhile_append_of_pos hplain, hend.1, hend.2]
    simp

theorem readClause_ne (hplain : clause.Plain) (h : clause.EndsInEscape)
    (hread : readClause (clause.written ++ following clauses) = some (other, after)) :
    other ≠ clause := by
  cases clause with
  | titleAbstract term =>
    rw [Clause.written, List.append_assoc, List.append_assoc, readClause_titleAbstract] at hread
    obtain ⟨⟨value, rest⟩, hstring, heq⟩ := Option.map_eq_some_iff.mp hread
    obtain ⟨rfl, -⟩ := Prod.mk.inj heq
    rintro heq
    have hmem := quote_mem_of_readString false hplain ((endsInEscape_iff term).mp h) hstring
    rw [← Clause.titleAbstract.inj heq, Clause.Plain, String.toList_ofList] at hplain
    exact hplain hmem
  | publishedBefore date => exact h.elim

/-- Whatever reads on behind it, a clause is read as itself exactly where it ends in no escape. -/
theorem conjunction_iff (hplain : clause.Plain) (next : List Char → Option (List Clause)) :
    (do
      let (first, after) ← readClause (clause.written ++ following clauses)
      let others ← next after
      return first :: others) = some (clause :: clauses) ↔
      ¬clause.EndsInEscape ∧ next (following clauses) = some clauses := by
  by_cases h : clause.EndsInEscape
  · cases hread : readClause (clause.written ++ following clauses) with
    | none => simp [h]
    | some result =>
      have hne : result.1 ≠ clause := readClause_ne hplain h hread
      cases hnext : next result.2 <;> simp [h, hne, hnext]
  · rw [readClause_eq hplain h]
    cases hnext : next (following clauses) <;> simp [h, hnext]

theorem readClauses_iff {fuel : ℕ} (hplain : ∀ clause ∈ clauses, clause.Plain)
    (hfuel : clauses.length ≤ fuel) :
    readClauses fuel (following clauses) = some clauses ↔
      ∀ clause ∈ clauses, ¬clause.EndsInEscape := by
  induction clauses generalizing fuel with
  | nil => simp [following, readClauses]
  | cons clause clauses ih =>
    obtain ⟨hclause, hclauses⟩ := List.forall_mem_cons.mp hplain
    obtain ⟨fuel, rfl⟩ := Nat.exists_eq_succ_of_ne_zero (Nat.ne_zero_of_lt hfuel)
    rw [List.forall_mem_cons, ← ih hclauses (Nat.le_of_succ_le_succ hfuel),
      ← conjunction_iff hclause]
    rfl

def conjunction (clauses : List Clause) : String :=
  " and ".intercalate (clauses.map fun clause => String.ofList clause.written)

theorem conjunction_toList (clause : Clause) (clauses : List Clause) :
    (conjunction (clause :: clauses)).toList = clause.written ++ following clauses := by
  have hmark : " and ".toList = conjunctionMark := rfl
  rw [conjunction, String.toList_intercalate, hmark]
  induction clauses generalizing clause with
  | nil => simp [following]
  | cons next clauses ih =>
    simp only [List.map_cons, List.intercalate_cons_cons] at ih ⊢
    rw [ih]
    simp [following]

theorem length_le_following (clauses : List Clause) :
    clauses.length ≤ (following clauses).length := by
  induction clauses with
  | nil => exact le_refl _
  | cons clause clauses ih =>
    have hmark : conjunctionMark.length = 5 := rfl
    simp only [following, List.flatMap_cons, List.length_append, List.length_cons] at ih ⊢
    omega

theorem readQuery_iff (hplain : ∀ part ∈ clause :: clauses, part.Plain) :
    readQuery (conjunction (clause :: clauses)) = some (clause :: clauses) ↔
      ∀ part ∈ clause :: clauses, ¬part.EndsInEscape := by
  obtain ⟨hclause, hclauses⟩ := List.forall_mem_cons.mp hplain
  have hfuel : clauses.length ≤ (conjunction (clause :: clauses)).length := by
    rw [← String.length_toList, conjunction_toList, List.length_append]
    exact (length_le_following clauses).trans (Nat.le_add_left _ _)
  rw [List.forall_mem_cons, ← readClauses_iff hclauses hfuel, ← conjunction_iff hclause, readQuery,
    conjunction_toList]

/-! ## The planner -/

variable {casefold : Casefold} {term : String} {terms : List String}
  {cutoffDate : Option CalendarDate}

/-- What a concept says. -/
def clausesOf (terms : List String) (cutoffDate : Option CalendarDate) : List Clause :=
  terms.map .titleAbstract ++ cutoffDate.toList.map fun date => .publishedBefore (dateText date)

/-- What the validators ask of a clause. -/
structure Clause.Rendered (clause : Clause) : Prop where
  plain : clause.Plain
  length_le : clause.written.length ≤ 89
  not_isControl : ∀ character ∈ clause.written, isControl character = false
  edges : ∃ first middle last, clause.written = first :: (middle ++ [last]) ∧
    isSpace first = false ∧ isSpace last = false

theorem digitAt_facts (value place : ℕ) : (digitAt value place).isDigit = true ∧
    isControl (digitAt value place) = false ∧ isSpace (digitAt value place) = false := by
  have hdigits : ∀ digit < 10, (Nat.digitChar digit).isDigit = true ∧
      isControl (Nat.digitChar digit) = false ∧ isSpace (Nat.digitChar digit) = false := by decide
  exact hdigits _ (Nat.mod_lt _ (by decide))

theorem forall_not_isControl {text : List Char} (h : text.any isControl = false) :
    ∀ character ∈ text, isControl character = false := by
  simpa using h

theorem rendered_publishedBefore (date : CalendarDate) :
    (Clause.publishedBefore (dateText date)).Rendered where
  plain := by simp [Clause.Plain, dateText, fourDigits, twoDigits, digitAt_facts]
  length_le := by simp [Clause.written, publishedBeforeMark, dateText, fourDigits, twoDigits]
  not_isControl := by
    rw [Clause.written, List.forall_mem_append]
    exact ⟨forall_not_isControl (by decide),
      by simp [dateText, fourDigits, twoDigits, digitAt_facts]⟩
  edges := ⟨'p', ['d', ' ', '<', ' '] ++ fourDigits date.year ++ twoDigits date.month ++
    [digitAt date.day 10], digitAt date.day 1,
    by simp [Clause.written, publishedBeforeMark, dateText, twoDigits], by decide,
    (digitAt_facts _ _).2.2⟩

theorem rendered_titleAbstract (hvalid : IsClaimText term ∧ term.length ≤ 80)
    (hquote : '"' ∉ term.toList) : (Clause.titleAbstract term).Rendered where
  plain := hquote
  length_le := by
    have hlength := hvalid.2
    rw [← String.length_toList] at hlength
    simp only [Clause.written, titleAbstractMark, List.length_append, List.length_cons,
      List.length_nil]
    omega
  not_isControl := by
    rw [Clause.written, List.forall_mem_append, List.forall_mem_append]
    exact ⟨forall_not_isControl (by decide), by simpa using hvalid.1.2.2,
      forall_not_isControl (by decide)⟩
  edges := ⟨'t', ['a', ' ', 'a', 'l', 'l', ' ', '"'] ++ term.toList, '"',
    by simp [Clause.written, titleAbstractMark], by decide, by decide⟩

theorem length_following_le (h : ∀ clause ∈ clauses, clause.Rendered) :
    (following clauses).length ≤ clauses.length * 94 := by
  induction clauses with
  | nil => simp [following]
  | cons clause clauses ih =>
    obtain ⟨hclause, hclauses⟩ := List.forall_mem_cons.mp h
    have hlength := hclause.length_le
    have hmark : conjunctionMark.length = 5 := rfl
    have hrest := ih hclauses
    simp only [following, List.flatMap_cons, List.length_append, List.length_cons] at hrest ⊢
    omega

theorem conjunction_edges (h : ∀ part ∈ clause :: clauses, part.Rendered) :
    ∃ first middle last, (conjunction (clause :: clauses)).toList = first :: middle ++ [last] ∧
      isSpace first = false ∧ isSpace last = false := by
  obtain ⟨first, middle, last, hwritten, hfirst, hlast⟩ := (h clause List.mem_cons_self).edges
  rcases List.eq_nil_or_concat clauses with rfl | ⟨others, final, rfl⟩
  · exact ⟨first, middle, last, by simp [conjunction_toList, hwritten, following], hfirst, hlast⟩
  · obtain ⟨head, body, last', hfinal, -, hlast'⟩ := (h final (by simp)).edges
    refine ⟨first, middle ++ [last] ++ following others ++ conjunctionMark ++ head :: body, last',
      ?_, hfirst, hlast'⟩
    simp [conjunction_toList, hwritten, following, hfinal]

theorem strip_conjunction (h : ∀ part ∈ clause :: clauses, part.Rendered) :
    strip (conjunction (clause :: clauses)) = conjunction (clause :: clauses) := by
  obtain ⟨first, middle, last, htext, hfirst, hlast⟩ := conjunction_edges h
  exact strip_eq_self htext hfirst hlast

theorem validate_conjunction (purpose : PatentSearchQueryPurpose)
    (h : ∀ part ∈ clause :: clauses, part.Rendered) (hlength : clauses.length ≤ 4) :
    PatentSearchQuery.validate ⟨conjunction (clause :: clauses), purpose⟩ = .ok () := by
  obtain ⟨hclause, hclauses⟩ := List.forall_mem_cons.mp h
  have hfits : (conjunction (clause :: clauses)).length ≤ 512 := by
    rw [← String.length_toList, conjunction_toList, List.length_append]
    have hfirst := hclause.length_le
    have hrest := length_following_le hclauses
    omega
  have hblank : isBlank (conjunction (clause :: clauses)) = false := by
    obtain ⟨first, middle, last, htext, hfirst, -⟩ := conjunction_edges h
    rw [Bool.eq_false_iff, Ne, isBlank_iff, htext]
    exact fun hspace => absurd (hspace first (by simp)) (by simp [hfirst])
  have hcontrol : (conjunction (clause :: clauses)).toList.any isControl = false := by
    rw [List.any_eq_false, conjunction_toList, List.forall_mem_append]
    refine ⟨by simpa using hclause.not_isControl, ?_⟩
    rw [following, List.forall_mem_flatMap]
    intro part hpart
    rw [List.forall_mem_append]
    exact ⟨List.any_eq_false.mp (by decide), by simpa using (hclauses part hpart).not_isControl⟩
  simp [PatentSearchQuery.validate, raiseIf_bind_eq_ok, hfits, hblank, hcontrol]

theorem following_ne (term : String) (terms : List String) (cutoffDate : Option CalendarDate) :
    following (clausesOf [] cutoffDate) ≠ following (clausesOf (term :: terms) cutoffDate) := by
  cases cutoffDate <;> simp [clausesOf, following, Clause.written, conjunctionMark,
    publishedBeforeMark, titleAbstractMark]

theorem following_injective {others : List String} (hterms : ∀ term ∈ terms, '"' ∉ term.toList)
    (hothers : ∀ term ∈ others, '"' ∉ term.toList)
    (h : following (clausesOf terms cutoffDate) = following (clausesOf others cutoffDate)) :
    terms = others := by
  induction terms generalizing others with
  | nil =>
    cases others with
    | nil => rfl
    | cons other others => exact absurd h (following_ne other others cutoffDate)
  | cons term terms ih =>
    cases others with
    | nil => exact absurd h.symm (following_ne term terms cutoffDate)
    | cons other others =>
      obtain ⟨hterm, hterms⟩ := List.forall_mem_cons.mp hterms
      obtain ⟨hother, hothers⟩ := List.forall_mem_cons.mp hothers
      have hrest : term.toList ++ '"' :: following (clausesOf terms cutoffDate) =
          other.toList ++ '"' :: following (clausesOf others cutoffDate) := by
        simpa [clausesOf, following, Clause.written] using h
      obtain ⟨hhead, htail⟩ := SeparatedFields.split_injective hterm hother hrest
      rw [String.toList_inj.mp hhead, ih hterms hothers htail]

theorem conjunction_injective {others : List String} (hterms : ∀ term ∈ terms, '"' ∉ term.toList)
    (hothers : ∀ term ∈ others, '"' ∉ term.toList) (hne : terms ≠ []) (hothersNe : others ≠ [])
    (h : conjunction (clausesOf terms cutoffDate) = conjunction (clausesOf others cutoffDate)) :
    terms = others := by
  have hfollowing : ∀ {terms : List String}, terms ≠ [] → following (clausesOf terms cutoffDate) =
      conjunctionMark ++ (conjunction (clausesOf terms cutoffDate)).toList := by
    intro terms hne
    obtain ⟨term, terms, rfl⟩ := List.exists_cons_of_ne_nil hne
    rw [clausesOf, List.map_cons, List.cons_append, conjunction_toList]
    simp [following]
  exact following_injective hterms hothers (by rw [hfollowing hne, hfollowing hothersNe, h])

/-! ## The plan -/

/-- What a term that the planner takes is rendered as. -/
theorem renderTermClause_eq_ok {rendered : String} (h : renderTermClause term = .ok rendered) :
    '"' ∉ term.toList ∧ rendered = String.ofList (Clause.titleAbstract term).written := by
  obtain ⟨-, h⟩ := raiseIf_bind_eq_ok.mp h
  obtain ⟨hfound, h⟩ := raiseIf_bind_eq_ok.mp h
  refine ⟨fun hmem => hfound ?_, ?_⟩
  · exact List.ne_nil_of_mem (List.mem_filter.mpr ⟨List.mem_cons_self, by simpa using hmem⟩)
  · rw [← Except.ok.inj h, ← String.toList_inj]
    simp [Clause.written, titleAbstractMark]

/-- `_render_term_clause` raises for none of them. -/
def Accepts (terms : List String) : Prop :=
  ∀ term ∈ terms, ∃ rendered, renderTermClause term = .ok rendered

theorem renderConceptQuery_returns (h : Accepts terms) :
    renderConceptQuery terms cutoffDate = .ok (conjunction (clausesOf terms cutoffDate)) := by
  have hclauses : terms.mapM renderTermClause =
      .ok (terms.map fun term => String.ofList (Clause.titleAbstract term).written) := by
    refine mapM_eq_ok fun term hterm => ?_
    obtain ⟨rendered, hrender⟩ := h term hterm
    rw [hrender, (renderTermClause_eq_ok hrender).2]
  rw [renderConceptQuery, hclauses, ok_bind, conjunction, clausesOf]
  have hdate : ∀ date, "pd < " ++ dateText date =
      String.ofList (Clause.publishedBefore (dateText date)).written := fun date => by
    rw [← String.toList_inj]
    simp [Clause.written, publishedBeforeMark]
  simp [hdate, Function.comp_def]

/-- The searches a request is planned with, in order. -/
theorem planQueries_returns (request : PatentResearchRequest) {cqlQueries : List String}
    (hlength : 1 ≤ cqlQueries.length ∧ cqlQueries.length ≤ 2)
    (hvalid : ∀ cqlQuery ∈ cqlQueries, ∀ purpose,
      PatentSearchQuery.validate ⟨cqlQuery, purpose⟩ = .ok ())
    (hkeys : (cqlQueries.map strip).Nodup) : ∃ queryPlan,
      PatentSearchQueryPlanner.plan request cqlQueries = .ok queryPlan ∧
        queryPlan.queries.map (·.cqlQuery) = cqlQueries := by
  match cqlQueries, hlength with
  | [first], _ =>
    refine ⟨⟨request, [⟨first, .primary⟩]⟩, ?_, rfl⟩
    simp [PatentSearchQueryPlanner.plan, PatentSearchQueryPlan.validate, raiseIf_bind_eq_ok,
      hvalid first (by simp)]
  | [first, second], _ =>
    refine ⟨⟨request, [⟨first, .primary⟩, ⟨second, .alternate⟩]⟩, ?_, rfl⟩
    have hne : strip first ≠ strip second := by simpa using hkeys
    simp [PatentSearchQueryPlanner.plan, PatentSearchQueryPlan.validate, raiseIf_bind_eq_ok,
      hvalid first (by simp), hvalid second (by simp),
      PatentSearchQuery.duplicateKey, hne]

theorem quote_notMem_of_accepts (h : Accepts terms) : ∀ term ∈ terms, '"' ∉ term.toList := by
  intro term hterm
  obtain ⟨rendered, hrender⟩ := h term hterm
  exact (renderTermClause_eq_ok hrender).1

/-- The clauses of a concept, with what is known of them. -/
theorem clausesOf_concept {concept : PatentTechnicalConcept casefold} (h : Accepts concept.terms) :
    ∃ clause clauses, clausesOf concept.terms cutoffDate = clause :: clauses ∧
      clauses.length ≤ 4 ∧ ∀ part ∈ clause :: clauses, part.Rendered := by
  obtain ⟨hpos, hle⟩ := concept.terms_length
  have hrendered : ∀ clause ∈ clausesOf concept.terms cutoffDate, clause.Rendered := by
    intro clause hclause
    rcases List.mem_append.mp hclause with hterm | hdate
    · obtain ⟨term, hmem, rfl⟩ := List.mem_map.mp hterm
      exact rendered_titleAbstract (concept.terms_valid term hmem)
        (quote_notMem_of_accepts h term hmem)
    · obtain ⟨date, -, rfl⟩ := List.mem_map.mp hdate
      exact rendered_publishedBefore date
  obtain ⟨term, terms, hterms⟩ := List.exists_cons_of_length_pos hpos
  rw [hterms, clausesOf, List.map_cons, List.cons_append] at hrendered ⊢
  refine ⟨_, _, rfl, ?_, hrendered⟩
  rw [hterms] at hle
  cases cutoffDate <;> simp at hle ⊢ <;> omega

/-- Every plan of accepted terms succeeds. Its queries say what the concepts say exactly where no
term ends in an odd number of backslashes. -/
theorem plan_reads_iff (conceptPlan : PatentTechnicalConceptPlan casefold)
    (haccepted : ∀ concept ∈ conceptPlan.concepts, Accepts concept.terms) :
    ∃ queryPlan, plan conceptPlan = .ok queryPlan ∧
      ((queryPlan.queries.map fun query => readQuery query.cqlQuery) =
          (conceptPlan.concepts.map fun concept =>
            some (clausesOf concept.terms conceptPlan.request.priorArtCutoffDate)) ↔
        ∀ concept ∈ conceptPlan.concepts, ∀ term ∈ concept.terms, ¬EndsInEscape term) := by
  let clausesIn := fun concept : PatentTechnicalConcept casefold =>
    clausesOf concept.terms conceptPlan.request.priorArtCutoffDate
  have hqueries : conceptPlan.concepts.mapM (fun concept =>
      renderConceptQuery concept.terms conceptPlan.request.priorArtCutoffDate) =
        .ok (conceptPlan.concepts.map (conjunction ∘ clausesIn)) :=
    mapM_eq_ok fun concept hconcept => renderConceptQuery_returns (haccepted concept hconcept)
  have hclauses : ∀ concept ∈ conceptPlan.concepts, ∃ clause clauses,
      clausesIn concept = clause :: clauses ∧ clauses.length ≤ 4 ∧
        ∀ part ∈ clause :: clauses, part.Rendered := fun concept hconcept =>
    clausesOf_concept (haccepted concept hconcept)
  have hvalid : ∀ cqlQuery ∈ conceptPlan.concepts.map (conjunction ∘ clausesIn), ∀ purpose,
      PatentSearchQuery.validate ⟨cqlQuery, purpose⟩ = .ok () := by
    intro cqlQuery hmem purpose
    obtain ⟨concept, hconcept, rfl⟩ := List.mem_map.mp hmem
    obtain ⟨clause, clauses, heq, hlength, hrendered⟩ := hclauses concept hconcept
    rw [Function.comp_apply, heq]
    exact validate_conjunction purpose hrendered hlength
  have hkeys : ((conceptPlan.concepts.map (conjunction ∘ clausesIn)).map strip).Nodup := by
    have hnodup := List.pairwise_map.mp conceptPlan.keys_nodup
    rw [List.map_map, List.Nodup, List.pairwise_map]
    refine hnodup.imp_of_mem fun {concept other} hconcept hother hne heq => hne ?_
    obtain ⟨clause, clauses, hfirst, -, hrendered⟩ := hclauses concept hconcept
    obtain ⟨next, others, hsecond, -, hrest⟩ := hclauses other hother
    rw [Function.comp_apply, Function.comp_apply, Function.comp_apply, Function.comp_apply, hfirst,
      hsecond, strip_conjunction hrendered, strip_conjunction hrest, ← hfirst, ← hsecond] at heq
    have hterms : concept.terms = other.terms := conjunction_injective
      (quote_notMem_of_accepts (haccepted concept hconcept))
      (quote_notMem_of_accepts (haccepted other hother))
      (List.ne_nil_of_length_pos concept.terms_length.1)
      (List.ne_nil_of_length_pos other.terms_length.1) heq
    rw [PatentTechnicalConcept.duplicateKey, PatentTechnicalConcept.duplicateKey, hterms]
  obtain ⟨queryPlan, hplan, htexts⟩ := planQueries_returns conceptPlan.request
    (by simpa using conceptPlan.concepts_length) hvalid hkeys
  refine ⟨queryPlan, by rw [plan, hqueries, ok_bind, hplan], ?_⟩
  have hread : (queryPlan.queries.map fun query => readQuery query.cqlQuery) =
      conceptPlan.concepts.map (readQuery ∘ conjunction ∘ clausesIn) := by
    rw [← Function.comp_def readQuery, ← List.map_map, htexts, List.map_map]
  rw [hread, List.map_inj_left]
  refine forall₂_congr fun concept hconcept => ?_
  obtain ⟨clause, clauses, heq, -, hrendered⟩ := hclauses concept hconcept
  change readQuery (conjunction (clausesIn concept)) = some (clausesIn concept) ↔ _
  rw [heq, readQuery_iff fun part hpart => (hrendered part hpart).plain, ← heq]
  simp [clausesIn, clausesOf, or_imp, forall_and, Clause.EndsInEscape]

def sampleRequest : PatentResearchRequest where
  question := "Which pressure sensors\\ are used?"
  objective := "Find sensors"
  priorArtCutoffDate := none
  question_notBlank := by decide +kernel
  objective_notBlank := by decide +kernel

def samplePlan (term : String) (hvalid : IsClaimText term ∧ term.length ≤ 80)
    (hgrounded : (asciiCasefold term).toList <:+: (asciiCasefold
      (sampleRequest.question ++ "\n" ++ sampleRequest.objective)).toList) :
    PatentTechnicalConceptPlan asciiCasefold where
  request := sampleRequest
  concepts := [⟨.primary, [term], by simp, by simpa using hvalid, by simp⟩]
  concepts_length := by simp
  first_primary := by simp
  second_alternate := by simp
  keys_nodup := by simp
  grounded := by simpa using hgrounded

def plainPlan : PatentTechnicalConceptPlan asciiCasefold :=
  samplePlan "pressure" ⟨⟨by decide +kernel, by decide, by decide +kernel⟩, by decide⟩
    (by decide +kernel)

def escapingPlan : PatentTechnicalConceptPlan asciiCasefold :=
  samplePlan "sensors\\" ⟨⟨by decide +kernel, by decide, by decide +kernel⟩, by decide⟩
    (by decide +kernel)

theorem plan_reads_plain : (∀ concept ∈ plainPlan.concepts, Accepts concept.terms) ∧
    ∃ queryPlan, plan plainPlan = .ok queryPlan ∧
    ((queryPlan.queries.map fun query => readQuery query.cqlQuery) =
        [some [.titleAbstract "pressure"]] ↔
      ∀ concept ∈ plainPlan.concepts, ∀ term ∈ concept.terms, ¬EndsInEscape term) := by
  have haccepted : ∀ concept ∈ plainPlan.concepts, Accepts concept.terms := by
    intro concept hconcept term hterm
    obtain rfl := List.mem_singleton.mp hconcept
    obtain rfl := List.mem_singleton.mp hterm
    exact ⟨_, rfl⟩
  exact ⟨haccepted, plan_reads_iff plainPlan haccepted⟩

/-- Its query is no conjunction at all. -/
theorem query_not_readable : (∀ concept ∈ escapingPlan.concepts, Accepts concept.terms) ∧
    (plan escapingPlan).map (fun queryPlan =>
      queryPlan.queries.map fun query => readQuery query.cqlQuery) = .ok [none] := by
  constructor
  · intro concept hconcept term hterm
    obtain rfl := List.mem_singleton.mp hconcept
    obtain rfl := List.mem_singleton.mp hterm
    exact ⟨_, rfl⟩
  · decide +kernel

end AgenticLab.EpoOpsPatentCqlPlanner
