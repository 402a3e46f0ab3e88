import AgenticLab.Model.Research.HwpxTextExtractor

/-! # When the text of a section is extracted once -/

namespace AgenticLab.LocalHwpxTextExtractor

variable {α β : Type}

/-- Character data with the text elements around it, and the pairs of a paragraph around it and a
text element within that paragraph. -/
structure Run (α : Type) where
  characters : List α
  texts : ℕ
  pairs : ℕ

/-- The character data of nodes in document order, inside so many paragraphs, text elements and
pairs of them. -/
def Nodes.runs (paragraphs texts pairs : ℕ) : Nodes α → List (Run α)
  | .nil => []
  | .text characters rest => ⟨characters, texts, pairs⟩ :: rest.runs paragraphs texts pairs
  | .element tag _ content rest =>
    content.runs (if localName tag = "p" then paragraphs + 1 else paragraphs)
        (if localName tag = "t" then texts + 1 else texts)
        (if localName tag = "t" then pairs + paragraphs else pairs) ++
      rest.runs paragraphs texts pairs

def Nodes.insideText (inside : Bool) : Nodes α → List α
  | .nil => []
  | .text characters rest => (if inside then characters else []) ++ rest.insideText inside
  | .element tag _ content rest =>
    content.insideText (inside || localName tag = "t") ++ rest.insideText inside

section

variable {paragraphs texts pairs : ℕ} {inside : Bool} {characters : List α} {tag : String}
  {attributes : List (String × String)} {content rest : Nodes α}

theorem runs_nil : (Nodes.nil : Nodes α).runs paragraphs texts pairs = [] := rfl

theorem runs_text : (Nodes.text characters rest).runs paragraphs texts pairs =
    ⟨characters, texts, pairs⟩ :: rest.runs paragraphs texts pairs := rfl

theorem runs_element : (Nodes.element tag attributes content rest).runs paragraphs texts pairs =
    content.runs (if localName tag = "p" then paragraphs + 1 else paragraphs)
        (if localName tag = "t" then texts + 1 else texts)
        (if localName tag = "t" then pairs + paragraphs else pairs) ++
      rest.runs paragraphs texts pairs := rfl

theorem insideText_text : (Nodes.text characters rest).insideText inside =
    (if inside then characters else []) ++ rest.insideText inside := rfl

theorem insideText_element : (Nodes.element tag attributes content rest).insideText inside =
    content.insideText (inside || localName tag = "t") ++ rest.insideText inside := rfl

theorem itertext_nil : (Nodes.nil : Nodes α).itertext = [] := rfl

theorem itertext_text : (Nodes.text characters rest).itertext = characters ++ rest.itertext := rfl

theorem itertext_element : (Nodes.element tag attributes content rest).itertext =
    content.itertext ++ rest.itertext := rfl

theorem iter_nil : (Nodes.nil : Nodes α).iter = [] := rfl

theorem iter_element : (Nodes.element tag attributes content rest).iter =
    ⟨tag, attributes, content⟩ :: content.iter ++ rest.iter := rfl

end

def Element.nodes (element : Element α) : Nodes α :=
  .element element.tag element.attributes element.content .nil

theorem Element.iter_nodes (element : Element α) : element.nodes.iter = element.iter := by
  simp [Element.nodes, iter_element, iter_nil, Element.iter]

/-- The text elements below nodes, as `textData` joins them. -/
def Nodes.textData (nodes : Nodes α) : List α := LocalHwpxTextExtractor.textData nodes.iter

def Nodes.paragraphData (nodes : Nodes α) : List (List α) :=
  (nodes.iter.filter fun element => localName element.tag = "p").map fun paragraph =>
    LocalHwpxTextExtractor.textData paragraph.iter

section

variable {characters : List α} {tag : String} {attributes : List (String × String)}
  {content rest : Nodes α}

@[simp] theorem textData_nil : (Nodes.nil : Nodes α).textData = [] := rfl

@[simp] theorem textData_text : (Nodes.text characters rest).textData = rest.textData := rfl

theorem textData_element : (Nodes.element tag attributes content rest).textData =
    (if localName tag = "t" then content.itertext else []) ++
      (content.textData ++ rest.textData) := by
  by_cases ht : localName tag = "t" <;>
    simp [Nodes.textData, LocalHwpxTextExtractor.textData, iter_element, ht]

@[simp] theorem paragraphData_nil : (Nodes.nil : Nodes α).paragraphData = [] := rfl

@[simp] theorem paragraphData_text :
    (Nodes.text characters rest).paragraphData = rest.paragraphData := rfl

theorem paragraphData_element : (Nodes.element tag attributes content rest).paragraphData =
    (if localName tag = "p" then [content.textData] else []) ++
      (content.paragraphData ++ rest.paragraphData) := by
  by_cases hp : localName tag = "p"
  · have ht : localName tag ≠ "t" := by
      rw [hp]
      decide
    simp [Nodes.paragraphData, iter_element, hp, Nodes.textData, LocalHwpxTextExtractor.textData,
      Element.iter]
  · simp [Nodes.paragraphData, iter_element, hp]

end

theorem insideText_true (nodes : Nodes α) : nodes.insideText true = nodes.itertext := by
  induction nodes with
  | nil => rfl
  | text characters rest ih => simp [insideText_text, itertext_text, ih]
  | element tag attributes content rest ihcontent ihrest =>
    simp [insideText_element, itertext_element, ihcontent, ihrest]

/-! ## Texts in document order -/

section

variable (keep : α → Bool)

def CoveredRuns (covered : ℕ → ℕ → Prop) (runs : List (Run α)) : Prop :=
  ∀ run ∈ runs, run.texts ≠ 0 → run.characters.filter keep ≠ [] → covered run.texts run.pairs

variable {keep} {covered : ℕ → ℕ → Prop} {paragraphs texts pairs : ℕ}

theorem coveredRuns_text {characters : List α} {rest : Nodes α} :
    CoveredRuns keep covered ((Nodes.text characters rest).runs paragraphs texts pairs) ↔
      (texts ≠ 0 → characters.filter keep ≠ [] → covered texts pairs) ∧
        CoveredRuns keep covered (rest.runs paragraphs texts pairs) := by
  simp [CoveredRuns, runs_text]

theorem coveredRuns_element {tag : String}
    {attributes : List (String × String)} {content rest : Nodes α} :
    CoveredRuns keep covered
        ((Nodes.element tag attributes content rest).runs paragraphs texts pairs) ↔
      CoveredRuns keep covered
        (content.runs (if localName tag = "p" then paragraphs + 1 else paragraphs)
          (if localName tag = "t" then texts + 1 else texts)
          (if localName tag = "t" then pairs + paragraphs else pairs)) ∧
        CoveredRuns keep covered (rest.runs paragraphs texts pairs) := by
  simp only [CoveredRuns, runs_element, List.mem_append, or_imp, forall_and]

variable {nodes : Nodes α}

theorem filter_insideText_of_uncovered {inside : Bool} (hinside : inside = true → texts ≠ 0)
    (hpairs : pairs ≠ 1) (hsum : 2 ≤ pairs + paragraphs)
    (h : CoveredRuns keep (fun _ pairs => pairs = 1) (nodes.runs paragraphs texts pairs)) :
    (nodes.insideText inside).filter keep = [] := by
  induction nodes generalizing inside paragraphs texts pairs with
  | nil => rfl
  | text characters rest ih =>
    rw [coveredRuns_text] at h
    obtain ⟨hrun, hrest⟩ := h
    rw [insideText_text, List.filter_append, ih hinside hpairs hsum hrest, List.append_nil]
    cases inside with
    | false => rfl
    | true =>
      by_contra hne
      exact hpairs (hrun (hinside rfl) hne)
  | element tag attributes content rest ihcontent ihrest =>
    rw [coveredRuns_element] at h
    obtain ⟨hcontent, hrest⟩ := h
    rw [insideText_element, List.filter_append, ihrest hinside hpairs hsum hrest, List.append_nil]
    refine ihcontent ?_ ?_ ?_ hcontent
    · intro hor
      split_ifs with ht
      · exact Nat.succ_ne_zero _
      · exact hinside (by simpa [ht] using hor)
    · split_ifs <;> omega
    · split_ifs <;> omega

theorem filter_data_of_uncovered (hsum : 2 ≤ pairs + paragraphs)
    (h : CoveredRuns keep (fun _ pairs => pairs = 1) (nodes.runs paragraphs texts pairs)) :
    nodes.textData.filter keep = [] ∧ nodes.paragraphData.flatten.filter keep = [] := by
  induction nodes generalizing paragraphs texts pairs with
  | nil => exact ⟨rfl, rfl⟩
  | text characters rest ih =>
    rw [coveredRuns_text] at h
    exact ih hsum h.2
  | element tag attributes content rest ihcontent ihrest =>
    rw [coveredRuns_element] at h
    obtain ⟨hcontent, hrest⟩ := h
    obtain ⟨hcontentText, hcontentData⟩ := ihcontent (by split_ifs <;> omega) hcontent
    obtain ⟨hrestText, hrestData⟩ := ihrest hsum hrest
    have hdirect : (if localName tag = "t" then content.itertext else []).filter keep = [] := by
      split_ifs with ht
      · rw [if_pos ht, if_pos ht] at hcontent
        rw [← insideText_true]
        exact filter_insideText_of_uncovered (fun _ => Nat.succ_ne_zero _) (by omega)
          (by split_ifs <;> omega) hcontent
      · rfl
    refine ⟨?_, ?_⟩
    · rw [textData_element, List.filter_append, List.filter_append, hdirect, hcontentText,
        hrestText]
      rfl
    · rw [paragraphData_element]
      simp only [List.flatten_append, List.filter_append, hcontentData, hrestData, List.append_nil]
      split_ifs
      · simpa using hcontentText
      · rfl

theorem filter_textData_of_covered {texts : ℕ}
    (h : CoveredRuns keep (fun _ pairs => pairs = 1) (nodes.runs 1 texts 0)) :
    nodes.textData.filter keep = (nodes.insideText (decide (texts ≠ 0))).filter keep ∧
      nodes.paragraphData.flatten.filter keep = [] := by
  induction nodes with
  | nil => exact ⟨rfl, rfl⟩
  | text characters rest ih =>
    rw [coveredRuns_text] at h
    obtain ⟨hrun, hrest⟩ := h
    obtain ⟨htext, hdata⟩ := ih hrest
    refine ⟨?_, hdata⟩
    rw [textData_text, htext, insideText_text, List.filter_append]
    by_cases htexts : texts = 0
    · simp [htexts]
    · have hblank : characters.filter keep = [] := by
        by_contra hne
        exact Nat.zero_ne_one (hrun htexts hne)
      simp [htexts, hblank]
  | element tag attributes content rest ihcontent ihrest =>
    rw [coveredRuns_element] at h
    obtain ⟨hcontent, hrest⟩ := h
    obtain ⟨hrestText, hrestData⟩ := ihrest hrest
    rw [textData_element, paragraphData_element, insideText_element]
    simp only [List.flatten_append, List.filter_append, hrestText, hrestData, List.append_nil]
    by_cases hp : localName tag = "p"
    · have ht : localName tag ≠ "t" := by
        rw [hp]
        decide
      rw [if_pos hp, if_neg ht, if_neg ht] at hcontent
      obtain ⟨hcontentText, hcontentData⟩ := filter_data_of_uncovered (by omega) hcontent
      have hinside : (content.insideText (decide (texts ≠ 0))).filter keep = [] :=
        filter_insideText_of_uncovered (fun hne => of_decide_eq_true hne) (by omega) (by omega)
          hcontent
      simpa [hp, hcontentText, hcontentData] using hinside
    · by_cases ht : localName tag = "t"
      · rw [if_neg hp, if_pos ht, if_pos ht] at hcontent
        obtain ⟨hcontentText, hcontentData⟩ := filter_data_of_uncovered (by omega) hcontent
        simp [ht, hcontentText, hcontentData, insideText_true]
      · rw [if_neg hp, if_neg ht, if_neg ht] at hcontent
        obtain ⟨hcontentText, hcontentData⟩ := ihcontent hcontent
        simp [hp, ht, hcontentText, hcontentData]

theorem filter_paragraphData_of_covered {texts : ℕ}
    (h : CoveredRuns keep (fun _ pairs => pairs = 1) (nodes.runs 0 texts 0)) :
    nodes.paragraphData.flatten.filter keep =
      (nodes.insideText (decide (texts ≠ 0))).filter keep := by
  induction nodes generalizing texts with
  | nil => rfl
  | text characters rest ih =>
    rw [coveredRuns_text] at h
    obtain ⟨hrun, hrest⟩ := h
    rw [paragraphData_text, ih hrest, insideText_text, List.filter_append]
    by_cases htexts : texts = 0
    · simp [htexts]
    · have hblank : characters.filter keep = [] := by
        by_contra hne
        exact Nat.zero_ne_one (hrun htexts hne)
      simp [htexts, hblank]
  | element tag attributes content rest ihcontent ihrest =>
    rw [coveredRuns_element] at h
    obtain ⟨hcontent, hrest⟩ := h
    rw [paragraphData_element, insideText_element]
    simp only [List.flatten_append, List.filter_append, ihrest hrest]
    by_cases hp : localName tag = "p"
    · have ht : localName tag ≠ "t" := by
        rw [hp]
        decide
      rw [if_pos hp, if_neg ht, if_neg ht] at hcontent
      obtain ⟨hcontentText, hcontentData⟩ := filter_textData_of_covered hcontent
      simp [hp, hcontentText, hcontentData]
    · by_cases ht : localName tag = "t"
      · rw [if_neg hp, if_pos ht, if_pos ht] at hcontent
        have hcontentData := ihcontent hcontent
        simp [ht, hcontentData]
      · rw [if_neg hp, if_neg ht, if_neg ht] at hcontent
        have hcontentData := ihcontent hcontent
        simp [hp, ht, hcontentData]

theorem filter_itertext_of_nested (htexts : 2 ≤ texts)
    (h : CoveredRuns keep (fun texts _ => texts = 1) (nodes.runs paragraphs texts pairs)) :
    nodes.itertext.filter keep = [] := by
  induction nodes generalizing paragraphs texts pairs with
  | nil => rfl
  | text characters rest ih =>
    rw [coveredRuns_text] at h
    obtain ⟨hrun, hrest⟩ := h
    rw [itertext_text, List.filter_append, ih htexts hrest, List.append_nil]
    by_contra hne
    have hone := hrun (by omega) hne
    omega
  | element tag attributes content rest ihcontent ihrest =>
    rw [coveredRuns_element] at h
    obtain ⟨hcontent, hrest⟩ := h
    rw [itertext_element, List.filter_append, ihrest htexts hrest, List.append_nil]
    exact ihcontent (by split_ifs <;> omega) hcontent

theorem filter_textData_of_nested (htexts : 1 ≤ texts)
    (h : CoveredRuns keep (fun texts _ => texts = 1) (nodes.runs paragraphs texts pairs)) :
    nodes.textData.filter keep = [] := by
  induction nodes generalizing paragraphs texts pairs with
  | nil => rfl
  | text characters rest ih =>
    rw [coveredRuns_text] at h
    exact ih htexts h.2
  | element tag attributes content rest ihcontent ihrest =>
    rw [coveredRuns_element] at h
    obtain ⟨hcontent, hrest⟩ := h
    rw [textData_element, List.filter_append, List.filter_append, ihrest htexts hrest,
      ihcontent (by split_ifs <;> omega) hcontent]
    split_ifs with ht
    · rw [if_pos ht] at hcontent
      rw [filter_itertext_of_nested (by omega) hcontent]
      rfl
    · rfl

theorem filter_textData_of_single {paragraphs pairs : ℕ}
    (h : CoveredRuns keep (fun texts _ => texts = 1) (nodes.runs paragraphs 0 pairs)) :
    nodes.textData.filter keep = (nodes.insideText false).filter keep := by
  induction nodes generalizing paragraphs pairs with
  | nil => rfl
  | text characters rest ih =>
    rw [coveredRuns_text] at h
    rw [textData_text, ih h.2, insideText_text]
    simp
  | element tag attributes content rest ihcontent ihrest =>
    rw [coveredRuns_element] at h
    obtain ⟨hcontent, hrest⟩ := h
    rw [textData_element, insideText_element, List.filter_append, List.filter_append,
      List.filter_append, ihrest hrest]
    by_cases ht : localName tag = "t"
    · rw [if_pos ht, if_pos ht] at hcontent
      have hnested := filter_textData_of_nested (by omega) hcontent
      simp [ht, hnested, insideText_true]
    · rw [if_neg ht, if_neg ht] at hcontent
      have hcontentText := ihcontent hcontent
      simp [ht, hcontentText]

end

/-! ## Occurrences -/

section

variable {paragraphs texts pairs : ℕ} {nodes : Nodes α}

theorem flatMap_runs (paragraphs texts pairs : ℕ) (nodes : Nodes α) :
    (nodes.runs paragraphs texts pairs).flatMap (·.characters) = nodes.itertext := by
  induction nodes generalizing paragraphs texts pairs with
  | nil => rfl
  | text characters rest ih => rw [runs_text, List.flatMap_cons, ih, itertext_text]
  | element tag attributes content rest ihcontent ihrest =>
    rw [runs_element, List.flatMap_append, ihcontent, ihrest, itertext_element]

theorem insideText_sublist (nodes : Nodes α) (inside : Bool) :
    (nodes.insideText inside).Sublist nodes.itertext := by
  induction nodes generalizing inside with
  | nil => exact .slnil
  | text characters rest ih =>
    refine .append ?_ (ih inside)
    split_ifs
    · exact .refl _
    · exact List.nil_sublist _
  | element tag attributes content rest ihcontent ihrest =>
    exact .append (ihcontent _) (ihrest inside)

variable {run : Run α} {character : α}

theorem mem_insideText {inside : Bool} (hinside : texts ≠ 0 → inside = true)
    (hrun : run ∈ nodes.runs paragraphs texts pairs) (htexts : run.texts ≠ 0)
    (hmem : character ∈ run.characters) : character ∈ nodes.insideText inside := by
  induction nodes generalizing inside paragraphs texts pairs with
  | nil => cases hrun
  | text characters rest ih =>
    rw [insideText_text, List.mem_append]
    rcases List.mem_cons.mp hrun with rfl | hrest
    · rw [hinside htexts]
      exact .inl hmem
    · exact .inr (ih hinside hrest)
  | element tag attributes content rest ihcontent ihrest =>
    rw [insideText_element, List.mem_append]
    rcases List.mem_append.mp hrun with hcontent | hrest
    · refine .inl (ihcontent (fun hne => ?_) hcontent)
      split_ifs at hne with ht
      · simp [ht]
      · simp [hinside hne]
    · exact .inr (ihrest hinside hrest)

theorem texts_ne_zero_of_mem_runs (hpairs : pairs ≠ 0 → texts ≠ 0)
    (hrun : run ∈ nodes.runs paragraphs texts pairs) (hne : run.pairs ≠ 0) : run.texts ≠ 0 := by
  induction nodes generalizing paragraphs texts pairs with
  | nil => cases hrun
  | text characters rest ih =>
    rcases List.mem_cons.mp hrun with rfl | hrest
    · exact hpairs hne
    · exact ih hpairs hrest
  | element tag attributes content rest ihcontent ihrest =>
    rcases List.mem_append.mp hrun with hcontent | hrest
    · refine ihcontent ?_ hcontent
      split_ifs
      · exact fun _ => Nat.succ_ne_zero _
      · exact hpairs
    · exact ihrest hpairs hrest

theorem textData_subset (nodes : Nodes α) (inside : Bool) :
    nodes.textData ⊆ nodes.insideText inside := by
  induction nodes generalizing inside with
  | nil => exact fun _ => id
  | text characters rest ih => exact fun _ hmem => List.mem_append_right _ (ih inside hmem)
  | element tag attributes content rest ihcontent ihrest =>
    rw [textData_element]
    refine List.append_subset.mpr ⟨?_, List.append_subset.mpr ⟨?_, ?_⟩⟩
    · split_ifs with ht
      · intro character hmem
        rw [insideText_element, List.mem_append]
        simp [ht, insideText_true, hmem]
      · exact List.nil_subset _
    · exact fun _ hmem => List.mem_append_left _ (ihcontent _ hmem)
    · exact fun _ hmem => List.mem_append_right _ (ihrest _ hmem)

variable [DecidableEq α]

def weightedCount (weight : Run α → ℕ) (character : α) (runs : List (Run α)) : ℕ :=
  (runs.map fun run => weight run * run.characters.count character).sum

theorem weightedCount_cons (weight : Run α → ℕ) (character : α) (run : Run α)
    (runs : List (Run α)) :
    weightedCount weight character (run :: runs) =
      weight run * run.characters.count character + weightedCount weight character runs := by
  simp [weightedCount]

theorem weightedCount_append (weight : Run α → ℕ) (character : α) (before after : List (Run α)) :
    weightedCount weight character (before ++ after) =
      weightedCount weight character before + weightedCount weight character after := by
  simp [weightedCount]

variable {weight : Run α → ℕ} {runs : List (Run α)}

theorem weightedCount_eq_zero (h : ∀ run ∈ runs, character ∈ run.characters → weight run = 0) :
    weightedCount weight character runs = 0 := by
  refine List.sum_eq_zero ?_
  rintro _ hmem
  obtain ⟨run, hrun, rfl⟩ := List.mem_map.mp hmem
  by_cases hcharacter : character ∈ run.characters
  · rw [h run hrun hcharacter, Nat.zero_mul]
  · rw [List.count_eq_zero_of_not_mem hcharacter, Nat.mul_zero]

theorem weightedCount_of_nodup (hnodup : (runs.flatMap (·.characters)).Nodup) (hrun : run ∈ runs)
    (hcharacter : character ∈ run.characters) :
    weightedCount weight character runs = weight run := by
  induction runs with
  | nil => cases hrun
  | cons head tail ih =>
    rw [List.flatMap_cons, List.nodup_append] at hnodup
    obtain ⟨hhead, htail, hdisjoint⟩ := hnodup
    rw [weightedCount_cons]
    rcases List.mem_cons.mp hrun with rfl | hmem
    · have hzero : weightedCount weight character tail = 0 := by
        refine weightedCount_eq_zero fun other hother hagain => ?_
        exact absurd rfl (hdisjoint _ hcharacter _ (List.mem_flatMap.mpr ⟨other, hother, hagain⟩))
      rw [hzero, List.count_eq_one_of_mem hhead hcharacter, Nat.mul_one, Nat.add_zero]
    · have hnot : character ∉ head.characters := fun hagain =>
        absurd rfl (hdisjoint _ hagain _ (List.mem_flatMap.mpr ⟨run, hmem, hcharacter⟩))
      rw [List.count_eq_zero_of_not_mem hnot, Nat.mul_zero, Nat.zero_add, ih htail hmem]

theorem count_textData (character : α) (nodes : Nodes α) (paragraphs texts pairs : ℕ) :
    nodes.textData.count character + texts * nodes.itertext.count character =
      weightedCount (·.texts) character (nodes.runs paragraphs texts pairs) := by
  induction nodes generalizing paragraphs texts pairs with
  | nil => simp [weightedCount, runs_nil, itertext_nil]
  | text characters rest ih =>
    rw [runs_text, weightedCount_cons, ← ih, textData_text, itertext_text, List.count_append]
    ring
  | element tag attributes content rest ihcontent ihrest =>
    rw [runs_element, weightedCount_append, ← ihcontent, ← ihrest, textData_element,
      itertext_element, List.count_append, List.count_append, List.count_append]
    split_ifs
    · ring
    · rw [List.count_nil]
      ring

theorem count_paragraphData (character : α) (nodes : Nodes α) (paragraphs texts pairs : ℕ) :
    nodes.paragraphData.flatten.count character +
        paragraphs * nodes.textData.count character + pairs * nodes.itertext.count character =
      weightedCount (·.pairs) character (nodes.runs paragraphs texts pairs) := by
  induction nodes generalizing paragraphs texts pairs with
  | nil => simp [weightedCount, runs_nil, itertext_nil]
  | text characters rest ih =>
    rw [runs_text, weightedCount_cons, ← ih, paragraphData_text, textData_text, itertext_text,
      List.count_append]
    ring
  | element tag attributes content rest ihcontent ihrest =>
    rw [runs_element, weightedCount_append, ← ihcontent, ← ihrest, paragraphData_element,
      textData_element, itertext_element]
    simp only [List.flatten_append, List.count_append]
    by_cases hp : localName tag = "p"
    · have ht : localName tag ≠ "t" := by
        rw [hp]
        decide
      simp only [if_pos hp, if_neg ht, List.flatten_cons, List.flatten_nil, List.append_nil,
        List.count_nil]
      ring
    · by_cases ht : localName tag = "t"
      · simp only [if_neg hp, if_pos ht, List.flatten_nil, List.count_nil]
        ring
      · simp only [if_neg hp, if_neg ht, List.flatten_nil, List.count_nil]
        ring

variable {keep : α → Bool}

theorem coveredRuns_of_paragraphData (hnodup : nodes.itertext.Nodup)
    (h : nodes.paragraphData.flatten.filter keep = (nodes.insideText false).filter keep) :
    CoveredRuns keep (fun _ pairs => pairs = 1) (nodes.runs 0 0 0) := by
  intro run hrun htexts hne
  obtain ⟨character, hmem⟩ := List.exists_mem_of_ne_nil _ hne
  obtain ⟨hcharacter, hkeep⟩ := List.mem_filter.mp hmem
  have hinside : character ∈ nodes.insideText false :=
    mem_insideText (fun hne => absurd rfl hne) hrun htexts hcharacter
  have hone : nodes.paragraphData.flatten.count character = 1 := by
    rw [← List.count_filter hkeep, h, List.count_filter hkeep]
    exact List.count_eq_one_of_mem (hnodup.sublist (insideText_sublist nodes false)) hinside
  have hcount := count_paragraphData character nodes 0 0 0
  rw [weightedCount_of_nodup (by rwa [flatMap_runs]) hrun hcharacter, hone] at hcount
  omega

theorem coveredRuns_of_textData (hnodup : nodes.itertext.Nodup)
    (hempty : nodes.paragraphData.flatten.filter keep = [])
    (h : nodes.textData.filter keep = (nodes.insideText false).filter keep) :
    CoveredRuns keep (fun texts pairs => texts = 1 ∧ pairs = 0) (nodes.runs 0 0 0) := by
  intro run hrun htexts hne
  obtain ⟨character, hmem⟩ := List.exists_mem_of_ne_nil _ hne
  obtain ⟨hcharacter, hkeep⟩ := List.mem_filter.mp hmem
  have hinside : character ∈ nodes.insideText false :=
    mem_insideText (fun hne => absurd rfl hne) hrun htexts hcharacter
  have hnodupRuns : ((nodes.runs 0 0 0).flatMap (·.characters)).Nodup := by rwa [flatMap_runs]
  have hone : nodes.textData.count character = 1 := by
    rw [← List.count_filter hkeep, h, List.count_filter hkeep]
    exact List.count_eq_one_of_mem (hnodup.sublist (insideText_sublist nodes false)) hinside
  have hzero : nodes.paragraphData.flatten.count character = 0 := by
    rw [← List.count_filter hkeep, hempty, List.count_nil]
  have htextCount := count_textData character nodes 0 0 0
  have hpairCount := count_paragraphData character nodes 0 0 0
  rw [weightedCount_of_nodup hnodupRuns hrun hcharacter, hone] at htextCount
  rw [weightedCount_of_nodup hnodupRuns hrun hcharacter, hzero] at hpairCount
  omega

theorem filter_paragraphData_of_no_pairs
    (h : CoveredRuns keep (fun _ pairs => pairs = 0) (nodes.runs 0 0 0)) :
    nodes.paragraphData.flatten.filter keep = [] := by
  rw [List.filter_eq_nil_iff]
  intro character hmem hkeep
  refine List.count_pos_iff.mpr hmem |>.ne' ?_
  have hcount := count_paragraphData character nodes 0 0 0
  rw [weightedCount_eq_zero fun run hrun hcharacter => ?_] at hcount
  · omega
  · by_contra hne
    refine hne (h run hrun (texts_ne_zero_of_mem_runs id hrun hne) ?_)
    exact List.ne_nil_of_mem (List.mem_filter.mpr ⟨hcharacter, hkeep⟩)

end

def Nodes.number (start : ℕ) : Nodes α → Nodes (α × ℕ)
  | .nil => .nil
  | .text characters rest =>
    .text (characters.zipIdx start) (rest.number (start + characters.length))
  | .element tag attributes content rest =>
    .element tag attributes (content.number start) (rest.number (start + content.itertext.length))

theorem number_element (start : ℕ) (tag : String) (attributes : List (String × String))
    (content rest : Nodes α) : (Nodes.element tag attributes content rest).number start =
      .element tag attributes (content.number start)
        (rest.number (start + content.itertext.length)) := rfl

def Element.number (element : Element α) : Element (α × ℕ) :=
  ⟨element.tag, element.attributes, element.content.number 0⟩

def Run.plain (run : Run (α × ℕ)) : Run α := ⟨run.characters.map Prod.fst, run.texts, run.pairs⟩

theorem nodes_number (element : Element α) : element.number.nodes = element.nodes.number 0 := rfl

theorem itertext_number (nodes : Nodes α) (start : ℕ) :
    (nodes.number start).itertext = nodes.itertext.zipIdx start := by
  induction nodes generalizing start with
  | nil => rfl
  | text characters rest ih => simp [Nodes.number, itertext_text, ih, List.zipIdx_append]
  | element tag attributes content rest ihcontent ihrest =>
    simp [number_element, itertext_element, ihcontent, ihrest, List.zipIdx_append]

theorem nodup_itertext_number (nodes : Nodes α) (start : ℕ) :
    (nodes.number start).itertext.Nodup := by
  rw [itertext_number]
  refine List.Nodup.of_map Prod.snd ?_
  rw [List.zipIdx_map_snd]
  exact List.nodup_range'

theorem textData_number (nodes : Nodes α) (start : ℕ) :
    (nodes.number start).textData.map Prod.fst = nodes.textData := by
  induction nodes generalizing start with
  | nil => rfl
  | text characters rest ih => simp [Nodes.number, ih]
  | element tag attributes content rest ihcontent ihrest =>
    rw [number_element, textData_element, textData_element, List.map_append, List.map_append,
      ihcontent, ihrest, itertext_number]
    split_ifs
    · rw [List.zipIdx_map_fst]
    · rfl

theorem paragraphData_number (nodes : Nodes α) (start : ℕ) :
    (nodes.number start).paragraphData.map (List.map Prod.fst) = nodes.paragraphData := by
  induction nodes generalizing start with
  | nil => rfl
  | text characters rest ih => simp [Nodes.number, ih]
  | element tag attributes content rest ihcontent ihrest =>
    rw [number_element, paragraphData_element, paragraphData_element, List.map_append,
      List.map_append, ihcontent, ihrest]
    split_ifs
    · rw [List.map_singleton, textData_number]
    · rfl

theorem runs_number (nodes : Nodes α) (start paragraphs texts pairs : ℕ) :
    ((nodes.number start).runs paragraphs texts pairs).map Run.plain =
      nodes.runs paragraphs texts pairs := by
  induction nodes generalizing start paragraphs texts pairs with
  | nil => rfl
  | text characters rest ih => simp [Nodes.number, runs_text, Run.plain, ih]
  | element tag attributes content rest ihcontent ihrest =>
    rw [number_element, runs_element, runs_element, List.map_append, ihcontent, ihrest]

variable {keep : α → Bool}

theorem coveredRuns_plain {covered : ℕ → ℕ → Prop} {runs : List (Run (α × ℕ))} :
    CoveredRuns keep covered (runs.map Run.plain) ↔
      CoveredRuns (keep ∘ Prod.fst) covered runs := by
  simp [CoveredRuns, Run.plain]

section

variable (space : α → Bool)

theorem filter_dropWhile (text : List α) :
    (text.dropWhile space).filter (!space ·) = text.filter (!space ·) := by
  induction text with
  | nil => rfl
  | cons character text ih =>
    rw [List.dropWhile_cons]
    split_ifs with hspace
    · rw [ih, List.filter_cons_of_neg (by simp [hspace])]
    · rfl

theorem filter_stripText (text : List α) :
    (stripText space text).filter (!space ·) = text.filter (!space ·) := by
  rw [stripText, List.filter_reverse, filter_dropWhile, ← List.filter_reverse,
    List.reverse_reverse, filter_dropWhile]

theorem stripText_eq_nil {text : List α} :
    stripText space text = [] ↔ text.filter (!space ·) = [] := by
  constructor
  · intro hnil
    rw [← filter_stripText, hnil, List.filter_nil]
  · intro hblank
    have hspaces : text.dropWhile space = [] := by
      rw [List.dropWhile_eq_nil_iff]
      intro character hmem
      simpa using List.filter_eq_nil_iff.mp hblank character hmem
    rw [stripText, hspaces]
    rfl

theorem map_stripText {β : Type} (f : β → α) (text : List β) :
    (stripText (space ∘ f) text).map f = stripText space (text.map f) := by
  rw [stripText, stripText, List.map_reverse, ← List.dropWhile_map, List.map_reverse,
    ← List.dropWhile_map]

theorem paragraphTexts_eq (root : Element α) :
    paragraphTexts space root =
      (root.nodes.paragraphData.map (stripText space)).filter fun text => text ≠ [] := by
  rw [paragraphTexts, Nodes.paragraphData, Element.iter_nodes, List.map_map]
  simp only [Function.comp_def]

theorem textData_iter (root : Element α) :
    LocalHwpxTextExtractor.textData root.iter = root.nodes.textData := by
  rw [Nodes.textData, Element.iter_nodes]

theorem filter_paragraphTexts (root : Element α) :
    (paragraphTexts space root).flatten.filter (!space ·) =
      root.nodes.paragraphData.flatten.filter (!space ·) := by
  rw [paragraphTexts_eq, List.filter_flatten, List.filter_flatten]
  induction root.nodes.paragraphData with
  | nil => rfl
  | cons text texts ih =>
    rw [List.map_cons, List.map_cons, List.flatten_cons, ← ih, List.filter_cons]
    split_ifs with hne
    · rw [List.map_cons, List.flatten_cons, filter_stripText]
    · have hnil : text.filter (!space ·) = [] :=
        (stripText_eq_nil space).mp (by simpa using hne)
      rw [hnil, List.nil_append]

theorem paragraphTexts_eq_nil {root : Element α} :
    paragraphTexts space root = [] ↔
      root.nodes.paragraphData.flatten.filter (!space ·) = [] := by
  constructor
  · intro hnil
    rw [← filter_paragraphTexts, hnil]
    rfl
  · intro hblank
    rw [paragraphTexts_eq, List.filter_eq_nil_iff]
    intro text hmem
    obtain ⟨paragraph, hparagraph, rfl⟩ := List.mem_map.mp hmem
    have hnil : stripText space paragraph = [] := by
      rw [stripText_eq_nil, List.filter_eq_nil_iff]
      intro character hcharacter
      exact List.filter_eq_nil_iff.mp hblank character
        (List.mem_flatten.mpr ⟨paragraph, hparagraph, hcharacter⟩)
    simp [hnil]

theorem sectionParts_number (root : Element α) :
    (sectionParts (space ∘ Prod.fst) root.number).map (List.map Prod.fst) =
      sectionParts space root := by
  have hparagraphs : (paragraphTexts (space ∘ Prod.fst) root.number).map (List.map Prod.fst) =
      paragraphTexts space root := by
    have hstrip : stripText space ∘ List.map Prod.fst =
        List.map Prod.fst ∘ stripText (space ∘ (Prod.fst : α × ℕ → α)) :=
      funext fun text => (map_stripText space Prod.fst text).symm
    have hfilter (texts : List (List (α × ℕ))) :
        (texts.filter fun text => text ≠ []).map (List.map Prod.fst) =
          (texts.map (List.map Prod.fst)).filter fun text => text ≠ [] := by
      rw [List.filter_map]
      refine congrArg _ (List.filter_congr fun text _ => ?_)
      simp
    rw [paragraphTexts_eq, paragraphTexts_eq, nodes_number, hfilter,
      ← paragraphData_number root.nodes 0, List.map_map, List.map_map, hstrip]
  rw [sectionParts, sectionParts, ← hparagraphs]
  by_cases hnil : paragraphTexts (space ∘ Prod.fst) root.number = []
  · simp only [hnil, List.map_nil, ne_eq, not_true_eq_false, if_false, List.map_singleton,
      map_stripText, textData_iter, nodes_number, textData_number]
  · simp [hnil]

end

/-- The text of each text element of the document stands in the parts of the section once, and in
the order of the document. -/
def ExtractedOnce (space : α → Bool) (root : Element α) : Prop :=
  (sectionParts (space ∘ Prod.fst) root.number).flatten.filter (fun character => !space character.1) =
    (root.number.nodes.insideText false).filter fun character => !space character.1

/-- All characters that count and are inside of text elements are inside of one pair of a paragraph
and a text element within it, or all of them are in no pair and in one text element. -/
def CoveredOnce (keep : α → Bool) (root : Element α) : Prop :=
  CoveredRuns keep (fun _ pairs => pairs = 1) (root.nodes.runs 0 0 0) ∨
    CoveredRuns keep (fun texts pairs => texts = 1 ∧ pairs = 0) (root.nodes.runs 0 0 0)

variable {space : α → Bool} {root : Element α}

theorem CoveredRuns.mono {covered weaker : ℕ → ℕ → Prop} {runs : List (Run α)}
    (h : CoveredRuns keep covered runs)
    (hweaker : ∀ texts pairs, covered texts pairs → weaker texts pairs) :
    CoveredRuns keep weaker runs :=
  fun run hrun htexts hne => hweaker _ _ (h run hrun htexts hne)

theorem coveredOnce_number : CoveredOnce (keep ∘ Prod.fst) root.number ↔ CoveredOnce keep root := by
  rw [CoveredOnce, CoveredOnce, nodes_number, ← coveredRuns_plain, ← coveredRuns_plain, runs_number]

theorem filter_sectionParts (root : Element α) :
    (sectionParts space root).flatten.filter (!space ·) =
      if root.nodes.paragraphData.flatten.filter (!space ·) = [] then
        root.nodes.textData.filter (!space ·)
      else root.nodes.paragraphData.flatten.filter (!space ·) := by
  rw [sectionParts, ← filter_paragraphTexts]
  by_cases hnil : paragraphTexts space root = []
  · simp [hnil, filter_stripText, textData_iter]
  · have hne : (paragraphTexts space root).flatten.filter (!space ·) ≠ [] := by
      rwa [filter_paragraphTexts, Ne, ← paragraphTexts_eq_nil]
    rw [if_pos hnil, if_neg hne]

/-- What is covered by pairs is in the paragraphs, and what is covered by text elements only is in
the text elements. -/
theorem filter_sectionParts_of_coveredOnce [DecidableEq α] (h : CoveredOnce (!space ·) root) :
    (sectionParts space root).flatten.filter (!space ·) =
      (root.nodes.insideText false).filter (!space ·) := by
  rw [filter_sectionParts]
  rcases h with hpairs | htexts
  · have hparagraphs := filter_paragraphData_of_covered hpairs
    simp only [ne_eq, not_true_eq_false, decide_false] at hparagraphs
    rw [hparagraphs]
    split_ifs with hnil
    · rw [hnil, List.filter_eq_nil_iff]
      exact fun character hmem =>
        List.filter_eq_nil_iff.mp hnil character (textData_subset _ _ hmem)
    · rfl
  · have hnone := filter_paragraphData_of_no_pairs (htexts.mono fun _ _ hcovered => hcovered.2)
    rw [if_pos hnone]
    exact filter_textData_of_single (htexts.mono fun _ _ hcovered => hcovered.1)

theorem coveredOnce_of_filter_sectionParts [DecidableEq α]
    (hnodup : root.nodes.itertext.Nodup)
    (h : (sectionParts space root).flatten.filter (!space ·) =
      (root.nodes.insideText false).filter (!space ·)) :
    CoveredOnce (!space ·) root := by
  rw [filter_sectionParts] at h
  split_ifs at h with hnil
  · exact .inr (coveredRuns_of_textData hnodup hnil h)
  · exact .inl (coveredRuns_of_paragraphData hnodup h)

theorem extractedOnce_iff [DecidableEq α] :
    ExtractedOnce space root ↔ CoveredOnce (!space ·) root := by
  have hnodup : root.number.nodes.itertext.Nodup := by
    rw [nodes_number]
    exact nodup_itertext_number _ _
  rw [← coveredOnce_number]
  exact ⟨@coveredOnce_of_filter_sectionParts _ (space ∘ Prod.fst) root.number _ hnodup,
    @filter_sectionParts_of_coveredOnce _ (space ∘ Prod.fst) root.number _⟩

theorem exists_pieces_of_coveredOnce {root : Element Char} (h : CoveredOnce (fun _ => true) root) :
    ∃ pieces : List (List Char), pieces.flatten = root.nodes.insideText false ∧
      sectionText root = joinWith sectionSeparator
        ((pieces.map (stripText isSpace)).filter fun text => text ≠ []) := by
  have hall (text : List Char) : text.filter (fun _ => true) = text :=
    List.filter_eq_self.mpr fun _ _ => rfl
  rcases h with hpairs | htexts
  · have hparagraphs := filter_paragraphData_of_covered hpairs
    rw [hall, hall] at hparagraphs
    refine ⟨root.nodes.paragraphData, hparagraphs, ?_⟩
    rw [sectionText, sectionParts, ← paragraphTexts_eq]
    by_cases hnil : paragraphTexts isSpace root = []
    · have hblank : root.nodes.textData.filter (!isSpace ·) = [] := by
        rw [List.filter_eq_nil_iff]
        intro character hmem
        have hinside : character ∈ root.nodes.paragraphData.flatten := by
          rw [hparagraphs]
          exact textData_subset _ _ hmem
        exact List.filter_eq_nil_iff.mp ((paragraphTexts_eq_nil isSpace).mp hnil) character hinside
      rw [if_neg (not_not.mpr hnil), textData_iter, (stripText_eq_nil isSpace).mpr hblank, hnil]
      rfl
    · rw [if_pos hnil]
  · have hnone := filter_paragraphData_of_no_pairs (htexts.mono fun _ _ hcovered => hcovered.2)
    have htext := filter_textData_of_single (htexts.mono fun _ _ hcovered => hcovered.1)
    rw [hall] at hnone
    rw [hall, hall] at htext
    refine ⟨[root.nodes.textData], by rw [List.flatten_singleton, htext], ?_⟩
    have hnil : paragraphTexts isSpace root = [] := by
      rw [paragraphTexts_eq_nil, hnone]
      rfl
    rw [sectionText, sectionParts, if_neg (not_not.mpr hnil), textData_iter, List.map_singleton]
    by_cases hblank : stripText isSpace root.nodes.textData = []
    · simp [hblank, joinWith]
    · simp [hblank]

end AgenticLab.LocalHwpxTextExtractor
