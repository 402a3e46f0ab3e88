import AgenticLab.Model.Research.EvidenceReranking
import Mathlib.Algebra.Order.Ring.NNRat

/-! # What rerankers keep and how they account for it -/

namespace AgenticLab.EvidenceReranking

variable {budget : ExecutionBudget} {usage : BudgetUsage}

/-- No ceiling is reached. -/
structure CanStart (budget : ExecutionBudget) (usage : BudgetUsage) : Prop where
  attempts : usage.attempts < budget.maxAttempts
  tokens : usage.recordedTokens < budget.maxRecordedTokens
  seconds : usage.elapsedSeconds < budget.maxElapsedSeconds

/-- No ceiling is exceeded. -/
structure WithinBudget (budget : ExecutionBudget) (usage : BudgetUsage) : Prop where
  attempts : usage.attempts ≤ budget.maxAttempts
  tokens : usage.recordedTokens ≤ budget.maxRecordedTokens
  seconds : usage.elapsedSeconds ≤ budget.maxElapsedSeconds

variable {u : Unit}

theorem ensureCanStartAttempt_eq_ok :
    ensureCanStartAttempt budget usage = .ok u ↔ CanStart budget usage := by
  simp only [ensureCanStartAttempt, raiseIf_bind_eq_ok, raiseIf_eq_ok, not_le]
  exact ⟨fun ⟨hattempts, htokens, hseconds⟩ => ⟨hattempts, htokens, hseconds⟩,
    fun h => ⟨h.attempts, h.tokens, h.seconds⟩⟩

theorem ensureWithinBudget_eq_ok :
    ensureWithinBudget budget usage = .ok u ↔ WithinBudget budget usage := by
  simp only [ensureWithinBudget, raiseIf_bind_eq_ok, raiseIf_eq_ok, not_lt]
  exact ⟨fun ⟨hattempts, htokens, hseconds⟩ => ⟨hattempts, htokens, hseconds⟩,
    fun h => ⟨h.attempts, h.tokens, h.seconds⟩⟩

theorem exhausts_eq_true {outcome : Except Raised Unit} :
    exhausts outcome = true ↔ outcome ≠ .ok () := by
  cases outcome <;> simp [exhausts]

theorem exhausts_ensureWithinBudget :
    exhausts (ensureWithinBudget budget usage) = true ↔ ¬WithinBudget budget usage := by
  rw [exhausts_eq_true, Ne, ensureWithinBudget_eq_ok]

theorem CanStart.withinBudget (h : CanStart budget usage) : WithinBudget budget usage :=
  ⟨h.attempts.le, h.tokens.le, h.seconds.le⟩

theorem canStart_none (budget : ExecutionBudget) : CanStart budget .none :=
  ⟨budget.attempts_pos, budget.tokens_pos, budget.seconds_pos⟩

theorem CanStart.of_record {recordedTokens : ℤ} {elapsedSeconds : ℚ}
    (h : CanStart budget (usage.record recordedTokens elapsedSeconds)) : CanStart budget usage :=
  ⟨(Nat.le_succ _).trans_lt h.attempts, (Nat.le_add_right _ _).trans_lt h.tokens,
    le_self_add.trans_lt h.seconds⟩

def Reported (report : CallReport) : Prop :=
  0 ≤ report.recordedTokens ∧ 0 ≤ report.elapsedSeconds

def BudgetUsage.after (usage : BudgetUsage) (report : CallReport) : BudgetUsage :=
  usage.record report.recordedTokens report.elapsedSeconds

theorem recordReport_eq_ok {report : CallReport} {next : BudgetUsage} :
    recordReport usage report = .ok next ↔ Reported report ∧ next = usage.after report := by
  simp only [recordReport, recordAttempt, raiseIf_bind_eq_ok, not_lt, pure_eq_ok, Except.ok.injEq,
    Reported, and_assoc, BudgetUsage.after, @eq_comm _ next]

/-! ## The answers of a run -/

section

variable {γ ι : Type} {evaluator : EvidenceRelevanceEvaluator} {question objective : String}
  {text : γ → String}

def answers (evaluator : EvidenceRelevanceEvaluator) (question objective : String)
    (text : γ → String) (call : ℕ) : List γ → List EvidenceRelevanceEvaluationResult
  | [] => []
  | candidate :: candidates =>
    evaluator.evaluate call question objective (text candidate) ::
      answers evaluator question objective text (call + 1) candidates

def usageAfter (usage : BudgetUsage) : List EvidenceRelevanceEvaluationResult → BudgetUsage
  | [] => usage
  | answer :: later => usageAfter (usage.after answer.toCallReport) later

def Evaluable (budget : ExecutionBudget) (accepts : EvidenceRelevanceEvaluationResult → Prop)
    (usage : BudgetUsage) : List EvidenceRelevanceEvaluationResult → Prop
  | [] => True
  | answer :: later =>
    (CanStart budget usage → accepts answer) ∧
      Evaluable budget accepts (usage.after answer.toCallReport) later

def LastFits (budget : ExecutionBudget) (usage : BudgetUsage) :
    List EvidenceRelevanceEvaluationResult → Prop
  | [] => True
  | [answer] => CanStart budget usage → WithinBudget budget (usage.after answer.toCallReport)
  | answer :: next :: later => LastFits budget (usage.after answer.toCallReport) (next :: later)

variable {given : List EvidenceRelevanceEvaluationResult}

theorem evaluable_of_not_canStart {accepts : EvidenceRelevanceEvaluationResult → Prop}
    (h : ¬CanStart budget usage) : Evaluable budget accepts usage given := by
  induction given generalizing usage with
  | nil => trivial
  | cons answer later ih => exact ⟨fun hstart => absurd hstart h, ih fun hnext => h hnext.of_record⟩

theorem lastFits_of_not_canStart (h : ¬CanStart budget usage) : LastFits budget usage given := by
  induction given generalizing usage with
  | nil => trivial
  | cons answer later ih =>
    cases later with
    | nil => exact fun hstart => absurd hstart h
    | cons next later => exact ih fun hnext => h hnext.of_record

variable {newItem : γ → EvidenceRelevanceEvaluationResult → Except Raised ι} {unevaluated : γ → ι}
  {ensureAfter : BudgetUsage → Except Raised Unit}
  {accepts : EvidenceRelevanceEvaluationResult → Prop} {call : ℕ}

theorem evaluateEach_returns {state : Sequence ι} {candidates : List γ}
    (hitem : ∀ candidate answer, (∃ item, newItem candidate answer = .ok item) ∧
      Reported answer.toCallReport ↔ accepts answer)
    (hafter : ∀ usage, CanStart budget usage → ensureAfter usage = .ok ()) :
    (∃ final, evaluateEach budget evaluator question objective text newItem unevaluated ensureAfter
        call state candidates = .ok final) ↔
      Evaluable budget accepts state.usage
        (answers evaluator question objective text call candidates) := by
  induction candidates generalizing call state with
  | nil => exact ⟨fun _ => trivial, fun _ => ⟨state, rfl⟩⟩
  | cons candidate candidates ih =>
    rw [answers, Evaluable, evaluateEach]
    cases hensure : ensureCanStartAttempt budget state.usage with
    | error failure =>
      have hstart : ¬CanStart budget state.usage := by
        rw [← ensureCanStartAttempt_eq_ok (u := ()), hensure]
        exact fun h => by cases h
      exact ⟨fun _ => ⟨fun h => absurd h hstart,
        evaluable_of_not_canStart fun hnext => hstart hnext.of_record⟩, fun _ => ⟨_, rfl⟩⟩
    | ok _ =>
      have hstart : CanStart budget state.usage := ensureCanStartAttempt_eq_ok.mp hensure
      dsimp only
      constructor
      · rintro ⟨final, h⟩
        obtain ⟨item, hnew, h⟩ := bind_eq_ok.mp h
        obtain ⟨usage, hrecord, h⟩ := bind_eq_ok.mp h
        obtain ⟨hreported, rfl⟩ := recordReport_eq_ok.mp hrecord
        refine ⟨fun _ => (hitem _ _).mp ⟨⟨item, hnew⟩, hreported⟩, ?_⟩
        split at h
        · rename_i failure hraises
          refine evaluable_of_not_canStart fun hnext => ?_
          rw [hafter _ hnext] at hraises
          cases hraises
        · exact ih.mp ⟨final, h⟩
      · rintro ⟨haccepts, hlater⟩
        obtain ⟨⟨item, hnew⟩, hreported⟩ := (hitem candidate _).mpr (haccepts hstart)
        have hrecord := (@recordReport_eq_ok state.usage _ _).mpr ⟨hreported, rfl⟩
        rw [hnew, ok_bind, hrecord, ok_bind]
        split
        · exact ⟨_, rfl⟩
        · exact ih.mpr hlater

/-- What the loop has done when it returns: the candidates before some place are evaluated, and
no attempt can start for those behind it. -/
structure Done (budget : ExecutionBudget) (evaluator : EvidenceRelevanceEvaluator)
    (question objective : String) (text : γ → String)
    (newItem : γ → EvidenceRelevanceEvaluationResult → Except Raised ι) (unevaluated : γ → ι)
    (ensureAfter : BudgetUsage → Except Raised Unit) (call : ℕ) (state final : Sequence ι)
    (finished rest : List γ) (items : List ι) : Prop where
  evaluated : final.evaluated = state.evaluated ++ items
  items : List.Forall₂ (fun candidate item => ∃ answer, newItem candidate answer = .ok item)
    finished items
  remaining : final.remaining = rest.map unevaluated
  usage : final.usage =
    usageAfter state.usage (answers evaluator question objective text call finished)
  starts : ∀ start ∈ final.starts, start ∈ state.starts ∨ CanStart budget start
  started : ∀ before after, finished = before ++ after → after ≠ [] → CanStart budget
    (usageAfter state.usage (answers evaluator question objective text call before))
  stopped : rest ≠ [] → ¬CanStart budget final.usage
  exhausted : final.budgetExhausted = true ↔
    rest ≠ [] ∨ finished ≠ [] ∧ ensureAfter final.usage ≠ .ok ()

theorem evaluateEach_eq_ok {state final : Sequence ι} {candidates : List γ}
    (hafter : ∀ usage, CanStart budget usage → ensureAfter usage = .ok ())
    (hremaining : state.remaining = []) (hexhausted : state.budgetExhausted = false)
    (h : evaluateEach budget evaluator question objective text newItem unevaluated ensureAfter
      call state candidates = .ok final) :
    ∃ finished rest items, candidates = finished ++ rest ∧
      Done budget evaluator question objective text newItem unevaluated ensureAfter call state final
        finished rest items := by
  induction candidates generalizing call state with
  | nil =>
    obtain rfl := Except.ok.inj h
    exact ⟨[], [], [], rfl, by simp, .nil, by simp [hremaining], rfl, fun _ => .inl, by simp,
      by simp, by simp [hexhausted]⟩
  | cons candidate candidates ih =>
    rw [evaluateEach] at h
    split at h
    · rename_i failure hensure
      obtain rfl := Except.ok.inj h
      refine ⟨[], candidate :: candidates, [], rfl, by simp, .nil, rfl, rfl, fun _ => .inl,
        by simp, fun _ hstart => ?_, by simp⟩
      rw [(ensureCanStartAttempt_eq_ok (u := ())).mpr hstart] at hensure
      cases hensure
    · rename_i hensure
      have hstart := ensureCanStartAttempt_eq_ok.mp hensure
      obtain ⟨item, hnew, h⟩ := bind_eq_ok.mp h
      obtain ⟨usage, hrecord, h⟩ := bind_eq_ok.mp h
      obtain ⟨-, rfl⟩ := recordReport_eq_ok.mp hrecord
      have hstarts : ∀ start ∈ state.starts ++ [state.usage],
          start ∈ state.starts ∨ CanStart budget start := by
        intro start hmem
        rcases List.mem_append.mp hmem with hold | hnow
        · exact .inl hold
        · exact .inr (List.mem_singleton.mp hnow ▸ hstart)
      split at h
      · rename_i failure hraises
        obtain rfl := Except.ok.inj h
        refine ⟨[candidate], candidates, [item], rfl, rfl, .cons ⟨_, hnew⟩ .nil, rfl, rfl, hstarts,
          ?_, fun _ hnext => ?_, by simp [hraises]⟩
        · intro before after hfinished hne
          obtain ⟨rfl, -⟩ | ⟨-, rfl⟩ := List.singleton_eq_append_iff.mp hfinished
          · exact hstart
          · exact absurd rfl hne
        rw [hafter _ hnext] at hraises
        cases hraises
      · rename_i hpasses
        obtain ⟨finished, rest, items, rfl, hdone⟩ := ih (by exact hremaining) (by exact hexhausted) h
        refine ⟨candidate :: finished, rest, item :: items, rfl, ?_, .cons ⟨_, hnew⟩ hdone.items,
          hdone.remaining, hdone.usage, ?_, ?_, hdone.stopped, ?_⟩
        · rw [hdone.evaluated, List.append_assoc, List.singleton_append]
        · intro start hmem
          rcases hdone.starts start hmem with hold | hnew
          · exact hstarts start hold
          · exact .inr hnew
        · intro before after hfinished hne
          cases before with
          | nil => exact hstart
          | cons first before =>
            obtain ⟨rfl, htail⟩ := List.cons.inj hfinished
            exact hdone.started before after htail hne
        · rw [hdone.exhausted]
          by_cases hrest : rest = []
          · cases finished with
            | nil =>
              have husage := hdone.usage
              rw [answers, usageAfter] at husage
              simp [hrest, husage, hpasses]
            | cons => simp
          · simp [hrest]

/-! ## Truthful results -/

/-- What the items of a result and its accounts say. -/
structure Truthful {κ : Type} [LE κ] (budget : ExecutionBudget) (candidates : List γ)
    (candidate : ι → γ) (judgment : ι → Option EvidenceRelevanceJudgment) (sortKey : ι → κ)
    (items : List ι) (usage : BudgetUsage) (budgetExhausted : Bool)
    (starts : List BudgetUsage) : Prop where
  lossless : (items.map candidate).Perm candidates
  ordered : items.Pairwise fun earlier later => sortKey earlier ≤ sortKey later
  starts : ∀ start ∈ starts, CanStart budget start
  exhausted : budgetExhausted = true ↔
    (∃ item ∈ items, judgment item = none) ∨ ¬WithinBudget budget usage

variable {result : EvidenceRelevanceBatchEvaluationResult}

theorem batchItems_returns {accepted : Prop}
    (haccepted : ∀ candidate judgment,
      (∃ item, newItem candidate { result with judgment } = .ok item) ↔ accepted)
    {pairs : List (String × γ)} :
    (∃ items, batchItems result newItem pairs = .ok items) ↔
      ∀ pair ∈ pairs, (result.judgments.lookup pair.1).isSome ∧ accepted := by
  induction pairs with
  | nil => exact ⟨fun _ => by simp, fun _ => ⟨[], rfl⟩⟩
  | cons pair pairs ih =>
    rw [List.forall_mem_cons, ← ih]
    constructor
    · rintro ⟨items, h⟩
      obtain ⟨judgment, hjudgment, h⟩ := bind_eq_ok.mp h
      obtain ⟨item, hnew, h⟩ := bind_eq_ok.mp h
      obtain ⟨rest, hrest, -⟩ := bind_eq_ok.mp h
      refine ⟨⟨?_, (haccepted _ _).mp ⟨item, hnew⟩⟩, rest, hrest⟩
      unfold judgmentOf at hjudgment
      split at hjudgment
      · rename_i found hfound
        rw [hfound]
        rfl
      · cases hjudgment
    · rintro ⟨⟨hsome, haccept⟩, rest, hrest⟩
      obtain ⟨judgment, hjudgment⟩ := Option.isSome_iff_exists.mp hsome
      obtain ⟨item, hnew⟩ := (haccepted pair.2 judgment).mpr haccept
      have hlookup : judgmentOf result pair.1 = .ok judgment := by rw [judgmentOf, hjudgment]
      exact ⟨_, bind_eq_ok.mpr ⟨judgment, hlookup, bind_eq_ok.mpr ⟨item, hnew,
        bind_eq_ok.mpr ⟨rest, hrest, rfl⟩⟩⟩⟩

variable {items : List ι}

theorem batchItems_eq_ok {pairs : List (String × γ)}
    (h : batchItems result newItem pairs = .ok items) :
    List.Forall₂ (fun candidate item => ∃ answer, newItem candidate answer = .ok item)
      (pairs.map Prod.snd) items := by
  induction pairs generalizing items with
  | nil =>
    obtain rfl := Except.ok.inj h
    exact .nil
  | cons pair pairs ih =>
    obtain ⟨judgment, -, h⟩ := bind_eq_ok.mp h
    obtain ⟨item, hnew, h⟩ := bind_eq_ok.mp h
    obtain ⟨rest, hrest, h⟩ := bind_eq_ok.mp h
    obtain rfl := Except.ok.inj h
    exact .cons ⟨_, hnew⟩ (ih hrest)

@[simp] theorem length_itemIds (count : ℕ) : (itemIds count).length = count := by
  simp [itemIds]

theorem map_fst_zip_itemIds (candidates : List γ) :
    ((itemIds candidates.length).zip candidates).map Prod.fst = itemIds candidates.length :=
  List.map_fst_zip (by simp)

theorem map_snd_zip_itemIds (candidates : List γ) :
    ((itemIds candidates.length).zip candidates).map Prod.snd = candidates :=
  List.map_snd_zip (by simp)

def fallbackUsage (seconds : ℚ) : BudgetUsage := BudgetUsage.none.record 0 (max 0 seconds)

theorem recordAttempt_fallback (seconds : ℚ) :
    recordAttempt .none 0 (max 0 seconds) = .ok (fallbackUsage seconds) :=
  raiseIf_bind_eq_ok.mpr ⟨lt_irrefl 0, raiseIf_bind_eq_ok.mpr ⟨not_lt.mpr (le_max_left _ _), rfl⟩⟩

structure Keeps (candidate : ι → γ) (judgment : ι → Option EvidenceRelevanceJudgment)
    (newItem : γ → EvidenceRelevanceEvaluationResult → Except Raised ι) (unevaluated : γ → ι) :
    Prop where
  newItem : ∀ {from' answer item}, newItem from' answer = .ok item →
    candidate item = from' ∧ judgment item ≠ none
  unevaluated : ∀ from', candidate (unevaluated from') = from' ∧ judgment (unevaluated from') = none

variable {candidate : ι → γ} {judgment : ι → Option EvidenceRelevanceJudgment}

theorem Keeps.of_forall₂ (hkeeps : Keeps candidate judgment newItem unevaluated)
    {finished : List γ}
    (h : List.Forall₂ (fun from' item => ∃ answer, newItem from' answer = .ok item)
      finished items) :
    items.map candidate = finished ∧ ∀ item ∈ items, judgment item ≠ none := by
  induction h with
  | nil => exact ⟨rfl, by simp⟩
  | cons hfirst _ ih =>
    obtain ⟨answer, hfirst⟩ := hfirst
    obtain ⟨hcandidate, hjudgment⟩ := hkeeps.newItem hfirst
    exact ⟨by rw [List.map_cons, hcandidate, ih.1], List.forall_mem_cons.mpr ⟨hjudgment, ih.2⟩⟩

variable {call : ℕ} {starts : List BudgetUsage} {final : Sequence ι} {finished rest : List γ}
  {items : List ι}

theorem Done.items_eq (h : Done budget evaluator question objective text newItem unevaluated
    ensureAfter call (.first ι usage starts) final finished rest items) :
    final.evaluated ++ final.remaining = items ++ rest.map unevaluated := by
  rw [h.evaluated, h.remaining]
  rfl

theorem Done.candidates (hkeeps : Keeps candidate judgment newItem unevaluated)
    (h : Done budget evaluator question objective text newItem unevaluated ensureAfter call
      (.first ι usage starts) final finished rest items) :
    (final.evaluated ++ final.remaining).map candidate = finished ++ rest := by
  have hrest : candidate ∘ unevaluated = id := funext fun from' => (hkeeps.unevaluated from').1
  rw [h.items_eq, List.map_append, (hkeeps.of_forall₂ h.items).1, List.map_map, hrest, List.map_id]

theorem Done.unjudged (hkeeps : Keeps candidate judgment newItem unevaluated)
    (h : Done budget evaluator question objective text newItem unevaluated ensureAfter call
      (.first ι usage starts) final finished rest items) :
    (∃ item ∈ final.evaluated ++ final.remaining, judgment item = none) ↔ rest ≠ [] := by
  rw [h.items_eq]
  constructor
  · rintro ⟨item, hmem, hnone⟩ rfl
    exact (hkeeps.of_forall₂ h.items).2 item (by simpa using hmem) hnone
  · intro hrest
    obtain ⟨first, later, rfl⟩ := List.exists_cons_of_ne_nil hrest
    exact ⟨unevaluated first, by simp, (hkeeps.unevaluated first).2⟩

theorem lastFits_cons {answer : EvidenceRelevanceEvaluationResult} (hgiven : given ≠ []) :
    LastFits budget usage (answer :: given) ↔
      LastFits budget (usage.after answer.toCallReport) given := by
  cases given with
  | nil => exact absurd rfl hgiven
  | cons next later => exact Iff.rfl

theorem lastFits_iff {finished rest : List γ} (hnonempty : finished ++ rest ≠ [])
    (hstarted : ∀ before after, finished = before ++ after → after ≠ [] → CanStart budget
      (usageAfter usage (answers evaluator question objective text call before)))
    (hstopped : rest ≠ [] → ¬CanStart budget
      (usageAfter usage (answers evaluator question objective text call finished))) :
    LastFits budget usage (answers evaluator question objective text call (finished ++ rest)) ↔
      (rest = [] → WithinBudget budget
        (usageAfter usage (answers evaluator question objective text call finished))) := by
  induction finished generalizing call usage with
  | nil =>
    exact ⟨fun _ hrest => absurd hrest hnonempty,
      fun _ => lastFits_of_not_canStart (hstopped hnonempty)⟩
  | cons candidate finished ih =>
    have hstart : CanStart budget usage := hstarted [] _ rfl (List.cons_ne_nil _ _)
    by_cases hlast : finished ++ rest = []
    · obtain ⟨rfl, rfl⟩ := List.append_eq_nil_iff.mp hlast
      exact ⟨fun h _ => h hstart, fun h _ => h rfl⟩
    · have hgiven : answers evaluator question objective text (call + 1) (finished ++ rest) ≠ [] := by
        obtain ⟨next, later, hcons⟩ := List.exists_cons_of_ne_nil hlast
        rw [hcons]
        exact List.cons_ne_nil _ _
      rw [List.cons_append, answers, lastFits_cons hgiven]
      exact ih hlast
        (fun before after hfinished hne =>
          hstarted (candidate :: before) after (by rw [hfinished, List.cons_append]) hne)
        hstopped

end

/-! ## `SemanticEvidenceReranker` -/

namespace SemanticEvidenceReranker

variable {evaluator : EvidenceRelevanceEvaluator} {question objective : String}
  {shortlist : List SemanticEvidenceShortlistItem}

theorem ordered_pairwise (items : List SemanticEvidenceRerankItem) :
    (ordered items).Pairwise fun earlier later => sortKey earlier ≤ sortKey later := by
  refine (List.pairwise_mergeSort ?_ ?_ items).imp of_decide_eq_true
  · intro first second third hfirst hsecond
    exact decide_eq_true ((of_decide_eq_true hfirst).trans (of_decide_eq_true hsecond))
  · intro first second
    simpa using le_total (sortKey first) (sortKey second)

def Accounts (budget : ExecutionBudget) (shortlist : List SemanticEvidenceShortlistItem)
    (outcome : Except Raised (SemanticEvidenceRerankResult × List BudgetUsage)) : Prop :=
  ∃ result starts, outcome = .ok (result, starts) ∧
    Truthful budget shortlist (·.shortlistItem) (·.judgment) sortKey result.items result.usage
      result.budgetExhausted starts

abbrev eachAnswers (evaluator : EvidenceRelevanceEvaluator) (question objective : String)
    (shortlist : List SemanticEvidenceShortlistItem) : List EvidenceRelevanceEvaluationResult :=
  answers evaluator question objective (fun item : SemanticEvidenceShortlistItem =>
    item.candidate.text) 0 shortlist

def EachFits (budget : ExecutionBudget) (usage : BudgetUsage)
    (given : List EvidenceRelevanceEvaluationResult) : Prop :=
  Evaluable budget (fun answer => Reported answer.toCallReport) usage given ∧
    LastFits budget usage given

theorem keeps : Keeps SemanticEvidenceRerankItem.shortlistItem SemanticEvidenceRerankItem.judgment
    (fun item result => .ok (evaluated item result)) unevaluated where
  newItem h := by
    obtain rfl := Except.ok.inj h
    exact ⟨rfl, Option.some_ne_none _⟩
  unevaluated _ := ⟨rfl, rfl⟩

variable {starts : List BudgetUsage}

theorem truthful_ordered {items : List SemanticEvidenceRerankItem} {exhausted : Bool}
    (hlossless : items.map (·.shortlistItem) = shortlist)
    (hstarts : ∀ start ∈ starts, CanStart budget start)
    (hexhausted : exhausted = true ↔
      (∃ item ∈ items, item.judgment = none) ∨ ¬WithinBudget budget usage) :
    Truthful budget shortlist (·.shortlistItem) (·.judgment) sortKey (ordered items) usage exhausted
      starts := by
  have hperm : (ordered items).Perm items := List.mergeSort_perm _ _
  refine ⟨hlossless ▸ hperm.map _, ordered_pairwise items, hstarts, hexhausted.trans (or_congr_left ?_)⟩
  exact exists_congr fun item => and_congr_left fun _ => hperm.mem_iff.symm

theorem rerankEach_accounts (hnonempty : shortlist ≠ [])
    (hstarts : ∀ start ∈ starts, CanStart budget start) :
    Accounts budget shortlist (rerankEach budget evaluator question objective shortlist usage starts) ↔
      EachFits budget usage (eachAnswers evaluator question objective shortlist) := by
  have hafter (usage : BudgetUsage) (_ : CanStart budget usage) :
      (fun _ : BudgetUsage => (.ok () : Except Raised Unit)) usage = .ok () := rfl
  have hreturns : (∃ final, evaluateEach budget evaluator question objective (·.candidate.text)
      (fun item result => .ok (evaluated item result)) unevaluated (fun _ => .ok ()) 0
      (.first _ usage starts) shortlist = .ok final) ↔
      Evaluable budget (fun answer => Reported answer.toCallReport) usage
        (eachAnswers evaluator question objective shortlist) :=
    evaluateEach_returns (fun candidate answer => ⟨fun h => h.2, fun h => ⟨⟨_, rfl⟩, h⟩⟩) hafter
  constructor
  · rintro ⟨result, starts', h, htruthful⟩
    obtain ⟨final, hfinal, h⟩ := bind_eq_ok.mp h
    obtain ⟨rfl, rfl⟩ := Prod.mk.inj (Except.ok.inj h)
    refine ⟨hreturns.mp ⟨final, hfinal⟩, ?_⟩
    obtain ⟨finished, rest, items, rfl, hdone⟩ := evaluateEach_eq_ok hafter rfl rfl hfinal
    have husage := hdone.usage
    refine (lastFits_iff hnonempty hdone.started (husage ▸ hdone.stopped)).mpr fun hrest => ?_
    have hexhausted : final.budgetExhausted = false := by
      rw [Bool.eq_false_iff, Ne, hdone.exhausted]
      simp [hrest]
    have hwithin := mt htruthful.exhausted.mpr (by simp [hexhausted])
    rw [not_or, not_not, husage] at hwithin
    exact hwithin.2
  · rintro ⟨hevaluable, hlast⟩
    obtain ⟨final, hfinal⟩ := hreturns.mpr hevaluable
    obtain ⟨finished, rest, items, rfl, hdone⟩ := evaluateEach_eq_ok hafter rfl rfl hfinal
    have husage := hdone.usage
    have hwithin := (lastFits_iff hnonempty hdone.started (husage ▸ hdone.stopped)).mp hlast
    refine ⟨_, _, bind_eq_ok.mpr ⟨final, hfinal, rfl⟩, truthful_ordered (hdone.candidates keeps)
      (fun start hmem => (hdone.starts start hmem).elim (hstarts start) id) ?_⟩
    rw [hdone.unjudged keeps, hdone.exhausted]
    simp only [ne_eq, not_true_eq_false, and_false, or_false]
    refine ⟨.inl, fun h => h.elim id fun hover hrest => hover ?_⟩
    rw [husage]
    exact hwithin hrest

/-- The candidates are asked about with words, and single answers fit as above; a batched call falls
back as it may, or answers about every candidate. -/
def Fits (budget : ExecutionBudget) (evaluator : EvidenceRelevanceEvaluator)
    (question objective : String) (shortlist : List SemanticEvidenceShortlistItem) : Prop :=
  isBlank question = false ∧ isBlank objective = false ∧ (shortlist ≠ [] →
    match evaluator.evaluateBatch with
    | none => EachFits budget .none (eachAnswers evaluator question objective shortlist)
    | some evaluateBatch =>
      let call := evaluateBatch question objective
        (((itemIds shortlist.length).zip shortlist).map fun item => (item.1, item.2.candidate.text))
      match call.outcome with
      | .error failure => failure.cls ∈ batchFallbackErrors ∧
          EachFits budget (fallbackUsage call.seconds)
            (eachAnswers evaluator question objective shortlist)
      | .ok result => Reported result.toCallReport ∧
          ∀ itemId ∈ itemIds shortlist.length, (result.judgments.lookup itemId).isSome)

theorem not_accounts_error {failure : Raised} : ¬Accounts budget shortlist (.error failure) := by
  rintro ⟨result, starts, h, -⟩
  cases h

theorem batch_accounts {result : EvidenceRelevanceBatchEvaluationResult} :
    Accounts budget shortlist (do
        let usage ← recordReport .none result.toCallReport
        let items ← batchItems result (fun item result => .ok (evaluated item result))
          ((itemIds shortlist.length).zip shortlist)
        return (⟨ordered items, usage, exhausts (ensureWithinBudget budget usage)⟩, [.none])) ↔
      Reported result.toCallReport ∧
        ∀ itemId ∈ itemIds shortlist.length, (result.judgments.lookup itemId).isSome := by
  have hreturns : (∃ items, batchItems result (fun item result => .ok (evaluated item result))
      ((itemIds shortlist.length).zip shortlist) = .ok items) ↔
      ∀ pair ∈ (itemIds shortlist.length).zip shortlist,
        (result.judgments.lookup pair.1).isSome ∧ True :=
    @batchItems_returns _ _ (fun item result => .ok (evaluated item result)) result True
      (fun candidate judgment => ⟨fun _ => trivial, fun _ => ⟨_, rfl⟩⟩) _
  have hids : (∀ itemId ∈ itemIds shortlist.length, (result.judgments.lookup itemId).isSome) ↔
      ∀ pair ∈ (itemIds shortlist.length).zip shortlist,
        (result.judgments.lookup pair.1).isSome := by
    conv_lhs => rw [← map_fst_zip_itemIds shortlist, List.forall_mem_map]
  simp only [and_true] at hreturns
  rw [hids]
  constructor
  · rintro ⟨reranked, starts, h, -⟩
    obtain ⟨usage, hrecord, h⟩ := bind_eq_ok.mp h
    obtain ⟨items, hitems, -⟩ := bind_eq_ok.mp h
    exact ⟨(recordReport_eq_ok.mp hrecord).1, hreturns.mp ⟨items, hitems⟩⟩
  · rintro ⟨hreported, hanswered⟩
    obtain ⟨items, hitems⟩ := hreturns.mpr hanswered
    have hrecord : recordReport .none result.toCallReport =
        .ok (BudgetUsage.none.after result.toCallReport) := recordReport_eq_ok.mpr ⟨hreported, rfl⟩
    obtain ⟨hcandidates, hjudged⟩ := keeps.of_forall₂ (batchItems_eq_ok hitems)
    refine ⟨_, _, bind_eq_ok.mpr ⟨_, hrecord, bind_eq_ok.mpr ⟨items, hitems, rfl⟩⟩,
      truthful_ordered (hcandidates.trans (map_snd_zip_itemIds shortlist)) ?_ ?_⟩
    · intro start hmem
      rw [List.mem_singleton.mp hmem]
      exact canStart_none budget
    · rw [exhausts_ensureWithinBudget]
      exact ⟨.inr, fun h => h.elim (fun ⟨item, hmem, hnone⟩ => absurd hnone (hjudged item hmem)) id⟩

theorem rerank_accounts_iff (budget : ExecutionBudget) (evaluator : EvidenceRelevanceEvaluator)
    (question objective : String) (shortlist : List SemanticEvidenceShortlistItem) :
    Accounts budget shortlist (rerank budget evaluator question objective shortlist) ↔
      Fits budget evaluator question objective shortlist := by
  unfold rerank Fits
  cases hquestion : isBlank question with
  | true => simp [raiseIf, not_accounts_error]
  | false =>
    cases hobjective : isBlank objective with
    | true => simp [raiseIf, not_accounts_error]
    | false =>
      simp only [raiseIf, Bool.false_eq_true, if_false, ok_bind, true_and]
      by_cases hempty : shortlist = []
      · subst hempty
        simp only [if_true, ne_eq, not_true_eq_false, false_imp_iff, iff_true]
        exact ⟨_, _, rfl, ⟨.refl _, .nil, by simp, by
          simpa using (canStart_none budget).withinBudget⟩⟩
      · rw [if_neg hempty]
        simp only [ne_eq, hempty, not_false_eq_true, forall_const]
        have hnone : ∀ start ∈ ([] : List BudgetUsage), CanStart budget start := by simp
        have hfirst : ∀ start ∈ [BudgetUsage.none], CanStart budget start := by
          simpa using canStart_none budget
        cases evaluator.evaluateBatch with
        | none => exact rerankEach_accounts hempty hnone
        | some evaluateBatch =>
          dsimp only
          rw [(ensureCanStartAttempt_eq_ok (u := ())).mpr (canStart_none budget)]
          dsimp only
          cases (evaluateBatch question objective _).outcome with
          | error failure =>
            dsimp only
            by_cases hfalls : failure.cls ∈ batchFallbackErrors
            · rw [if_pos hfalls, recordAttempt_fallback, ok_bind]
              simp only [hfalls, true_and]
              exact rerankEach_accounts hempty hfirst
            · simp [hfalls, not_accounts_error]
          | ok result => exact batch_accounts

end SemanticEvidenceReranker

/-! ## `BoundedCrossSourceEvidenceReranker` -/

namespace BoundedCrossSourceEvidenceReranker

variable {casefold : Casefold} {response : HybridRetrievalResponse casefold}
  {request : CrossSourceEvidenceRerankingRequest} {evaluator : EvidenceRelevanceEvaluator}
  {items : List CrossSourceEvidenceRerankItem}

theorem ordered_pairwise (items : List CrossSourceEvidenceRerankItem) :
    (ordered items).Pairwise fun earlier later => sortKey earlier ≤ sortKey later := by
  refine (List.pairwise_mergeSort ?_ ?_ items).imp of_decide_eq_true
  · intro first second third hfirst hsecond
    exact decide_eq_true ((of_decide_eq_true hfirst).trans (of_decide_eq_true hsecond))
  · intro first second
    simpa using le_total (sortKey first) (sortKey second)

variable {δ : Type}

theorem map_ranked {f : CrossSourceEvidenceRerankItem → δ}
    (hf : ∀ item rank, f { item with finalRank := rank } = f item) :
    (ranked items).map f = (ordered items).map f := by
  have hfst : (f ∘ fun item : CrossSourceEvidenceRerankItem × ℕ =>
      { item.1 with finalRank := item.2 }) = f ∘ Prod.fst := funext fun item => hf item.1 item.2
  rw [ranked, List.map_map, hfst, ← List.map_map, List.zipIdx_map_fst]

theorem map_ranked_perm {f : CrossSourceEvidenceRerankItem → δ}
    (hf : ∀ item rank, f { item with finalRank := rank } = f item) :
    ((ranked items).map f).Perm (items.map f) := by
  rw [map_ranked hf]
  exact (List.mergeSort_perm _ _).map f

theorem map_finalRank_ranked (items : List CrossSourceEvidenceRerankItem) :
    (ranked items).map (·.finalRank) = List.range' 1 (ranked items).length := by
  have hsnd : (fun item : CrossSourceEvidenceRerankItem => item.finalRank) ∘
      (fun item : CrossSourceEvidenceRerankItem × ℕ => { item.1 with finalRank := item.2 }) =
      Prod.snd := rfl
  rw [ranked, List.map_map, hsnd, List.zipIdx_map_snd, List.length_map, List.length_zipIdx]

theorem pairwise_ranked (items : List CrossSourceEvidenceRerankItem) :
    (ranked items).Pairwise fun earlier later => sortKey earlier ≤ sortKey later := by
  have hkeys : (ranked items).map sortKey = (ordered items).map sortKey := map_ranked fun _ _ => rfl
  rw [← List.pairwise_map, hkeys, List.pairwise_map]
  exact ordered_pairwise items

section

variable (hcasefold : ∀ first second, casefold first = casefold second →
  normalizeId casefold first = normalizeId casefold second)

include hcasefold

theorem nodup_identity : (response.topMatches.map (identity casefold)).Nodup := by
  have hnodup := response.chunkIds_nodup
  rw [List.Nodup, List.pairwise_map] at hnodup ⊢
  exact hnodup.imp fun hne heq => hne (hcasefold _ _ heq)

theorem original_of_mem {item : HybridRetrievalMatch} (hmem : item ∈ response.topMatches) :
    original casefold response (identity casefold item) = some item := by
  unfold original
  cases hfind : response.topMatches.reverse.find? fun other =>
      identity casefold other = identity casefold item with
  | none => simpa using List.find?_eq_none.mp hfind item (List.mem_reverse.mpr hmem)
  | some other =>
    have hother : other ∈ response.topMatches :=
      List.mem_reverse.mp (List.mem_of_find?_eq_some hfind)
    have hsame : identity casefold other = identity casefold item := by
      simpa using List.find?_some hfind
    rw [List.inj_on_of_nodup_map (nodup_identity hcasefold) hother hmem hsame]

variable {usage : BudgetUsage} {starts : List BudgetUsage}

theorem newResult_truthful {exhausted : Bool}
    (hlength : response.topMatches.length ≤ request.maximumCandidates)
    (hlossless : items.map (·.hybridMatch) = response.topMatches)
    (hstate : ∀ item ∈ items, isEvaluated item = false → item.judgment = none)
    (hstarts : ∀ start ∈ starts, CanStart (executionBudget request.budget) start)
    (hexhausted : exhausted = true ↔ (∃ item ∈ items, item.judgment = none) ∨
      ¬WithinBudget (executionBudget request.budget) usage) :
    ∃ result, newResult casefold response request items usage exhausted = .ok result ∧
      Truthful (executionBudget request.budget) response.topMatches (·.hybridMatch) (·.judgment)
        sortKey result.items result.usage result.budgetExhausted starts := by
  have hmatches : ((ranked items).map (·.hybridMatch)).Perm response.topMatches :=
    hlossless ▸ map_ranked_perm fun _ _ => rfl
  have hcount : (ranked items).length = response.topMatches.length := by
    rw [← List.length_map, hmatches.length_eq]
  have hids : ((ranked items).map fun item => identity casefold item.hybridMatch).Perm
      (response.topMatches.map (identity casefold)) := by
    have hmap := hmatches.map (identity casefold)
    rwa [List.map_map] at hmap
  have hnone : (∃ item ∈ ranked items, item.judgment = none) ↔
      ∃ item ∈ items, item.judgment = none := by
    rw [← List.mem_map, ← List.mem_map]
    exact (map_ranked_perm fun _ _ => rfl).mem_iff
  refine ⟨_, bind_eq_ok.mpr ⟨(), ?_, rfl⟩, hmatches, pairwise_ranked items, hstarts,
    hexhausted.trans (or_congr_left hnone.symm)⟩
  unfold validateResult
  dsimp only
  simp only [raiseIf_bind_eq_ok, raiseIf_eq_ok, not_not, not_lt, hcount]
  refine ⟨trivial, hlength, trivial, hids.nodup_iff.mpr (nodup_identity hcasefold),
    List.toFinset_eq_of_perm _ _ hids, ?_, trivial, trivial, ?_, ?_, ?_, ?_⟩
  · intro item hmem
    exact original_of_mem hcasefold (hmatches.mem_iff.mp (List.mem_map.mpr ⟨item, hmem, rfl⟩))
  · rw [map_finalRank_ranked, hcount]
  · refine (List.mergeSort_of_pairwise ?_).symm
    exact (List.pairwise_map.mpr (pairwise_ranked items)).imp decide_eq_true
  · rintro ⟨hover, hfalse⟩
    rw [hexhausted.mpr (.inr fun hwithin => ?_)] at hfalse
    · cases hfalse
    · rcases hover with hover | hover | hover
      · exact absurd hwithin.attempts hover.not_ge
      · exact absurd hwithin.tokens hover.not_ge
      · exact absurd hwithin.seconds hover.not_ge
  · rintro ⟨hunevaluated, hfalse⟩
    have hall : (ranked items).countP isEvaluated ≠ (ranked items).length := by
      intro heq
      rw [heq, hcount, Nat.sub_self] at hunevaluated
      exact hunevaluated rfl
    obtain ⟨item, hmem, hitem⟩ : ∃ item ∈ ranked items, isEvaluated item = false := by
      by_contra hnot
      push Not at hnot
      exact hall (List.countP_eq_length.mpr fun item hmem => by simpa using hnot item hmem)
    have hunjudged : item.judgment = none := by
      have hpairs : ((ranked items).map fun item => (isEvaluated item, item.judgment)).Perm
          (items.map fun item => (isEvaluated item, item.judgment)) := map_ranked_perm fun _ _ => rfl
      obtain ⟨other, hother, hsame⟩ := List.mem_map.mp
        (hpairs.mem_iff.mp (List.mem_map.mpr ⟨item, hmem, rfl⟩))
      obtain ⟨hsameState, hsameJudgment⟩ := Prod.mk.inj hsame
      rw [← hsameJudgment]
      exact hstate other hother (hsameState.trans hitem)
    rw [hexhausted.mpr (.inl (hnone.mp ⟨item, hmem, hunjudged⟩))] at hfalse
    cases hfalse

def Identified (report : CallReport) : Prop :=
  isBlank report.responseId = false ∧ report.requestId.any isBlank = false

def Accepted (answer : EvidenceRelevanceEvaluationResult) : Prop :=
  Identified answer.toCallReport ∧ Reported answer.toCallReport

omit hcasefold in
theorem evaluated_eq_ok {candidate : HybridRetrievalMatch}
    {result : EvidenceRelevanceEvaluationResult} {item : CrossSourceEvidenceRerankItem} :
    evaluated candidate result = .ok item ↔ Identified result.toCallReport ∧
      item = ⟨candidate, .evaluated, some result.judgment, some result.responseId,
        result.requestId, 1⟩ := by
  simp only [evaluated, raiseIf_bind_eq_ok, pure_eq_ok, Except.ok.injEq, Identified, and_assoc,
    Bool.not_eq_true, @eq_comm _ item]

omit hcasefold in
theorem evaluated_returns {candidate : HybridRetrievalMatch}
    {result : EvidenceRelevanceEvaluationResult} :
    (∃ item, evaluated candidate result = .ok item) ↔ Identified result.toCallReport := by
  simp only [evaluated_eq_ok, exists_and_left, exists_eq, and_true]

omit hcasefold in
theorem keeps : Keeps CrossSourceEvidenceRerankItem.hybridMatch CrossSourceEvidenceRerankItem.judgment
    evaluated unevaluated where
  newItem h := by
    obtain ⟨-, rfl⟩ := evaluated_eq_ok.mp h
    exact ⟨rfl, Option.some_ne_none _⟩
  unevaluated _ := ⟨rfl, rfl⟩

omit hcasefold in
theorem isEvaluated_of_forall₂ {finished : List HybridRetrievalMatch}
    (h : List.Forall₂ (fun candidate item => ∃ answer, evaluated candidate answer = .ok item)
      finished items) : ∀ item ∈ items, isEvaluated item = true := by
  induction h with
  | nil => simp
  | cons hfirst _ ih =>
    obtain ⟨answer, hfirst⟩ := hfirst
    obtain ⟨-, rfl⟩ := evaluated_eq_ok.mp hfirst
    exact List.forall_mem_cons.mpr ⟨rfl, ih⟩

def Accounts (response : HybridRetrievalResponse casefold)
    (request : CrossSourceEvidenceRerankingRequest)
    (outcome : Except Raised (CrossSourceEvidenceRerankingResult × List BudgetUsage)) : Prop :=
  ∃ result starts, outcome = .ok (result, starts) ∧
    Truthful (executionBudget request.budget) response.topMatches (·.hybridMatch) (·.judgment)
      sortKey result.items result.usage result.budgetExhausted starts

abbrev eachAnswers (response : HybridRetrievalResponse casefold)
    (request : CrossSourceEvidenceRerankingRequest) (evaluator : EvidenceRelevanceEvaluator) :
    List EvidenceRelevanceEvaluationResult :=
  answers evaluator request.question request.objective (fun item : HybridRetrievalMatch => item.text)
    0 response.topMatches

theorem rerankEach_accounts (hlength : response.topMatches.length ≤ request.maximumCandidates)
    (hnonempty : response.topMatches ≠ [])
    (hstarts : ∀ start ∈ starts, CanStart (executionBudget request.budget) start) :
    Accounts response request (rerankEach casefold response request evaluator usage starts) ↔
      Evaluable (executionBudget request.budget) Accepted usage
        (eachAnswers response request evaluator) := by
  have hafter (usage : BudgetUsage) (hstart : CanStart (executionBudget request.budget) usage) :
      ensureWithinBudget (executionBudget request.budget) usage = .ok () :=
    ensureWithinBudget_eq_ok.mpr hstart.withinBudget
  have hreturns : (∃ final, evaluateEach (executionBudget request.budget) evaluator request.question
      request.objective (·.text) evaluated unevaluated
      (ensureWithinBudget (executionBudget request.budget)) 0 (.first _ usage starts)
      response.topMatches = .ok final) ↔
      Evaluable (executionBudget request.budget) Accepted usage
        (eachAnswers response request evaluator) :=
    evaluateEach_returns (fun candidate answer => and_congr_left fun _ => evaluated_returns) hafter
  rw [← hreturns]
  constructor
  · rintro ⟨result, starts', h, -⟩
    obtain ⟨final, hfinal, -⟩ := bind_eq_ok.mp h
    exact ⟨final, hfinal⟩
  · rintro ⟨final, hfinal⟩
    obtain ⟨finished, rest, made, hsplit, hdone⟩ := evaluateEach_eq_ok hafter rfl rfl hfinal
    have hlossless : (final.evaluated ++ final.remaining).map (·.hybridMatch) =
        response.topMatches := (hdone.candidates keeps).trans hsplit.symm
    have hstate : ∀ item ∈ final.evaluated ++ final.remaining,
        isEvaluated item = false → item.judgment = none := by
      rw [hdone.items_eq]
      intro item hmem hstate
      rcases List.mem_append.mp hmem with hmade | hrest
      · rw [isEvaluated_of_forall₂ hdone.items item hmade] at hstate
        cases hstate
      · obtain ⟨candidate, -, rfl⟩ := List.mem_map.mp hrest
        rfl
    have hexhausted : final.budgetExhausted = true ↔
        (∃ item ∈ final.evaluated ++ final.remaining, item.judgment = none) ∨
          ¬WithinBudget (executionBudget request.budget) final.usage := by
      rw [hdone.unjudged keeps, hdone.exhausted, Ne, Ne, Ne, ensureWithinBudget_eq_ok]
      by_cases hrest : rest = []
      · have hfinished : finished ≠ [] := by
          rintro rfl
          rw [hrest] at hsplit
          exact hnonempty hsplit
        simp [hrest, hfinished]
      · simp [hrest]
    obtain ⟨result, hresult, htruthful⟩ := newResult_truthful hcasefold hlength hlossless hstate
      (fun start hmem => (hdone.starts start hmem).elim (hstarts start) id) hexhausted
    exact ⟨result, final.starts, bind_eq_ok.mpr ⟨final, hfinal,
      bind_eq_ok.mpr ⟨result, hresult, rfl⟩⟩, htruthful⟩

/-- There are no more candidates than requested, and the answers that the run comes to are
accepted; a batched call answers, falls back as it may or finds no budget. -/
def Fits (response : HybridRetrievalResponse casefold)
    (request : CrossSourceEvidenceRerankingRequest) (evaluator : EvidenceRelevanceEvaluator) :
    Prop :=
  response.topMatches.length ≤ request.maximumCandidates ∧ (response.topMatches ≠ [] →
    match evaluator.evaluateBatch with
    | none => Evaluable (executionBudget request.budget) Accepted .none
        (eachAnswers response request evaluator)
    | some evaluateBatch =>
      let call := evaluateBatch request.question request.objective
        (((itemIds response.topMatches.length).zip response.topMatches).map fun item =>
          (item.1, item.2.text))
      match checkedBatch (itemIds response.topMatches.length) call.outcome with
      | .error failure => failure.cls ∈ executionBudgetErrors ∨
          failure.cls ∈ batchFallbackErrors ∧
            Evaluable (executionBudget request.budget) Accepted (fallbackUsage call.seconds)
              (eachAnswers response request evaluator)
      | .ok result => Identified result.toCallReport ∧ Reported result.toCallReport)

omit hcasefold in
theorem not_accounts_error {failure : Raised} : ¬Accounts response request (.error failure) := by
  rintro ⟨result, starts, h, -⟩
  cases h

theorem unevaluated_accounts (hlength : response.topMatches.length ≤ request.maximumCandidates)
    (hnonempty : response.topMatches ≠ [])
    (hstarts : ∀ start ∈ starts, CanStart (executionBudget request.budget) start) :
    Accounts response request (do
      let result ← newResult casefold response request (response.topMatches.map unevaluated) .none
        true
      return (result, starts)) := by
  have hcandidate : CrossSourceEvidenceRerankItem.hybridMatch ∘ unevaluated = id := rfl
  obtain ⟨first, later, hcons⟩ := List.exists_cons_of_ne_nil hnonempty
  have hlossless : (response.topMatches.map unevaluated).map (·.hybridMatch) =
      response.topMatches := by rw [List.map_map, hcandidate, List.map_id]
  have hstate : ∀ item ∈ response.topMatches.map unevaluated,
      isEvaluated item = false → item.judgment = none := by
    intro item hmem _
    obtain ⟨candidate, -, rfl⟩ := List.mem_map.mp hmem
    rfl
  have hexhausted : true = true ↔
      (∃ item ∈ response.topMatches.map unevaluated, item.judgment = none) ∨
        ¬WithinBudget (executionBudget request.budget) .none :=
    iff_of_true rfl (.inl ⟨unevaluated first, by simp [hcons], rfl⟩)
  obtain ⟨result, hresult, htruthful⟩ := newResult_truthful hcasefold hlength hlossless hstate hstarts
    hexhausted
  exact ⟨result, starts, bind_eq_ok.mpr ⟨result, hresult, rfl⟩, htruthful⟩

theorem batch_accounts {result : EvidenceRelevanceBatchEvaluationResult}
    (hlength : response.topMatches.length ≤ request.maximumCandidates)
    (hnonempty : response.topMatches ≠ [])
    (hids : (result.judgments.map Prod.fst).toFinset =
      (itemIds response.topMatches.length).toFinset) :
    Accounts response request (do
        let usage ← recordReport .none result.toCallReport
        let items ← batchItems result evaluated
          ((itemIds response.topMatches.length).zip response.topMatches)
        let reranked ← newResult casefold response request items usage
          (exhausts (ensureWithinBudget (executionBudget request.budget) usage))
        return (reranked, [.none])) ↔
      Identified result.toCallReport ∧ Reported result.toCallReport := by
  have hreturns := @batchItems_returns _ _ evaluated result (Identified result.toCallReport)
    (fun candidate judgment => evaluated_returns)
    ((itemIds response.topMatches.length).zip response.topMatches)
  constructor
  · rintro ⟨reranked, starts, h, -⟩
    obtain ⟨usage, hrecord, h⟩ := bind_eq_ok.mp h
    obtain ⟨items, hitems, -⟩ := bind_eq_ok.mp h
    obtain ⟨pair, hpair⟩ : ∃ pair, pair ∈
        (itemIds response.topMatches.length).zip response.topMatches := by
      refine List.exists_mem_of_ne_nil _ fun hnil => hnonempty ?_
      rw [← map_snd_zip_itemIds response.topMatches, hnil]
      rfl
    exact ⟨(hreturns.mp ⟨items, hitems⟩ pair hpair).2, (recordReport_eq_ok.mp hrecord).1⟩
  · rintro ⟨hidentified, hreported⟩
    obtain ⟨items, hitems⟩ := hreturns.mpr fun pair hpair => by
      refine ⟨?_, hidentified⟩
      have hid : pair.1 ∈ (itemIds response.topMatches.length).toFinset := by
        rw [List.mem_toFinset, ← map_fst_zip_itemIds response.topMatches]
        exact List.mem_map.mpr ⟨pair, hpair, rfl⟩
      rw [← hids, List.mem_toFinset] at hid
      obtain ⟨answer, hanswer, hname⟩ := List.mem_map.mp hid
      exact List.lookup_isSome_iff.mpr ⟨answer, hanswer, beq_iff_eq.mpr hname.symm⟩
    have hrecord : recordReport .none result.toCallReport =
        .ok (BudgetUsage.none.after result.toCallReport) := recordReport_eq_ok.mpr ⟨hreported, rfl⟩
    have hmade := batchItems_eq_ok hitems
    obtain ⟨hcandidates, hjudged⟩ := keeps.of_forall₂ hmade
    have hstate : ∀ item ∈ items, isEvaluated item = false → item.judgment = none := by
      intro item hmem hstate
      rw [isEvaluated_of_forall₂ hmade item hmem] at hstate
      cases hstate
    have hfirst : ∀ start ∈ [BudgetUsage.none],
        CanStart (executionBudget request.budget) start := by
      simpa using canStart_none (executionBudget request.budget)
    have hexhausted : exhausts (ensureWithinBudget (executionBudget request.budget)
        (BudgetUsage.none.after result.toCallReport)) = true ↔
        (∃ item ∈ items, item.judgment = none) ∨
          ¬WithinBudget (executionBudget request.budget)
            (BudgetUsage.none.after result.toCallReport) := by
      rw [exhausts_ensureWithinBudget]
      exact ⟨.inr, fun h => h.elim (fun ⟨item, hmem, hnone⟩ => absurd hnone (hjudged item hmem)) id⟩
    obtain ⟨reranked, hreranked, htruthful⟩ := newResult_truthful hcasefold hlength
      (hcandidates.trans (map_snd_zip_itemIds response.topMatches)) hstate hfirst hexhausted
    exact ⟨reranked, _, bind_eq_ok.mpr ⟨_, hrecord, bind_eq_ok.mpr ⟨items, hitems,
      bind_eq_ok.mpr ⟨reranked, hreranked, rfl⟩⟩⟩, htruthful⟩

theorem rerank_accounts_iff (response : HybridRetrievalResponse casefold)
    (request : CrossSourceEvidenceRerankingRequest) (evaluator : EvidenceRelevanceEvaluator) :
    Accounts response request (rerank casefold response request evaluator) ↔
      Fits response request evaluator := by
  unfold rerank Fits
  dsimp only
  by_cases hlength : request.maximumCandidates < response.topMatches.length
  · simp [raiseIf, hlength, not_accounts_error]
  · rw [raiseIf, if_neg hlength, ok_bind]
    simp only [not_lt.mp hlength, true_and]
    by_cases hempty : response.topMatches = []
    · rw [if_pos hempty]
      simp only [hempty, ne_eq, not_true_eq_false, false_imp_iff, iff_true]
      have hexhausted : false = true ↔
          (∃ item ∈ ([] : List CrossSourceEvidenceRerankItem), item.judgment = none) ∨
            ¬WithinBudget (executionBudget request.budget) .none := by
        simpa using (canStart_none (executionBudget request.budget)).withinBudget
      have hlossless : ([] : List CrossSourceEvidenceRerankItem).map (·.hybridMatch) =
          response.topMatches := hempty.symm
      have hstate : ∀ item ∈ ([] : List CrossSourceEvidenceRerankItem),
          isEvaluated item = false → item.judgment = none := by simp
      have hnone : ∀ start ∈ ([] : List BudgetUsage),
          CanStart (executionBudget request.budget) start := by simp
      obtain ⟨result, hresult, htruthful⟩ := newResult_truthful hcasefold (not_lt.mp hlength)
        hlossless hstate hnone hexhausted
      exact ⟨result, [], bind_eq_ok.mpr ⟨result, hresult, rfl⟩, htruthful⟩
    · rw [if_neg hempty]
      simp only [ne_eq, hempty, not_false_eq_true, forall_const]
      have hlength := not_lt.mp hlength
      have hnone : ∀ start ∈ ([] : List BudgetUsage),
          CanStart (executionBudget request.budget) start := by simp
      have hfirst : ∀ start ∈ [BudgetUsage.none],
          CanStart (executionBudget request.budget) start := by
        simpa using canStart_none (executionBudget request.budget)
      cases evaluator.evaluateBatch with
      | none => exact rerankEach_accounts hcasefold hlength hempty hnone
      | some evaluateBatch =>
        dsimp only
        rw [(ensureCanStartAttempt_eq_ok (u := ())).mpr
          (canStart_none (executionBudget request.budget))]
        dsimp only
        cases hchecked : checkedBatch (itemIds response.topMatches.length)
            (evaluateBatch request.question request.objective _).outcome with
        | error failure =>
          dsimp only
          by_cases hbudget : failure.cls ∈ executionBudgetErrors
          · rw [if_pos hbudget]
            simp only [hbudget, true_or, iff_true]
            exact unevaluated_accounts hcasefold hlength hempty hfirst
          · rw [if_neg hbudget]
            by_cases hfalls : failure.cls ∈ batchFallbackErrors
            · rw [if_pos hfalls, recordAttempt_fallback, ok_bind]
              simp only [hbudget, hfalls, true_and, false_or]
              exact rerankEach_accounts hcasefold hlength hempty hfirst
            · simp [hbudget, hfalls, not_accounts_error]
        | ok result =>
          obtain ⟨answered, -, hchecked⟩ := bind_eq_ok.mp hchecked
          obtain ⟨hids, hchecked⟩ := raiseIf_bind_eq_ok.mp hchecked
          obtain rfl := Except.ok.inj hchecked
          exact batch_accounts hcasefold hlength hempty (not_not.mp hids)

end

end BoundedCrossSourceEvidenceReranker

/-- Each reranker keeps every candidate and accounts for it truthfully exactly where the answers
that it comes to fit it: the bounded one needs them to be identified, the semantic one needs a
batch to answer for every candidate and the last single answer to pass no ceiling. -/
theorem rerank_accounts (casefold : Casefold)
    (hcasefold : ∀ first second, casefold first = casefold second →
      normalizeId casefold first = normalizeId casefold second) :
    (∀ (response : HybridRetrievalResponse casefold)
      (request : CrossSourceEvidenceRerankingRequest) (evaluator : EvidenceRelevanceEvaluator),
      BoundedCrossSourceEvidenceReranker.Accounts response request
          (BoundedCrossSourceEvidenceReranker.rerank casefold response request evaluator) ↔
        BoundedCrossSourceEvidenceReranker.Fits response request evaluator) ∧
    ∀ (budget : ExecutionBudget) (evaluator : EvidenceRelevanceEvaluator)
      (question objective : String) (shortlist : List SemanticEvidenceShortlistItem),
      SemanticEvidenceReranker.Accounts budget shortlist
          (SemanticEvidenceReranker.rerank budget evaluator question objective shortlist) ↔
        SemanticEvidenceReranker.Fits budget evaluator question objective shortlist :=
  ⟨BoundedCrossSourceEvidenceReranker.rerank_accounts_iff hcasefold,
    SemanticEvidenceReranker.rerank_accounts_iff⟩

def costlyEvaluator : EvidenceRelevanceEvaluator :=
  ⟨fun _ _ _ _ => ⟨⟨"response", none, some 2, 0⟩, ⟨.irrelevant, 0⟩⟩, none⟩

def sampleResponse : HybridRetrievalResponse id := ⟨[⟨1, "chunk-1", "evidence"⟩], by simp, rfl⟩

theorem sampleAttempts_range : 1 ≤ 1 ∧ 1 ≤ 100 := by decide

def sampleRequest : CrossSourceEvidenceRerankingRequest :=
  ⟨"question", "objective", 1, ⟨1, 1, 1, sampleAttempts_range, by decide, by norm_num⟩, by decide +kernel,
    by decide +kernel, by decide⟩

theorem rerank_accounts_sample :
    BoundedCrossSourceEvidenceReranker.Accounts sampleResponse sampleRequest
      (BoundedCrossSourceEvidenceReranker.rerank id sampleResponse sampleRequest costlyEvaluator) := by
  have hid : ∀ first second, id first = id second → normalizeId id first = normalizeId id second :=
    fun _ _ h => congrArg (normalizeId id) h
  refine ((rerank_accounts id hid).1 sampleResponse sampleRequest costlyEvaluator).mpr
    ⟨le_rfl, fun _ => ⟨fun _ => ⟨⟨?_, rfl⟩, ?_⟩, trivial⟩⟩
  · have hblank : isBlank "response" = false := by decide +kernel
    exact hblank
  · exact ⟨by decide, le_rfl⟩

def silentEvaluator : EvidenceRelevanceEvaluator :=
  ⟨fun _ _ _ _ => ⟨⟨"response", none, none, 0⟩, ⟨.irrelevant, 0⟩⟩,
    some fun _ _ _ => ⟨0, .ok ⟨⟨"response", none, none, 0⟩, []⟩⟩⟩

def smallBudget : ExecutionBudget := ⟨1, 1, 1, le_rfl, le_rfl, one_pos⟩

def sampleShortlist : List SemanticEvidenceShortlistItem := [⟨⟨"evidence", 0, 0, 8⟩, 0⟩]

/-- A batch that misses a candidate raises `KeyError`. -/
theorem silentEvaluator_loses_candidates :
    ¬SemanticEvidenceReranker.Accounts smallBudget sampleShortlist
      (SemanticEvidenceReranker.rerank smallBudget silentEvaluator "question" "objective"
        sampleShortlist) := by
  rw [SemanticEvidenceReranker.rerank_accounts_iff]
  rintro ⟨-, -, h⟩
  obtain ⟨-, h⟩ := h (List.cons_ne_nil _ _)
  simp [sampleShortlist, itemIds] at h

end AgenticLab.EvidenceReranking
