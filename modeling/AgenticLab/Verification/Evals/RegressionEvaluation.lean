import AgenticLab.Model.Evals.RegressionEvaluation

/-! # What a passed regression comparison guarantees -/

namespace AgenticLab.RegressionEvaluation

open List

variable {casefold : Casefold}

namespace EvaluationCaseResult

theorem checks (result : EvaluationCaseResult casefold) :
    (result.dimensionScores.map fun score => normalizeId casefold score.dimension.value).Nodup ∧
      result.validateStatus = .ok () := by
  obtain ⟨-, -, h⟩ := bind_eq_ok.mp result.valid
  obtain ⟨-, -, h⟩ := bind_eq_ok.mp h
  obtain ⟨_, hdimensions, h⟩ := bind_eq_ok.mp h
  obtain ⟨-, -, h⟩ := bind_eq_ok.mp h
  obtain ⟨-, -, h⟩ := bind_eq_ok.mp h
  obtain ⟨⟨⟩, hstatus, -⟩ := bind_eq_ok.mp h
  refine ⟨?_, hstatus⟩
  have hnodup := not_not.mp (raiseIf_eq_ok.mp hdimensions)
  rwa [List.map_map] at hnodup

theorem dimensions_nodup (result : EvaluationCaseResult casefold) :
    (result.dimensionScores.map (·.dimension)).Nodup := by
  refine List.Nodup.of_map (normalizeId casefold ∘ EvaluationDimension.value) ?_
  rw [List.map_map]
  exact result.checks.1

theorem overallScore_of_passed (result : EvaluationCaseResult casefold)
    (h : result.status = .passed) : result.overallScore ≠ none := by
  obtain ⟨-, -, hstatus⟩ := bind_eq_ok.mp result.checks.2
  intro hnone
  simp [h, hnone, raiseIf] at hstatus

theorem scoreOf_eq_some (result : EvaluationCaseResult casefold)
    {dimension : EvaluationDimension} {value : ℚ} :
    RegressionEvaluationRunner.scoreOf result.toCaseResultFields dimension = some value ↔
      ∃ score ∈ result.dimensionScores, score.dimension = dimension ∧ score.score = value := by
  rw [RegressionEvaluationRunner.scoreOf, Option.map_eq_some_iff]
  constructor
  · rintro ⟨score, hfind, hvalue⟩
    have hmem := List.mem_of_find?_eq_some hfind
    exact ⟨score, List.mem_reverse.mp hmem, by simpa using List.find?_some hfind, hvalue⟩
  · rintro ⟨score, hmem, hdimension, hvalue⟩
    refine ⟨score, ?_, hvalue⟩
    cases hfind : result.dimensionScores.reverse.find? fun other => other.dimension = dimension with
    | none =>
      rw [List.find?_eq_none] at hfind
      exact absurd (decide_eq_true hdimension) (hfind score (List.mem_reverse.mpr hmem))
    | some other =>
      have hother := List.mem_reverse.mp (List.mem_of_find?_eq_some hfind)
      have hsame : other.dimension = dimension := by simpa using List.find?_some hfind
      rw [List.inj_on_of_nodup_map result.dimensions_nodup hother hmem
        (hsame.trans hdimension.symm)]

end EvaluationCaseResult

namespace RegressionEvaluationRunner

variable (runner : RegressionEvaluationRunner) (baseline current : CaseResultFields)

def contents : List ChangeContent :=
  (statusChange baseline current).toList ++
    ((runner.overallScoreChange baseline current).toList ++
      ((sharedDimensions baseline current).filterMap (runner.dimensionChange baseline current) ++
        (((codesWithout current baseline).map newViolationChange ++
            (codesWithout baseline current).map resolvedViolationChange) ++
          ((runner.tokenUsageChange baseline current).toList ++
            (runner.toolCallChange baseline current).toList))))

variable {runner baseline current} {changes appended : List RegressionChange}

theorem appendChange?_contents
    {content : Option ChangeContent} (h : runner.appendChange? changes content = .ok appended) :
    appended.map (·.toChangeContent) = changes.map (·.toChangeContent) ++ content.toList := by
  cases content with
  | none =>
    obtain rfl := Except.ok.inj h
    simp
  | some content =>
    obtain ⟨changeId, -, happend⟩ := bind_eq_ok.mp h
    obtain rfl := Except.ok.inj happend
    simp

theorem forEach_contents {α : Type}
    {body : α → List RegressionChange → Except Raised (List RegressionChange)}
    {added : α → List ChangeContent}
    (hbody : ∀ value changes appended, body value changes = .ok appended →
      appended.map (·.toChangeContent) = changes.map (·.toChangeContent) ++ added value)
    {values : List α}
    (h : forEach body values changes = .ok appended) :
    appended.map (·.toChangeContent) =
      changes.map (·.toChangeContent) ++ values.flatMap added := by
  induction values generalizing changes with
  | nil =>
    obtain rfl := Except.ok.inj h
    simp
  | cons value values ih =>
    obtain ⟨next, hnext, hrest⟩ := bind_eq_ok.mp h
    rw [ih hrest, hbody value changes next hnext, List.flatMap_cons, List.append_assoc]

theorem compareDimensions_contents
    (h : runner.compareDimensions baseline current changes = .ok appended) :
    appended.map (·.toChangeContent) = changes.map (·.toChangeContent) ++
      (sharedDimensions baseline current).filterMap (runner.dimensionChange baseline current) := by
  rw [List.filterMap_eq_flatMap_toList]
  have happend (dimension : EvaluationDimension) (changes appended : List RegressionChange)
      (h : runner.appendChange? changes (runner.dimensionChange baseline current dimension) =
        .ok appended) :
      appended.map (·.toChangeContent) = changes.map (·.toChangeContent) ++
        (runner.dimensionChange baseline current dimension).toList := appendChange?_contents h
  exact forEach_contents happend h

theorem compareBlockingViolations_contents
    (h : runner.compareBlockingViolations baseline current changes = .ok appended) :
    appended.map (·.toChangeContent) = changes.map (·.toChangeContent) ++
      ((codesWithout current baseline).map newViolationChange ++
        (codesWithout baseline current).map resolvedViolationChange) := by
  obtain ⟨next, hnew, hresolved⟩ := bind_eq_ok.mp h
  have happend (content : String → ChangeContent) (code : String)
      (changes appended : List RegressionChange)
      (h : runner.appendChange changes (content code) = .ok appended) :
      appended.map (·.toChangeContent) = changes.map (·.toChangeContent) ++ [content code] :=
    @appendChange?_contents runner changes appended (some (content code)) h
  rw [forEach_contents (happend resolvedViolationChange) hresolved,
    forEach_contents (happend newViolationChange) hnew, List.append_assoc]
  simp only [List.map_eq_flatMap]

theorem collectChanges_contents {changes : List RegressionChange}
    (h : runner.collectChanges baseline current = .ok changes) :
    changes.map (·.toChangeContent) = runner.contents baseline current := by
  obtain ⟨first, hstatus, h⟩ := bind_eq_ok.mp h
  obtain ⟨second, hoverall, h⟩ := bind_eq_ok.mp h
  obtain ⟨third, hdimensions, h⟩ := bind_eq_ok.mp h
  obtain ⟨fourth, hviolations, h⟩ := bind_eq_ok.mp h
  obtain ⟨fifth, htokens, htools⟩ := bind_eq_ok.mp h
  rw [appendChange?_contents htools, appendChange?_contents htokens,
    compareBlockingViolations_contents hviolations, compareDimensions_contents hdimensions,
    appendChange?_contents hoverall, appendChange?_contents hstatus]
  simp [contents]

theorem compare_contents {result : RegressionEvaluationResult}
    (h : runner.compare baseline current = .ok result) :
    result.changes.map (·.toChangeContent) = runner.contents baseline current ∧
      (result.passed = true ↔
        ∀ content ∈ runner.contents baseline current, content.regression = false) := by
  obtain ⟨-, -, h⟩ := bind_eq_ok.mp h
  obtain ⟨changes, hcollect, h⟩ := bind_eq_ok.mp h
  obtain ⟨comparisonId, -, h⟩ := bind_eq_ok.mp h
  obtain rfl := Except.ok.inj h
  have hcontents := collectChanges_contents hcollect
  refine ⟨hcontents, ?_⟩
  simp [RegressionEvaluationResult.passed, ← hcontents]

/-! ## Passing -/

/-- No comparison finds a regression. The scores are compared where both results have them. -/
structure NoRegression (runner : RegressionEvaluationRunner) (baseline current : CaseResultFields) :
    Prop where
  status : baseline.status = .passed → current.status = .passed
  overallScore : ∀ baselineScore ∈ baseline.overallScore, ∀ currentScore ∈ current.overallScore,
    baselineScore - currentScore ≤ runner.overallScoreTolerance
  dimensions : ∀ baselineScore ∈ baseline.dimensionScores, ∀ currentScore ∈ current.dimensionScores,
    baselineScore.dimension = currentScore.dimension →
      baselineScore.score - currentScore.score ≤ runner.dimensionScoreTolerance
  violations : ∀ violation ∈ current.blockingViolations, ∃ known ∈ baseline.blockingViolations,
    known.code = violation.code

theorem statusChange_regression :
    (∀ content ∈ statusChange baseline current, content.regression = false) ↔
      (baseline.status = .passed → current.status = .passed) := by
  unfold statusChange
  split
  case isTrue h => simp [h]
  case isFalse h =>
    split
    case isTrue himproved => simp [himproved]
    case isFalse => simpa using h

theorem overallScoreChange_regression :
    (∀ content ∈ runner.overallScoreChange baseline current, content.regression = false) ↔
      ∀ baselineScore ∈ baseline.overallScore, ∀ currentScore ∈ current.overallScore,
        baselineScore - currentScore ≤ runner.overallScoreTolerance := by
  unfold overallScoreChange
  split
  next baselineScore currentScore hbaseline hcurrent =>
    simp only [hbaseline, hcurrent, Option.mem_some, forall_eq']
    split
    case isTrue hlower =>
      simp only [Option.mem_some, forall_eq', Bool.true_eq_false, false_iff, not_le]
      linarith
    case isFalse hlower =>
      have hbound : baselineScore - currentScore ≤ runner.overallScoreTolerance := by linarith
      split <;> simp [hbound]
  next hmissing =>
    simp only [Option.mem_def, reduceCtorEq, false_implies, implies_true, true_iff]
    intro baselineScore hbaseline currentScore hcurrent
    exact (hmissing baselineScore currentScore hbaseline hcurrent).elim

variable {dimension : EvaluationDimension}

theorem dimensionChange_regression :
    (∀ content ∈ runner.dimensionChange baseline current dimension, content.regression = false) ↔
      ∀ baselineScore ∈ scoreOf baseline dimension, ∀ currentScore ∈ scoreOf current dimension,
        baselineScore - currentScore ≤ runner.dimensionScoreTolerance := by
  unfold dimensionChange
  split
  next baselineScore currentScore hbaseline hcurrent =>
    simp only [hbaseline, hcurrent, Option.mem_some, forall_eq']
    split
    case isTrue hlower =>
      simp only [Option.mem_some, forall_eq', Bool.true_eq_false, false_iff, not_le]
      linarith
    case isFalse hlower =>
      have hbound : baselineScore - currentScore ≤ runner.dimensionScoreTolerance := by linarith
      split <;> simp [hbound]
  next hmissing =>
    simp only [Option.mem_def, reduceCtorEq, false_implies, implies_true, true_iff]
    intro baselineScore hbaseline currentScore hcurrent
    exact (hmissing baselineScore currentScore hbaseline hcurrent).elim

theorem countMetricChange_regression {baselineValue currentValue : ℕ} {tolerance : ℚ}
    {increaseType decreaseType : RegressionChangeType} {label : String} {content : ChangeContent}
    (h : countMetricChange baselineValue currentValue tolerance increaseType decreaseType label =
      some content) : content.regression = false := by
  unfold countMetricChange at h
  dsimp only at h
  split_ifs at h <;> cases h <;> rfl

theorem mem_sharedDimensions :
    dimension ∈ sharedDimensions baseline current ↔
      (∃ score ∈ baseline.dimensionScores, score.dimension = dimension) ∧
        ∃ score ∈ current.dimensionScores, score.dimension = dimension := by
  simp [sharedDimensions]

theorem mem_codesWithout {left right : CaseResultFields} {code : String} :
    code ∈ codesWithout left right ↔
      (∃ violation ∈ left.blockingViolations, violation.code = code) ∧
        ∀ violation ∈ right.blockingViolations, violation.code ≠ code := by
  simp [codesWithout]

theorem noRegression_iff {baseline current : EvaluationCaseResult casefold} :
    (∀ content ∈ runner.contents baseline.toCaseResultFields current.toCaseResultFields,
        content.regression = false) ↔
      NoRegression runner baseline.toCaseResultFields current.toCaseResultFields := by
  simp only [contents, List.forall_mem_append, Option.mem_toList, List.forall_mem_map,
    List.mem_filterMap]
  constructor
  · rintro ⟨hstatus, hoverall, hdimensions, ⟨hnew, -⟩, -⟩
    refine ⟨statusChange_regression.mp hstatus, overallScoreChange_regression.mp hoverall, ?_, ?_⟩
    · intro baselineScore hbaseline currentScore hcurrent hsame
      have hshared : baselineScore.dimension ∈ sharedDimensions baseline.toCaseResultFields
          current.toCaseResultFields :=
        mem_sharedDimensions.mpr ⟨⟨_, hbaseline, rfl⟩, ⟨_, hcurrent, hsame.symm⟩⟩
      refine dimensionChange_regression.mp (fun content hcontent =>
        hdimensions content ⟨_, hshared, hcontent⟩) _ ?_ _ ?_
      · exact baseline.scoreOf_eq_some.mpr ⟨_, hbaseline, rfl, rfl⟩
      · exact current.scoreOf_eq_some.mpr ⟨_, hcurrent, hsame.symm, rfl⟩
    · intro violation hviolation
      by_contra hunknown
      push Not at hunknown
      exact absurd (hnew violation.code (mem_codesWithout.mpr
        ⟨⟨violation, hviolation, rfl⟩, hunknown⟩)) (by simp [newViolationChange])
  · rintro ⟨hstatus, hoverall, hdimensions, hviolations⟩
    refine ⟨statusChange_regression.mpr hstatus, overallScoreChange_regression.mpr hoverall, ?_,
      ⟨?_, fun _ _ => rfl⟩, fun _ => countMetricChange_regression,
      fun _ => countMetricChange_regression⟩
    · rintro content ⟨dimension, -, hcontent⟩
      refine dimensionChange_regression.mpr ?_ content hcontent
      intro baselineScore hbaseline currentScore hcurrent
      obtain ⟨score, hscore, hdimension, rfl⟩ := baseline.scoreOf_eq_some.mp hbaseline
      obtain ⟨other, hother, hsame, rfl⟩ := current.scoreOf_eq_some.mp hcurrent
      exact hdimensions score hscore other hother (hdimension.trans hsame.symm)
    · intro code hcode
      obtain ⟨⟨violation, hviolation, rfl⟩, hunknown⟩ := mem_codesWithout.mp hcode
      obtain ⟨known, hknown, hsame⟩ := hviolations violation hviolation
      exact absurd hsame (hunknown known hknown)

theorem contents_self : runner.contents baseline baseline = [] := by
  have hstatus : statusChange baseline baseline = none := by
    unfold statusChange
    rw [if_neg (fun h => h.2 h.1), if_neg (fun h => h.1 h.2)]
  have hoverall : runner.overallScoreChange baseline baseline = none := by
    have hnonneg := runner.overallScoreTolerance_nonneg
    unfold overallScoreChange
    split
    next baselineScore currentScore hbaseline hcurrent =>
      obtain rfl := Option.some.inj (hbaseline.symm.trans hcurrent)
      rw [sub_self, if_neg (by linarith), if_neg (by linarith)]
    next => rfl
  have hdimension (dimension : EvaluationDimension) :
      runner.dimensionChange baseline baseline dimension = none := by
    have hnonneg := runner.dimensionScoreTolerance_nonneg
    unfold dimensionChange
    split
    next baselineScore currentScore hbaseline hcurrent =>
      obtain rfl := Option.some.inj (hbaseline.symm.trans hcurrent)
      rw [sub_self, if_neg (by linarith), if_neg (by linarith)]
    next => rfl
  have hcodes : codesWithout baseline baseline = [] := by
    rw [List.eq_nil_iff_forall_not_mem]
    intro code hcode
    obtain ⟨⟨violation, hviolation, hsame⟩, hunknown⟩ := mem_codesWithout.mp hcode
    exact hunknown violation hviolation hsame
  have hcount {value : ℕ} {tolerance : ℚ} {increaseType decreaseType : RegressionChangeType}
      {label : String} (hnonneg : 0 ≤ tolerance) :
      countMetricChange value value tolerance increaseType decreaseType label = none := by
    unfold countMetricChange
    split
    case isTrue hzero => rw [if_neg (by omega)]
    case isFalse =>
      simp only [sub_self, zero_div]
      rw [if_neg (by linarith), if_neg (by linarith)]
  have hfilter : (sharedDimensions baseline baseline).filterMap
      (runner.dimensionChange baseline baseline) = [] :=
    List.filterMap_eq_nil_iff.mpr fun dimension _ => hdimension dimension
  simp [contents, hstatus, hoverall, hfilter, hcodes, tokenUsageChange, toolCallChange,
    hcount runner.tokenIncreaseTolerance_nonneg, hcount runner.toolCallIncreaseTolerance_nonneg]

end RegressionEvaluationRunner

/-! ## Exchanged results -/

def RegressionChangeType.opposite : RegressionChangeType → RegressionChangeType
  | .statusRegression => .statusImprovement
  | .statusImprovement => .statusRegression
  | .overallScoreRegression => .overallScoreImprovement
  | .overallScoreImprovement => .overallScoreRegression
  | .dimensionRegression => .dimensionImprovement
  | .dimensionImprovement => .dimensionRegression
  | .newBlockingViolation => .resolvedBlockingViolation
  | .resolvedBlockingViolation => .newBlockingViolation
  | .tokenUsageIncrease => .tokenUsageDecrease
  | .tokenUsageDecrease => .tokenUsageIncrease
  | .toolCallIncrease => .toolCallDecrease
  | .toolCallDecrease => .toolCallIncrease

def RegressionChangeType.isQuality (changeType : RegressionChangeType) : Bool :=
  changeType ∉ [.tokenUsageIncrease, .tokenUsageDecrease, .toolCallIncrease, .toolCallDecrease]

/-- What a change says, without its wording and its severity. -/
structure ChangeKey where
  changeType : RegressionChangeType
  dimension : Option EvaluationDimension
  baselineValue : ChangeValue
  currentValue : ChangeValue
  deriving DecidableEq

def ChangeKey.exchanged (key : ChangeKey) : ChangeKey :=
  ⟨key.changeType.opposite, key.dimension, key.currentValue, key.baselineValue⟩

def ChangeContent.key (content : ChangeContent) : ChangeKey :=
  ⟨content.changeType, content.dimension, content.baselineValue, content.currentValue⟩

def qualityKeys (contents : List ChangeContent) : List ChangeKey :=
  (contents.filter (·.changeType.isQuality)).map ChangeContent.key

@[simp] theorem qualityKeys_append (first second : List ChangeContent) :
    qualityKeys (first ++ second) = qualityKeys first ++ qualityKeys second := by
  simp [qualityKeys]

namespace RegressionEvaluationRunner

variable {runner : RegressionEvaluationRunner} {baseline current : CaseResultFields}

theorem statusChange_exchanged :
    qualityKeys (statusChange current baseline).toList =
      (qualityKeys (statusChange baseline current).toList).map ChangeKey.exchanged := by
  unfold statusChange
  by_cases hbaseline : baseline.status = .passed <;> by_cases hcurrent : current.status = .passed <;>
    simp [hbaseline, hcurrent, qualityKeys, RegressionChangeType.isQuality, ChangeContent.key,
      ChangeKey.exchanged, RegressionChangeType.opposite]

theorem score_cases {first second tolerance : ℚ} (h : 0 ≤ tolerance) :
    (second - first < -tolerance ∧ ¬first - second < -tolerance ∧ first - second > tolerance) ∨
      (¬second - first < -tolerance ∧ second - first > tolerance ∧ first - second < -tolerance) ∨
      (¬second - first < -tolerance ∧ ¬second - first > tolerance ∧
        ¬first - second < -tolerance ∧ ¬first - second > tolerance) := by
  by_cases hlower : second - first < -tolerance
  · exact .inl ⟨hlower, by linarith, by linarith⟩
  · by_cases hhigher : second - first > tolerance
    · exact .inr (.inl ⟨hlower, hhigher, by linarith⟩)
    · exact .inr (.inr ⟨hlower, hhigher, by linarith, by linarith⟩)

theorem overallScoreChange_exchanged :
    qualityKeys (runner.overallScoreChange current baseline).toList =
      (qualityKeys (runner.overallScoreChange baseline current).toList).map
        ChangeKey.exchanged := by
  unfold overallScoreChange
  cases hbaseline : baseline.overallScore with
  | none => cases current.overallScore <;> rfl
  | some first =>
    cases hcurrent : current.overallScore with
    | none => rfl
    | some second =>
      dsimp only
      rcases score_cases runner.overallScoreTolerance_nonneg with
        ⟨h₁, h₂, h₃⟩ | ⟨h₁, h₂, h₃⟩ | ⟨h₁, h₂, h₃, h₄⟩
      · rw [if_neg h₂, if_pos h₃, if_pos h₁]
        rfl
      · rw [if_pos h₃, if_neg h₁, if_pos h₂]
        rfl
      · rw [if_neg h₃, if_neg h₄, if_neg h₁, if_neg h₂]
        rfl

theorem dimensionChange_exchanged (dimension : EvaluationDimension) :
    qualityKeys (runner.dimensionChange current baseline dimension).toList =
      (qualityKeys (runner.dimensionChange baseline current dimension).toList).map
        ChangeKey.exchanged := by
  unfold dimensionChange
  cases hbaseline : scoreOf baseline dimension with
  | none => cases scoreOf current dimension <;> rfl
  | some first =>
    cases hcurrent : scoreOf current dimension with
    | none => rfl
    | some second =>
      dsimp only
      rcases score_cases runner.dimensionScoreTolerance_nonneg with
        ⟨h₁, h₂, h₃⟩ | ⟨h₁, h₂, h₃⟩ | ⟨h₁, h₂, h₃, h₄⟩
      · rw [if_neg h₂, if_pos h₃, if_pos h₁]
        rfl
      · rw [if_pos h₃, if_neg h₁, if_pos h₂]
        rfl
      · rw [if_neg h₃, if_neg h₄, if_neg h₁, if_neg h₂]
        rfl

theorem sharedDimensions_perm : sharedDimensions current baseline ~ sharedDimensions baseline current := by
  refine (List.perm_insertionSort _ _).trans (Perm.trans ?_ (List.perm_insertionSort _ _).symm)
  refine (List.perm_ext_iff_of_nodup ((List.nodup_dedup _).filter _)
    ((List.nodup_dedup _).filter _)).mpr fun dimension => ?_
  simp [and_comm]

theorem dimensionChanges_exchanged :
    qualityKeys ((sharedDimensions current baseline).filterMap
        (runner.dimensionChange current baseline)) ~
      (qualityKeys ((sharedDimensions baseline current).filterMap
        (runner.dimensionChange baseline current))).map ChangeKey.exchanged := by
  have hkeys (dimensions : List EvaluationDimension) :
      qualityKeys (dimensions.filterMap (runner.dimensionChange current baseline)) =
        (qualityKeys (dimensions.filterMap (runner.dimensionChange baseline current))).map
          ChangeKey.exchanged := by
    rw [List.filterMap_eq_flatMap_toList, List.filterMap_eq_flatMap_toList]
    induction dimensions with
    | nil => rfl
    | cons dimension dimensions ih =>
      rw [List.flatMap_cons, List.flatMap_cons, qualityKeys_append, qualityKeys_append,
        dimensionChange_exchanged, ih, List.map_append]
  rw [← hkeys]
  exact ((sharedDimensions_perm.filterMap _).filter _).map _

theorem violationChanges_exchanged (codes : List String) :
    qualityKeys (codes.map newViolationChange) =
      (qualityKeys (codes.map resolvedViolationChange)).map ChangeKey.exchanged ∧
    qualityKeys (codes.map resolvedViolationChange) =
      (qualityKeys (codes.map newViolationChange)).map ChangeKey.exchanged := by
  constructor <;>
    simp [qualityKeys, List.filter_map, Function.comp_def, newViolationChange,
      resolvedViolationChange, RegressionChangeType.isQuality, ChangeContent.key,
      ChangeKey.exchanged, RegressionChangeType.opposite]

theorem qualityKeys_countMetricChange {baselineValue currentValue : ℕ} {tolerance : ℚ}
    {increaseType decreaseType : RegressionChangeType} {label : String}
    (hincrease : increaseType.isQuality = false) (hdecrease : decreaseType.isQuality = false) :
    qualityKeys (countMetricChange baselineValue currentValue tolerance increaseType decreaseType
      label).toList = [] := by
  unfold countMetricChange
  dsimp only
  split_ifs <;> simp [qualityKeys, hincrease, hdecrease]

theorem contents_exchanged :
    qualityKeys (runner.contents current baseline) ~
      (qualityKeys (runner.contents baseline current)).map ChangeKey.exchanged := by
  simp only [contents, qualityKeys_append, List.map_append, tokenUsageChange, toolCallChange,
    qualityKeys_countMetricChange (show RegressionChangeType.isQuality .tokenUsageIncrease = false
      from rfl) (show RegressionChangeType.isQuality .tokenUsageDecrease = false from rfl),
    qualityKeys_countMetricChange (show RegressionChangeType.isQuality .toolCallIncrease = false
      from rfl) (show RegressionChangeType.isQuality .toolCallDecrease = false from rfl)]
  rw [statusChange_exchanged, overallScoreChange_exchanged]
  refine Perm.append_left _ (Perm.append_left _ (Perm.append dimensionChanges_exchanged ?_))
  refine Perm.append ?_ (Perm.refl _)
  rw [(violationChanges_exchanged (codesWithout baseline current)).1,
    (violationChanges_exchanged (codesWithout current baseline)).2]
  exact List.perm_append_comm

/-- A comparison passes exactly if no regression shows in what both results have, a result has no
changes against itself, and exchanged results show every change of quality from the other side. -/
theorem compare_sound (runner : RegressionEvaluationRunner)
    (baseline current : EvaluationCaseResult casefold) :
    (∀ result, runner.compare baseline.toCaseResultFields current.toCaseResultFields = .ok result →
      (result.passed = true ↔
        NoRegression runner baseline.toCaseResultFields current.toCaseResultFields) ∧
      (result.passed = true → baseline.status = .passed → current.overallScore ≠ none)) ∧
    (∀ result, runner.compare baseline.toCaseResultFields baseline.toCaseResultFields = .ok result →
      result.changes = []) ∧
    (∀ result exchanged,
      runner.compare baseline.toCaseResultFields current.toCaseResultFields = .ok result →
      runner.compare current.toCaseResultFields baseline.toCaseResultFields = .ok exchanged →
      qualityKeys (exchanged.changes.map (·.toChangeContent)) ~
        (qualityKeys (result.changes.map (·.toChangeContent))).map ChangeKey.exchanged) := by
  refine ⟨fun result h => ?_, fun result h => ?_, fun result exchanged h hexchanged => ?_⟩
  · have hpassed := (compare_contents h).2.trans noRegression_iff
    refine ⟨hpassed, fun hpass hbaseline => ?_⟩
    exact current.overallScore_of_passed ((hpassed.mp hpass).status hbaseline)
  · have hcontents := (compare_contents h).1
    rw [contents_self] at hcontents
    exact List.map_eq_nil_iff.mp hcontents
  · rw [(compare_contents h).1, (compare_contents hexchanged).1]
    exact contents_exchanged

def sampleRunner : RegressionEvaluationRunner where
  overallScoreTolerance := 1 / 50
  dimensionScoreTolerance := 1 / 20
  tokenIncreaseTolerance := 1 / 4
  toolCallIncreaseTolerance := 1 / 4
  comparisonId := "c"
  changeIdFactory := fun _ => "g"
  overallScoreTolerance_nonneg := by norm_num
  dimensionScoreTolerance_nonneg := by norm_num
  tokenIncreaseTolerance_nonneg := by norm_num
  toolCallIncreaseTolerance_nonneg := by norm_num

def sampleFields (status : EvaluationResultStatus) (overallScore : Option ℚ)
    (dimensionScores : List EvaluationDimensionScore) (error : Option EvaluationError) :
    CaseResultFields :=
  ⟨"r", "u", "d", "v", "c", "q", "w", "e", status, overallScore, dimensionScores, [], [], ⟨0, 0, 0⟩,
    "s", error, []⟩

def scoredResult : EvaluationCaseResult asciiCasefold where
  toCaseResultFields := sampleFields .failed (some 1) [⟨.clarity, 1, true, true, by norm_num⟩] none
  valid := by decide +kernel

def brokenResult : EvaluationCaseResult asciiCasefold where
  toCaseResultFields := sampleFields .error none [] (some ⟨"x", "m"⟩)
  valid := by decide +kernel

theorem compare_sample :
    ∃ result, sampleRunner.compare scoredResult.toCaseResultFields
      brokenResult.toCaseResultFields = .ok result ∧ result.passed = true := by
  have hpassed : (sampleRunner.compare scoredResult.toCaseResultFields
      brokenResult.toCaseResultFields).toOption.map (·.passed) = some true := by decide +kernel
  cases hcompare : sampleRunner.compare scoredResult.toCaseResultFields
      brokenResult.toCaseResultFields with
  | error failure => simp [hcompare, Except.toOption] at hpassed
  | ok result => exact ⟨result, rfl, by simpa [hcompare, Except.toOption] using hpassed⟩

theorem compare_sound_sample :
    NoRegression sampleRunner scoredResult.toCaseResultFields brokenResult.toCaseResultFields := by
  obtain ⟨result, hcompare, hpassed⟩ := compare_sample
  exact ((compare_sound sampleRunner scoredResult brokenResult).1 result hcompare).1.mp hpassed

/-- The comparison passes although no score of the baseline is left. -/
theorem compare_passes_without_scores :
    ¬∀ result, sampleRunner.compare scoredResult.toCaseResultFields
        brokenResult.toCaseResultFields = .ok result → result.passed = true →
      (scoredResult.overallScore ≠ none → brokenResult.overallScore ≠ none) ∧
      ∀ score ∈ scoredResult.dimensionScores, ∃ other ∈ brokenResult.dimensionScores,
        other.dimension = score.dimension := by
  intro hclaim
  obtain ⟨result, hcompare, hpassed⟩ := compare_sample
  exact (hclaim result hcompare hpassed).1 (by decide) rfl

end RegressionEvaluationRunner

end AgenticLab.RegressionEvaluation
