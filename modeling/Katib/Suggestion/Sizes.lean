import Katib.Suggestion.Run

/-!
# Bracket sizes and resources over a run

`getLoopParam` gives round `i` of a bracket `n_i = int(n · eta^(-i))` and `r_i = r · eta^i`,
and `makeChildBracket` takes `n_i` survivors of the ranked parent, the trials the round before
saved. Nothing checks the user's `eta`, `n` or `b_l`: with `eta ≥ 1` and non-negative sizes
the sizes are in range over every run in exact arithmetic, since `n_i` falls with `i` and the
round before saved `n_(i-1)` trial ids; a negative user `n` makes the first round panic. A
child round reads `r` back from the list the round before saved, at four decimals, so the last
round of a bracket can train below `r_l`.
-/

set_option autoImplicit false

namespace Katib

/-- What keeps the sizes in range, of a decoded state: `eta ≥ 1`, stored at four decimals after
the first round; non-negative `n` and `b_l` while brackets are left; and, past a bracket's first
round, as many evaluating trials as the round before asked for. -/
structure SizeInv (d : HyperBandParameters) : Prop where
  eta : 1 ≤ d.eta
  rounded : 1 ≤ d.shloopitr → round4 d.eta = d.eta
  started : 0 ≤ d.shloopitr
  n : 0 < d.currentS → 0 ≤ d.n
  b_l : 0 < d.currentS → 0 ≤ d.b_l
  emitted : 1 ≤ d.shloopitr →
    truncInt (d.n * d.eta ^ (-(d.shloopitr - 1))) ≤ d.evaluatingTrials.length

theorem startRound_n_nonneg {d : HyperBandParameters} (inv : SizeInv d) (r_l : 0 < d.r_l)
    (pos : 0 < d.currentS) : 0 ≤ (startRound d).n := by
  rw [startRound_eq]
  split
  · exact truncInt_nonneg (mul_nonneg (div_nonneg (inv.b_l pos) r_l.le)
      (div_nonneg (zpow_nonneg (by linarith [inv.eta]) _) (by exact_mod_cast (by omega : (0 : Int) ≤ d.currentS + 1))))
  · exact inv.n pos

theorem getLoopParam_size {d : HyperBandParameters} (inv : SizeInv d) (r_l : 0 < d.r_l)
    (pos : 0 < d.currentS) :
    0 ≤ (getLoopParam (startRound d)).1 ∧
      (¬ MakesMasterBracket (startRound d) →
        (getLoopParam (startRound d)).1 ≤ d.evaluatingTrials.length) := by
  have etaPos : 0 < d.eta := by linarith [inv.eta]
  have n_nonneg : (0 : ℚ) ≤ (startRound d).n := by exact_mod_cast startRound_n_nonneg inv r_l pos
  refine ⟨?_, fun child => ?_⟩
  · unfold getLoopParam
    rw [startRound_eta]
    exact truncInt_nonneg (mul_nonneg n_nonneg (zpow_nonneg etaPos.le _))
  have later : (startRound d).shloopitr ≠ 0 := fun zero => child (Or.inr zero)
  simp only [startRound_eq] at later
  have noRollover : ¬ d.shloopitr > d.currentS := fun past => later (if_pos past)
  rw [if_neg noRollover] at later
  have rounds : 1 ≤ d.shloopitr := by have := inv.started; omega
  simp only [getLoopParam, startRound_eq, if_neg noRollover]
  calc truncInt (d.n * d.eta ^ (-d.shloopitr))
      ≤ truncInt (d.n * d.eta ^ (-(d.shloopitr - 1))) :=
        truncInt_le_truncInt (mul_nonneg (by exact_mod_cast inv.n pos) (zpow_nonneg etaPos.le _))
          (mul_le_mul_of_nonneg_left (zpow_le_zpow_right₀ inv.eta (by omega))
            (by exact_mod_cast inv.n pos))
    _ ≤ d.evaluatingTrials.length := inv.emitted rounds

theorem sizeInv_commitRound {d : HyperBandParameters} (inv : SizeInv d) (r_l : 0 < d.r_l)
    (pos : 0 < d.currentS) {tids : List String}
    (emitted : (getLoopParam (startRound d)).1 ≤ tids.length) :
    SizeInv (decodeParameters (suggestionParameterList (commitRound (startRound d) tids))) := by
  have back := decodeParameters_readsBack (commitRound (startRound d) tids)
  have fields : (commitRound (startRound d) tids).eta = d.eta ∧
      (commitRound (startRound d) tids).b_l = d.b_l ∧
      (commitRound (startRound d) tids).n = (startRound d).n ∧
      (commitRound (startRound d) tids).shloopitr = (startRound d).shloopitr + 1 ∧
      (commitRound (startRound d) tids).evaluatingTrials = tids := by
    simp [commitRound_eq]
  generalize commitRound (startRound d) tids = q at back fields ⊢
  obtain ⟨qEta, qB_l, qN, qShloopitr, qTrials⟩ := fields
  have etaOne : 1 ≤ round4 d.eta := by
    exact_mod_cast le_round4 (by exact_mod_cast inv.eta : ((1 : Int) : ℚ) ≤ d.eta)
  have budget : 0 ≤ round4 d.b_l := by
    exact_mod_cast le_round4 (by exact_mod_cast inv.b_l pos : ((0 : Int) : ℚ) ≤ d.b_l)
  have size := startRound_n_nonneg inv r_l pos
  have started : 0 ≤ (startRound d).shloopitr := by
    simp only [startRound_eq]
    split_ifs
    exacts [le_rfl, inv.started]
  have eta : (decodeParameters (suggestionParameterList q)).eta = round4 d.eta := by
    rw [back.eta, qEta, if_neg (by linarith)]
  have rounds := back.shloopitr (by omega)
  have sameSize : truncInt ((startRound d).n * round4 d.eta ^ (-(startRound d).shloopitr)) =
      (getLoopParam (startRound d)).1 := by
    unfold getLoopParam
    rw [startRound_eta]
    by_cases first : (startRound d).shloopitr = 0
    · rw [first, neg_zero, zpow_zero, zpow_zero]
    · simp only [startRound_eq] at first
      have noRollover : ¬ d.shloopitr > d.currentS := fun past => first (if_pos past)
      rw [if_neg noRollover] at first
      rw [inv.rounded (by have := inv.started; omega)]
  refine ⟨eta ▸ etaOne, fun _ => by rw [eta, round4_round4], by rw [rounds]; omega,
    fun _ => by rw [back.n (by omega), qN]; exact size,
    fun _ => by rw [back.b_l (by rw [qB_l]; linarith), qB_l]; exact budget, fun _ => ?_⟩
  rw [rounds, back.n (by omega), qN, qShloopitr, eta, add_sub_cancel_right, sameSize,
    back.evaluatingTrials, qTrials]
  exact emitted.trans (by exact_mod_cast length_le_length_stringsSplit_stringsJoin tids ',')

/-! ### The invariant over a run -/

section Run

variable {σ : Type} (h : HyperBandSuggestService σ) (c : ManagerClient σ)
  (req : GetSuggestionsRequest)

/-- A list with `eta` unset, non-positive or at least 1, and `n` and `b_l` unset or
non-negative, that leaves the loop state unset, decodes to a state whose sizes are in range. -/
theorem sizeInv_decodeParameters {sparam : List SuggestionParameter}
    (accepted : Accepted (sparam.foldl purseParameter unsetParameters)) (unset : LoopUnset sparam)
    (etaRange : (sparam.foldl purseParameter unsetParameters).eta ≤ 0 ∨
      1 ≤ (sparam.foldl purseParameter unsetParameters).eta)
    (nRange : (sparam.foldl purseParameter unsetParameters).n = -1 ∨
      0 ≤ (sparam.foldl purseParameter unsetParameters).n)
    (b_lRange : (sparam.foldl purseParameter unsetParameters).b_l = -1 ∨
      0 ≤ (sparam.foldl purseParameter unsetParameters).b_l) :
    SizeInv (decodeParameters sparam) := by
  obtain ⟨currentS, shloopitr, -⟩ := decodeParameters_loopUnset unset
  have r_l : 0 < (etaDefault (sparam.foldl purseParameter unsetParameters)).r_l := by
    simpa [etaDefault_eq] using accepted.1
  have etaOne : 1 ≤ (etaDefault (sparam.foldl purseParameter unsetParameters)).eta := by
    rw [etaDefault_eq]
    split_ifs with nonpos
    · norm_num
    · exact etaRange.resolve_left nonpos
  have b_l : 0 < (decodeParameters sparam).currentS → 0 ≤ (decodeParameters sparam).b_l := by
    intro pos
    rw [currentS] at pos
    unfold decodeParameters at pos ⊢
    rw [deriveDefaults_b_l]
    split_ifs with derived
    · exact mul_nonneg (by exact_mod_cast (by omega : (0 : Int) ≤ _ + 1)) r_l.le
    · simp only [etaDefault_eq] at derived ⊢
      exact b_lRange.resolve_left derived
  refine ⟨etaOne, fun started => by rw [shloopitr] at started; omega, shloopitr.ge, fun pos => ?_,
    b_l, fun started => by rw [shloopitr] at started; omega⟩
  have budget := b_l pos
  rw [currentS] at pos
  unfold decodeParameters at pos budget ⊢
  rw [deriveDefaults_n]
  split_ifs with derived
  · exact Int.ceil_nonneg (mul_nonneg (div_nonneg budget r_l.le)
      (div_nonneg (zpow_nonneg (by linarith) _) (by exact_mod_cast (by omega : (0 : Int) ≤ _ + 1))))
  · simp only [etaDefault_eq] at derived ⊢
    exact nRange.resolve_left derived

theorem sizeInv_call (w : World σ) (inv : SizeInv (decodeParameters (w.params req.ParamId))) :
    SizeInv (decodeParameters ((getSuggestions h c req w).2.params req.ParamId)) := by
  rcases getSuggestions_stored h c req w with same | ⟨name, w₁, made, wb, loaded, pos, built, stored⟩
  · rwa [same]
  · have size := makeBracket_length built
    simp only [startRound_objectiveValueName, getLoopParam_objectiveValueName] at size
    rw [stored]
    exact sizeInv_commitRound inv ((decodeParameters_r_l _).symm ▸ (loadParameters_ok loaded).1.1)
      pos (by rw [size.2, Int.toNat_of_nonneg size.1])

/-- Over every run from a list that `purseSuggestionParameters` accepts, that leaves the loop
state unset, whose `eta` is unset, non-positive or at least 1 and whose `n` and `b_l` are unset
or non-negative: every call that reaches `getLoopParam` gets a non-negative `n_i`, and at a
child round `n_i` is at most the length of the bracket `evalWorkers` ranks. The sizes are those
of exact arithmetic, without the wrap of Go's `int` past `2^63`. -/
theorem bracketSizes_in_range (sparam : List SuggestionParameter)
    (accepted : Accepted (sparam.foldl purseParameter unsetParameters)) (unset : LoopUnset sparam)
    (etaRange : (sparam.foldl purseParameter unsetParameters).eta ≤ 0 ∨
      1 ≤ (sparam.foldl purseParameter unsetParameters).eta)
    (nRange : (sparam.foldl purseParameter unsetParameters).n = -1 ∨
      0 ≤ (sparam.foldl purseParameter unsetParameters).n)
    (b_lRange : (sparam.foldl purseParameter unsetParameters).b_l = -1 ∨
      0 ≤ (sparam.foldl purseParameter unsetParameters).b_l)
    (w : World σ) (stored : w.params req.ParamId = sparam) (k : Nat) (p : HyperBandParameters)
    (w₁ : World σ) (loaded : loadParameters c req (afterCalls h c req k w) = (.ok p, w₁))
    (pos : 0 < p.currentS) :
    0 ≤ (getLoopParam (startRound p)).1 ∧
      (¬ MakesMasterBracket (startRound p) → ∀ b w₂ w₃,
        evalWorkers c req.StudyId (startRound p) w₂ = (.ok (some b), w₃) →
          (getLoopParam (startRound p)).1 ≤ b.length) := by
  have inv := afterCalls_keeps h c req (fun sparam => SizeInv (decodeParameters sparam))
    (sizeInv_call h c req) k w
    (stored ▸ sizeInv_decodeParameters accepted unset etaRange nRange b_lRange)
  obtain ⟨acceptedNow, name, rfl⟩ := loadParameters_ok loaded
  have sizes := getLoopParam_size inv ((decodeParameters_r_l _).symm ▸ acceptedNow.1) pos
  simp only [startRound_objectiveValueName, getLoopParam_objectiveValueName]
  refine ⟨sizes.1, fun child b w₂ w₃ ranked => ?_⟩
  rw [evalWorkers_length ranked, startRound_evaluatingTrials]
  exact sizes.2 child

/-- Nothing checks a user's `n`: `n = -5` passes the decoder, round `(1, 0)` gets the size
`-5`, and the call panics at `make([]string, n_i)`. -/
theorem bracketSize_negative_n :
    ∃ p w₁, loadParameters
        (ManagerClient.serving ⟨"accuracy", .maximize, [⟨"epochs", .int, ⟨"4", "1", []⟩⟩]⟩ "t" [] [] [])
        ⟨"study", "hyperband", "param"⟩
        ⟨fun _ => [⟨"r_l", "1"⟩, ⟨"ResourceName", "epochs"⟩, ⟨"sMax", "1"⟩, ⟨"n", "-5"⟩], (), []⟩ =
          (.ok p, w₁) ∧
      0 < p.currentS ∧ (getLoopParam (startRound p)).1 = -5 ∧
      (getSuggestions HyperBandSuggestService.lowest
        (ManagerClient.serving ⟨"accuracy", .maximize, [⟨"epochs", .int, ⟨"4", "1", []⟩⟩]⟩ "t" [] [] [])
        ⟨"study", "hyperband", "param"⟩
        ⟨fun _ => [⟨"r_l", "1"⟩, ⟨"ResourceName", "epochs"⟩, ⟨"sMax", "1"⟩, ⟨"n", "-5"⟩], (), []⟩).1 =
        .error (.panic "makeslice: len out of range") := by
  have one : strconvParseFloat "1" = some 1 := by
    show strconvParseFloat ⟨['1']⟩ = some 1
    simp [strconvParseFloat, readUnsigned, digitRun, readExponent, digitsValue, digitValue]
  have sMax : strconvAtoi "1" = some 1 := by decide
  have n : strconvAtoi "-5" = some (-5) := by decide
  have fold : [(⟨"r_l", "1"⟩ : SuggestionParameter), ⟨"ResourceName", "epochs"⟩, ⟨"sMax", "1"⟩,
      ⟨"n", "-5"⟩].foldl purseParameter unsetParameters =
        { unsetParameters with r_l := 1, ResourceName := "epochs", sMax := 1, n := -5 } := by
    simp [purseParameter, one, sMax, n]
  obtain ⟨name, w₁, loaded⟩ := loadParameters_serving
    ⟨"accuracy", .maximize, [⟨"epochs", .int, ⟨"4", "1", []⟩⟩]⟩ "t" [] [] []
    ⟨"study", "hyperband", "param"⟩
    ⟨fun _ => [⟨"r_l", "1"⟩, ⟨"ResourceName", "epochs"⟩, ⟨"sMax", "1"⟩, ⟨"n", "-5"⟩], (), []⟩
    (by rw [fold]; exact ⟨by norm_num, by decide⟩)
  have decoded : decodeParameters [⟨"r_l", "1"⟩, ⟨"ResourceName", "epochs"⟩, ⟨"sMax", "1"⟩,
      ⟨"n", "-5"⟩] =
        { eta := 3, sMax := 1, b_l := 2, r_l := 1, r := 3⁻¹, n := -5, shloopitr := 0,
          currentS := 1, ResourceName := "epochs", ObjectiveValueName := "",
          evaluatingTrials := [] } := by
    rw [decodeParameters, fold]
    simp [deriveDefaults, etaDefault_eq, unsetParameters]
  rw [decoded] at loaded
  have negative : truncInt (-5) = -5 := by
    rw [show (-5 : ℚ) = ((-5 : Int) : ℚ) by norm_num, truncInt_intCast]
  refine ⟨_, _, loaded, by norm_num, by simp [getLoopParam, startRound_eq, negative], ?_⟩
  rw [getSuggestions, Go.bind_ok loaded]
  simp [suggestRound, roundBracket, makeBracket, makeMasterBracket, getStudy, World.rpc,
    ManagerClient.serving, getLoopParam, startRound_eq, MakesMasterBracket, negative, Go.bind_apply]

end Run

/-! ### The size of the first bracket -/

/-- The size of bracket `s` before it is rounded, as both size formulas write it:
`(b_l / r_l) · eta^s / (s + 1)`. -/
def sizeRatio (hbparam : HyperBandParameters) (s : Int) : ℚ :=
  (hbparam.b_l / hbparam.r_l) * (hbparam.eta ^ s / ((s + 1 : Int) : ℚ))

theorem hbLoopParamUpdate_n (hbparam : HyperBandParameters) :
    (hbLoopParamUpdate hbparam).n = truncInt (sizeRatio hbparam hbparam.currentS) := rfl

theorem decodeParameters_n_unset {sparam : List SuggestionParameter}
    (unset : (sparam.foldl purseParameter unsetParameters).n = -1) :
    (decodeParameters sparam).n =
      ⌈sizeRatio (decodeParameters sparam) (decodeParameters sparam).sMax⌉ := by
  have unset' : (etaDefault (sparam.foldl purseParameter unsetParameters)).n = -1 := by
    rw [etaDefault_eq]
    exact unset
  rw [decodeParameters, deriveDefaults_n, if_pos unset']
  rfl

/-- For a list that leaves `n` unset, the size the decoder derives for the first bracket and the
one `hbLoopParamUpdate` computes for `currentS = sMax` agree exactly when the ratio is negative
or an integer: the decoder rounds up, `hbLoopParamUpdate` toward zero. -/
theorem decodeParameters_n_eq_hbLoopParamUpdate_iff {sparam : List SuggestionParameter}
    (unset : (sparam.foldl purseParameter unsetParameters).n = -1) :
    (decodeParameters sparam).n = (hbLoopParamUpdate
        { decodeParameters sparam with currentS := (decodeParameters sparam).sMax }).n ↔
      sizeRatio (decodeParameters sparam) (decodeParameters sparam).sMax < 0 ∨
        (⌈sizeRatio (decodeParameters sparam) (decodeParameters sparam).sMax⌉ : ℚ) =
          sizeRatio (decodeParameters sparam) (decodeParameters sparam).sMax := by
  rw [decodeParameters_n_unset unset]
  exact ceil_eq_truncInt_iff _

/-- A stored list with `r_l = 1`, `b_l = 1` and `sMax = 1`, leaving `eta` to its default `3` and
`n` unset. -/
def halfParameters : List SuggestionParameter :=
  [⟨"r_l", "1"⟩, ⟨"ResourceName", "epochs"⟩, ⟨"sMax", "1"⟩, ⟨"b_l", "1"⟩]

/-- From `halfParameters` the ratio of the first bracket is `3/2`: the decoder gives it `n = 2`,
and `hbLoopParamUpdate` computes `1` for it. -/
theorem firstBracket_n_rounded_up :
    ∃ p w₁, loadParameters (ManagerClient.serving ⟨"accuracy", .maximize, []⟩ "t" [] [] [])
        ⟨"study", "hyperband", "param"⟩ ⟨fun _ => halfParameters, (), []⟩ = (.ok p, w₁) ∧
      p.n = 2 ∧ (hbLoopParamUpdate { p with currentS := p.sMax }).n = 1 := by
  have one : strconvParseFloat "1" = some 1 := by
    show strconvParseFloat ⟨['1']⟩ = some 1
    simp [strconvParseFloat, readUnsigned, digitRun, readExponent, digitsValue, digitValue]
  have sMax : strconvAtoi "1" = some 1 := by decide
  have fold : halfParameters.foldl purseParameter unsetParameters =
      { unsetParameters with r_l := 1, ResourceName := "epochs", sMax := 1, b_l := 1 } := by
    simp [halfParameters, purseParameter, one, sMax]
  obtain ⟨name, w₁, loaded⟩ := loadParameters_serving ⟨"accuracy", .maximize, []⟩ "t" [] [] []
    ⟨"study", "hyperband", "param"⟩ ⟨fun _ => halfParameters, (), []⟩
    (by rw [fold]; exact ⟨by norm_num, by decide⟩)
  have ratio : sizeRatio (decodeParameters halfParameters)
      (decodeParameters halfParameters).sMax = 3 / 2 := by
    rw [decodeParameters, fold]
    norm_num [sizeRatio, deriveDefaults, etaDefault_eq, unsetParameters]
  refine ⟨_, _, loaded, ?_, ?_⟩
  · show (decodeParameters halfParameters).n = 2
    rw [decodeParameters_n_unset (by rw [fold]; rfl), ratio, Int.ceil_eq_iff]
    norm_num
  · show truncInt (sizeRatio (decodeParameters halfParameters)
      (decodeParameters halfParameters).sMax) = 1
    rw [ratio]
    norm_num [truncInt, Int.floor_eq_iff]

/-! ### The resource of the last round -/

/-- `r_l = 1`, `eta = 3`, `sMax = 1`, `n = 3`: the first bracket starts at `1/3`, which has no
four-decimal form. -/
def thirdsParameters : List SuggestionParameter :=
  [⟨"r_l", "1"⟩, ⟨"eta", "3"⟩, ⟨"sMax", "1"⟩, ⟨"n", "3"⟩, ⟨"ResourceName", "epochs"⟩]

/-- A Manager serving a study whose only parameter is the integer resource `epochs`, one
completed worker for every trial, and the trial `t` at `epochs = 0`. -/
def thirdsManager : ManagerClient Unit :=
  ManagerClient.serving ⟨"accuracy", .maximize, [⟨"epochs", .int, ⟨"", "", []⟩⟩]⟩ "t"
    [⟨"t", "study", [⟨"epochs", .int, "0"⟩]⟩] [⟨"w", "study", "t", .completed⟩] []

/-- The second call of a run from `thirdsParameters` works on round `(1, 1)` and creates a
trial at `epochs = 0`, the saved `r = 0.3333` times 3, truncated, where `r_l·eta^(1−1) = 1`
would be written `1`. -/
theorem createTrial_round_one_one_truncates :
    ∃ t, (Request.createTrial t, true) ∈ sentBy HyperBandSuggestService.lowest thirdsManager
        ⟨"study", "hyperband", "param"⟩ (afterCalls HyperBandSuggestService.lowest thirdsManager
          ⟨"study", "hyperband", "param"⟩ 1 ⟨fun _ => thirdsParameters, (), []⟩) ∧
      roundOf thirdsManager ⟨"study", "hyperband", "param"⟩ (afterCalls HyperBandSuggestService.lowest
          thirdsManager ⟨"study", "hyperband", "param"⟩ 1 ⟨fun _ => thirdsParameters, (), []⟩) =
        some ((1, 1), false) ∧
      t.ParameterSet = [⟨"epochs", .int, "0"⟩] ∧
      resourceValue .int ((decodeParameters thirdsParameters).r_l *
        (decodeParameters thirdsParameters).eta ^ ((1 : Int) - 1)) = "1" := by
  have decoded : thirdsParameters.foldl purseParameter unsetParameters =
      { eta := 3, sMax := 1, b_l := -1, r_l := 1, r := -1, n := 3, shloopitr := -1, currentS := -1,
        ResourceName := "epochs", ObjectiveValueName := "", evaluatingTrials := [] } := by
    simp only [unsetParameters, Int.reduceNeg, thirdsParameters, List.foldl_cons, purseParameter,
      strconvParseFloat, ↓Char.isValue, Char.reduceEq, ↓reduceIte, readUnsigned, digitRun,
      Char.reduceIsDigit, List.cons_ne_self, and_true, digitsValue, digitValue, Char.reduceToNat,
      mul_zero, Nat.reduceSub, zero_add, List.foldl_nil, Nat.cast_one, Nat.cast_zero,
      List.length_nil, pow_zero, div_one, add_zero, one_mul, readExponent, Option.map_some',
      zpow_zero, Option.getD_some, Nat.cast_ofNat, mul_one, strconvAtoi, natOfDigits, ne_eq,
      not_false_eq_true, and_self, Int.ofNat_eq_coe]
  have third : round4 3⁻¹ = 3333 / 10000 := by
    have floor : ⌊(3⁻¹ * 10000 : ℚ)⌋ = 3333 := by rw [Int.floor_eq_iff]; norm_num
    norm_num [round4, roundHalfEven, floor]
  have three : truncInt 3 = 3 := truncInt_intCast 3
  have one : truncInt 1 = 1 := truncInt_intCast 1
  have zero : truncInt 3⁻¹ = 0 := by norm_num [truncInt, Int.floor_eq_zero_iff]
  have below : truncInt (3333 / 10000 * 3) = 0 := by norm_num [truncInt, Int.floor_eq_zero_iff]
  have saved : (3333 / 10000 : ℚ) ≠ -1 := by norm_num
  have trials : stringsSplit (stringsJoin ["t", "t", "t"] ',') ',' = ["t", "t", "t"] := by decide
  simp only [sentBy, World.sentSince, afterCalls, getSuggestions, loadParameters, thirdsManager,
    ManagerClient.serving, getSuggestionParameters, purseSuggestionParameters, Accepted, ne_eq,
    fillObjectiveValueName, etaDefault, getStudy, deriveDefaults, Int.reduceNeg, Int.cast_add,
    Int.cast_ite, Int.cast_one, zpow_neg, pow_ite, Go.bind_apply, orFatal, dial, World.rpc,
    List.nil_append, decoded, zero_lt_one, String.reduceEq, not_false_eq_true, and_self, ↓reduceIte,
    ite_self, List.singleton_append, Go.pure_apply, reduceCtorEq, mul_one, zpow_one, one_mul,
    suggestRound, Int.reduceLE, roundBracket, makeBracket, MakesMasterBracket, startRound,
    gt_iff_lt, Int.reduceLT, List.length_nil, or_self, makeMasterBracket, getLoopParam,
    Int.cast_ofNat, neg_zero, zpow_zero, three, Int.reduceToNat, masterTrials, createTrial,
    saveSuggestionParameters, setSuggestionParameters, commitRound, shLoopParamUpdate, zero_add,
    lt_self_iff_false, List.cons_append, masterParameters, masterParameter, masterValue,
    resourceValue, zero, List.map_cons, List.map_nil, Go.attempt, List.length_cons,
    List.length_singleton, Nat.reduceAdd, Function.update_same, foldl_suggestionParameterList,
    round4_ofNat, round4_one, third, ↓Char.isValue, trials, saved, OfNat.ofNat_ne_zero, one_ne_zero,
    evalWorkers, evalTrials, getWorkers, getMetrics, sortBracket, List.insertionSort,
    List.orderedInsert, makeChildBracket, childOf, mul_inv_cancel₀, one, zero_le_one,
    Nat.one_le_cast, true_and, Int.toNat_one, List.drop_one, getTrials, resourceType, Int.reduceAdd,
    Nat.one_lt_ofNat, sub_self, Nat.cast_one, div_one, sumObjective, le_refl, Nat.one_le_ofNat,
    List.tail_cons, List.take_succ_cons, List.take_zero, List.foldl_cons, List.foldl_nil,
    childTrials, promote, below, parentParameters, nonpos_iff_eq_zero, tsub_self,
    List.replicate_zero, Function.update_idem, List.drop_succ_cons, List.drop_zero, List.mem_cons,
    Prod.mk.injEq, and_true, Request.createTrial.injEq, List.mem_singleton, or_false, false_or,
    roundOf, Prod.mk_one_one, decide_False, decodeParameters, exists_eq_left, List.cons.injEq,
    Parameter.mk.injEq]
  exact ⟨_, .inl rfl, by decide, by decide⟩

end Katib
