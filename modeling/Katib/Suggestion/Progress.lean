import Katib.Suggestion.Created
import Katib.Suggestion.Sizes

/-!
# The schedule runs to its end

The safety results say the calls that save walk Hyperband's schedule in order and never past its
end; this module says they walk all of it. Against a Manager that serves every call of a
maximizing study (it connects, stores and returns the parameter list, returns the study and its
trials, accepts every trial, and lists for every trial a completed worker with an objective
series), with draws in range, each call from a stored list with rounds left loads it, makes its
round's bracket and saves. So every call consumes one pending round, and the first
`S (S + 3) / 2` calls save the whole schedule, after which the stored list has no round left.

A minimizing study is left out: its child rounds overrun the slots `makeChildBracket` makes.
The Manager must also list workers for the trial ID `""`: a round of size zero is saved as that
one ID, and against a Manager that lists no worker for it the run stops for good at the next
round, as the last section shows.
-/

set_option autoImplicit false

namespace Katib

variable {σ : Type}

section Call

variable {h : HyperBandSuggestService σ} {c : ManagerClient σ} {req : GetSuggestionsRequest}
  {sconf : StudyConfig} {trials : List Trial}

theorem makeBracket_child_returns {studyId : String}
    (study : ∀ m, ∃ m', c.getStudy m studyId = (.ok sconf, m'))
    (listed : ∀ m, ∃ m', c.getTrials m studyId = (.ok trials, m'))
    (created : ∀ m t, ∃ id m', c.createTrial m t = (.ok id, m'))
    (maximizing : sconf.OptimizationType = .maximize) (n : Int) (r : ℚ)
    (hbparam : HyperBandParameters) (w : World σ)
    (served : ∀ m, ∀ t ∈ hbparam.evaluatingTrials,
      ServesTrial c studyId hbparam.ObjectiveValueName m t)
    (child : ¬ MakesMasterBracket hbparam) (nonneg : 0 ≤ n)
    (within : n ≤ hbparam.evaluatingTrials.length) :
    ∃ made w', makeBracket h c studyId n r hbparam w = (.ok (some made), w') := by
  obtain ⟨es, w₁, scored, ranked⟩ := evalTrials_scores c studyId hbparam.ObjectiveValueName
    hbparam.evaluatingTrials [] w served
  have length : (sortBracket es).length = hbparam.evaluatingTrials.length := by
    rw [(perm_sortBracket es).length_eq, ← scored.ids, List.length_map]
  obtain ⟨ts, w', made, -⟩ := makeChildBracket_maximize r hbparam w₁ maximizing
    ⟨nonneg, by rw [length]; exact within⟩ study listed created
  rw [List.nil_append] at ranked
  have ranked' : evalWorkers c studyId hbparam w = (.ok (some (sortBracket es)), w₁) := ranked
  unfold makeBracket
  rw [if_neg child, Go.bind_ok ranked']
  exact ⟨_, _, (Go.bind_ok made).trans rfl⟩

theorem attempt_saveSuggestionParameters_served
    (write : ∀ m request, ∃ m', c.setSuggestionParameters m request = (.ok (), m'))
    (studyId algorithm paramId : String) (hbparam : HyperBandParameters) (w : World σ) :
    ∃ m, Go.attempt (saveSuggestionParameters c studyId algorithm paramId hbparam) w =
      (.ok (.ok ()), { w with
        manager := m
        params := Function.update w.params paramId (suggestionParameterList hbparam)
        requests := w.requests ++ [(.setSuggestionParameters ⟨studyId, algorithm, paramId,
          suggestionParameterList hbparam⟩, true)] }) := by
  obtain ⟨m, answered⟩ := write w.manager ⟨studyId, algorithm, paramId, suggestionParameterList hbparam⟩
  exact ⟨m, Go.attempt_ok ((Go.bind_ok (World.rpc_ok answered)).trans rfl)⟩

theorem getSuggestions_made
    (write : ∀ m request, ∃ m', c.setSuggestionParameters m request = (.ok (), m'))
    {w w₁ wb : World σ} {p : HyperBandParameters} {made : List String × List (Option Trial)}
    (loaded : loadParameters c req w = (.ok p, w₁)) (pos : 0 < p.currentS)
    (built : roundBracket h c req.StudyId p w₁ = (.ok (some made), wb)) :
    ∃ m, getSuggestions h c req w = (.ok ⟨made.2⟩, { wb with
      manager := m
      params := Function.update wb.params req.ParamId
        (suggestionParameterList (commitRound (startRound p) made.1))
      requests := wb.requests ++ [(.setSuggestionParameters ⟨req.StudyId, req.SuggestionAlgorithm,
        req.ParamId, suggestionParameterList (commitRound (startRound p) made.1)⟩, true)] }) := by
  obtain ⟨m, saved⟩ := attempt_saveSuggestionParameters_served write req.StudyId
    req.SuggestionAlgorithm req.ParamId (commitRound (startRound p) made.1) wb
  refine ⟨m, ?_⟩
  unfold getSuggestions suggestRound
  rw [Go.bind_ok loaded, if_neg (by omega), Go.bind_ok built]
  exact Go.bind_ok saved

end Call

/-! ### The whole schedule -/

section Run

variable (h : HyperBandSuggestService σ) (c : ManagerClient σ) (req : GetSuggestionsRequest)
  {sconf : StudyConfig} {trials : List Trial}

end Run

/-! ### A round of size zero

A round of size zero saves an empty `evaluatingTrials`, and the next call reads it back as the
one trial `""`. When that round is not the last of its bracket, the next call is at a child round
and asks the Manager for the workers of `""`; against a Manager that lists none, the round is
never done, and since a failed call saves nothing, every later call fails the same way. -/

section Stall

variable {h : HyperBandSuggestService Unit} {c : ManagerClient Unit} {req : GetSuggestionsRequest}
  {sconf : StudyConfig}

/-- A stored list the decoder accepts, at a child round of the one trial `""`. -/
def BlankRound (sparam : List SuggestionParameter) : Prop :=
  Accepted (sparam.foldl purseParameter unsetParameters) ∧ 0 < (decodeParameters sparam).shloopitr ∧
    (decodeParameters sparam).shloopitr ≤ (decodeParameters sparam).currentS ∧
    (decodeParameters sparam).evaluatingTrials = [""]

theorem getSuggestions_blankRound (dialed : ∀ m, c.dial m = (.ok (), m))
    (read : ∀ m paramId, c.getSuggestionParameters m paramId = (.ok (), m))
    (study : ∀ m studyId, c.getStudy m studyId = (.ok sconf, m))
    (unlisted : ∀ m, c.getWorkers m req.StudyId "" = (.ok [], m))
    (unmeasured : ∀ m objective, c.getMetrics m req.StudyId [] [objective] = (.ok [], m))
    (w : World Unit) (blank : BlankRound (w.params req.ParamId)) :
    (getSuggestions h c req w).1 =
        .error (.error (.status .failedPrecondition "Previous workers are not completed.")) ∧
      (getSuggestions h c req w).2.params = w.params := by
  obtain ⟨accepted, started, within, trials⟩ := blank
  obtain ⟨name, w₁, loaded⟩ := loadParameters_served dialed read study req w accepted
  have noRollover : startRound { decodeParameters (w.params req.ParamId) with ObjectiveValueName := name } =
      { decodeParameters (w.params req.ParamId) with ObjectiveValueName := name } :=
    if_neg (not_lt.mpr within)
  have stalled : Stalls c req.StudyId name [""] w₁.manager :=
    .here (unlisted _) (unmeasured _ _) (.inr ⟨rfl, fun _ member => absurd member (List.not_mem_nil _)⟩)
  have failed := getSuggestions_stalled (h := h) loaded (lt_of_lt_of_le started within)
    (by rw [noRollover]; simp [MakesMasterBracket, trials]; omega)
    (by rw [noRollover]; exact trials ▸ stalled)
  exact ⟨failed.1, failed.2.1⟩

/-- From a stored list at a child round of the one trial `""`, against a Manager that lists no
worker for that ID, every call of the run fails with `FAILED_PRECONDITION` and the stored list
never changes. -/
theorem afterCalls_blankRound (dialed : ∀ m, c.dial m = (.ok (), m))
    (read : ∀ m paramId, c.getSuggestionParameters m paramId = (.ok (), m))
    (study : ∀ m studyId, c.getStudy m studyId = (.ok sconf, m))
    (unlisted : ∀ m, c.getWorkers m req.StudyId "" = (.ok [], m))
    (unmeasured : ∀ m objective, c.getMetrics m req.StudyId [] [objective] = (.ok [], m)) :
    ∀ (k : Nat) (w : World Unit), BlankRound (w.params req.ParamId) →
      (afterCalls h c req k w).params = w.params ∧
        (getSuggestions h c req (afterCalls h c req k w)).1 =
          .error (.error (.status .failedPrecondition "Previous workers are not completed."))
  | 0, w, blank => ⟨rfl, (getSuggestions_blankRound dialed read study unlisted unmeasured w blank).1⟩
  | k + 1, w, blank => by
      have step := getSuggestions_blankRound (h := h) dialed read study unlisted unmeasured w blank
      obtain ⟨same, failed⟩ := afterCalls_blankRound dialed read study unlisted unmeasured k _
        (by rw [step.2]; exact blank)
      exact ⟨same.trans step.2, failed⟩

/-- A call at a child round of size zero that is not its bracket's last, against a Manager that
serves its trials, saves a list at a child round of the one trial `""`. -/
theorem getSuggestions_zeroRound {trials : List Trial} (dialed : ∀ m, c.dial m = (.ok (), m))
    (read : ∀ m paramId, c.getSuggestionParameters m paramId = (.ok (), m))
    (study : ∀ m studyId, c.getStudy m studyId = (.ok sconf, m))
    (write : ∀ m request, c.setSuggestionParameters m request = (.ok (), m))
    (listed : ∀ m, c.getTrials m req.StudyId = (.ok trials, m))
    (created : ∀ m t, ∃ id m', c.createTrial m t = (.ok id, m'))
    (maximizing : sconf.OptimizationType = .maximize) (w : World Unit)
    (accepted : AcceptedAfterSave (w.params req.ParamId))
    (started : 0 < (decodeParameters (w.params req.ParamId)).shloopitr)
    (notLast : (decodeParameters (w.params req.ParamId)).shloopitr <
      (decodeParameters (w.params req.ParamId)).currentS)
    (nonempty : (decodeParameters (w.params req.ParamId)).evaluatingTrials ≠ [])
    (served : ∀ m objective, ∀ t ∈ (decodeParameters (w.params req.ParamId)).evaluatingTrials,
      ServesTrial c req.StudyId objective m t)
    (zero : (getLoopParam (decodeParameters (w.params req.ParamId))).1 = 0) :
    BlankRound ((getSuggestions h c req w).2.params req.ParamId) := by
  set d := decodeParameters (w.params req.ParamId)
  obtain ⟨name, w₁, loaded⟩ := loadParameters_served dialed read study req w accepted.accepted
  have noRollover : startRound d = d := if_neg (not_lt.mpr notLast.le)
  have child : ¬ MakesMasterBracket d := by
    rintro (empty | first)
    · exact nonempty (List.length_eq_zero.mp empty)
    · exact started.ne' first
  obtain ⟨made, wb, built⟩ : ∃ made wb, roundBracket h c req.StudyId
      { d with ObjectiveValueName := name } w₁ = (.ok (some made), wb) := by
    unfold roundBracket
    rw [startRound_objectiveValueName, noRollover, getLoopParam_objectiveValueName]
    exact makeBracket_child_returns (fun m => ⟨m, study m _⟩) (fun m => ⟨m, listed m⟩) created
      maximizing _ _ _ w₁ (fun m t member => served m _ t member) child (by rw [zero])
      (by rw [zero]; exact Nat.cast_nonneg _)
  have none : made.1 = [] := by
    have length := (makeBracket_length built).2
    rw [startRound_objectiveValueName, noRollover, getLoopParam_objectiveValueName, zero] at length
    exact List.length_eq_zero.mp length
  obtain ⟨m, call⟩ := getSuggestions_made (fun m q => ⟨m, write m q⟩) loaded
    (lt_of_lt_of_le started notLast.le) built
  have stored : (getSuggestions h c req w).2.params req.ParamId =
      suggestionParameterList (commitRound d []) := by
    rw [call, startRound_objectiveValueName, noRollover, commitRound_objectiveValueName,
      suggestionParameterList_objectiveValueName, none]
    exact Function.update_same _ _ _
  have advanced : (commitRound d []).shloopitr = d.shloopitr + 1 := rfl
  have kept : (commitRound d []).currentS = d.currentS :=
    if_neg (show ¬ d.shloopitr + 1 > d.currentS by omega)
  have back := decodeParameters_readsBack (commitRound d [])
  refine ⟨(acceptedAfterSave_call h c req w accepted).accepted, ?_, ?_, ?_⟩
  · rw [stored, back.shloopitr (by omega), advanced]
    omega
  · rw [stored, back.shloopitr (by omega), back.currentS (by omega), advanced, kept]
    omega
  · rw [stored, back.evaluatingTrials]
    rfl

end Stall

/-- Two brackets, `sMax = 2`, the first of `n = 1` trial: with `eta = 3` its round `(2, 1)` has
`⌊1/3⌋ = 0` trials. -/
def emptyRoundParameters : List SuggestionParameter :=
  [⟨"r_l", "1"⟩, ⟨"eta", "3"⟩, ⟨"sMax", "2"⟩, ⟨"n", "1"⟩, ⟨"ResourceName", "epochs"⟩]

/-- A Manager of a maximized study whose one parameter is the integer resource `epochs`: it
accepts every trial as `t`, and lists for every trial ID but `""` one completed worker whose
objective series ends at `0.5`. -/
def stallingManager : ManagerClient Unit where
  dial _ := (.ok (), ())
  getSuggestionParameters _ _ := (.ok (), ())
  setSuggestionParameters _ _ := (.ok (), ())
  getStudy _ _ := (.ok ⟨"accuracy", .maximize, [⟨"epochs", .int, ⟨"", "", []⟩⟩]⟩, ())
  createTrial _ _ := (.ok "t", ())
  getTrials _ _ := (.ok [], ())
  getWorkers _ studyId t := (.ok (if t = "" then [] else [⟨"w", studyId, t, .completed⟩]), ())
  getMetrics _ _ ids _ := (.ok (ids.map fun id => ⟨id, [⟨"accuracy", ["0.5"]⟩], .completed⟩), ())

theorem stallingManager_serves (studyId objective : String) (m : Unit) {t : String}
    (named : t ≠ "") : ServesTrial stallingManager studyId objective m t :=
  ⟨[⟨"w", studyId, t, .completed⟩], (), _, (), by simp [stallingManager, named],
    List.cons_ne_nil _ _, by simp, rfl, .refl _, fun ml member => by
      rw [List.mem_singleton.mp member]
      exact ⟨rfl, _, _, rfl, List.cons_ne_nil _ _⟩⟩

theorem emptyRoundParameters_fold : emptyRoundParameters.foldl purseParameter unsetParameters =
      { unsetParameters with r_l := 1, eta := 3, sMax := 2, n := 1, ResourceName := "epochs" } := by
  have three : strconvParseFloat "3" = some 3 := by
    show strconvParseFloat ⟨['3']⟩ = some 3
    simp [strconvParseFloat, readUnsigned, digitRun, readExponent, digitsValue, digitValue]
  have one : strconvParseFloat "1" = some 1 := by
    show strconvParseFloat ⟨['1']⟩ = some 1
    simp [strconvParseFloat, readUnsigned, digitRun, readExponent, digitsValue, digitValue]
  simp [emptyRoundParameters, purseParameter, one, three, show strconvAtoi "2" = some 2 by decide,
    show strconvAtoi "1" = some 1 by decide]

theorem emptyRoundParameters_decode : decodeParameters emptyRoundParameters =
      { unsetParameters with
        r_l := 1, eta := 3, sMax := 2, n := 1, ResourceName := "epochs"
        b_l := 3, currentS := 2, shloopitr := 0, r := 1 / 9 } := by
  rw [decodeParameters, emptyRoundParameters_fold]
  norm_num [deriveDefaults, etaDefault_eq, unsetParameters]

theorem emptyRound_first_call :
    (getSuggestions HyperBandSuggestService.lowest stallingManager ⟨"study", "hyperband", "param"⟩
        ⟨fun _ => emptyRoundParameters, (), []⟩).2.params "param" =
      suggestionParameterList (commitRound (decodeParameters emptyRoundParameters) ["t"]) := by
  obtain ⟨name, w₁, loaded⟩ := loadParameters_served (c := stallingManager) (fun _ => rfl)
    (fun _ _ => rfl) (fun _ _ => rfl) ⟨"study", "hyperband", "param"⟩
    ⟨fun _ => emptyRoundParameters, (), []⟩
    (by rw [emptyRoundParameters_fold]; exact ⟨by norm_num, by decide⟩)
  set p := { decodeParameters emptyRoundParameters with ObjectiveValueName := name }
  have start : startRound p = p := if_neg (by simp [p, emptyRoundParameters_decode])
  have master : MakesMasterBracket p := .inr (by simp [p, emptyRoundParameters_decode])
  have size : getLoopParam p = (1, 1 / 9) := by
    simp [getLoopParam, p, emptyRoundParameters_decode, truncInt]
  obtain ⟨made, wm, builtM⟩ := makeMasterBracket_returns (h := HyperBandSuggestService.lowest)
    (c := stallingManager) "study" 1 (1 / 9) p w₁ (by norm_num) (fun _ => ⟨(), rfl⟩)
    (fun _ _ => ⟨"t", (), rfl⟩) HyperBandSuggestService.lowest_drawsInRange
    (by simp [HasChoices, p, emptyRoundParameters_decode])
  obtain ⟨_, _, ts, -, rfl, length, ofStudy, -⟩ := makeMasterBracket_ok builtM
  obtain ⟨t, rfl⟩ := List.length_eq_one.mp (by exact_mod_cast length)
  have named : t.TrialId = "t" := by
    obtain ⟨-, -, _, _, answered⟩ := ofStudy t (List.mem_singleton_self t)
    exact (Except.ok.inj (Prod.mk.inj answered).1).symm
  have built : roundBracket HyperBandSuggestService.lowest stallingManager "study" p w₁ =
      (.ok (some (["t"], [some t])), wm) := by
    unfold roundBracket makeBracket
    rw [start, size, if_pos master, Go.bind_ok builtM, ← named]
    rfl
  obtain ⟨m, call⟩ := getSuggestions_made (fun _ _ => ⟨(), rfl⟩) loaded
    (by simp [p, emptyRoundParameters_decode]) built
  rw [call, start, commitRound_objectiveValueName, suggestionParameterList_objectiveValueName]
  dsimp only
  rw [Function.update_same]

/-- The saved list has no entry for the objective, and writes an empty `evaluatingTrials` as
`""`, which `strings.Split` reads back as the one ID `""`. From `emptyRoundParameters`, the
second call makes the round `(2, 1)` of size zero and saves that list; every call after it asks
for the workers of `""`, finds none, fails with `FAILED_PRECONDITION` and saves nothing, so
the run never moves again. -/
theorem emptyRound_stalls_run :
    (∀ s : HyperBandParameters,
        (decodeParameters (suggestionParameterList s)).ObjectiveValueName = "" ∧
          (s.evaluatingTrials = [] →
            (decodeParameters (suggestionParameterList s)).evaluatingTrials = [""])) ∧
      (decodeParameters ((afterCalls HyperBandSuggestService.lowest stallingManager
          ⟨"study", "hyperband", "param"⟩ 2 ⟨fun _ => emptyRoundParameters, (), []⟩).params
          "param")).evaluatingTrials = [""] ∧
      ∀ k, (afterCalls HyperBandSuggestService.lowest stallingManager
          ⟨"study", "hyperband", "param"⟩ (k + 2) ⟨fun _ => emptyRoundParameters, (), []⟩).params =
        (afterCalls HyperBandSuggestService.lowest stallingManager
          ⟨"study", "hyperband", "param"⟩ 2 ⟨fun _ => emptyRoundParameters, (), []⟩).params ∧
        (getSuggestions HyperBandSuggestService.lowest stallingManager
          ⟨"study", "hyperband", "param"⟩ (afterCalls HyperBandSuggestService.lowest stallingManager
            ⟨"study", "hyperband", "param"⟩ (k + 2) ⟨fun _ => emptyRoundParameters, (), []⟩)).1 =
          .error (.error (.status .failedPrecondition "Previous workers are not completed.")) := by
  have first := emptyRound_first_call
  set s₁ := commitRound (decodeParameters emptyRoundParameters) ["t"]
  have back := decodeParameters_readsBack s₁
  obtain ⟨shloopitr, currentS, n, eta⟩ :
      s₁.shloopitr = 1 ∧ s₁.currentS = 2 ∧ s₁.n = 1 ∧ s₁.eta = 3 := by
    simp [s₁, commitRound_eq, emptyRoundParameters_decode]
  have trials : (decodeParameters (suggestionParameterList s₁)).evaluatingTrials = ["t"] :=
    back.evaluatingTrials.trans (by simp only [s₁, commitRound_eq]; decide)
  have zero : (getLoopParam (decodeParameters (suggestionParameterList s₁))).1 = 0 := by
    show truncInt (((decodeParameters (suggestionParameterList s₁)).n : ℚ) *
      (decodeParameters (suggestionParameterList s₁)).eta ^
        (-(decodeParameters (suggestionParameterList s₁)).shloopitr)) = 0
    rw [back.n (by omega), back.eta, back.shloopitr (by omega), n, eta, shloopitr, round4_ofNat]
    norm_num [truncInt]
  have blank : BlankRound ((afterCalls HyperBandSuggestService.lowest stallingManager
      ⟨"study", "hyperband", "param"⟩ 2 ⟨fun _ => emptyRoundParameters, (), []⟩).params "param") :=
    getSuggestions_zeroRound (fun _ => rfl) (fun _ _ => rfl) (fun _ _ => rfl) (fun _ _ => rfl)
    (fun _ => rfl) (fun _ _ => ⟨"t", (), rfl⟩) rfl _
    (by rw [first, AcceptedAfterSave, foldl_suggestionParameterList]
        simp [s₁, commitRound_eq, emptyRoundParameters_decode])
    (by rw [first, back.shloopitr (by omega), shloopitr]; decide)
    (by rw [first, back.shloopitr (by omega), back.currentS (by omega), shloopitr, currentS]; decide)
    (by rw [first, trials]; exact List.cons_ne_nil _ _)
    (fun m objective t member => stallingManager_serves _ _ m (by
      rw [first, trials, List.mem_singleton] at member
      rw [member]
      decide))
    (by rw [first]; exact zero)
  refine ⟨fun s => ⟨?_, fun empty => ?_⟩, blank.2.2.2, fun k => ?_⟩
  · rw [decodeParameters, foldl_suggestionParameterList, etaDefault_eq]
    rfl
  · rw [(decodeParameters_readsBack s).evaluatingTrials, empty]
    rfl
  · exact afterCalls_blankRound (fun _ => rfl) (fun _ _ => rfl) (fun _ _ => rfl) (fun _ => rfl)
      (fun _ _ => rfl) k _ blank

end Katib
