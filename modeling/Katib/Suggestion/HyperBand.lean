import Katib.Suggestion.Eval

/-!
# `GetSuggestions`

One call loads the Hyperband state from the Manager, stops when `currentS ≤ 0`, starts a new
bracket once the inner counter has passed `currentS`, makes the round's bracket, and stores
the advanced state. The error paths matter: a failed `GetSuggestionParameters` ends the
process through `log.Fatalf`, and the error of the final `saveSuggestionParameters` is
dropped, the call returning its trials all the same.
-/

set_option autoImplicit false

namespace Katib

/-- `hbLoopParamUpdate`: bracket `s = currentS` starts with its size and resource. -/
def hbLoopParamUpdate (hbparam : HyperBandParameters) : HyperBandParameters :=
  { hbparam with
    shloopitr := 0
    n := truncInt ((hbparam.b_l / hbparam.r_l) *
      (hbparam.eta ^ hbparam.currentS / ((hbparam.currentS + 1 : Int) : ℚ)))
    r := hbparam.r_l * hbparam.eta ^ (-hbparam.currentS) }

/-- `getLoopParam`: the size `n_i` and resource `r_i` of round `i = shloopitr`. -/
def getLoopParam (hbparam : HyperBandParameters) : Int × ℚ :=
  (truncInt ((hbparam.n : ℚ) * hbparam.eta ^ (-hbparam.shloopitr)),
    hbparam.r * hbparam.eta ^ hbparam.shloopitr)

/-- `shLoopParamUpdate`. -/
def shLoopParamUpdate (hbparam : HyperBandParameters) : HyperBandParameters :=
  { hbparam with
    shloopitr := hbparam.shloopitr + 1
    currentS := if hbparam.shloopitr + 1 > hbparam.currentS then hbparam.currentS - 1
      else hbparam.currentS }

/-- The rollover at the start of a call: past the end of bracket `currentS`, a new one. -/
def startRound (hbparam : HyperBandParameters) : HyperBandParameters :=
  if hbparam.shloopitr > hbparam.currentS then hbLoopParamUpdate hbparam else hbparam

/-- What a call stores after making the trials `tids`. -/
def commitRound (hbparam : HyperBandParameters) (tids : List String) : HyperBandParameters :=
  shLoopParamUpdate { hbparam with evaluatingTrials := tids }

theorem startRound_eq (hbparam : HyperBandParameters) :
    startRound hbparam =
      { hbparam with
        shloopitr := if hbparam.shloopitr > hbparam.currentS then 0 else hbparam.shloopitr
        n := if hbparam.shloopitr > hbparam.currentS then (hbLoopParamUpdate hbparam).n
          else hbparam.n
        r := if hbparam.shloopitr > hbparam.currentS then (hbLoopParamUpdate hbparam).r
          else hbparam.r } := by
  unfold startRound
  split <;> rfl

@[simp] theorem startRound_eta (hbparam : HyperBandParameters) :
    (startRound hbparam).eta = hbparam.eta := by rw [startRound_eq]

@[simp] theorem startRound_currentS (hbparam : HyperBandParameters) :
    (startRound hbparam).currentS = hbparam.currentS := by rw [startRound_eq]

@[simp] theorem startRound_evaluatingTrials (hbparam : HyperBandParameters) :
    (startRound hbparam).evaluatingTrials = hbparam.evaluatingTrials := by rw [startRound_eq]

@[simp] theorem startRound_resourceName (hbparam : HyperBandParameters) :
    (startRound hbparam).ResourceName = hbparam.ResourceName := by rw [startRound_eq]

@[simp] theorem startRound_b_l (hbparam : HyperBandParameters) :
    (startRound hbparam).b_l = hbparam.b_l := by rw [startRound_eq]

@[simp] theorem startRound_r_l (hbparam : HyperBandParameters) :
    (startRound hbparam).r_l = hbparam.r_l := by rw [startRound_eq]

@[simp] theorem startRound_sMax (hbparam : HyperBandParameters) :
    (startRound hbparam).sMax = hbparam.sMax := by rw [startRound_eq]

theorem commitRound_eq (hbparam : HyperBandParameters) (tids : List String) :
    commitRound hbparam tids =
      { hbparam with
        shloopitr := hbparam.shloopitr + 1
        currentS := if hbparam.shloopitr + 1 > hbparam.currentS then hbparam.currentS - 1
          else hbparam.currentS
        evaluatingTrials := tids } := rfl

/-- The decoded objective plays no part in the round. -/
@[simp] theorem startRound_objectiveValueName (hbparam : HyperBandParameters) (name : String) :
    startRound { hbparam with ObjectiveValueName := name } =
      { startRound hbparam with ObjectiveValueName := name } := by
  simp only [startRound_eq]
  rfl

@[simp] theorem getLoopParam_objectiveValueName (hbparam : HyperBandParameters) (name : String) :
    getLoopParam { hbparam with ObjectiveValueName := name } = getLoopParam hbparam := rfl

@[simp] theorem commitRound_objectiveValueName (hbparam : HyperBandParameters) (name : String)
    (tids : List String) :
    commitRound { hbparam with ObjectiveValueName := name } tids =
      { commitRound hbparam tids with ObjectiveValueName := name } := rfl

/-- The saved list has no entry for the objective. -/
@[simp] theorem suggestionParameterList_objectiveValueName (hbparam : HyperBandParameters)
    (name : String) :
    suggestionParameterList { hbparam with ObjectiveValueName := name } =
      suggestionParameterList hbparam := rfl

variable {σ : Type}

/-- `log.Fatalf` on a returned error. -/
def orFatal {α : Type} (message : String) (x : Go (World σ) α) : Go (World σ) α := fun w =>
  match x w with
  | (.error (.error _), w') => (.error (.fatal message), w')
  | result => result

/-- `GetSuggestions` up to the decoded state: connect, read the stored list, decode it. -/
def loadParameters (c : ManagerClient σ) (req : GetSuggestionsRequest) :
    Go (World σ) HyperBandParameters :=
  orFatal "could not connect" (dial c) >>= fun _ =>
  orFatal "GetParameter failed" (getSuggestionParameters c req.ParamId) >>= fun sparam =>
  purseSuggestionParameters c req.StudyId sparam

/-- The bracket of the round: the rollover of `startRound`, then `getLoopParam`'s size and
resource, then `makeBracket`. -/
def roundBracket (h : HyperBandSuggestService σ) (c : ManagerClient σ) (studyId : String)
    (hbparam : HyperBandParameters) : Go (World σ) (Option (List String × List (Option Trial))) :=
  makeBracket h c studyId (getLoopParam (startRound hbparam)).1
    (getLoopParam (startRound hbparam)).2 (startRound hbparam)

/-- `GetSuggestions` after the decode: the stop check, the round's bracket, and the save,
whose error is dropped. -/
def suggestRound (h : HyperBandSuggestService σ) (c : ManagerClient σ)
    (req : GetSuggestionsRequest) (hbparam : HyperBandParameters) :
    Go (World σ) GetSuggestionsReply :=
  if hbparam.currentS ≤ 0 then pure ⟨[]⟩
  else
    roundBracket h c req.StudyId hbparam >>= fun
      | none => Go.throw (.status .failedPrecondition "Previous workers are not completed.")
      | some made =>
          Go.attempt (saveSuggestionParameters c req.StudyId req.SuggestionAlgorithm req.ParamId
            (commitRound (startRound hbparam) made.1)) >>= fun _ => pure ⟨made.2⟩

/-- `GetSuggestions`. -/
def getSuggestions (h : HyperBandSuggestService σ) (c : ManagerClient σ)
    (req : GetSuggestionsRequest) : Go (World σ) GetSuggestionsReply :=
  loadParameters c req >>= suggestRound h c req

/-! ### Loading the state -/

theorem orFatal_keeps {α : Type} {I : World σ → Prop} (message : String) {x : Go (World σ) α}
    (kept : Go.Keeps I x) : Go.Keeps I (orFatal message x) := by
  intro w hold
  unfold orFatal
  split <;> rename_i ran <;> simpa [ran] using kept w hold

theorem orFatal_ok {α : Type} {message : String} {x : Go (World σ) α} {w w' : World σ} {a : α} :
    orFatal message x w = (.ok a, w') ↔ x w = (.ok a, w') := by
  unfold orFatal
  split <;> rename_i ran <;> simp [ran]

theorem dial_extends (allowed : Request → Prop) (c : ManagerClient σ) (w₀ : World σ) :
    Go.Keeps (World.Extends allowed w₀) (dial c) := by
  intro w grown
  unfold dial
  split <;> exact grown

theorem dial_params {c : ManagerClient σ} {w w' : World σ} {u : Unit}
    (dialed : dial c w = (.ok u, w')) : w'.params = w.params := by
  unfold dial at dialed
  split at dialed <;> simp only [Prod.mk.injEq, reduceCtorEq, false_and] at dialed
  rw [← dialed.2]

theorem getSuggestionParameters_ok {c : ManagerClient σ} {paramId : String} {w w' : World σ}
    {sparam : List SuggestionParameter}
    (read : getSuggestionParameters c paramId w = (.ok sparam, w')) :
    sparam = w.params paramId := by
  obtain ⟨_, w₁, sent, read⟩ := Go.bind_eq_ok.mp read
  simp only [Prod.mk.injEq, Except.ok.injEq] at read
  unfold World.rpc at sent
  split at sent <;> simp only [Prod.mk.injEq, reduceCtorEq, false_and] at sent
  rw [← read.1, ← sent.2]

theorem getSuggestionParameters_extends (c : ManagerClient σ) (paramId : String) (w₀ : World σ) :
    Go.Keeps (World.Extends Request.ReadOnly w₀) (getSuggestionParameters c paramId) :=
  Go.Keeps.bind (World.rpc_extends w₀ _ _ ⟨rfl, rfl⟩) fun _ _ grown => grown

theorem loadParameters_extends (c : ManagerClient σ) (req : GetSuggestionsRequest) (w₀ : World σ) :
    Go.Keeps (World.Extends Request.ReadOnly w₀) (loadParameters c req) := by
  refine Go.Keeps.bind (orFatal_keeps _ (dial_extends _ c w₀)) fun _ => ?_
  refine Go.Keeps.bind (orFatal_keeps _ (getSuggestionParameters_extends c req.ParamId w₀))
    fun sparam => ?_
  exact World.keeps_extends (purseSuggestionParameters_extends c req.StudyId sparam)
    (by rintro q rfl; exact ⟨rfl, rfl⟩) w₀

/-- A loaded state is the decode of the stored list, with the objective from the list or from
the study. -/
theorem loadParameters_ok {c : ManagerClient σ} {req : GetSuggestionsRequest} {w w' : World σ}
    {p : HyperBandParameters} (loaded : loadParameters c req w = (.ok p, w')) :
    Accepted ((w.params req.ParamId).foldl purseParameter unsetParameters) ∧
      ∃ name, p = { decodeParameters (w.params req.ParamId) with ObjectiveValueName := name } := by
  obtain ⟨_, w₁, dialed, loaded⟩ := Go.bind_eq_ok.mp loaded
  obtain ⟨sparam, w₂, read, loaded⟩ := Go.bind_eq_ok.mp loaded
  have stored := getSuggestionParameters_ok (orFatal_ok.mp read)
  rw [dial_params (orFatal_ok.mp dialed)] at stored
  exact stored ▸ purseSuggestionParameters_ok loaded

/-- Against a Manager without state that connects, serves `GetSuggestionParameters` and returns
the study `sconf`, loading an accepted list returns its decode. -/
theorem loadParameters_served {c : ManagerClient Unit} {sconf : StudyConfig}
    (dialed : ∀ m, c.dial m = (.ok (), m))
    (read : ∀ m paramId, c.getSuggestionParameters m paramId = (.ok (), m))
    (study : ∀ m studyId, c.getStudy m studyId = (.ok sconf, m)) (req : GetSuggestionsRequest)
    (w : World Unit)
    (accepted : Accepted ((w.params req.ParamId).foldl purseParameter unsetParameters)) :
    ∃ name w₁, loadParameters c req w =
      (.ok { decodeParameters (w.params req.ParamId) with ObjectiveValueName := name }, w₁) := by
  by_cases named : (etaDefault ((w.params req.ParamId).foldl purseParameter unsetParameters)).ObjectiveValueName = ""
  · exact ⟨sconf.ObjectiveValueName, _, by
      simp [loadParameters, orFatal, dial, getSuggestionParameters, World.rpc, dialed, read, study,
        Go.bind_apply, purseSuggestionParameters, accepted, fillObjectiveValueName, named, getStudy,
        decodeParameters]
      rfl⟩
  · exact ⟨_, _, by
      simp only [loadParameters, orFatal, dial, getSuggestionParameters, World.rpc, dialed, read,
        Go.bind_apply, purseSuggestionParameters, if_pos accepted, fillObjectiveValueName,
        if_neg named, Go.pure_apply, decodeParameters]
      rfl⟩

theorem loadParameters_serving (sconf : StudyConfig) (trialId : String) (trials : List Trial)
    (workers : List Worker) (metrics : List MetricsLogSet) (req : GetSuggestionsRequest)
    (w : World Unit)
    (accepted : Accepted ((w.params req.ParamId).foldl purseParameter unsetParameters)) :
    ∃ name w₁, loadParameters (ManagerClient.serving sconf trialId trials workers metrics) req w =
      (.ok { decodeParameters (w.params req.ParamId) with ObjectiveValueName := name }, w₁) :=
  loadParameters_served (fun _ => rfl) (fun _ _ => rfl) (fun _ _ => rfl) req w accepted

/-! ### What one call does -/

/-- A save either fails, leaving the stored parameters as they were, or stores the list. -/
theorem attempt_saveSuggestionParameters (c : ManagerClient σ) (studyId algorithm paramId : String)
    (hbparam : HyperBandParameters) (w : World σ) :
    ∃ m, (∃ err, Go.attempt (saveSuggestionParameters c studyId algorithm paramId hbparam) w =
        (.ok (.error err), { w with manager := m, requests := w.requests ++
          [(.setSuggestionParameters ⟨studyId, algorithm, paramId,
            suggestionParameterList hbparam⟩, false)] })) ∨
      Go.attempt (saveSuggestionParameters c studyId algorithm paramId hbparam) w =
        (.ok (.ok ()),
          { w with
            manager := m
            params := Function.update w.params paramId (suggestionParameterList hbparam)
            requests := w.requests ++
              [(.setSuggestionParameters ⟨studyId, algorithm, paramId,
                suggestionParameterList hbparam⟩, true)] }) := by
  rcases answer : c.setSuggestionParameters w.manager
    ⟨studyId, algorithm, paramId, suggestionParameterList hbparam⟩ with ⟨err | _, m⟩
  · exact ⟨m, .inl ⟨err, by simp [Go.attempt, saveSuggestionParameters, setSuggestionParameters,
      Go.bind_apply, World.rpc, answer]⟩⟩
  · exact ⟨m, .inr (by simp [Go.attempt, saveSuggestionParameters, setSuggestionParameters,
      Go.bind_apply, World.rpc, answer])⟩

/-- Every way a call can end: the load stops; the state says there is nothing left; the
round's bracket stops or finds the workers not done; or the bracket is made and the save is
attempted, the trials being returned whatever the save did. -/
theorem getSuggestions_cases (h : HyperBandSuggestService σ) (c : ManagerClient σ)
    (req : GetSuggestionsRequest) (w : World σ) :
    (∃ stop, loadParameters c req w = (.error stop, (getSuggestions h c req w).2) ∧
        (getSuggestions h c req w).1 = .error stop) ∨
      ∃ p w₁, loadParameters c req w = (.ok p, w₁) ∧
        ((p.currentS ≤ 0 ∧ getSuggestions h c req w = (.ok ⟨[]⟩, w₁)) ∨
          (0 < p.currentS ∧
            ((∃ stop, roundBracket h c req.StudyId p w₁ = (.error stop, (getSuggestions h c req w).2) ∧
                (getSuggestions h c req w).1 = .error stop) ∨
              (roundBracket h c req.StudyId p w₁ = (.ok none, (getSuggestions h c req w).2) ∧
                (getSuggestions h c req w).1 =
                  .error (.error (.status .failedPrecondition "Previous workers are not completed."))) ∨
              ∃ made wb, roundBracket h c req.StudyId p w₁ = (.ok (some made), wb) ∧
                (getSuggestions h c req w).1 = .ok ⟨made.2⟩ ∧
                (Go.attempt (saveSuggestionParameters c req.StudyId req.SuggestionAlgorithm
                  req.ParamId (commitRound (startRound p) made.1)) wb).2 =
                    (getSuggestions h c req w).2))) := by
  unfold getSuggestions
  rw [Go.bind_apply]
  rcases loaded : loadParameters c req w with ⟨stop | p, w₁⟩
  · exact .inl ⟨stop, rfl, rfl⟩
  · refine .inr ⟨p, w₁, rfl, ?_⟩
    dsimp only
    unfold suggestRound
    by_cases stopped : p.currentS ≤ 0
    · exact .inl ⟨stopped, by rw [if_pos stopped]; rfl⟩
    · refine .inr ⟨by omega, ?_⟩
      rw [if_neg stopped, Go.bind_apply]
      rcases built : roundBracket h c req.StudyId p w₁ with ⟨stop | _ | made, wb⟩
      · exact .inl ⟨stop, rfl, rfl⟩
      · exact .inr (.inl ⟨rfl, rfl⟩)
      · obtain ⟨m, ⟨err, saved⟩ | saved⟩ :=
          attempt_saveSuggestionParameters c req.StudyId req.SuggestionAlgorithm req.ParamId
            (commitRound (startRound p) made.1) wb
        all_goals exact .inr (.inr ⟨made, wb, rfl, by simp [Go.bind_apply, saved], by
          simp [Go.bind_apply, saved]⟩)

theorem roundBracket_extends (h : HyperBandSuggestService σ) (c : ManagerClient σ)
    (studyId : String) (hbparam : HyperBandParameters) (w₀ : World σ) :
    Go.Keeps (World.Extends Request.NoSave w₀) (roundBracket h c studyId hbparam) :=
  makeBracket_extends h c studyId _ _ _ w₀

theorem loadParameters_reads {c : ManagerClient σ} {req : GetSuggestionsRequest}
    {w w₁ : World σ} {r : Except Stop HyperBandParameters} (loaded : loadParameters c req w = (r, w₁)) :
    World.Extends Request.ReadOnly w w₁ := by
  have read := loadParameters_extends c req w w (World.Extends.refl _ w)
  rwa [loaded] at read

theorem roundBracket_sends {h : HyperBandSuggestService σ} {c : ManagerClient σ}
    {studyId : String} {hbparam : HyperBandParameters} {w wb : World σ}
    {r : Except Stop (Option (List String × List (Option Trial)))}
    (built : roundBracket h c studyId hbparam w = (r, wb)) :
    World.Extends Request.NoSave w wb := by
  have sent := makeBracket_extends h c studyId (getLoopParam (startRound hbparam)).1
    (getLoopParam (startRound hbparam)).2 (startRound hbparam) w w (World.Extends.refl _ w)
  rwa [← roundBracket, built] at sent

/-! ### The error paths -/

theorem getSuggestions_stalled {h : HyperBandSuggestService σ} {c : ManagerClient σ}
    {req : GetSuggestionsRequest} {w w₁ : World σ} {p : HyperBandParameters}
    (loaded : loadParameters c req w = (.ok p, w₁)) (pos : 0 < p.currentS)
    (child : ¬ MakesMasterBracket (startRound p))
    (stalled : Stalls c req.StudyId (startRound p).ObjectiveValueName (startRound p).evaluatingTrials
      w₁.manager) :
    (getSuggestions h c req w).1 =
        .error (.error (.status .failedPrecondition "Previous workers are not completed.")) ∧
      World.Extends Request.ReadOnly w (getSuggestions h c req w).2 := by
  obtain ⟨w₂, notDone⟩ := evalTrials_stalls stalled [] w₁ rfl
  have notMade : roundBracket h c req.StudyId p w₁ = (.ok none, w₂) := by
    unfold roundBracket makeBracket evalWorkers
    rw [if_neg child, Go.bind_ok notDone]
    rfl
  have call : getSuggestions h c req w =
      (.error (.error (.status .failedPrecondition "Previous workers are not completed.")), w₂) := by
    unfold getSuggestions suggestRound
    rw [Go.bind_ok loaded, if_neg (by omega), Go.bind_ok notMade]
    rfl
  have ranked := evalWorkers_extends c req.StudyId (startRound p) w₁ w₁ (World.Extends.refl _ _)
  rw [evalWorkers, notDone] at ranked
  rw [call]
  exact ⟨rfl, (loadParameters_reads loaded).trans ranked⟩

/-- A call that returns an error has sent no `SetSuggestionParameters`, so the stored state is
as before. At a child round where the Manager's replies bring `evalWorkers` to an evaluating
trial without workers, or to a metrics set of a worker that is not `COMPLETED`, the call sends
no `CreateTrial` and fails with `FAILED_PRECONDITION`. -/
theorem getSuggestions_error_keeps_state (h : HyperBandSuggestService σ) (c : ManagerClient σ)
    (req : GetSuggestionsRequest) (w : World σ) :
    (∀ err, (getSuggestions h c req w).1 = .error (.error err) →
        World.Extends Request.NoSave w (getSuggestions h c req w).2) ∧
      ∀ p w₁, loadParameters c req w = (.ok p, w₁) → 0 < p.currentS →
        ¬ MakesMasterBracket (startRound p) →
        Stalls c req.StudyId (startRound p).ObjectiveValueName (startRound p).evaluatingTrials
          w₁.manager →
          (getSuggestions h c req w).1 =
              .error (.error (.status .failedPrecondition "Previous workers are not completed.")) ∧
            World.Extends Request.ReadOnly w (getSuggestions h c req w).2 := by
  refine ⟨fun err failed => ?_, fun p w₁ loaded pos child stalled =>
    getSuggestions_stalled loaded pos child stalled⟩
  rcases getSuggestions_cases h c req w with ⟨stop, loaded, -⟩ |
    ⟨p, w₁, loaded, ⟨-, call⟩ | ⟨-, ⟨stop, built, -⟩ | ⟨built, -⟩ | ⟨made, wb, -, replied, -⟩⟩⟩
  · exact (loadParameters_reads loaded).mono fun q readOnly => readOnly.1
  · simp [call] at failed
  · exact ((loadParameters_reads loaded).mono fun q readOnly => readOnly.1).trans
      (roundBracket_sends built)
  · exact ((loadParameters_reads loaded).mono fun q readOnly => readOnly.1).trans
      (roundBracket_sends built)
  · simp [replied] at failed

theorem waitingState_loads (workers : List Worker) (metrics : List MetricsLogSet) :
    ∃ p w₁, loadParameters (ManagerClient.serving ⟨"accuracy", .maximize, []⟩ "t" [] workers
        metrics) ⟨"study", "hyperband", "param"⟩
        ⟨fun _ => suggestionParameterList waitingState, (), []⟩ = (.ok p, w₁) ∧
      0 < p.currentS ∧ ¬ MakesMasterBracket (startRound p) ∧
      (startRound p).evaluatingTrials = ["t"] := by
  have back := decodeParameters_readsBack waitingState
  obtain ⟨name, w₁, loaded⟩ := loadParameters_serving ⟨"accuracy", .maximize, []⟩ "t" [] workers
    metrics ⟨"study", "hyperband", "param"⟩ ⟨fun _ => suggestionParameterList waitingState, (), []⟩
    (by rw [foldl_suggestionParameterList]; exact ⟨by norm_num [waitingState], by decide⟩)
  have currentS : (decodeParameters (suggestionParameterList waitingState)).currentS = 1 :=
    back.currentS (by decide)
  have shloopitr : (decodeParameters (suggestionParameterList waitingState)).shloopitr = 1 :=
    back.shloopitr (by decide)
  have trials : (decodeParameters (suggestionParameterList waitingState)).evaluatingTrials =
      ["t"] := back.evaluatingTrials.trans (by decide)
  refine ⟨_, w₁, loaded, by show 0 < (decodeParameters _).currentS; rw [currentS]; decide, ?_, ?_⟩
  · simp [MakesMasterBracket, startRound_eq, currentS, shloopitr, trials]
  · simp [startRound_eq, currentS, shloopitr, trials]

/-- From `waitingState`, the call stops with `FAILED_PRECONDITION`, having sent no save and no
`CreateTrial`, against a Manager that lists no worker for `t`, and against one that lists a
worker whose metrics set is still `RUNNING`. -/
theorem getSuggestions_workers_pending :
    (∃ p w₁, loadParameters (ManagerClient.serving ⟨"accuracy", .maximize, []⟩ "t" [] [] [])
        ⟨"study", "hyperband", "param"⟩
        ⟨fun _ => suggestionParameterList waitingState, (), []⟩ = (.ok p, w₁) ∧
      0 < p.currentS ∧ ¬ MakesMasterBracket (startRound p) ∧
      Stalls (ManagerClient.serving ⟨"accuracy", .maximize, []⟩ "t" [] [] []) "study"
        (startRound p).ObjectiveValueName (startRound p).evaluatingTrials w₁.manager ∧
      (getSuggestions HyperBandSuggestService.lowest
          (ManagerClient.serving ⟨"accuracy", .maximize, []⟩ "t" [] [] [])
          ⟨"study", "hyperband", "param"⟩
          ⟨fun _ => suggestionParameterList waitingState, (), []⟩).1 =
        .error (.error (.status .failedPrecondition "Previous workers are not completed.")) ∧
      World.Extends Request.ReadOnly ⟨fun _ => suggestionParameterList waitingState, (), []⟩
        (getSuggestions HyperBandSuggestService.lowest
          (ManagerClient.serving ⟨"accuracy", .maximize, []⟩ "t" [] [] [])
          ⟨"study", "hyperband", "param"⟩
          ⟨fun _ => suggestionParameterList waitingState, (), []⟩).2) ∧
    (∃ p w₁, loadParameters (ManagerClient.serving ⟨"accuracy", .maximize, []⟩ "t" []
          [⟨"w", "study", "t", .running⟩] [⟨"w", [], .running⟩])
        ⟨"study", "hyperband", "param"⟩
        ⟨fun _ => suggestionParameterList waitingState, (), []⟩ = (.ok p, w₁) ∧
      0 < p.currentS ∧ ¬ MakesMasterBracket (startRound p) ∧
      Stalls (ManagerClient.serving ⟨"accuracy", .maximize, []⟩ "t" []
          [⟨"w", "study", "t", .running⟩] [⟨"w", [], .running⟩]) "study"
        (startRound p).ObjectiveValueName (startRound p).evaluatingTrials w₁.manager ∧
      (getSuggestions HyperBandSuggestService.lowest
          (ManagerClient.serving ⟨"accuracy", .maximize, []⟩ "t" []
            [⟨"w", "study", "t", .running⟩] [⟨"w", [], .running⟩])
          ⟨"study", "hyperband", "param"⟩
          ⟨fun _ => suggestionParameterList waitingState, (), []⟩).1 =
        .error (.error (.status .failedPrecondition "Previous workers are not completed.")) ∧
      World.Extends Request.ReadOnly ⟨fun _ => suggestionParameterList waitingState, (), []⟩
        (getSuggestions HyperBandSuggestService.lowest
          (ManagerClient.serving ⟨"accuracy", .maximize, []⟩ "t" []
            [⟨"w", "study", "t", .running⟩] [⟨"w", [], .running⟩])
          ⟨"study", "hyperband", "param"⟩
          ⟨fun _ => suggestionParameterList waitingState, (), []⟩).2) := by
  obtain ⟨p, w₁, loaded, pos, child, trials⟩ := waitingState_loads [] []
  obtain ⟨q, w₂, loaded', pos', child', trials'⟩ :=
    waitingState_loads [⟨"w", "study", "t", .running⟩] [⟨"w", [], .running⟩]
  have noWorker : Stalls (ManagerClient.serving ⟨"accuracy", .maximize, []⟩ "t" [] [] []) "study"
      (startRound p).ObjectiveValueName (startRound p).evaluatingTrials w₁.manager := by
    rw [trials]
    exact .here rfl rfl (.inr ⟨rfl, fun _ member => absurd member (List.not_mem_nil _)⟩)
  have running : Stalls (ManagerClient.serving ⟨"accuracy", .maximize, []⟩ "t" []
      [⟨"w", "study", "t", .running⟩] [⟨"w", [], .running⟩]) "study"
      (startRound q).ObjectiveValueName (startRound q).evaluatingTrials w₂.manager := by
    rw [trials']
    exact .here rfl rfl (.inl ⟨[], _, [], rfl, fun _ member => absurd member (List.not_mem_nil _),
      by decide⟩)
  exact ⟨⟨p, w₁, loaded, pos, child, noWorker, (getSuggestions_error_keeps_state _ _ _ _).2 p w₁
      loaded pos child noWorker⟩,
    ⟨q, w₂, loaded', pos', child', running, (getSuggestions_error_keeps_state _ _ _ _).2 q w₂
      loaded' pos' child' running⟩⟩

/-- A call whose `GetSuggestionParameters` fails ends the process through `log.Fatalf`
instead of returning the error. -/
theorem getSuggestions_fatal_of_getSuggestionParameters (h : HyperBandSuggestService σ)
    (c : ManagerClient σ) (req : GetSuggestionsRequest) (w : World σ) (m m' : σ) (err : GoError)
    (dialed : c.dial w.manager = (.ok (), m))
    (failed : c.getSuggestionParameters m req.ParamId = (.error err, m')) :
    (getSuggestions h c req w).1 = .error (.fatal "GetParameter failed") := by
  simp [getSuggestions, loadParameters, orFatal, dial, getSuggestionParameters, World.rpc,
    Go.bind_apply, dialed, failed]

/-- A Manager that cannot serve `GetSuggestionParameters` ends the service. -/
theorem getSuggestions_fatal_unavailable :
    (getSuggestions HyperBandSuggestService.lowest
      { ManagerClient.serving ⟨"accuracy", .maximize, []⟩ "t" [] [] [] with
        getSuggestionParameters := fun m _ => (.error (.status .unavailable "connection refused"), m) }
      ⟨"study", "hyperband", "param"⟩ ⟨fun _ => [], (), []⟩).1 =
      .error (.fatal "GetParameter failed") :=
  getSuggestions_fatal_of_getSuggestionParameters _ _ _ _ () () _ rfl rfl

/-- A call whose bracket is made but whose save fails still returns the bracket's trials, and
the stored state stays as it was. -/
theorem getSuggestions_save_dropped {h : HyperBandSuggestService σ} {c : ManagerClient σ}
    {req : GetSuggestionsRequest} {w w₁ wb : World σ} {p : HyperBandParameters}
    {made : List String × List (Option Trial)} {err : GoError} {m : σ}
    (loaded : loadParameters c req w = (.ok p, w₁)) (pos : 0 < p.currentS)
    (built : roundBracket h c req.StudyId p w₁ = (.ok (some made), wb))
    (refused : c.setSuggestionParameters wb.manager ⟨req.StudyId, req.SuggestionAlgorithm,
      req.ParamId, suggestionParameterList (commitRound (startRound p) made.1)⟩ = (.error err, m)) :
    (getSuggestions h c req w).1 = .ok ⟨made.2⟩ ∧
      (getSuggestions h c req w).2.params = w.params := by
  have stored : wb.params = w.params :=
    (roundBracket_sends built).1.trans (loadParameters_reads loaded).1
  unfold getSuggestions suggestRound
  rw [Go.bind_ok loaded, if_neg (by omega), Go.bind_ok built]
  simp [Go.attempt, saveSuggestionParameters, setSuggestionParameters, World.rpc, Go.bind_apply,
    refused, stored]

end Katib
