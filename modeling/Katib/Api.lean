import Katib.Go
import Katib.Strconv

/-!
# The Manager API seen by the suggestion service

The messages of `pkg/api` that the Hyperband service reads or writes, with the fields it
uses, and the Manager RPCs it calls. The Manager is an arbitrary deterministic machine: each
RPC reads its state `σ` and answers with a reply or an error, so quantifying over `σ` and
`ManagerClient σ` covers every Manager behaviour. The suggestion parameters are stored: a
successful `SetSuggestionParameters` writes the list under its `ParamId`, and
`GetSuggestionParameters` reads it back. Every request is logged with whether it was served.
-/

set_option autoImplicit false

namespace Katib

inductive ParameterType where
  | unknownType | double | int | discrete | categorical
  deriving DecidableEq, Repr

inductive OptimizationType where
  | unknownOptimization | minimize | maximize
  deriving DecidableEq, Repr

/-- The states of a worker's lifecycle. -/
inductive State where
  | pending | running | completed | killed
  deriving DecidableEq, Repr

structure Parameter where
  Name : String
  ParameterType : ParameterType
  Value : String
  deriving DecidableEq, Repr

structure Trial where
  TrialId : String
  StudyId : String
  ParameterSet : List Parameter
  deriving DecidableEq, Repr

structure FeasibleSpace where
  Max : String
  Min : String
  List : List String
  deriving DecidableEq, Repr

structure ParameterConfig where
  Name : String
  ParameterType : ParameterType
  Feasible : FeasibleSpace
  deriving DecidableEq, Repr

/-- `StudyConfig`; `ParameterConfigs` stands for `ParameterConfigs.Configs`. -/
structure StudyConfig where
  ObjectiveValueName : String
  OptimizationType : OptimizationType
  ParameterConfigs : List ParameterConfig
  deriving DecidableEq, Repr

structure Worker where
  WorkerId : String
  StudyId : String
  TrialId : String
  Status : State
  deriving DecidableEq, Repr

structure MetricsLog where
  Name : String
  Values : List String
  deriving DecidableEq, Repr

structure MetricsLogSet where
  WorkerId : String
  MetricsLogs : List MetricsLog
  WorkerStatus : State
  deriving DecidableEq, Repr

structure SuggestionParameter where
  Name : String
  Value : String
  deriving DecidableEq, Repr

structure GetSuggestionsRequest where
  StudyId : String
  SuggestionAlgorithm : String
  ParamId : String
  deriving DecidableEq, Repr

/-- The reply's trials; `none` is a nil `*Trial`. -/
structure GetSuggestionsReply where
  Trials : List (Option Trial)
  deriving DecidableEq, Repr

structure SetSuggestionParametersRequest where
  StudyId : String
  SuggestionAlgorithm : String
  ParamId : String
  SuggestionParameters : List SuggestionParameter
  deriving DecidableEq, Repr

/-- A request to the Manager, with the fields the service fills in. -/
inductive Request where
  | getSuggestionParameters (paramId : String)
  | setSuggestionParameters (request : SetSuggestionParametersRequest)
  | getStudy (studyId : String)
  | createTrial (trial : Trial)
  | getTrials (studyId : String)
  | getWorkers (studyId trialId : String)
  | getMetrics (studyId : String) (workerIds metricsNames : List String)
  deriving DecidableEq, Repr

namespace Request

/-- Whether the request is a `SetSuggestionParameters`. -/
def isSet : Request → Bool
  | .setSuggestionParameters _ => true
  | _ => false

/-- Whether the request is a `CreateTrial`. -/
def isCreateTrial : Request → Bool
  | .createTrial _ => true
  | _ => false

/-- Requests other than `SetSuggestionParameters`. -/
def NoSave (q : Request) : Prop := q.isSet = false

/-- Requests that neither save suggestion parameters nor create a trial. -/
def ReadOnly (q : Request) : Prop := q.isSet = false ∧ q.isCreateTrial = false

end Request

/-- How the Manager answers: `dial` is `grpc.Dial`; the two suggestion-parameter RPCs only
decide whether they go through, the stored lists being part of `World`. -/
structure ManagerClient (σ : Type) where
  dial : σ → Except GoError Unit × σ
  getSuggestionParameters : σ → String → Except GoError Unit × σ
  setSuggestionParameters : σ → SetSuggestionParametersRequest → Except GoError Unit × σ
  getStudy : σ → String → Except GoError StudyConfig × σ
  createTrial : σ → Trial → Except GoError String × σ
  getTrials : σ → String → Except GoError (List Trial) × σ
  getWorkers : σ → String → String → Except GoError (List Worker) × σ
  getMetrics : σ → String → List String → List String → Except GoError (List MetricsLogSet) × σ

/-- A Manager without state of its own that serves every RPC with the same replies: the
study, the id of every created trial, and the trials, workers and metrics it lists. -/
def ManagerClient.serving (sconf : StudyConfig) (trialId : String) (trials : List Trial)
    (workers : List Worker) (metrics : List MetricsLogSet) : ManagerClient Unit where
  dial _ := (.ok (), ())
  getSuggestionParameters _ _ := (.ok (), ())
  setSuggestionParameters _ _ := (.ok (), ())
  getStudy _ _ := (.ok sconf, ())
  createTrial _ _ := (.ok trialId, ())
  getTrials _ _ := (.ok trials, ())
  getWorkers _ _ _ := (.ok workers, ())
  getMetrics _ _ _ _ := (.ok metrics, ())

/-- The Manager's stored suggestion parameters by `ParamId`, the rest of its state, and the
requests it was sent, each with whether it was served. -/
structure World (σ : Type) where
  params : String → List SuggestionParameter
  manager : σ
  requests : List (Request × Bool)

namespace World

variable {σ β : Type}

/-- Sends `request`; `answer` gives the reply and the Manager's next state. -/
def rpc (answer : σ → Except GoError β × σ) (request : Request) : Go (World σ) β := fun w =>
  match answer w.manager with
  | (.ok b, m) => (.ok b, { w with manager := m, requests := w.requests ++ [(request, true)] })
  | (.error err, m) =>
      (.error (.error err), { w with manager := m, requests := w.requests ++ [(request, false)] })

theorem rpc_ok {answer : σ → Except GoError β × σ} {request : Request} {w : World σ} {b : β} {m : σ}
    (served : answer w.manager = (.ok b, m)) :
    rpc answer request w =
      (.ok b, { w with manager := m, requests := w.requests ++ [(request, true)] }) := by
  unfold rpc
  rw [served]

theorem rpc_eq_ok {answer : σ → Except GoError β × σ} {request : Request} {w w' : World σ} {b : β}
    (returned : rpc answer request w = (.ok b, w')) :
    answer w.manager = (.ok b, w'.manager) ∧ w'.params = w.params ∧
      w'.requests = w.requests ++ [(request, true)] := by
  unfold rpc at returned
  split at returned <;> simp only [Prod.mk.injEq, Except.ok.injEq, reduceCtorEq, false_and]
    at returned
  obtain ⟨rfl, rfl⟩ := returned
  exact ⟨by assumption, rfl, rfl⟩

/-- Since `w₀`, the stored parameters are unchanged and every request sent is `allowed`. -/
def Extends (allowed : Request → Prop) (w₀ w : World σ) : Prop :=
  w.params = w₀.params ∧ ∃ sent, w.requests = w₀.requests ++ sent ∧ ∀ q ∈ sent, allowed q.1

theorem Extends.refl (allowed : Request → Prop) (w₀ : World σ) : Extends allowed w₀ w₀ :=
  ⟨rfl, [], by simp, by simp⟩

theorem rpc_extends {allowed : Request → Prop} (w₀ : World σ) (answer : σ → Except GoError β × σ)
    (request : Request) (permitted : allowed request) :
    Go.Keeps (Extends allowed w₀) (rpc answer request) := by
  rintro w ⟨same, sent, grown, ok⟩
  have step : ∀ served : Bool, ∀ q ∈ sent ++ [(request, served)], allowed q.1 := by
    intro served q member
    rcases List.mem_append.mp member with old | new
    · exact ok q old
    · simp only [List.mem_singleton] at new
      rw [new]
      exact permitted
  unfold rpc
  split
  · exact ⟨same, _, by simp [grown], step true⟩
  · exact ⟨same, _, by simp [grown], step false⟩

theorem Extends.mono {allowed wider : Request → Prop} {w₀ w : World σ}
    (weaker : ∀ q, allowed q → wider q) (grown : Extends allowed w₀ w) : Extends wider w₀ w := by
  obtain ⟨same, sent, log, ok⟩ := grown
  exact ⟨same, sent, log, fun q member => weaker _ (ok q member)⟩

theorem Extends.trans {allowed : Request → Prop} {w₀ w w' : World σ}
    (first : Extends allowed w₀ w) (second : Extends allowed w w') : Extends allowed w₀ w' := by
  obtain ⟨same, sent, log, ok⟩ := first
  obtain ⟨same', sent', log', ok'⟩ := second
  refine ⟨same'.trans same, sent ++ sent', by rw [log', log, List.append_assoc], ?_⟩
  intro q member
  rcases List.mem_append.mp member with old | new
  · exact ok q old
  · exact ok' q new

/-- The requests sent since `w`. -/
def sentSince (w w' : World σ) : List (Request × Bool) := w'.requests.drop w.requests.length

theorem sentSince_of_append {w w' : World σ} {sent : List (Request × Bool)}
    (log : w'.requests = w.requests ++ sent) : sentSince w w' = sent := by
  rw [sentSince, log, List.drop_left]

theorem keeps_extends {allowed wider : Request → Prop} {x : Go (World σ) β}
    (step : ∀ w, Go.Keeps (Extends allowed w) x) (weaker : ∀ q, allowed q → wider q)
    (w₀ : World σ) : Go.Keeps (Extends wider w₀) x := fun w grown =>
  grown.trans ((step w w (Extends.refl allowed w)).mono weaker)

end World

/-- The trial as its `CreateTrial` request carries it, before the Manager names it. -/
def Trial.unnamed (t : Trial) : Trial := { t with TrialId := "" }

@[simp] theorem Trial.unnamed_studyId (t : Trial) : t.unnamed.StudyId = t.StudyId := rfl

/-- The trials of the served `CreateTrial` requests among `sent`, in order. -/
def createdTrials (sent : List (Request × Bool)) : List Trial :=
  sent.filterMap fun
    | (.createTrial t, true) => some t
    | _ => none

theorem createdTrials_append (sent sent' : List (Request × Bool)) :
    createdTrials (sent ++ sent') = createdTrials sent ++ createdTrials sent' :=
  List.filterMap_append _ _ _

theorem createdTrials_created (ts : List Trial) :
    createdTrials (ts.map fun t => (Request.createTrial t.unnamed, true)) = ts.map Trial.unnamed := by
  induction ts with
  | nil => rfl
  | cons t ts ih => exact congrArg _ ih

theorem createdTrials_eq_nil {sent : List (Request × Bool)}
    (noCreate : ∀ q ∈ sent, q.1.isCreateTrial = false) : createdTrials sent = [] := by
  induction sent with
  | nil => rfl
  | cons q sent ih =>
      obtain ⟨_ | _ | _ | t | _ | _ | _, served⟩ := q
      all_goals first
        | exact ih fun q member => noCreate q (List.mem_cons_of_mem _ member)
        | cases noCreate _ (List.mem_cons_self _ _)

variable {σ : Type}

/-- `c.GetStudy(ctx, &api.GetStudyRequest{StudyId: studyId})`. -/
def getStudy (c : ManagerClient σ) (studyId : String) : Go (World σ) StudyConfig :=
  World.rpc (c.getStudy · studyId) (.getStudy studyId)

/-- `c.CreateTrial(ctx, &api.CreateTrialRequest{Trial: t})`, returning the `TrialId`. -/
def createTrial (c : ManagerClient σ) (t : Trial) : Go (World σ) String :=
  World.rpc (c.createTrial · t) (.createTrial t)

def getTrials (c : ManagerClient σ) (studyId : String) : Go (World σ) (List Trial) :=
  World.rpc (c.getTrials · studyId) (.getTrials studyId)

def getWorkers (c : ManagerClient σ) (studyId trialId : String) : Go (World σ) (List Worker) :=
  World.rpc (c.getWorkers · studyId trialId) (.getWorkers studyId trialId)

def getMetrics (c : ManagerClient σ) (studyId : String) (workerIds metricsNames : List String) :
    Go (World σ) (List MetricsLogSet) :=
  World.rpc (c.getMetrics · studyId workerIds metricsNames) (.getMetrics studyId workerIds metricsNames)

/-- `c.GetSuggestionParameters`: when served, the list stored under `paramId`. -/
def getSuggestionParameters (c : ManagerClient σ) (paramId : String) :
    Go (World σ) (List SuggestionParameter) := do
  World.rpc (c.getSuggestionParameters · paramId) (.getSuggestionParameters paramId)
  fun w => (.ok (w.params paramId), w)

/-- `c.SetSuggestionParameters`: when served, the list is stored under its `ParamId`. -/
def setSuggestionParameters (c : ManagerClient σ) (req : SetSuggestionParametersRequest) :
    Go (World σ) Unit := do
  World.rpc (c.setSuggestionParameters · req) (.setSuggestionParameters req)
  fun w => (.ok (), { w with params := Function.update w.params req.ParamId req.SuggestionParameters })

/-- `grpc.Dial`; it reaches no RPC, so nothing is logged. -/
def dial (c : ManagerClient σ) : Go (World σ) Unit := fun w =>
  match c.dial w.manager with
  | (.ok (), m) => (.ok (), { w with manager := m })
  | (.error err, m) => (.error (.error err), { w with manager := m })

end Katib
