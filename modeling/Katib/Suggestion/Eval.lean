import Katib.Suggestion.Bracket

/-!
# Scoring the evaluating trials

`evalWorkers` asks the Manager, trial after trial, for the trial's workers and for their
objective series, and scores the trial by the mean of the series' last values. When every
trial has workers and every worker reported, the bracket has one entry per evaluating trial,
with the trial's ID and that mean, best first. It indexes the first log of each metrics set and
the last value of that log without a check.
-/

set_option autoImplicit false

namespace Katib

variable {σ : Type}

/-- The last value of a metrics set's first log, as a number; `0` when it does not parse, or
when there is none. -/
def lastObjective (ml : MetricsLogSet) : ℚ :=
  ((ml.MetricsLogs.head?.bind fun log => log.Values.getLast?).bind strconvParseFloat).getD 0

/-- A metrics set of a worker that completed and reported a non-empty objective series. -/
def Reported (ml : MetricsLogSet) : Prop :=
  ml.WorkerStatus = .completed ∧ ∃ log rest, ml.MetricsLogs = log :: rest ∧ log.Values ≠ []

/-- From the state `m`, the Manager lists at least one worker for the trial `t`, all of `t`, and
then returns for the requested workers one reported metrics set each. -/
def ServesTrial (c : ManagerClient σ) (studyId objective : String) (m : σ) (t : String) : Prop :=
  ∃ ws m₁ sets m₂, c.getWorkers m studyId t = (.ok ws, m₁) ∧ ws ≠ [] ∧ (∀ x ∈ ws, x.TrialId = t) ∧
    c.getMetrics m₁ studyId (ws.map (·.WorkerId)) [objective] = (.ok sets, m₂) ∧
    (sets.map (·.WorkerId)).Perm (ws.map (·.WorkerId)) ∧ ∀ ml ∈ sets, Reported ml

/-- The last objective value of a metrics set, if it has one, is a decimal literal. Go's
`ParseFloat` also reads `NaN`, `Inf` and hexadecimal forms, which the model does not, and a
`NaN` score leaves `sort.Sort` unsorted. -/
def DecimalObjective (ml : MetricsLogSet) : Prop :=
  ∀ log ∈ ml.MetricsLogs.head?, ∀ v ∈ log.Values.getLast?, (strconvParseFloat v).isSome

/-- The scores the Manager's replies give the trials `tids`, asked in turn from the state `m`
and ending in `m'`: each trial's entry has its ID, and the sum of the last objective values of
the sets `GetMetrics` returns, one per worker `GetWorkers` lists, over the number of workers. -/
inductive Scores (c : ManagerClient σ) (studyId objective : String) :
    List String → σ → List Evals → σ → Prop
  | nil (m : σ) : Scores c studyId objective [] m [] m
  | cons {t : String} {tids : List String} {m m₁ m₂ m' : σ} {ws : List Worker}
      {sets : List MetricsLogSet} {es : List Evals}
      (listed : c.getWorkers m studyId t = (.ok ws, m₁))
      (measured : c.getMetrics m₁ studyId (ws.map (·.WorkerId)) [objective] = (.ok sets, m₂))
      (perWorker : (sets.map (·.WorkerId)).Perm (ws.map (·.WorkerId)))
      (rest : Scores c studyId objective tids m₂ es m') :
      Scores c studyId objective (t :: tids) m
        (⟨t, (sets.map lastObjective).sum / (ws.length : ℚ)⟩ :: es) m'

theorem Scores.ids {c : ManagerClient σ} {studyId objective : String} {tids : List String}
    {m m' : σ} {es : List Evals} (scored : Scores c studyId objective tids m es m') :
    es.map (·.id) = tids := by
  induction scored with
  | nil => rfl
  | cons _ _ _ _ ih => exact congrArg _ ih

/-! ### The sort -/

instance : IsTotal Evals (fun a b => b.value ≤ a.value) := ⟨fun a b => le_total b.value a.value⟩

instance : IsTrans Evals (fun a b => b.value ≤ a.value) := ⟨fun _ _ _ ab bc => bc.trans ab⟩

theorem perm_sortBracket (bracket : Bracket) : (sortBracket bracket).Perm bracket :=
  List.perm_insertionSort _ bracket

theorem sorted_sortBracket (bracket : Bracket) :
    (sortBracket bracket).Sorted fun a b => b.value ≤ a.value :=
  List.sorted_insertionSort _ bracket

/-! ### The loops -/

theorem sumObjective_reported {sets : List MetricsLogSet} (reported : ∀ ml ∈ sets, Reported ml)
    (vs : ℚ) (w : World σ) :
    sumObjective sets vs w = (.ok (some (vs + (sets.map lastObjective).sum)), w) := by
  induction sets generalizing vs with
  | nil => simp [sumObjective]
  | cons ml mls ih =>
      obtain ⟨completed, log, rest, logs, values⟩ := reported ml (List.mem_cons_self ml mls)
      have last : log.Values.getLast? = some (log.Values.getLast values) :=
        List.getLast?_eq_getLast log.Values values
      rw [sumObjective, if_pos completed, logs]
      simp only [last]
      rw [ih fun x member => reported x (List.mem_cons_of_mem ml member), List.map_cons,
        List.sum_cons, ← add_assoc]
      simp [lastObjective, logs, last]

/-- When the Manager serves every trial left, the loop appends their scores and sorts. -/
theorem evalTrials_scores (c : ManagerClient σ) (studyId objective : String) :
    ∀ (tids : List String) (bracket : Bracket) (w : World σ),
      (∀ m, ∀ t ∈ tids, ServesTrial c studyId objective m t) →
        ∃ es w', Scores c studyId objective tids w.manager es w'.manager ∧
          evalTrials c studyId objective tids bracket w = (.ok (some (sortBracket (bracket ++ es))), w')
  | [], bracket, w, _ => ⟨[], w, .nil _, by rw [List.append_nil]; rfl⟩
  | t :: tids, bracket, w, served => by
      obtain ⟨ws, m₁, sets, m₂, listed, nonempty, ofTrial, measured, perWorker, reported⟩ :=
        served w.manager t (List.mem_cons_self t tids)
      obtain ⟨first, more, rfl⟩ := List.exists_cons_of_ne_nil nonempty
      obtain ⟨es, w', scored, ranked⟩ := evalTrials_scores c studyId objective tids
        (bracket ++ [⟨t, (sets.map lastObjective).sum / ((first :: more).length : ℚ)⟩])
        { w with manager := m₂, requests := w.requests ++
          [(.getWorkers studyId t, true), (.getMetrics studyId ((first :: more).map (·.WorkerId))
            [objective], true)] }
        fun m t' member => served m t' (List.mem_cons_of_mem t member)
      refine ⟨_, w', .cons listed measured perWorker scored, ?_⟩
      have gotWorkers : getWorkers c studyId t w = (.ok (first :: more), _) := World.rpc_ok listed
      have gotMetrics : getMetrics c studyId ((first :: more).map (·.WorkerId)) [objective]
          { w with manager := m₁, requests := w.requests ++ [(.getWorkers studyId t, true)] } =
          (.ok sets, _) := World.rpc_ok measured
      rw [evalTrials, Go.bind_ok gotWorkers, Go.bind_ok gotMetrics,
        Go.bind_ok (sumObjective_reported reported 0 _)]
      simpa [ofTrial first (List.mem_cons_self _ _)] using ranked

/-! ### `evalWorkers` -/

/-- When, for every evaluating trial, the Manager lists at least one worker of the trial and
returns for each of them one metrics set, `COMPLETED` and with a non-empty objective series,
`evalWorkers` returns a bracket with one entry per evaluating trial, its ID and the mean of its
workers' last objective values (a value that does not parse counting `0`), ordered from the
highest value down. -/
theorem evalWorkers_ranks_trials (c : ManagerClient σ) (studyId : String)
    (hbparam : HyperBandParameters) (w : World σ)
    (served : ∀ m, ∀ t ∈ hbparam.evaluatingTrials,
      ServesTrial c studyId hbparam.ObjectiveValueName m t) :
    ∃ b es w', evalWorkers c studyId hbparam w = (.ok (some b), w') ∧
      Scores c studyId hbparam.ObjectiveValueName hbparam.evaluatingTrials w.manager es w'.manager ∧
      b.length = hbparam.evaluatingTrials.length ∧ b.Perm es ∧
      b.Sorted fun a b => b.value ≤ a.value := by
  obtain ⟨es, w', scored, ranked⟩ := evalTrials_scores c studyId _ _ [] w served
  rw [List.nil_append] at ranked
  have perm := perm_sortBracket es
  refine ⟨_, es, w', ranked, scored, ?_, perm, sorted_sortBracket es⟩
  rw [perm.length_eq, ← scored.ids, List.length_map]

/-- The last objective value each worker of `scoringManager` reports. -/
def workerScore (workerId : String) : String :=
  if workerId = "a-1" then "0.2" else if workerId = "a-2" then "0.4"
  else if workerId = "b-1" then "0.9" else "0.7"

/-- A Manager of a maximizing study that lists for each trial `t` two completed workers, `t-1`
and `t-2`, and reports for each worker a series ending at its `workerScore`. -/
def scoringManager : ManagerClient Unit where
  dial _ := (.ok (), ())
  getSuggestionParameters _ _ := (.ok (), ())
  setSuggestionParameters _ _ := (.ok (), ())
  getStudy _ _ := (.ok ⟨"accuracy", .maximize, []⟩, ())
  createTrial _ _ := (.ok "t", ())
  getTrials _ _ := (.ok [], ())
  getWorkers _ studyId t :=
    (.ok [⟨t ++ "-1", studyId, t, .completed⟩, ⟨t ++ "-2", studyId, t, .completed⟩], ())
  getMetrics _ _ ids _ :=
    (.ok (ids.map fun id => ⟨id, [⟨"accuracy", [workerScore id]⟩], .completed⟩), ())

theorem scoringManager_serves (studyId objective : String) (m : Unit) (t : String) :
    ServesTrial scoringManager studyId objective m t := by
  refine ⟨_, (), _, (), rfl, List.cons_ne_nil _ _, by simp, rfl, .refl _, fun ml member => ?_⟩
  simp only [List.map, List.mem_cons, List.not_mem_nil, or_false] at member
  rcases member with rfl | rfl <;> exact ⟨rfl, _, _, rfl, List.cons_ne_nil _ _⟩

/-- Two trials `a` and `b`, each with two workers: `scoringManager` serves both, and
`evalWorkers` ranks them. -/
theorem evalWorkers_ranks_trials_reported :
    (∀ m, ∀ t ∈ ({ waitingState with evaluatingTrials := ["a", "b"] } : HyperBandParameters).evaluatingTrials,
      ServesTrial scoringManager "study" waitingState.ObjectiveValueName m t) ∧
    ∃ b es w', evalWorkers scoringManager "study" { waitingState with evaluatingTrials := ["a", "b"] }
        ⟨fun _ => [], (), []⟩ = (.ok (some b), w') ∧
      Scores scoringManager "study" waitingState.ObjectiveValueName ["a", "b"] () es w'.manager ∧
      b.length = ["a", "b"].length ∧ b.Perm es ∧ b.Sorted fun a b => b.value ≤ a.value :=
  ⟨fun m t _ => scoringManager_serves _ _ m t, evalWorkers_ranks_trials scoringManager "study" _ _
    fun m t _ => scoringManager_serves _ _ m t⟩

/-! ### What a returned bracket was made from -/

/-- The Manager's replies that let `evalWorkers`'s loop over the trials `tids` go on, asked in
turn from the state `m` and ending in `m'`: each trial has a worker listed, and every metrics set
returned for its workers is of a `COMPLETED` worker with an objective series, whose last value
is a decimal. `es` are the entries the loop makes: the first worker's `TrialId`, and the mean
of the last values. -/
inductive Ranks (c : ManagerClient σ) (studyId objective : String) :
    List String → σ → List Evals → σ → Prop
  | nil (m : σ) : Ranks c studyId objective [] m [] m
  | cons {t : String} {tids : List String} {m m₁ m₂ m' : σ} {first : Worker}
      {more : List Worker} {sets : List MetricsLogSet} {es : List Evals}
      (listed : c.getWorkers m studyId t = (.ok (first :: more), m₁))
      (measured : c.getMetrics m₁ studyId ((first :: more).map (·.WorkerId)) [objective] =
        (.ok sets, m₂))
      (reported : ∀ ml ∈ sets, Reported ml ∧ DecimalObjective ml)
      (rest : Ranks c studyId objective tids m₂ es m') :
      Ranks c studyId objective (t :: tids) m
        (⟨first.TrialId, (sets.map lastObjective).sum / ((first :: more).length : ℚ)⟩ :: es) m'

theorem Ranks.length {c : ManagerClient σ} {studyId objective : String} {tids : List String}
    {m m' : σ} {es : List Evals} (ranked : Ranks c studyId objective tids m es m') :
    es.length = tids.length := by
  induction ranked with
  | nil => rfl
  | cons _ _ _ _ ih => exact congrArg (· + 1) ih

/-- Metrics sets whose loop `evalWorkers` leaves at a worker not `COMPLETED`: every set before
it reported. -/
def StopsAtIncomplete (sets : List MetricsLogSet) : Prop :=
  ∃ pre ml post, sets = pre ++ ml :: post ∧ (∀ x ∈ pre, Reported x) ∧ ml.WorkerStatus ≠ .completed

/-- The Manager's replies that end `evalWorkers`'s loop over `tids` with its nil bracket, asked
in turn from the state `m`: the trials before are ranked, and then a trial has no worker, or a
metrics set of a worker not `COMPLETED` comes before any set without a series. -/
inductive Stalls (c : ManagerClient σ) (studyId objective : String) : List String → σ → Prop
  | here {t : String} {tids : List String} {m m₁ m₂ : σ} {ws : List Worker}
      {sets : List MetricsLogSet} (listed : c.getWorkers m studyId t = (.ok ws, m₁))
      (measured : c.getMetrics m₁ studyId (ws.map (·.WorkerId)) [objective] = (.ok sets, m₂))
      (stalled : StopsAtIncomplete sets ∨ ws = [] ∧ ∀ ml ∈ sets, Reported ml) :
      Stalls c studyId objective (t :: tids) m
  | later {t : String} {tids : List String} {m m₁ m₂ : σ} {first : Worker} {more : List Worker}
      {sets : List MetricsLogSet} (listed : c.getWorkers m studyId t = (.ok (first :: more), m₁))
      (measured : c.getMetrics m₁ studyId ((first :: more).map (·.WorkerId)) [objective] =
        (.ok sets, m₂))
      (reported : ∀ ml ∈ sets, Reported ml) (rest : Stalls c studyId objective tids m₂) :
      Stalls c studyId objective (t :: tids) m

theorem sumObjective_incomplete {sets : List MetricsLogSet} (stopped : StopsAtIncomplete sets)
    (vs : ℚ) (w : World σ) : sumObjective sets vs w = (.ok none, w) := by
  obtain ⟨pre, ml, post, rfl, reported, running⟩ := stopped
  induction pre generalizing vs with
  | nil => simp [sumObjective, running]
  | cons x pre ih =>
      obtain ⟨completed, log, rest, logs, values⟩ := reported x (List.mem_cons_self x pre)
      rw [List.cons_append, sumObjective, if_pos completed, logs]
      simp only [List.getLast?_eq_getLast log.Values values]
      exact ih _ fun y member => reported y (List.mem_cons_of_mem x member)

theorem evalTrials_stalls {c : ManagerClient σ} {studyId objective : String} {tids : List String}
    {m : σ} (stalled : Stalls c studyId objective tids m) :
    ∀ (bracket : Bracket) (w : World σ), w.manager = m →
      ∃ w', evalTrials c studyId objective tids bracket w = (.ok none, w') := by
  induction stalled with
  | @here t _ _ _ _ ws sets listed measured stalled =>
      intro bracket w atM
      subst atM
      have gotWorkers : getWorkers c studyId t w = (.ok ws, _) := World.rpc_ok listed
      have gotMetrics : getMetrics c studyId (ws.map (·.WorkerId)) [objective]
          { w with manager := _, requests := w.requests ++ [(.getWorkers studyId t, true)] } =
          (.ok sets, _) := World.rpc_ok measured
      rw [evalTrials, Go.bind_ok gotWorkers, Go.bind_ok gotMetrics]
      rcases stalled with incomplete | ⟨rfl, reported⟩
      · exact ⟨_, by rw [Go.bind_ok (sumObjective_incomplete incomplete 0 _)]; rfl⟩
      · exact ⟨_, by rw [Go.bind_ok (sumObjective_reported reported 0 _)]; rfl⟩
  | @later t _ _ _ _ first more sets listed measured reported _ ih =>
      intro bracket w atM
      subst atM
      have gotWorkers : getWorkers c studyId t w = (.ok (first :: more), _) := World.rpc_ok listed
      have gotMetrics : getMetrics c studyId ((first :: more).map (·.WorkerId)) [objective]
          { w with manager := _, requests := w.requests ++ [(.getWorkers studyId t, true)] } =
          (.ok sets, _) := World.rpc_ok measured
      rw [evalTrials, Go.bind_ok gotWorkers, Go.bind_ok gotMetrics,
        Go.bind_ok (sumObjective_reported reported 0 _)]
      exact ih _ _ rfl

/-! ### A worker without an objective series -/

/-- A Manager listing one worker `w` of the trial `t`, `COMPLETED`, with the metrics logs
`logs`. -/
def silentManager (logs : List MetricsLog) : ManagerClient Unit :=
  ManagerClient.serving ⟨"accuracy", .maximize, []⟩ "t" [] [⟨"w", "study", "t", .completed⟩]
    [⟨"w", logs, .completed⟩]

/-- A `COMPLETED` worker with no metrics log, or with an empty objective series, makes
`evalWorkers` index out of range instead of counting `0`. -/
theorem evalWorkers_indexes_missing_series :
    (evalWorkers (silentManager []) "study" waitingState ⟨fun _ => [], (), []⟩).1 =
        .error (.panic "index out of range") ∧
      (evalWorkers (silentManager [⟨"accuracy", []⟩]) "study" waitingState
        ⟨fun _ => [], (), []⟩).1 = .error (.panic "index out of range") :=
  ⟨rfl, rfl⟩

end Katib
