import Katib.Suggestion.HyperBand
import Katib.Suggestion.Eval
import Katib.Suggestion.Child

/-!
# The trials a round creates

When `makeMasterBracket` returns, it has sent `GetStudy` and then one `CreateTrial` per new
trial, and it returns those trials, each under the ID the Manager gave it, with the IDs in the
same order. `makeChildBracket` does the same for the survivors `childOf` keeps, and fills the
slots it has no survivor for with `""` and nil. So a `GetSuggestions` that replies has had the
Manager create exactly the trials of its reply, in order, all of the request's study.

A Manager that accepts every trial, and a random source that draws within its bounds, make a
master round return its `n` trials. In a maximizing study whose workers all reported, a child
round returns `n` trials, promoted from the `n` best-scored evaluating trials.
-/

set_option autoImplicit false

namespace Katib

variable {σ : Type}

/-- The Manager answered the `CreateTrial` of `t` with `t`'s ID. -/
def CreatedBy (c : ManagerClient σ) (t : Trial) : Prop :=
  ∃ m m', c.createTrial m t.unnamed = (.ok t.TrialId, m')

theorem World.Extends.silent {w₀ w : World σ} (grown : World.Extends (fun _ => False) w₀ w) :
    w.params = w₀.params ∧ w.requests = w₀.requests := by
  obtain ⟨same, sent, log, ok⟩ := grown
  cases sent with
  | nil => exact ⟨same, by rw [log, List.append_nil]⟩
  | cons q _ => exact (ok q (List.mem_cons_self q _)).elim

/-! ### The master bracket -/

theorem masterParameters_silent {h : HyperBandSuggestService σ} {r : ℚ} {resourceName : String}
    {configs : List ParameterConfig} {w w' : World σ} {ps : List Parameter}
    (drawn : masterParameters h r resourceName configs w = (.ok ps, w')) :
    w'.params = w.params ∧ w'.requests = w.requests := by
  have grown := masterParameters_state h r resourceName (fun _ => False) w configs w
    (World.Extends.refl _ w)
  rw [drawn] at grown
  exact grown.silent

/-- When the outer loop returns, it has created `count` trials of the study, one request each,
each with parameters `masterParameters` drew, and returns them under the IDs the Manager gave. -/
theorem masterTrials_ok {h : HyperBandSuggestService σ} {c : ManagerClient σ} {studyId : String}
    {r : ℚ} {resourceName : String} {configs : List ParameterConfig} :
    ∀ {count : Nat} {w w' : World σ} {made : List String × List Trial},
      masterTrials h c studyId r resourceName configs count w = (.ok made, w') →
        ∃ ts : List Trial, made = (ts.map (·.TrialId), ts) ∧ ts.length = count ∧
          (∀ t ∈ ts, t.StudyId = studyId ∧
            (∃ w₁ w₂, masterParameters h r resourceName configs w₁ = (.ok t.ParameterSet, w₂)) ∧
            CreatedBy c t) ∧
          w'.params = w.params ∧
          w'.requests = w.requests ++ ts.map fun t => (Request.createTrial t.unnamed, true)
  | 0, w, w', made, created => by
      simp only [masterTrials, Go.pure_apply, Prod.mk.injEq, Except.ok.injEq] at created
      obtain ⟨rfl, rfl⟩ := created
      exact ⟨[], rfl, rfl, by simp, rfl, by simp⟩
  | count + 1, w, w', made, created => by
      rw [masterTrials] at created
      obtain ⟨ps, w₁, drawn, created⟩ := Go.bind_eq_ok.mp created
      obtain ⟨id, w₂, named, created⟩ := Go.bind_eq_ok.mp created
      obtain ⟨rest, w₃, more, created⟩ := Go.bind_eq_ok.mp created
      simp only [Go.pure_apply, Prod.mk.injEq, Except.ok.injEq] at created
      obtain ⟨rfl, rfl⟩ := created
      obtain ⟨ts, rfl, length, ofStudy, same, log⟩ := masterTrials_ok more
      obtain ⟨answered, same₂, log₂⟩ := World.rpc_eq_ok named
      obtain ⟨same₁, log₁⟩ := masterParameters_silent drawn
      refine ⟨⟨id, studyId, ps⟩ :: ts, rfl, by rw [List.length_cons, length], ?_,
        same.trans (same₂.trans same₁), ?_⟩
      · intro t member
        rcases List.mem_cons.mp member with rfl | later
        · exact ⟨rfl, ⟨w, w₁, drawn⟩, _, _, answered⟩
        · exact ofStudy t later
      · rw [log, log₂, log₁, List.map_cons, List.append_assoc, List.singleton_append]
        rfl

/-- When `makeMasterBracket` returns, it has sent `GetStudy` and then, all served, one
`CreateTrial` for each of `n` new trials, and stored nothing; it returns the created trials
with the Manager's IDs, and the IDs in the same order. Each trial is of the study, with
parameters drawn for the study's configs. -/
theorem makeMasterBracket_ok {h : HyperBandSuggestService σ} {c : ManagerClient σ}
    {studyId : String} {n : Int} {r : ℚ} {hbparam : HyperBandParameters} {w w' : World σ}
    {made : List String × List (Option Trial)}
    (returned : makeMasterBracket h c studyId n r hbparam w = (.ok made, w')) :
    ∃ (sconf : StudyConfig) (m : σ) (ts : List Trial), c.getStudy w.manager studyId = (.ok sconf, m) ∧
      made = (ts.map (·.TrialId), ts.map some) ∧ (ts.length : Int) = n ∧
      (∀ t ∈ ts, t.StudyId = studyId ∧ (∃ w₁ w₂, masterParameters h r hbparam.ResourceName
        sconf.ParameterConfigs w₁ = (.ok t.ParameterSet, w₂)) ∧ CreatedBy c t) ∧
      w'.params = w.params ∧
      w'.requests = w.requests ++
        (Request.getStudy studyId, true) :: ts.map fun t => (Request.createTrial t.unnamed, true) := by
  obtain ⟨sconf, w₁, study, returned⟩ := Go.bind_eq_ok.mp returned
  obtain ⟨answered, same₁, log₁⟩ := World.rpc_eq_ok study
  split at returned
  · simp at returned
  · obtain ⟨trials, w₂, created, returned⟩ := Go.bind_eq_ok.mp returned
    simp only [Go.pure_apply, Prod.mk.injEq, Except.ok.injEq] at returned
    obtain ⟨rfl, rfl⟩ := returned
    obtain ⟨ts, rfl, length, ofStudy, same, log⟩ := masterTrials_ok created
    exact ⟨sconf, w₁.manager, ts, answered, rfl, by omega, ofStudy, same.trans same₁,
      by rw [log, log₁, List.append_assoc, List.singleton_append]⟩

/-- Every categorical config other than the resource has a value to draw. -/
def HasChoices (resourceName : String) (configs : List ParameterConfig) : Prop :=
  ∀ pc ∈ configs, pc.Name ≠ resourceName → pc.ParameterType = .categorical →
    pc.Feasible.List ≠ []

theorem masterValue_returns {h : HyperBandSuggestService σ} (inRange : h.DrawsInRange) (r : ℚ)
    (resourceName : String) (pc : ParameterConfig)
    (choices : pc.Name ≠ resourceName → pc.ParameterType = .categorical → pc.Feasible.List ≠ [])
    (w : World σ) : ∃ v w', masterValue h r resourceName pc w = (.ok v, w') := by
  unfold masterValue
  by_cases named : pc.Name = resourceName
  · exact ⟨_, _, by rw [if_pos named]; rfl⟩
  rw [if_neg named]
  cases typed : pc.ParameterType with
  | categorical =>
    have size := List.length_pos.mpr (choices named typed)
    obtain ⟨low, high⟩ := inRange.1 w.manager 0 (pc.Feasible.List.length - 1) (by omega)
    have drawn := List.get?_eq_get (show (h.intRandom w.manager 0
      (pc.Feasible.List.length - 1)).1.toNat < pc.Feasible.List.length by omega)
    simp only [Go.bind_apply, HyperBandSuggestService.IntRandom, if_pos low, drawn]
    exact ⟨_, _, rfl⟩
  | _ => exact ⟨_, _, rfl⟩

theorem masterParameters_returns {h : HyperBandSuggestService σ} (inRange : h.DrawsInRange)
    (r : ℚ) (resourceName : String) :
    ∀ configs : List ParameterConfig, HasChoices resourceName configs →
      ∀ w : World σ, ∃ ps w', masterParameters h r resourceName configs w = (.ok ps, w')
  | [], _, w => ⟨[], w, rfl⟩
  | pc :: pcs, choices, w => by
      obtain ⟨v, w₁, valued⟩ := masterValue_returns inRange r resourceName pc
        (choices pc (List.mem_cons_self _ _)) w
      obtain ⟨ps, w₂, rest⟩ := masterParameters_returns inRange r resourceName pcs
        (fun pc member => choices pc (List.mem_cons_of_mem _ member)) w₁
      have first : masterParameter h r resourceName pc w = (.ok ⟨pc.Name, pc.ParameterType, v⟩, w₁) := by
        rw [masterParameter, Go.bind_ok valued]
        rfl
      exact ⟨_, _, by rw [masterParameters, Go.bind_ok first, Go.bind_ok rest]; rfl⟩

theorem masterTrials_returns {h : HyperBandSuggestService σ} {c : ManagerClient σ}
    (inRange : h.DrawsInRange) (created : ∀ m t, ∃ id m', c.createTrial m t = (.ok id, m'))
    (studyId : String) (r : ℚ) (resourceName : String) (configs : List ParameterConfig)
    (choices : HasChoices resourceName configs) :
    ∀ (count : Nat) (w : World σ),
      ∃ made w', masterTrials h c studyId r resourceName configs count w = (.ok made, w')
  | 0, w => ⟨_, w, rfl⟩
  | count + 1, w => by
      obtain ⟨ps, w₁, drawn⟩ := masterParameters_returns inRange r resourceName configs choices w
      obtain ⟨id, m, answered⟩ := created w₁.manager ⟨"", studyId, ps⟩
      have named : createTrial c ⟨"", studyId, ps⟩ w₁ = (.ok id, _) := World.rpc_ok answered
      obtain ⟨rest, w₂, more⟩ := masterTrials_returns inRange created studyId r resourceName
        configs choices count _
      exact ⟨_, _, by
        rw [masterTrials, Go.bind_ok drawn, Go.bind_ok named, Go.bind_ok more]
        rfl⟩

/-- A master bracket is made against a Manager that returns the study and accepts every trial,
with draws in range and a value to draw for every categorical config. -/
theorem makeMasterBracket_returns {h : HyperBandSuggestService σ} {c : ManagerClient σ}
    (studyId : String) (n : Int) (r : ℚ) (hbparam : HyperBandParameters) (w : World σ)
    {sconf : StudyConfig} (nonneg : 0 ≤ n)
    (study : ∀ m, ∃ m', c.getStudy m studyId = (.ok sconf, m'))
    (created : ∀ m t, ∃ id m', c.createTrial m t = (.ok id, m'))
    (inRange : h.DrawsInRange) (choices : HasChoices hbparam.ResourceName sconf.ParameterConfigs) :
    ∃ made w', makeMasterBracket h c studyId n r hbparam w = (.ok made, w') := by
  obtain ⟨m, answered⟩ := study w.manager
  have studied : getStudy c studyId w = (.ok sconf, _) := World.rpc_ok answered
  obtain ⟨made, w', trialsMade⟩ := masterTrials_returns inRange created studyId r
    hbparam.ResourceName sconf.ParameterConfigs choices n.toNat _
  exact ⟨_, w', by
    rw [makeMasterBracket, Go.bind_ok studied, if_neg (by omega), Go.bind_ok trialsMade]
    rfl⟩

/-- A master round, against a Manager that returns the study `sconf` and accepts every trial,
with a random source that draws within its bounds and a value to draw for every categorical
config, returns `n` new trials under their IDs, having sent `GetStudy` and then their
`CreateTrial` requests; each trial is of the study, with one parameter per config of the study,
in order, of its name and type: the resource at `r`, and every other parameter at a value its
config allows. -/
theorem makeBracket_master_creates (h : HyperBandSuggestService σ) (c : ManagerClient σ)
    (studyId : String) (n : Int) (r : ℚ) (hbparam : HyperBandParameters) (w : World σ)
    (sconf : StudyConfig) (master : MakesMasterBracket hbparam) (nonneg : 0 ≤ n)
    (study : ∀ m, ∃ m', c.getStudy m studyId = (.ok sconf, m'))
    (created : ∀ m t, ∃ id m', c.createTrial m t = (.ok id, m'))
    (inRange : h.DrawsInRange) (choices : HasChoices hbparam.ResourceName sconf.ParameterConfigs) :
    ∃ (ts : List Trial) (w' : World σ), makeBracket h c studyId n r hbparam w =
        (.ok (some (ts.map (·.TrialId), ts.map some)), w') ∧ (ts.length : Int) = n ∧
      (∀ t ∈ ts, t.StudyId = studyId ∧
        List.Forall₂ (Drawn r hbparam.ResourceName) sconf.ParameterConfigs t.ParameterSet) ∧
      World.sentSince w w' =
        (Request.getStudy studyId, true) :: ts.map fun t => (Request.createTrial t.unnamed, true) := by
  obtain ⟨made, w', returned⟩ := makeMasterBracket_returns studyId n r hbparam w nonneg study
    created inRange choices
  obtain ⟨m, answered⟩ := study w.manager
  obtain ⟨sconf', m', ts, answered', shape, length, ofStudy, -, log⟩ := makeMasterBracket_ok returned
  cases (Prod.mk.inj (answered'.symm.trans answered)).1
  refine ⟨ts, w', ?_, length, fun t member => ?_, World.sentSince_of_append log⟩
  · rw [shape] at returned
    rw [makeBracket, if_pos master, Go.bind_ok returned]
    rfl
  · obtain ⟨same, ⟨_, _, drawn⟩, -⟩ := ofStudy t member
    exact ⟨same, masterParameters_ok inRange drawn⟩

/-- A maximizing study with one categorical parameter, `optimizer`, of two values. -/
def optimizerStudy : StudyConfig :=
  ⟨"accuracy", .maximize, [⟨"optimizer", .categorical, ⟨"", "", ["sgd", "adam"]⟩⟩]⟩

/-- Against a Manager serving `optimizerStudy`, with draws of the lowest value, the first round
of `waitingState`'s bracket creates two trials. -/
theorem makeBracket_master_creates_optimizer :
    MakesMasterBracket { waitingState with shloopitr := 0 } ∧
      HyperBandSuggestService.lowest.DrawsInRange ∧
      HasChoices waitingState.ResourceName optimizerStudy.ParameterConfigs ∧
      ∃ (ts : List Trial) (w' : World Unit), makeBracket HyperBandSuggestService.lowest
          (ManagerClient.serving optimizerStudy "t" [] [] []) "study" 2 1
          { waitingState with shloopitr := 0 } ⟨fun _ => [], (), []⟩ =
          (.ok (some (ts.map (·.TrialId), ts.map some)), w') ∧ (ts.length : Int) = 2 ∧
        (∀ t ∈ ts, t.StudyId = "study" ∧ List.Forall₂ (Drawn 1 waitingState.ResourceName)
          optimizerStudy.ParameterConfigs t.ParameterSet) ∧
        World.sentSince ⟨fun _ => [], (), []⟩ w' =
          (Request.getStudy "study", true) :: ts.map fun t => (Request.createTrial t.unnamed, true) := by
  have master : MakesMasterBracket { waitingState with shloopitr := 0 } := .inr rfl
  have inRange := HyperBandSuggestService.lowest_drawsInRange
  have choices : HasChoices waitingState.ResourceName optimizerStudy.ParameterConfigs := by
    simp [HasChoices, optimizerStudy]
  exact ⟨master, inRange, choices, makeBracket_master_creates _ _ _ _ _ _ _ _ master (by decide)
    (fun _ => ⟨(), rfl⟩) (fun _ _ => ⟨"t", (), rfl⟩) inRange choices⟩

/-! ### The child bracket -/

/-- When the loop returns, it has created one trial per survivor, one request each, and
returns them under the IDs the Manager gave; there was a slot for each. -/
theorem childTrials_ok {c : ManagerClient σ} {studyId : String} {trials : List Trial}
    {rtype : ParameterType} {resourceName : String} {r_i : ℚ} {n : Nat} :
    ∀ {i : Nat} {child : Bracket} {w w' : World σ} {made : List (String × Trial)},
      childTrials c studyId trials rtype resourceName r_i n i child w = (.ok made, w') →
        (∀ p ∈ made, p.2.TrialId = p.1 ∧ CreatedBy c p.2) ∧
        made.map (·.2.unnamed) = child.map (childTrial studyId trials rtype resourceName r_i) ∧
        child.length ≤ n - i ∧ w'.params = w.params ∧
        w'.requests = w.requests ++ made.map fun p => (Request.createTrial p.2.unnamed, true)
  | i, [], w, w', made, created => by
      simp only [childTrials, Go.pure_apply, Prod.mk.injEq, Except.ok.injEq] at created
      obtain ⟨rfl, rfl⟩ := created
      exact ⟨by simp, rfl, Nat.zero_le _, rfl, by simp⟩
  | i, e :: rest, w, w', made, created => by
      rw [childTrials] at created
      obtain ⟨id, w₁, named, created⟩ := Go.bind_eq_ok.mp created
      split at created
      · simp at created
      · obtain ⟨more, w₂, created', created⟩ := Go.bind_eq_ok.mp created
        simp only [Go.pure_apply, Prod.mk.injEq, Except.ok.injEq] at created
        obtain ⟨rfl, rfl⟩ := created
        obtain ⟨ids, same, bound, params, log⟩ := childTrials_ok created'
        obtain ⟨answered, params₁, log₁⟩ := World.rpc_eq_ok named
        refine ⟨?_, by rw [List.map_cons, List.map_cons, same]; rfl,
          by rw [List.length_cons]; omega, params.trans params₁, ?_⟩
        · intro p member
          rcases List.mem_cons.mp member with rfl | later
          · exact ⟨rfl, _, _, answered⟩
          · exact ids p later
        · rw [log, log₁, List.map_cons, List.append_assoc, List.singleton_append]
          rfl

theorem childTrials_returns {c : ManagerClient σ}
    (created : ∀ m t, ∃ id m', c.createTrial m t = (.ok id, m')) (studyId : String)
    (trials : List Trial) (rtype : ParameterType) (resourceName : String) (r_i : ℚ) (n : Nat) :
    ∀ (i : Nat) (child : Bracket), i + child.length ≤ n → ∀ w : World σ,
      ∃ made w', childTrials c studyId trials rtype resourceName r_i n i child w = (.ok made, w')
  | _, [], _, w => ⟨[], w, rfl⟩
  | i, e :: rest, room, w => by
      rw [List.length_cons] at room
      obtain ⟨id, m, answered⟩ := created w.manager (childTrial studyId trials rtype resourceName r_i e)
      have named : createTrial c ⟨"", studyId, promote rtype resourceName r_i
          (parentParameters trials e.id)⟩ w = (.ok id, _) := World.rpc_ok answered
      obtain ⟨more, w', rest'⟩ := childTrials_returns created studyId trials rtype resourceName r_i
        n (i + 1) rest (by omega) _
      exact ⟨_, w', by
        rw [childTrials, Go.bind_ok named, if_neg (by omega), Go.bind_ok rest']
        rfl⟩

/-- When `makeChildBracket` returns, it has sent `GetStudy`, `GetTrials` and then, all served,
one `CreateTrial` per survivor, and stored nothing: there were at most `n` survivors, and it
returns their trials under the IDs the Manager gave, then `""` and nil for the slots left. -/
theorem makeChildBracket_ok {c : ManagerClient σ} {parent : Bracket} {studyId : String}
    {n : Int} {r_i : ℚ} {hbparam : HyperBandParameters} {w w' : World σ}
    {made : List String × List (Option Trial)}
    (returned : makeChildBracket c parent studyId n r_i hbparam w = (.ok made, w')) :
    ∃ (sconf : StudyConfig) (trials : List Trial) (m m' : σ) (ts : List Trial),
      c.getStudy w.manager studyId = (.ok sconf, m) ∧
      c.getTrials m studyId = (.ok trials, m') ∧
      ts.map Trial.unnamed = (survivors sconf.OptimizationType parent n).map
        (childTrial studyId trials (resourceType sconf.ParameterConfigs hbparam.ResourceName)
          hbparam.ResourceName r_i) ∧
      (ts.length : Int) ≤ n ∧ (∀ t ∈ ts, CreatedBy c t) ∧
      made = (ts.map (·.TrialId) ++ List.replicate (n.toNat - ts.length) "",
        ts.map some ++ List.replicate (n.toNat - ts.length) none) ∧
      w'.params = w.params ∧
      w'.requests = w.requests ++ (Request.getStudy studyId, true) ::
        (Request.getTrials studyId, true) :: ts.map fun t => (Request.createTrial t.unnamed, true) := by
  obtain ⟨sconf, w₁, study, surviving⟩ := Go.bind_eq_ok.mp returned
  obtain ⟨child, w₂, survived, fetching⟩ := Go.bind_eq_ok.mp surviving
  obtain ⟨trials, w₃, listed, creating⟩ := Go.bind_eq_ok.mp fetching
  obtain ⟨rfl, rfl⟩ := childOf_ok survived
  split at creating
  · simp at creating
  obtain ⟨pairs, w₄, created, filled⟩ := Go.bind_eq_ok.mp creating
  simp only [Go.pure_apply, Prod.mk.injEq, Except.ok.injEq] at filled
  obtain ⟨rfl, rfl⟩ := filled
  obtain ⟨answered, params₁, log₁⟩ := World.rpc_eq_ok study
  obtain ⟨fetched, params₃, log₃⟩ := World.rpc_eq_ok listed
  obtain ⟨named, unnamed, bound, params, log⟩ := childTrials_ok created
  have length : pairs.length = (survivors sconf.OptimizationType parent n).length := by
    simpa using congrArg List.length unnamed
  have ids : pairs.map (·.1) = (pairs.map (·.2)).map (·.TrialId) := by
    rw [List.map_map]
    exact List.map_congr_left fun p member => (named p member).1.symm
  refine ⟨sconf, trials, w₂.manager, w₃.manager, pairs.map (·.2), answered, fetched,
    by rw [List.map_map]; exact unnamed, by rw [List.length_map]; omega, fun t member => ?_,
    by rw [ids]; simp [Function.comp_def], params.trans (params₃.trans params₁), ?_⟩
  · obtain ⟨p, paired, rfl⟩ := List.mem_map.mp member
    exact (named p paired).2
  rw [log, log₃, log₁, List.map_map]
  simp [Function.comp_def]

/-- Maximizing, with `0 ≤ n ≤ len(parent)`, against a Manager that returns the study and the
trials and accepts every trial, `makeChildBracket` returns `n` trials with their IDs: the
promotions of `parent[:n]`, in order. -/
theorem makeChildBracket_maximize {c : ManagerClient σ} {parent : Bracket} {studyId : String}
    {n : Int} (r_i : ℚ) (hbparam : HyperBandParameters) (w : World σ) {sconf : StudyConfig}
    {trials : List Trial} (maximizing : sconf.OptimizationType = .maximize)
    (bounds : 0 ≤ n ∧ n ≤ parent.length)
    (study : ∀ m, ∃ m', c.getStudy m studyId = (.ok sconf, m'))
    (listed : ∀ m, ∃ m', c.getTrials m studyId = (.ok trials, m'))
    (created : ∀ m t, ∃ id m', c.createTrial m t = (.ok id, m')) :
    ∃ (ts : List Trial) (w' : World σ), makeChildBracket c parent studyId n r_i hbparam w =
        (.ok (ts.map (·.TrialId), ts.map some), w') ∧
      ts.map Trial.unnamed = (parent.take n.toNat).map (childTrial studyId trials
        (resourceType sconf.ParameterConfigs hbparam.ResourceName) hbparam.ResourceName r_i) := by
  obtain ⟨m, answered⟩ := study w.manager
  have studied : getStudy c studyId w = (.ok sconf, _) := World.rpc_ok answered
  obtain ⟨m', fetched⟩ := listed m
  have got : getTrials c studyId { w with manager := m, requests := w.requests ++
      [(.getStudy studyId, true)] } = (.ok trials, _) := World.rpc_ok fetched
  have room : 0 + (survivors sconf.OptimizationType parent n).length ≤ n.toNat := by
    simp only [maximizing, survivors, List.length_take]
    omega
  obtain ⟨pairs, w', made⟩ := childTrials_returns created studyId trials
    (resourceType sconf.ParameterConfigs hbparam.ResourceName) hbparam.ResourceName r_i n.toNat
    0 _ room _
  have returned : makeChildBracket c parent studyId n r_i hbparam w = (.ok (pairs.map (·.1) ++
      List.replicate (n.toNat - pairs.length) "", pairs.map (some ·.2) ++
      List.replicate (n.toNat - pairs.length) none), w') := by
    rw [makeChildBracket, Go.bind_ok studied, Go.bind_ok (childOf_within _ _ bounds _),
      Go.bind_ok got, if_neg (by omega), Go.bind_ok made]
    rfl
  obtain ⟨sconf', trials', _, _, ts, answered', fetched', unnamed, -, -, result, -⟩ :=
    makeChildBracket_ok returned
  obtain ⟨same, rfl⟩ := Prod.mk.inj (answered'.symm.trans answered)
  cases same
  obtain ⟨same, rfl⟩ := Prod.mk.inj (fetched'.symm.trans fetched)
  cases same
  have full : ts.length = n.toNat := by
    simpa [maximizing, survivors, List.length_take, bounds.2] using congrArg List.length unnamed
  rw [full, Nat.sub_self, List.replicate_zero, List.replicate_zero, List.append_nil,
    List.append_nil] at result
  exact ⟨ts, w', returned.trans (by rw [result]), by rwa [maximizing] at unnamed⟩

/-- When `makeBracket` returns a bracket, it has stored nothing, and the Manager has created
exactly its trials, in order, all of the study. -/
theorem makeBracket_created {h : HyperBandSuggestService σ} {c : ManagerClient σ}
    {studyId : String} {n : Int} {r : ℚ} {hbparam : HyperBandParameters} {w w' : World σ}
    {made : List String × List (Option Trial)}
    (returned : makeBracket h c studyId n r hbparam w = (.ok (some made), w')) :
    ∃ sent, w'.requests = w.requests ++ sent ∧ w'.params = w.params ∧
      createdTrials sent = (made.2.filterMap id).map Trial.unnamed ∧
      ∀ t ∈ made.2.filterMap id, t.StudyId = studyId ∧ CreatedBy c t := by
  unfold makeBracket at returned
  split at returned
  · obtain ⟨master, w₁, built, returned⟩ := Go.bind_eq_ok.mp returned
    simp only [Go.pure_apply, Prod.mk.injEq, Except.ok.injEq, Option.some.injEq] at returned
    obtain ⟨rfl, rfl⟩ := returned
    obtain ⟨_, _, ts, -, rfl, -, ofStudy, params, log⟩ := makeMasterBracket_ok built
    refine ⟨_, log, params, ?_, fun t member => ?_⟩
    · simpa using createdTrials_created ts
    obtain ⟨same, -, byManager⟩ := ofStudy t (by simpa using member)
    exact ⟨same, byManager⟩
  · obtain ⟨ranked, w₁, evaluated, returned⟩ := Go.bind_eq_ok.mp returned
    rcases ranked with _ | b
    · simp at returned
    obtain ⟨childMade, w₂, built, returned⟩ := Go.bind_eq_ok.mp returned
    simp only [Go.pure_apply, Prod.mk.injEq, Except.ok.injEq, Option.some.injEq] at returned
    obtain ⟨rfl, rfl⟩ := returned
    have read := evalWorkers_extends c studyId hbparam w w (World.Extends.refl _ w)
    rw [evaluated] at read
    obtain ⟨same₁, sent₁, log₁, readOnly⟩ := read
    obtain ⟨_, _, _, _, ts, -, -, unnamed, -, createdBy, rfl, params, log⟩ := makeChildBracket_ok built
    have slots : (ts.map some ++ List.replicate (n.toNat - ts.length) none).filterMap id = ts := by
      simp [List.filterMap_append]
    refine ⟨sent₁ ++ _, by rw [log, log₁, List.append_assoc], params.trans same₁, ?_,
      fun t member => ?_⟩
    · rw [createdTrials_append, createdTrials_eq_nil fun q member => (readOnly q member).2,
        List.nil_append, slots]
      exact createdTrials_created ts
    · rw [slots] at member
      obtain ⟨e, -, same⟩ := List.mem_map.mp (unnamed ▸ List.mem_map_of_mem Trial.unnamed member)
      exact ⟨by rw [← Trial.unnamed_studyId, ← same]; rfl, createdBy t member⟩

/-- The first round of `waitingState`'s bracket with three trials to create. -/
def threeTrialsState : HyperBandParameters := { waitingState with shloopitr := 0, n := 3 }

/-- With `threeTrialsState` stored, against a Manager that serves every call, the call replies
with the three trials it has the Manager create. -/
theorem getSuggestions_first_round_reply :
    ∃ w' : World Unit, getSuggestions HyperBandSuggestService.lowest
        (ManagerClient.serving ⟨"accuracy", .maximize, []⟩ "t" [] [] [])
        ⟨"study", "hyperband", "param"⟩
        ⟨fun _ => suggestionParameterList threeTrialsState, (), []⟩ =
      (.ok ⟨[some ⟨"t", "study", []⟩, some ⟨"t", "study", []⟩, some ⟨"t", "study", []⟩]⟩, w') := by
  have back := decodeParameters_readsBack threeTrialsState
  obtain ⟨name, w₁, loaded⟩ := loadParameters_serving ⟨"accuracy", .maximize, []⟩ "t" [] [] []
    ⟨"study", "hyperband", "param"⟩ ⟨fun _ => suggestionParameterList threeTrialsState, (), []⟩
    (by rw [foldl_suggestionParameterList]; exact ⟨by norm_num [threeTrialsState, waitingState],
      by decide⟩)
  have currentS : (decodeParameters (suggestionParameterList threeTrialsState)).currentS = 1 :=
    back.currentS (by decide)
  have shloopitr : (decodeParameters (suggestionParameterList threeTrialsState)).shloopitr = 0 :=
    back.shloopitr (by decide)
  have size : (decodeParameters (suggestionParameterList threeTrialsState)).n = 3 :=
    back.n (by decide)
  have first : startRound { decodeParameters (suggestionParameterList threeTrialsState) with
      ObjectiveValueName := name } =
      { decodeParameters (suggestionParameterList threeTrialsState) with
        ObjectiveValueName := name } := by
    rw [startRound, if_neg (by simp [currentS, shloopitr])]
  have three : (getLoopParam { decodeParameters (suggestionParameterList threeTrialsState) with
      ObjectiveValueName := name }).1 = 3 := by
    simp [getLoopParam, shloopitr, size, truncInt]
  obtain ⟨wb, built⟩ : ∃ wb, roundBracket HyperBandSuggestService.lowest
      (ManagerClient.serving ⟨"accuracy", .maximize, []⟩ "t" [] [] []) "study"
      { decodeParameters (suggestionParameterList threeTrialsState) with
        ObjectiveValueName := name } w₁ =
      (.ok (some (["t", "t", "t"], [some ⟨"t", "study", []⟩, some ⟨"t", "study", []⟩,
        some ⟨"t", "study", []⟩])), wb) :=
    ⟨_, by
      rw [roundBracket, first, makeBracket, if_pos (.inr shloopitr), makeMasterBracket, three]
      rfl⟩
  exact ⟨_, by
    unfold getSuggestions suggestRound
    rw [Go.bind_ok loaded, if_neg (by simp [currentS]), Go.bind_ok built]
    rfl⟩

/-- The ID list a bracket maker returns is its trial list read slot by slot: each trial's ID, and
`""` for a nil slot. -/
theorem makeBracket_ids {h : HyperBandSuggestService σ} {c : ManagerClient σ}
    {studyId : String} {n : Int} {r : ℚ} {hbparam : HyperBandParameters} {w w' : World σ}
    {made : List String × List (Option Trial)}
    (returned : makeBracket h c studyId n r hbparam w = (.ok (some made), w')) :
    made.1 = made.2.map fun t => (t.map (·.TrialId)).getD "" := by
  unfold makeBracket at returned
  split at returned
  · obtain ⟨master, w₁, built, returned⟩ := Go.bind_eq_ok.mp returned
    simp only [Go.pure_apply, Prod.mk.injEq, Except.ok.injEq, Option.some.injEq] at returned
    obtain ⟨rfl, rfl⟩ := returned
    obtain ⟨_, _, ts, -, rfl, -⟩ := makeMasterBracket_ok built
    simp [Function.comp_def]
  · obtain ⟨ranked, w₁, evaluated, returned⟩ := Go.bind_eq_ok.mp returned
    rcases ranked with _ | b
    · simp at returned
    obtain ⟨childMade, w₂, built, returned⟩ := Go.bind_eq_ok.mp returned
    simp only [Go.pure_apply, Prod.mk.injEq, Except.ok.injEq, Option.some.injEq] at returned
    obtain ⟨rfl, rfl⟩ := returned
    obtain ⟨_, _, _, _, ts, -, -, -, -, -, rfl, -⟩ := makeChildBracket_ok built
    simp [Function.comp_def]

/-- Whenever `GetSuggestions` replies, either the request's stored list is as it was (nothing
saved: the loop is over, or the save failed), or it decodes to the IDs of the reply's trials, in
order, with `""` for a nil slot, provided no ID the Manager gave holds a comma. The one
exception is a reply with no trial: the empty list is saved as `""`, which decodes to `[""]`. -/
theorem getSuggestions_saves_reply_ids (h : HyperBandSuggestService σ) (c : ManagerClient σ)
    (req : GetSuggestionsRequest) (w w' : World σ) (reply : GetSuggestionsReply)
    (replied : getSuggestions h c req w = (.ok reply, w'))
    (commaFree : ∀ t ∈ reply.Trials.filterMap id, ',' ∉ t.TrialId.data) :
    w'.params req.ParamId = w.params req.ParamId ∨
      (decodeParameters (w'.params req.ParamId)).evaluatingTrials =
        if reply.Trials = [] then [""] else reply.Trials.map fun t => (t.map (·.TrialId)).getD "" := by
  rcases getSuggestions_cases h c req w with ⟨stop, -, stopped⟩ |
    ⟨p, w₁, loaded, ⟨-, call⟩ | ⟨-, ⟨stop, -, stopped⟩ | ⟨-, stopped⟩ | ⟨made, wb, built, ok, saved⟩⟩⟩
  -- the calls that stop have no reply
  any_goals rw [replied] at stopped; cases stopped
  · rw [replied] at call
    obtain ⟨-, rfl⟩ := Prod.mk.inj call
    exact .inl (by rw [(loadParameters_reads loaded).1])
  · rw [replied] at ok saved
    cases ok
    rcases attempt_saveSuggestionParameters c req.StudyId req.SuggestionAlgorithm req.ParamId
        (commitRound (startRound p) made.1) wb with ⟨m, ⟨err, attempted⟩ | attempted⟩ <;>
      rw [attempted] at saved <;> subst saved
    · obtain ⟨_, -, params, -⟩ := makeBracket_created built
      exact .inl (by rw [params, (loadParameters_reads loaded).1])
    · refine .inr ?_
      dsimp only
      rw [Function.update_same, (decodeParameters_readsBack _).evaluatingTrials]
      change stringsSplit (stringsJoin made.1 ',') ',' = _
      rw [makeBracket_ids built]
      split
      next empty => rw [empty]; rfl
      next nonempty =>
        refine stringsSplit_stringsJoin _ ',' (by simpa using nonempty) fun id member => ?_
        obtain ⟨t, slot, rfl⟩ := List.mem_map.mp member
        cases t with
        | none => simp
        | some t => exact commaFree t (List.mem_filterMap.mpr ⟨some t, slot, rfl⟩)

/-- With `threeTrialsState` stored, the call stores the IDs of the three trials it replies
with. -/
theorem getSuggestions_saves_reply_ids_first_round :
    ∃ (reply : GetSuggestionsReply) (w' : World Unit),
      getSuggestions HyperBandSuggestService.lowest
          (ManagerClient.serving ⟨"accuracy", .maximize, []⟩ "t" [] [] [])
          ⟨"study", "hyperband", "param"⟩
          ⟨fun _ => suggestionParameterList threeTrialsState, (), []⟩ =
        (.ok reply, w') ∧
      (∀ t ∈ reply.Trials.filterMap id, ',' ∉ t.TrialId.data) ∧
      (w'.params "param" = suggestionParameterList threeTrialsState ∨
        (decodeParameters (w'.params "param")).evaluatingTrials =
          if reply.Trials = [] then [""]
          else reply.Trials.map fun t => (t.map (·.TrialId)).getD "") := by
  obtain ⟨w', replied⟩ := getSuggestions_first_round_reply
  have commaFree : ∀ t ∈ [some (⟨"t", "study", []⟩ : Trial), some ⟨"t", "study", []⟩,
      some ⟨"t", "study", []⟩].filterMap id, ',' ∉ t.TrialId.data := by
    decide
  exact ⟨_, w', replied, commaFree, getSuggestions_saves_reply_ids _ _ _ _ _ _ replied commaFree⟩

end Katib
