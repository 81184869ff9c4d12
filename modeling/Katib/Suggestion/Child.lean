import Katib.Suggestion.Bracket

/-!
# The child bracket

`makeChildBracket` keeps `parent[:n]` when maximizing and `parent[n:]` when minimizing, re-creates
each survivor from the parameters of its parent trial with the resource at `r_i`, and fills `n`
slots with the trial ids. The parent trial of a survivor is the last trial `GetTrials` lists under
its ID; the child has that trial's parameters, in order, with every parameter named
`ResourceName` at `r_i`.
-/

set_option autoImplicit false

namespace Katib

/-! ### The parameters of a child -/

/-- How `makeChildBracket` carries a parameter `p` of the parent into `q` of the child: the same
name and type, and the value `r_i` for `resourceName`, the parent's value otherwise. -/
def Promoted (rtype : ParameterType) (resourceName : String) (r_i : ℚ) (p q : Parameter) : Prop :=
  q.Name = p.Name ∧ q.ParameterType = p.ParameterType ∧
    q.Value = if p.Name = resourceName then resourceValue rtype r_i else p.Value

theorem forall₂_promote (rtype : ParameterType) (resourceName : String) (r_i : ℚ)
    (ps : List Parameter) :
    List.Forall₂ (Promoted rtype resourceName r_i) ps (promote rtype resourceName r_i ps) := by
  rw [promote, List.forall₂_map_right_iff]
  refine List.forall₂_same.mpr fun p _ => ?_
  by_cases renamed : p.Name = resourceName <;> simp [Promoted, renamed]

theorem parentParameters_last {trials pre post : List Trial} {pt : Trial} {id : String}
    (split : trials = pre ++ pt :: post) (named : pt.TrialId = id)
    (last : ∀ x ∈ post, x.TrialId ≠ id) : parentParameters trials id = pt.ParameterSet := by
  have kept : ∀ rest : List Trial, (∀ x ∈ rest, x.TrialId ≠ id) → ∀ ps,
      rest.foldl (fun ps pt => if pt.TrialId = id then pt.ParameterSet else ps) ps = ps := by
    intro rest
    induction rest with
    | nil => exact fun _ _ => rfl
    | cons x rest ih =>
        intro unmatched ps
        rw [List.foldl_cons, if_neg (unmatched x (List.mem_cons_self x rest)),
          ih fun y member => unmatched y (List.mem_cons_of_mem x member)]
  rw [parentParameters, split, List.foldl_append, List.foldl_cons, if_pos named, kept post last]

/-! ### What `makeChildBracket` creates -/

variable {σ : Type}

/-- The entries `childOf` keeps: `parent[n:]` when minimizing, `parent[:n]` when maximizing,
none for another type. -/
def survivors (optimization : OptimizationType) (parent : Bracket) (n : Int) : Bracket :=
  match optimization with
  | .minimize => parent.drop n.toNat
  | .maximize => parent.take n.toNat
  | .unknownOptimization => []

theorem childOf_ok {optimization : OptimizationType} {parent child : Bracket} {n : Int}
    {w w' : World σ} (survived : childOf optimization parent n w = (.ok child, w')) :
    child = survivors optimization parent n ∧ w' = w := by
  unfold childOf at survived
  cases optimization with
  | unknownOptimization =>
      simp only [Go.pure_apply, Prod.mk.injEq, Except.ok.injEq] at survived
      exact ⟨survived.1.symm, survived.2.symm⟩
  | minimize | maximize =>
      dsimp only at survived
      rw [ite_apply] at survived
      split at survived
      · simp only [Go.pure_apply, Prod.mk.injEq, Except.ok.injEq] at survived
        exact ⟨survived.1.symm, survived.2.symm⟩
      · simp at survived

theorem childOf_within (optimization : OptimizationType) (parent : Bracket) {n : Int}
    (bounds : 0 ≤ n ∧ n ≤ parent.length) (w : World σ) :
    childOf optimization parent n w = (.ok (survivors optimization parent n), w) := by
  cases optimization <;> simp [childOf, survivors, bounds]

/-- The trial `makeChildBracket` sends for the survivor `e`: of the study, with the parameters
of `e`'s parent trial, promoted. -/
def childTrial (studyId : String) (trials : List Trial) (rtype : ParameterType)
    (resourceName : String) (r_i : ℚ) (e : Evals) : Trial :=
  ⟨"", studyId, promote rtype resourceName r_i (parentParameters trials e.id)⟩

/-- Whatever its requests return, the loop creates, in order, the trials of a prefix of the
survivors. -/
theorem childTrials_creates (c : ManagerClient σ) (studyId : String) (trials : List Trial)
    (rtype : ParameterType) (resourceName : String) (r_i : ℚ) (n : Nat) :
    ∀ (i : Nat) (child : Bracket) (w : World σ), ∃ created sent, created <+: child ∧
      (childTrials c studyId trials rtype resourceName r_i n i child w).2.requests =
        w.requests ++ sent ∧
      createdTrials sent = created.map (childTrial studyId trials rtype resourceName r_i)
  | _, [], w => ⟨[], [], List.nil_prefix, by simp [childTrials], rfl⟩
  | i, e :: rest, w => by
      rw [childTrials, Go.bind_apply]
      unfold createTrial World.rpc
      dsimp only
      rcases c.createTrial w.manager
          ⟨"", studyId, promote rtype resourceName r_i (parentParameters trials e.id)⟩ with
        ⟨_ | id, m⟩
      · exact ⟨[], _, List.nil_prefix, rfl, rfl⟩
      dsimp only
      split
      · exact ⟨[e], _, ⟨rest, rfl⟩, rfl, rfl⟩
      · obtain ⟨created, sent, early, log, made⟩ := childTrials_creates c studyId trials rtype
          resourceName r_i n (i + 1) rest
          { w with manager := m, requests := w.requests ++ [(.createTrial
            ⟨"", studyId, promote rtype resourceName r_i (parentParameters trials e.id)⟩, true)] }
        refine ⟨e :: created, (.createTrial
            ⟨"", studyId, promote rtype resourceName r_i (parentParameters trials e.id)⟩, true) ::
          sent, (List.prefix_cons_inj e).mpr early, ?_, by
            rw [← List.singleton_append, createdTrials_append, made]; rfl⟩
        rw [Go.bind_pure_state, log, List.append_assoc, List.singleton_append]

/-- Against a Manager that returns the study `sconf` and then the trials `trials`, the trials
`makeChildBracket` has the Manager create are, in order, those of a prefix of the survivors
`childOf` keeps, whatever the `CreateTrial` requests return: the one for the survivor `e` has
the parameters of `e`'s parent trial, the last `GetTrials` lists under `e.id`, with the same
names and types, in order; those named `ResourceName` hold `r_i`, as the decimal integer of its
truncation when the study's last config of that name is `INT` and at four decimals otherwise,
and the others keep their values. -/
theorem makeChildBracket_promotes_parent (c : ManagerClient σ) (parent : Bracket)
    (studyId : String) (n : Int) (r_i : ℚ) (hbparam : HyperBandParameters) (w : World σ)
    (sconf : StudyConfig) (trials : List Trial) (m m' : σ)
    (study : c.getStudy w.manager studyId = (.ok sconf, m))
    (listed : c.getTrials m studyId = (.ok trials, m')) :
    ∃ created, created <+: survivors sconf.OptimizationType parent n ∧
      createdTrials (World.sentSince w (makeChildBracket c parent studyId n r_i hbparam w).2) =
        created.map (childTrial studyId trials
          (resourceType sconf.ParameterConfigs hbparam.ResourceName) hbparam.ResourceName r_i) ∧
      ∀ e ∈ created, ∀ pre pt post, trials = pre ++ pt :: post → pt.TrialId = e.id →
        (∀ x ∈ post, x.TrialId ≠ e.id) →
          List.Forall₂ (Promoted (resourceType sconf.ParameterConfigs hbparam.ResourceName)
            hbparam.ResourceName r_i) pt.ParameterSet
            (childTrial studyId trials (resourceType sconf.ParameterConfigs hbparam.ResourceName)
              hbparam.ResourceName r_i e).ParameterSet := by
  have promoted : ∀ e : Evals, ∀ pre pt post, trials = pre ++ pt :: post → pt.TrialId = e.id →
      (∀ x ∈ post, x.TrialId ≠ e.id) →
        List.Forall₂ (Promoted (resourceType sconf.ParameterConfigs hbparam.ResourceName)
          hbparam.ResourceName r_i) pt.ParameterSet
          (childTrial studyId trials (resourceType sconf.ParameterConfigs hbparam.ResourceName)
            hbparam.ResourceName r_i e).ParameterSet := fun e pre pt post split named last => by
    rw [childTrial, ← parentParameters_last split named last]
    exact forall₂_promote _ _ _ _
  have studied : getStudy c studyId w = (.ok sconf,
      { w with manager := m, requests := w.requests ++ [(.getStudy studyId, true)] }) :=
    World.rpc_ok study
  unfold makeChildBracket
  rw [Go.bind_ok studied, Go.bind_apply]
  have unchanged := childOf_state sconf.OptimizationType parent n
    { w with manager := m, requests := w.requests ++ [(.getStudy studyId, true)] }
  rcases survived : childOf sconf.OptimizationType parent n
    { w with manager := m, requests := w.requests ++ [(.getStudy studyId, true)] } with
    ⟨_ | child, w₂⟩
  all_goals rw [survived] at unchanged; dsimp only at unchanged ⊢; subst unchanged
  · exact ⟨[], List.nil_prefix, by rw [World.sentSince_of_append rfl]; rfl,
      fun e member => absurd member (List.not_mem_nil e)⟩
  obtain ⟨rfl, -⟩ := childOf_ok survived
  have fetched : getTrials c studyId
      { w with manager := m, requests := w.requests ++ [(.getStudy studyId, true)] } =
      (.ok trials, { w with manager := m', requests := w.requests ++
        [(.getStudy studyId, true), (.getTrials studyId, true)] }) := by
    rw [getTrials, World.rpc_ok listed, List.append_assoc]
    rfl
  rw [Go.bind_ok fetched]
  split
  · exact ⟨[], List.nil_prefix, by rw [World.sentSince_of_append rfl]; rfl,
      fun e member => absurd member (List.not_mem_nil e)⟩
  obtain ⟨created, sent, early, log, made⟩ := childTrials_creates c studyId trials
    (resourceType sconf.ParameterConfigs hbparam.ResourceName) hbparam.ResourceName r_i n.toNat 0
    (survivors sconf.OptimizationType parent n) { w with manager := m', requests := w.requests ++
      [(.getStudy studyId, true), (.getTrials studyId, true)] }
  refine ⟨created, early, ?_, fun e _ => promoted e⟩
  rw [Go.bind_pure_state, World.sentSince_of_append (by rw [log, List.append_assoc]),
    createdTrials_append, made]
  rfl

/-- Three trials of the study `study`, `a`, `b` and `c`, each with its own learning rate. -/
def rankedTrials : List Trial :=
  [⟨"a", "study", [⟨"lr", .double, "0.1"⟩]⟩, ⟨"b", "study", [⟨"lr", .double, "0.2"⟩]⟩,
    ⟨"c", "study", [⟨"lr", .double, "0.3"⟩]⟩]

/-- A Manager serving a minimizing study and the trials `rankedTrials`. -/
def rankingManager : ManagerClient Unit :=
  ManagerClient.serving ⟨"loss", .minimize, []⟩ "t" rankedTrials [] []

/-- Against `rankingManager`, the child of `a, b, c` ranked by loss creates its survivors'
trials from their parents. -/
theorem makeChildBracket_promotes_parent_ranked :
    rankingManager.getStudy () "study" = (.ok ⟨"loss", .minimize, []⟩, ()) ∧
      rankingManager.getTrials () "study" = (.ok rankedTrials, ()) ∧
      ∃ created, created <+: survivors .minimize [⟨"a", 3⟩, ⟨"b", 2⟩, ⟨"c", 1⟩] 1 ∧
        createdTrials (World.sentSince ⟨fun _ => [], (), []⟩ (makeChildBracket rankingManager
            [⟨"a", 3⟩, ⟨"b", 2⟩, ⟨"c", 1⟩] "study" 1 1 waitingState ⟨fun _ => [], (), []⟩).2) =
          created.map (childTrial "study" rankedTrials (resourceType [] waitingState.ResourceName)
            waitingState.ResourceName 1) ∧
        ∀ e ∈ created, ∀ pre pt post, rankedTrials = pre ++ pt :: post → pt.TrialId = e.id →
          (∀ x ∈ post, x.TrialId ≠ e.id) →
            List.Forall₂ (Promoted (resourceType [] waitingState.ResourceName)
              waitingState.ResourceName 1) pt.ParameterSet
              (childTrial "study" rankedTrials (resourceType [] waitingState.ResourceName)
                waitingState.ResourceName 1 e).ParameterSet :=
  ⟨rfl, rfl, makeChildBracket_promotes_parent rankingManager _ "study" 1 1 waitingState _ _ _ () ()
    rfl rfl⟩

/-! ### Minimizing keeps the wrong survivors -/

/-- Minimizing, with `a, b, c` ranked by falling loss and one survivor wanted, `makeChildBracket`
keeps `parent[1:]`, the two worst-but-one and best entries `b` and `c`, instead of the best `c`:
it creates both trials, and panics writing the second id into the one slot. -/
theorem makeChildBracket_minimize_overruns :
    makeChildBracket rankingManager [⟨"a", 3⟩, ⟨"b", 2⟩, ⟨"c", 1⟩] "study" 1 1 waitingState
        ⟨fun _ => [], (), []⟩ =
      (.error (.panic "index out of range"),
        ⟨fun _ => [], (), [(.getStudy "study", true), (.getTrials "study", true),
          (.createTrial ⟨"", "study", [⟨"lr", .double, "0.2"⟩]⟩, true),
          (.createTrial ⟨"", "study", [⟨"lr", .double, "0.3"⟩]⟩, true)]⟩) := by
  rfl

end Katib
