import Katib.Suggestion.Parameters
import Mathlib.Data.List.Sort

/-!
# Brackets: ranking the evaluating trials and making the next generation

`evalWorkers` scores each evaluating trial by the mean of its workers' last objective values
and sorts the bracket best first; `makeMasterBracket` creates fresh trials at resource `r`;
`makeChildBracket` re-creates the survivors of a ranked bracket at resource `r_i`.
`makeBracket` chooses between them.
-/

set_option autoImplicit false

namespace Katib

/-- `Evals`; the score is an exact rational. -/
structure Evals where
  id : String
  value : ℚ
  deriving DecidableEq, Repr

/-- `type Bracket []Evals`. -/
abbrev Bracket := List Evals

/-- `sort.Sort(bracket)` with `Less(i, j) = b[i].value > b[j].value`, so best first. Go sorts
short slices by insertion, which keeps ties in order; the model sorts by insertion at every
length, and nothing below depends on the order of ties. -/
def sortBracket (bracket : Bracket) : Bracket :=
  bracket.insertionSort fun a b => b.value ≤ a.value

/-- The random draws of the embedded `RandomSuggestService`, whose code is not in the source
files: `IntRandom(min, max)` and `DoubelRandom(min, max)` as arbitrary functions of the
state. -/
structure HyperBandSuggestService (σ : Type) where
  intRandom : σ → Int → Int → Int × σ
  doubelRandom : σ → ℚ → ℚ → ℚ × σ

/-- A random source without state that always draws the lower bound. -/
def HyperBandSuggestService.lowest : HyperBandSuggestService Unit :=
  ⟨fun m lo _ => (lo, m), fun m lo _ => (lo, m)⟩

variable {σ : Type}

namespace HyperBandSuggestService

def IntRandom (h : HyperBandSuggestService σ) (min max : Int) : Go (World σ) Int := fun w =>
  (.ok (h.intRandom w.manager min max).1, { w with manager := (h.intRandom w.manager min max).2 })

def DoubelRandom (h : HyperBandSuggestService σ) (min max : ℚ) : Go (World σ) ℚ := fun w =>
  (.ok (h.doubelRandom w.manager min max).1,
    { w with manager := (h.doubelRandom w.manager min max).2 })

theorem IntRandom_extends (h : HyperBandSuggestService σ) (allowed : Request → Prop)
    (w₀ : World σ) (min max : Int) :
    Go.Keeps (World.Extends allowed w₀) (h.IntRandom min max) := fun _ grown => grown

theorem DoubelRandom_extends (h : HyperBandSuggestService σ) (allowed : Request → Prop)
    (w₀ : World σ) (min max : ℚ) :
    Go.Keeps (World.Extends allowed w₀) (h.DoubelRandom min max) := fun _ grown => grown

/-- A random source whose `IntRandom(min, max)` and `DoubelRandom(min, max)` draw within
`[min, max]` when `min ≤ max`. -/
def DrawsInRange (h : HyperBandSuggestService σ) : Prop :=
  (∀ m lo hi, lo ≤ hi → lo ≤ (h.intRandom m lo hi).1 ∧ (h.intRandom m lo hi).1 ≤ hi) ∧
    ∀ m lo hi, lo ≤ hi → lo ≤ (h.doubelRandom m lo hi).1 ∧ (h.doubelRandom m lo hi).1 ≤ hi

theorem lowest_drawsInRange : lowest.DrawsInRange :=
  ⟨fun _ _ _ le => ⟨le_refl _, le⟩, fun _ _ _ le => ⟨le_refl _, le⟩⟩

end HyperBandSuggestService

/-- The resource value both bracket makers write: the decimal integer of `int(r)` for an
`INT` parameter, four decimals otherwise. -/
def resourceValue (rtype : ParameterType) (r : ℚ) : String :=
  if rtype = .int then strconvItoa (truncInt r) else strconvFormatFloat r

/-! ### `evalWorkers` -/

/-- The inner loop of `evalWorkers`: adds the last objective value of each metrics set, a
value that does not parse counting 0. `none` is the early `return nil, nil` at a set whose
worker is not `COMPLETED`; an empty `MetricsLogs` or `Values` is an index out of range. -/
def sumObjective : List MetricsLogSet → ℚ → Go (World σ) (Option ℚ)
  | [], vs => pure (some vs)
  | ml :: mls, vs =>
      if ml.WorkerStatus = .completed then
        match ml.MetricsLogs with
        | [] => Go.panic "index out of range"
        | log :: _ =>
            match log.Values.getLast? with
            | none => Go.panic "index out of range"
            | some v => sumObjective mls (vs + (strconvParseFloat v).getD 0)
      else pure none

/-- The loop of `evalWorkers` over the evaluating trials, appending to `bracket`. `none` is
the early `return nil, nil`: a worker not completed, or a trial without workers. -/
def evalTrials (c : ManagerClient σ) (studyId objective : String) :
    List String → Bracket → Go (World σ) (Option Bracket)
  | [], bracket => pure (some (sortBracket bracket))
  | tid :: tids, bracket =>
      getWorkers c studyId tid >>= fun workers =>
      getMetrics c studyId (workers.map (·.WorkerId)) [objective] >>= fun sets =>
      sumObjective sets 0 >>= fun
        | none => pure none
        | some vs =>
            match workers with
            | [] => pure none
            | first :: _ =>
                evalTrials c studyId objective tids
                  (bracket ++ [⟨first.TrialId, vs / (workers.length : ℚ)⟩])

/-- `evalWorkers`; `none` is its nil bracket. -/
def evalWorkers (c : ManagerClient σ) (studyId : String) (hbparam : HyperBandParameters) :
    Go (World σ) (Option Bracket) :=
  evalTrials c studyId hbparam.ObjectiveValueName hbparam.evaluatingTrials []

/-! ### `makeMasterBracket` -/

/-- The value of one parameter of a new trial: the resource at `r`, or a random feasible
value. A type without a case keeps the empty value; a categorical draw outside the list
panics. -/
def masterValue (h : HyperBandSuggestService σ) (r : ℚ) (resourceName : String)
    (pc : ParameterConfig) : Go (World σ) String :=
  if pc.Name = resourceName then pure (resourceValue pc.ParameterType r)
  else match pc.ParameterType with
    | .int =>
        h.IntRandom ((strconvAtoi pc.Feasible.Min).getD 0) ((strconvAtoi pc.Feasible.Max).getD 0)
          >>= fun v => pure (strconvItoa v)
    | .double =>
        h.DoubelRandom ((strconvParseFloat pc.Feasible.Min).getD 0)
            ((strconvParseFloat pc.Feasible.Max).getD 0)
          >>= fun v => pure (strconvFormatFloat v)
    | .categorical =>
        h.IntRandom 0 (pc.Feasible.List.length - 1) >>= fun k =>
          match (if 0 ≤ k then pc.Feasible.List.get? k.toNat else none) with
          | some v => pure v
          | none => Go.panic "index out of range"
    | _ => pure ""

/-- `t.ParameterSet[j]`: the config's name and type, and the value drawn for it. -/
def masterParameter (h : HyperBandSuggestService σ) (r : ℚ) (resourceName : String)
    (pc : ParameterConfig) : Go (World σ) Parameter :=
  masterValue h r resourceName pc >>= fun v => pure ⟨pc.Name, pc.ParameterType, v⟩

/-- The inner loop of `makeMasterBracket` over the study's parameter configs. -/
def masterParameters (h : HyperBandSuggestService σ) (r : ℚ) (resourceName : String) :
    List ParameterConfig → Go (World σ) (List Parameter)
  | [] => pure []
  | pc :: pcs =>
      masterParameter h r resourceName pc >>= fun p =>
      masterParameters h r resourceName pcs >>= fun ps => pure (p :: ps)

/-- The outer loop of `makeMasterBracket`: `count` new trials, each created by the Manager. -/
def masterTrials (h : HyperBandSuggestService σ) (c : ManagerClient σ) (studyId : String)
    (r : ℚ) (resourceName : String) (configs : List ParameterConfig) :
    Nat → Go (World σ) (List String × List Trial)
  | 0 => pure ([], [])
  | count + 1 =>
      masterParameters h r resourceName configs >>= fun ps =>
      createTrial c ⟨"", studyId, ps⟩ >>= fun id =>
      masterTrials h c studyId r resourceName configs count >>= fun rest =>
      pure (id :: rest.1, ⟨id, studyId, ps⟩ :: rest.2)

/-- `makeMasterBracket`; `make` with a negative length panics. -/
def makeMasterBracket (h : HyperBandSuggestService σ) (c : ManagerClient σ) (studyId : String)
    (n : Int) (r : ℚ) (hbparam : HyperBandParameters) :
    Go (World σ) (List String × List (Option Trial)) :=
  getStudy c studyId >>= fun sconf =>
  if n < 0 then Go.panic "makeslice: len out of range"
  else masterTrials h c studyId r hbparam.ResourceName sconf.ParameterConfigs n.toNat >>= fun made =>
    pure (made.1, made.2.map some)

/-! ### `makeChildBracket` -/

/-- The survivors: `parent[n:]` when minimizing, `parent[:n]` when maximizing, none for
another type. A bound outside `0..len(parent)` panics. (Go allows `parent[:n]` up to the
slice's capacity; the model stops at its length.) -/
def childOf (optimization : OptimizationType) (parent : Bracket) (n : Int) : Go (World σ) Bracket :=
  match optimization with
  | .minimize =>
      if 0 ≤ n ∧ n ≤ parent.length then pure (parent.drop n.toNat)
      else Go.panic "slice bounds out of range"
  | .maximize =>
      if 0 ≤ n ∧ n ≤ parent.length then pure (parent.take n.toNat)
      else Go.panic "slice bounds out of range"
  | .unknownOptimization => pure []

/-- `rtype`: the type of the last config named `resourceName`, `UNKNOWN_TYPE` if none is. -/
def resourceType (configs : List ParameterConfig) (resourceName : String) : ParameterType :=
  configs.foldl (fun rtype pc => if pc.Name = resourceName then pc.ParameterType else rtype)
    .unknownType

/-- The parameter set of the last trial with this `TrialId`; nil when there is none. -/
def parentParameters (trials : List Trial) (id : String) : List Parameter :=
  trials.foldl (fun ps pt => if pt.TrialId = id then pt.ParameterSet else ps) []

/-- The child's parameters: the parent's, with each parameter named `resourceName` at `r_i`. -/
def promote (rtype : ParameterType) (resourceName : String) (r_i : ℚ) (ps : List Parameter) :
    List Parameter :=
  ps.map fun p => if p.Name = resourceName then { p with Value := resourceValue rtype r_i } else p

/-- The loop of `makeChildBracket` over the survivors, from index `i`. Writing `tids[i]`
with `i ≥ n` is an index out of range, after the trial was created. -/
def childTrials (c : ManagerClient σ) (studyId : String) (trials : List Trial)
    (rtype : ParameterType) (resourceName : String) (r_i : ℚ) (n : Nat) :
    Nat → Bracket → Go (World σ) (List (String × Trial))
  | _, [] => pure []
  | i, e :: rest =>
      createTrial c ⟨"", studyId, promote rtype resourceName r_i (parentParameters trials e.id)⟩
        >>= fun id =>
      if n ≤ i then Go.panic "index out of range"
      else childTrials c studyId trials rtype resourceName r_i n (i + 1) rest >>= fun more =>
        pure ((id, ⟨id, studyId, promote rtype resourceName r_i (parentParameters trials e.id)⟩) ::
          more)

/-- `makeChildBracket`: `n` slots, the first filled by the created trials, the rest left at
`""` and nil. -/
def makeChildBracket (c : ManagerClient σ) (parent : Bracket) (studyId : String) (n : Int)
    (r_i : ℚ) (hbparam : HyperBandParameters) : Go (World σ) (List String × List (Option Trial)) :=
  getStudy c studyId >>= fun sconf =>
  childOf sconf.OptimizationType parent n >>= fun child =>
  getTrials c studyId >>= fun gtrep =>
  if n < 0 then Go.panic "makeslice: len out of range"
  else
    childTrials c studyId gtrep (resourceType sconf.ParameterConfigs hbparam.ResourceName)
        hbparam.ResourceName r_i n.toNat 0 child >>= fun made =>
      pure (made.map (·.1) ++ List.replicate (n.toNat - made.length) "",
        made.map (some ·.2) ++ List.replicate (n.toNat - made.length) none)

/-! ### `makeBracket` -/

/-- The condition under which `makeBracket` makes a master bracket. -/
def MakesMasterBracket (hbparam : HyperBandParameters) : Prop :=
  hbparam.evaluatingTrials.length = 0 ∨ hbparam.shloopitr = 0

instance (hbparam : HyperBandParameters) : Decidable (MakesMasterBracket hbparam) :=
  inferInstanceAs (Decidable (_ ∨ _))

/-- `makeBracket`; `none` is its `nil, nil, nil` return, when the workers are not done. -/
def makeBracket (h : HyperBandSuggestService σ) (c : ManagerClient σ) (studyId : String)
    (n : Int) (r : ℚ) (hbparam : HyperBandParameters) :
    Go (World σ) (Option (List String × List (Option Trial))) :=
  if MakesMasterBracket hbparam then
    makeMasterBracket h c studyId n r hbparam >>= fun made => pure (some made)
  else
    evalWorkers c studyId hbparam >>= fun
      | none => pure none
      | some b => makeChildBracket c b studyId n r hbparam >>= fun made => pure (some made)

/-! ### What the bracket makers send and return -/

theorem sumObjective_state (mls : List MetricsLogSet) (vs : ℚ) (w : World σ) :
    (sumObjective mls vs w).2 = w := by
  induction mls generalizing vs with
  | nil => rfl
  | cons ml mls ih =>
      unfold sumObjective
      split
      · cases ml.MetricsLogs with
        | nil => rfl
        | cons log _ =>
            dsimp only
            cases log.Values.getLast? with
            | none => rfl
            | some v => exact ih _
      · rfl

theorem evalTrials_keeps (c : ManagerClient σ) (studyId objective : String)
    {allowed : Request → Prop} (listing : ∀ t, allowed (.getWorkers studyId t))
    (measuring : ∀ ids names, allowed (.getMetrics studyId ids names)) (w₀ : World σ) :
    ∀ (tids : List String) (bracket : Bracket),
      Go.Keeps (World.Extends allowed w₀) (evalTrials c studyId objective tids bracket)
  | [], _ => Go.Keeps.pure _
  | tid :: tids, bracket => by
      rw [evalTrials]
      refine Go.Keeps.bind (World.rpc_extends w₀ _ _ (listing tid)) fun workers => ?_
      refine Go.Keeps.bind (World.rpc_extends w₀ _ _ (measuring _ _)) fun sets => ?_
      refine Go.Keeps.bind (fun w grown => by rwa [sumObjective_state]) fun
        | none => Go.Keeps.pure _
        | some vs => ?_
      cases workers with
      | nil => exact Go.Keeps.pure _
      | cons first _ => exact evalTrials_keeps c studyId objective listing measuring w₀ tids _

theorem evalTrials_extends (c : ManagerClient σ) (studyId objective : String) (w₀ : World σ) :
    ∀ (tids : List String) (bracket : Bracket),
      Go.Keeps (World.Extends Request.ReadOnly w₀) (evalTrials c studyId objective tids bracket) :=
  evalTrials_keeps c studyId objective (fun _ => ⟨rfl, rfl⟩) (fun _ _ => ⟨rfl, rfl⟩) w₀

theorem evalTrials_length {c : ManagerClient σ} {studyId objective : String} :
    ∀ {tids : List String} {bracket b : Bracket} {w w' : World σ},
      evalTrials c studyId objective tids bracket w = (.ok (some b), w') →
        b.length = bracket.length + tids.length
  | [], bracket, b, w, w', ranked => by
      simp only [evalTrials, Go.pure_apply, Prod.mk.injEq, Except.ok.injEq,
        Option.some.injEq] at ranked
      rw [← ranked.1, sortBracket, List.length_insertionSort, List.length_nil, Nat.add_zero]
  | tid :: tids, bracket, b, w, w', ranked => by
      rw [evalTrials] at ranked
      obtain ⟨workers, _, -, ranked⟩ := Go.bind_eq_ok.mp ranked
      obtain ⟨sets, _, -, ranked⟩ := Go.bind_eq_ok.mp ranked
      obtain ⟨total, _, -, ranked⟩ := Go.bind_eq_ok.mp ranked
      rcases total with _ | vs
      · simp at ranked
      · rcases workers with _ | ⟨first, rest⟩
        · simp at ranked
        · rw [evalTrials_length ranked, List.length_append, List.length_singleton,
            List.length_cons]
          omega

theorem evalWorkers_extends (c : ManagerClient σ) (studyId : String)
    (hbparam : HyperBandParameters) (w₀ : World σ) :
    Go.Keeps (World.Extends Request.ReadOnly w₀) (evalWorkers c studyId hbparam) :=
  evalTrials_extends c studyId _ w₀ _ _

theorem evalWorkers_length {c : ManagerClient σ} {studyId : String}
    {hbparam : HyperBandParameters} {b : Bracket} {w w' : World σ}
    (ranked : evalWorkers c studyId hbparam w = (.ok (some b), w')) :
    b.length = hbparam.evaluatingTrials.length := by
  rw [evalTrials_length ranked, List.length_nil, Nat.zero_add]

/-- A value the config allows, as `makeMasterBracket` writes it: the decimal integer of an
integer, or the four-decimal form of a number, within the parsed bounds when they are ordered;
one of the categorical values; empty for a type without a case. -/
def Feasible (pc : ParameterConfig) (v : String) : Prop :=
  match pc.ParameterType with
  | .int => ∃ k, v = strconvItoa k ∧
      ((strconvAtoi pc.Feasible.Min).getD 0 ≤ (strconvAtoi pc.Feasible.Max).getD 0 →
        (strconvAtoi pc.Feasible.Min).getD 0 ≤ k ∧ k ≤ (strconvAtoi pc.Feasible.Max).getD 0)
  | .double => ∃ x, v = strconvFormatFloat x ∧
      ((strconvParseFloat pc.Feasible.Min).getD 0 ≤ (strconvParseFloat pc.Feasible.Max).getD 0 →
        (strconvParseFloat pc.Feasible.Min).getD 0 ≤ x ∧ x ≤ (strconvParseFloat pc.Feasible.Max).getD 0)
  | .categorical => v ∈ pc.Feasible.List
  | _ => v = ""

/-- A drawn parameter has its config's name and type; the resource is at `r`, and any other
parameter has a value its config allows. -/
def Drawn (r : ℚ) (resourceName : String) (pc : ParameterConfig) (prm : Parameter) : Prop :=
  prm.Name = pc.Name ∧ prm.ParameterType = pc.ParameterType ∧
    if pc.Name = resourceName then prm.Value = resourceValue pc.ParameterType r
    else Feasible pc prm.Value

theorem masterValue_ok {h : HyperBandSuggestService σ} (inRange : h.DrawsInRange) {r : ℚ}
    {resourceName : String} {pc : ParameterConfig} {w w' : World σ} {v : String}
    (valued : masterValue h r resourceName pc w = (.ok v, w')) :
    if pc.Name = resourceName then v = resourceValue pc.ParameterType r else Feasible pc v := by
  unfold masterValue at valued
  split_ifs at valued ⊢ with named
  · exact (Except.ok.inj (Prod.mk.inj valued).1).symm
  unfold Feasible
  cases typed : pc.ParameterType <;> rw [typed] at valued <;> dsimp only at valued ⊢
  · exact (Except.ok.inj (Prod.mk.inj valued).1).symm
  · obtain ⟨x, _, drawn, valued⟩ := Go.bind_eq_ok.mp valued
    cases (Prod.mk.inj valued).1
    cases (Prod.mk.inj drawn).1
    exact ⟨_, rfl, inRange.2 _ _ _⟩
  · obtain ⟨k, _, drawn, valued⟩ := Go.bind_eq_ok.mp valued
    cases (Prod.mk.inj valued).1
    cases (Prod.mk.inj drawn).1
    exact ⟨_, rfl, inRange.1 _ _ _⟩
  · exact (Except.ok.inj (Prod.mk.inj valued).1).symm
  · obtain ⟨k, _, -, valued⟩ := Go.bind_eq_ok.mp valued
    rcases picked : (if 0 ≤ k then pc.Feasible.List.get? k.toNat else none) with _ | drawn <;>
      rw [picked] at valued
    · cases valued
    · cases (Prod.mk.inj valued).1
      split_ifs at picked
      exact List.get?_mem picked

theorem masterParameter_ok {h : HyperBandSuggestService σ} (inRange : h.DrawsInRange) {r : ℚ}
    {resourceName : String} {pc : ParameterConfig} {w w' : World σ} {prm : Parameter}
    (drawn : masterParameter h r resourceName pc w = (.ok prm, w')) :
    Drawn r resourceName pc prm := by
  obtain ⟨v, _, valued, drawn⟩ := Go.bind_eq_ok.mp drawn
  simp only [Go.pure_apply, Prod.mk.injEq, Except.ok.injEq] at drawn
  exact drawn.1 ▸ ⟨rfl, rfl, masterValue_ok inRange valued⟩

theorem masterParameter_state (h : HyperBandSuggestService σ) (r : ℚ) (resourceName : String)
    (pc : ParameterConfig) (allowed : Request → Prop) (w₀ : World σ) :
    Go.Keeps (World.Extends allowed w₀) (masterParameter h r resourceName pc) := by
  refine Go.Keeps.bind ?_ fun _ => Go.Keeps.pure _
  unfold masterValue
  refine Go.Keeps.ite (Go.Keeps.pure _) ?_
  split
  · exact Go.Keeps.bind (h.IntRandom_extends _ _ _ _) fun _ => Go.Keeps.pure _
  · exact Go.Keeps.bind (h.DoubelRandom_extends _ _ _ _) fun _ => Go.Keeps.pure _
  · refine Go.Keeps.bind (h.IntRandom_extends _ _ _ _) fun _ => ?_
    split
    · exact Go.Keeps.pure _
    · exact Go.Keeps.panic _
  · exact Go.Keeps.pure _

theorem masterParameters_ok {h : HyperBandSuggestService σ} (inRange : h.DrawsInRange) {r : ℚ}
    {resourceName : String} :
    ∀ {configs : List ParameterConfig} {w w' : World σ} {ps : List Parameter},
      masterParameters h r resourceName configs w = (.ok ps, w') →
        List.Forall₂ (Drawn r resourceName) configs ps
  | [], w, w', ps, drawn => by
      simp only [masterParameters, Go.pure_apply, Prod.mk.injEq, Except.ok.injEq] at drawn
      rw [← drawn.1]
      exact .nil
  | pc :: pcs, w, w', ps, drawn => by
      rw [masterParameters] at drawn
      obtain ⟨prm, _, first, drawn⟩ := Go.bind_eq_ok.mp drawn
      obtain ⟨rest, _, more, drawn⟩ := Go.bind_eq_ok.mp drawn
      simp only [Go.pure_apply, Prod.mk.injEq, Except.ok.injEq] at drawn
      rw [← drawn.1]
      exact .cons (masterParameter_ok inRange first) (masterParameters_ok inRange more)

theorem masterParameters_state (h : HyperBandSuggestService σ) (r : ℚ) (resourceName : String)
    (allowed : Request → Prop) (w₀ : World σ) :
    ∀ configs : List ParameterConfig,
      Go.Keeps (World.Extends allowed w₀) (masterParameters h r resourceName configs)
  | [] => Go.Keeps.pure _
  | pc :: pcs => Go.Keeps.bind (masterParameter_state h r resourceName pc allowed w₀) fun _ =>
      Go.Keeps.bind (masterParameters_state h r resourceName allowed w₀ pcs) fun _ =>
        Go.Keeps.pure _

theorem masterTrials_keeps (h : HyperBandSuggestService σ) (c : ManagerClient σ)
    (studyId : String) (r : ℚ) (resourceName : String) (configs : List ParameterConfig)
    {allowed : Request → Prop} (creating : ∀ ps, allowed (.createTrial ⟨"", studyId, ps⟩))
    (w₀ : World σ) :
    ∀ count : Nat, Go.Keeps (World.Extends allowed w₀)
      (masterTrials h c studyId r resourceName configs count)
  | 0 => Go.Keeps.pure _
  | count + 1 =>
      Go.Keeps.bind (masterParameters_state h r resourceName _ w₀ configs) fun ps =>
        Go.Keeps.bind (World.rpc_extends w₀ _ _ (creating ps)) fun _ =>
          Go.Keeps.bind (masterTrials_keeps h c studyId r resourceName configs creating w₀ count)
            fun _ => Go.Keeps.pure _

theorem masterTrials_length {h : HyperBandSuggestService σ} {c : ManagerClient σ}
    {studyId : String} {r : ℚ} {resourceName : String} {configs : List ParameterConfig} :
    ∀ {count : Nat} {w w' : World σ} {made : List String × List Trial},
      masterTrials h c studyId r resourceName configs count w = (.ok made, w') →
        made.1.length = count
  | 0, w, w', made, created => by
      simp only [masterTrials, Go.pure_apply, Prod.mk.injEq, Except.ok.injEq] at created
      rw [← created.1]
      rfl
  | count + 1, w, w', made, created => by
      rw [masterTrials] at created
      obtain ⟨_, _, -, created⟩ := Go.bind_eq_ok.mp created
      obtain ⟨_, _, -, created⟩ := Go.bind_eq_ok.mp created
      obtain ⟨rest, _, more, created⟩ := Go.bind_eq_ok.mp created
      simp only [Go.pure_apply, Prod.mk.injEq, Except.ok.injEq] at created
      rw [← created.1, List.length_cons, masterTrials_length more]

theorem makeMasterBracket_keeps (h : HyperBandSuggestService σ) (c : ManagerClient σ)
    (studyId : String) (n : Int) (r : ℚ) (hbparam : HyperBandParameters)
    {allowed : Request → Prop} (study : allowed (.getStudy studyId))
    (creating : ∀ ps, allowed (.createTrial ⟨"", studyId, ps⟩)) (w₀ : World σ) :
    Go.Keeps (World.Extends allowed w₀) (makeMasterBracket h c studyId n r hbparam) :=
  Go.Keeps.bind (World.rpc_extends w₀ _ _ study) fun _ =>
    Go.Keeps.ite (Go.Keeps.panic _)
      (Go.Keeps.bind (masterTrials_keeps h c studyId r _ _ creating w₀ _) fun _ => Go.Keeps.pure _)

theorem makeMasterBracket_length {h : HyperBandSuggestService σ} {c : ManagerClient σ}
    {studyId : String} {n : Int} {r : ℚ} {hbparam : HyperBandParameters} {w w' : World σ}
    {made : List String × List (Option Trial)}
    (created : makeMasterBracket h c studyId n r hbparam w = (.ok made, w')) :
    0 ≤ n ∧ made.1.length = n.toNat := by
  obtain ⟨_, _, -, created⟩ := Go.bind_eq_ok.mp created
  split at created
  · simp at created
  · obtain ⟨trials, _, more, created⟩ := Go.bind_eq_ok.mp created
    simp only [Go.pure_apply, Prod.mk.injEq, Except.ok.injEq] at created
    exact ⟨by omega, created.1 ▸ masterTrials_length more⟩

theorem childOf_state (optimization : OptimizationType) (parent : Bracket) (n : Int)
    (w : World σ) : (childOf optimization parent n w).2 = w := by
  unfold childOf
  split <;> (try split) <;> rfl

theorem childOf_sublist {optimization : OptimizationType} {parent child : Bracket} {n : Int}
    {w w' : World σ} (survived : childOf optimization parent n w = (.ok child, w')) :
    child.Sublist parent := by
  unfold childOf at survived
  split at survived <;> (try split at survived) <;>
    simp only [Go.pure_apply, Go.panic_apply, Prod.mk.injEq, Except.ok.injEq, reduceCtorEq,
      false_and] at survived
  · exact survived.1 ▸ List.drop_sublist _ _
  · exact survived.1 ▸ List.take_sublist _ _
  · exact survived.1 ▸ List.nil_sublist _

theorem childTrials_keeps (c : ManagerClient σ) (studyId : String) (trials : List Trial)
    (rtype : ParameterType) (resourceName : String) (r_i : ℚ) (n : Nat) (parent : Bracket)
    {allowed : Request → Prop}
    (creating : ∀ e ∈ parent, allowed
      (.createTrial ⟨"", studyId, promote rtype resourceName r_i (parentParameters trials e.id)⟩))
    (w₀ : World σ) :
    ∀ (i : Nat) (child : Bracket), child.Sublist parent →
      Go.Keeps (World.Extends allowed w₀)
        (childTrials c studyId trials rtype resourceName r_i n i child)
  | _, [], _ => Go.Keeps.pure _
  | i, e :: rest, survivors => by
      rw [childTrials]
      refine Go.Keeps.bind (World.rpc_extends w₀ _ _
        (creating e (survivors.subset (List.mem_cons_self e rest)))) fun _ => ?_
      exact Go.Keeps.ite (Go.Keeps.panic _)
        (Go.Keeps.bind (childTrials_keeps c studyId trials rtype resourceName r_i n parent creating
          w₀ (i + 1) rest ((List.sublist_cons_self e rest).trans survivors)) fun _ =>
            Go.Keeps.pure _)

theorem childTrials_length {c : ManagerClient σ} {studyId : String} {trials : List Trial}
    {rtype : ParameterType} {resourceName : String} {r_i : ℚ} {n : Nat} :
    ∀ {i : Nat} {child : Bracket} {w w' : World σ} {made : List (String × Trial)},
      childTrials c studyId trials rtype resourceName r_i n i child w = (.ok made, w') →
        made.length = child.length ∧ child.length ≤ n - i
  | i, [], w, w', made, created => by
      simp only [childTrials, Go.pure_apply, Prod.mk.injEq, Except.ok.injEq] at created
      rw [← created.1]
      exact ⟨rfl, Nat.zero_le _⟩
  | i, e :: rest, w, w', made, created => by
      rw [childTrials] at created
      obtain ⟨_, _, -, created⟩ := Go.bind_eq_ok.mp created
      split at created
      · simp at created
      · obtain ⟨more, _, created', created⟩ := Go.bind_eq_ok.mp created
        simp only [Go.pure_apply, Prod.mk.injEq, Except.ok.injEq] at created
        have inner := childTrials_length created'
        rw [← created.1, List.length_cons, List.length_cons, inner.1]
        exact ⟨rfl, by omega⟩

theorem makeChildBracket_length {c : ManagerClient σ} {parent : Bracket} {studyId : String}
    {n : Int} {r_i : ℚ} {hbparam : HyperBandParameters} {w w' : World σ}
    {made : List String × List (Option Trial)}
    (created : makeChildBracket c parent studyId n r_i hbparam w = (.ok made, w')) :
    0 ≤ n ∧ made.1.length = n.toNat := by
  obtain ⟨_, _, -, created⟩ := Go.bind_eq_ok.mp created
  obtain ⟨_, _, -, created⟩ := Go.bind_eq_ok.mp created
  obtain ⟨_, _, -, created⟩ := Go.bind_eq_ok.mp created
  split at created
  · simp at created
  · obtain ⟨pairs, _, more, created⟩ := Go.bind_eq_ok.mp created
    simp only [Go.pure_apply, Prod.mk.injEq, Except.ok.injEq] at created
    have bound := childTrials_length more
    rw [← created.1, List.length_append, List.length_map, List.length_replicate]
    exact ⟨by omega, by omega⟩

theorem makeChildBracket_keeps (c : ManagerClient σ) (parent : Bracket) (studyId : String)
    (n : Int) (r_i : ℚ) (hbparam : HyperBandParameters) {allowed : Request → Prop}
    (study : allowed (.getStudy studyId)) (listing : allowed (.getTrials studyId))
    (creating : ∀ rtype ps,
      allowed (.createTrial ⟨"", studyId, promote rtype hbparam.ResourceName r_i ps⟩))
    (w₀ : World σ) :
    Go.Keeps (World.Extends allowed w₀) (makeChildBracket c parent studyId n r_i hbparam) := by
  refine Go.Keeps.bind (World.rpc_extends w₀ _ _ study) fun sconf => ?_
  refine Go.Keeps.bind (fun w grown => by rwa [childOf_state]) fun child => ?_
  refine Go.Keeps.bind (World.rpc_extends w₀ _ _ listing) fun trials => ?_
  exact Go.Keeps.ite (Go.Keeps.panic _) (Go.Keeps.bind (childTrials_keeps c studyId trials _ _
    r_i _ child (fun _ _ => creating _ _) w₀ 0 child (List.Sublist.refl _)) fun _ =>
      Go.Keeps.pure _)

theorem makeBracket_keeps (h : HyperBandSuggestService σ) (c : ManagerClient σ)
    (studyId : String) (n : Int) (r : ℚ) (hbparam : HyperBandParameters)
    {allowed : Request → Prop} (study : allowed (.getStudy studyId))
    (listing : allowed (.getTrials studyId)) (workers : ∀ t, allowed (.getWorkers studyId t))
    (measuring : ∀ ids names, allowed (.getMetrics studyId ids names))
    (drawing : ∀ ps, allowed (.createTrial ⟨"", studyId, ps⟩))
    (promoting : ∀ rtype ps,
      allowed (.createTrial ⟨"", studyId, promote rtype hbparam.ResourceName r ps⟩))
    (w₀ : World σ) :
    Go.Keeps (World.Extends allowed w₀) (makeBracket h c studyId n r hbparam) :=
  Go.Keeps.ite (Go.Keeps.bind (makeMasterBracket_keeps h c studyId n r hbparam study drawing w₀)
    fun _ => Go.Keeps.pure _)
    (Go.Keeps.bind (evalTrials_keeps c studyId _ workers measuring w₀ _ _) fun
      | none => Go.Keeps.pure _
      | some b => Go.Keeps.bind (makeChildBracket_keeps c b studyId n r hbparam study listing
          promoting w₀) fun _ => Go.Keeps.pure _)

theorem makeBracket_extends (h : HyperBandSuggestService σ) (c : ManagerClient σ)
    (studyId : String) (n : Int) (r : ℚ) (hbparam : HyperBandParameters) (w₀ : World σ) :
    Go.Keeps (World.Extends Request.NoSave w₀) (makeBracket h c studyId n r hbparam) :=
  @makeBracket_keeps σ h c studyId n r hbparam Request.NoSave rfl rfl (fun _ => rfl)
    (fun _ _ => rfl) (fun _ => rfl) (fun _ _ => rfl) w₀

theorem makeBracket_length {h : HyperBandSuggestService σ} {c : ManagerClient σ}
    {studyId : String} {n : Int} {r : ℚ} {hbparam : HyperBandParameters} {w w' : World σ}
    {made : List String × List (Option Trial)}
    (created : makeBracket h c studyId n r hbparam w = (.ok (some made), w')) :
    0 ≤ n ∧ made.1.length = n.toNat := by
  unfold makeBracket at created
  split at created
  · obtain ⟨master, _, built, created⟩ := Go.bind_eq_ok.mp created
    simp only [Go.pure_apply, Prod.mk.injEq, Except.ok.injEq, Option.some.injEq] at created
    exact created.1 ▸ makeMasterBracket_length built
  · obtain ⟨ranked, _, -, created⟩ := Go.bind_eq_ok.mp created
    rcases ranked with _ | b
    · simp at created
    · obtain ⟨child, _, built, created⟩ := Go.bind_eq_ok.mp created
      simp only [Go.pure_apply, Prod.mk.injEq, Except.ok.injEq, Option.some.injEq] at created
      exact created.1 ▸ makeChildBracket_length built

end Katib
