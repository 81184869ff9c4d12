import Katib.Worker.Kubernetes

/-!
# The Job of a worker

`genJobManifest` builds the Job that `SpawnWorker` creates. The Job is named after the worker.
It carries the labels `katib-version` and `worker-id`, which the config's custom labels may
override, on the Job and on its Pod template alike. The Pod gets the config's annotations and
tolerations, and the config's claim mounted when the config names both a claim and a path. Its
one container gets limits of CPU, memory and, when some are asked for, GPUs. Only a quantity
that does not parse makes the build fail.

Go visits the custom labels in an order it picks at random. The labels do not depend on that
order, because the keys of a map are distinct.
-/

set_option autoImplicit false

namespace Katib

/-! ### Maps of strings -/

/-- `m[k] = v` on a map's entries: the value of `k` replaced where it is, else `(k, v)` appended. -/
def assignEntries (k v : String) : List (String × String) → List (String × String)
  | [] => [(k, v)]
  | (k', v') :: rest => if k' = k then (k', v) :: rest else (k', v') :: assignEntries k v rest

theorem mem_keys_assignEntries (k v k' : String) (entries : List (String × String)) :
    k' ∈ (assignEntries k v entries).map Prod.fst ↔ k' = k ∨ k' ∈ entries.map Prod.fst := by
  induction entries with
  | nil => simp [assignEntries]
  | cons e rest ih =>
      obtain ⟨key, value⟩ := e
      by_cases same : key = k
      · subst same
        simp only [assignEntries, if_true, List.map_cons, List.mem_cons, or_self_left]
      · simp only [assignEntries, if_neg same, List.map_cons, List.mem_cons, ih]
        exact or_left_comm

theorem nodup_assignEntries (k v : String) {entries : List (String × String)}
    (keyed : (entries.map Prod.fst).Nodup) : ((assignEntries k v entries).map Prod.fst).Nodup := by
  induction entries with
  | nil => simp [assignEntries]
  | cons e rest ih =>
      obtain ⟨key, value⟩ := e
      rw [List.map_cons, List.nodup_cons] at keyed
      by_cases same : key = k
      · simpa [assignEntries, same] using keyed
      · simp only [assignEntries, if_neg same, List.map_cons, List.nodup_cons,
          mem_keys_assignEntries]
        exact ⟨not_or.mpr ⟨same, keyed.1⟩, ih keyed.2⟩

theorem lookup_cons_ite (key value k : String) (rest : List (String × String)) :
    ((key, value) :: rest).lookup k = if k = key then some value else rest.lookup k := by
  rw [List.lookup_cons]
  by_cases same : k = key
  · rw [if_pos same, same, beq_self_eq_true]
  · rw [if_neg same, beq_eq_false_iff_ne.mpr same]

theorem lookup_assignEntries (k v k' : String) (entries : List (String × String)) :
    (assignEntries k v entries).lookup k' = if k' = k then some v else entries.lookup k' := by
  induction entries with
  | nil => simp only [assignEntries, lookup_cons_ite, List.lookup_nil]
  | cons e rest ih =>
      obtain ⟨key, value⟩ := e
      by_cases same : key = k
      · subst same
        simp only [assignEntries, if_true, lookup_cons_ite]
        split_ifs <;> rfl
      · simp only [assignEntries, if_neg same, lookup_cons_ite, ih]
        by_cases hit : k' = key
        · subst hit
          simp [same]
        · simp [hit]

theorem lookup_perm {entries entries' : List (String × String)} (perm : entries.Perm entries')
    (keyed : (entries.map Prod.fst).Nodup) (k : String) : entries.lookup k = entries'.lookup k := by
  induction perm with
  | nil => rfl
  | cons e _ ih =>
      obtain ⟨key, value⟩ := e
      rw [List.map_cons, List.nodup_cons] at keyed
      rw [lookup_cons_ite, lookup_cons_ite, ih keyed.2]
  | swap e e' rest =>
      obtain ⟨key, value⟩ := e
      obtain ⟨key', value'⟩ := e'
      simp only [List.map_cons, List.nodup_cons, List.mem_cons, not_or] at keyed
      simp only [lookup_cons_ite]
      by_cases first : k = key
      · subst first
        simp [Ne.symm keyed.1.1]
      · simp [first]
  | trans first _ ih₁ ih₂ =>
      exact (ih₁ keyed).trans (ih₂ ((first.map Prod.fst).nodup_iff.mp keyed))

/-- A Go `map[string]string`: its entries, with distinct keys, in the order `range` visits them. -/
structure StringMap where
  entries : List (String × String)
  keyed : (entries.map Prod.fst).Nodup

namespace StringMap

/-- The nil map. -/
def empty : StringMap := ⟨[], List.nodup_nil⟩

/-- `m[k]`; `none` when the key is absent. -/
def lookup (m : StringMap) (k : String) : Option String := m.entries.lookup k

/-- `m[k] = v`. -/
def assign (m : StringMap) (k v : String) : StringMap :=
  ⟨assignEntries k v m.entries, nodup_assignEntries k v m.keyed⟩

@[simp] theorem lookup_assign (m : StringMap) (k v k' : String) :
    (m.assign k v).lookup k' = if k' = k then some v else m.lookup k' :=
  lookup_assignEntries k v k' m.entries

end StringMap

/-! ### The manifest -/

/-- `api.MountConf`. -/
structure MountConf where
  Pvc : String
  Path : String
  deriving DecidableEq, Repr

/-- `api.Toleration`, and `apiv1.Toleration` with the same four fields. -/
structure Toleration where
  Key : String
  Operator : String
  Value : String
  Effect : String
  deriving DecidableEq, Repr

/-- `api.WorkerConfig`, with the fields `genJobManifest` reads; `Cpu` and `Gpu` are counts. -/
structure WorkerConfig where
  Image : String
  Command : List String
  Gpu : Int
  Scheduler : String
  Mount : Option MountConf
  PullSecret : String
  Cpu : Int
  Memory : String
  Labels : StringMap
  Annotations : StringMap
  Tolerations : List Toleration

/-- A volume of the Pod: its name and `PersistentVolumeClaim.ClaimName`. -/
structure Volume where
  Name : String
  ClaimName : String
  deriving DecidableEq, Repr

structure VolumeMount where
  Name : String
  MountPath : String
  deriving DecidableEq, Repr

/-- A container; `Limits` is `Resources.Limits`, its quantities of type `Q`. -/
structure Container (Q : Type) where
  Image : String
  Name : String
  Command : List String
  ImagePullPolicy : String
  VolumeMounts : List VolumeMount
  Limits : List (String × Q)

structure PodSpec (Q : Type) where
  SchedulerName : String
  Containers : List (Container Q)
  RestartPolicy : String
  ImagePullSecrets : List String
  Tolerations : List Toleration
  Volumes : List Volume

/-- `Spec.Template`: the Pod template's labels, annotations and spec. -/
structure PodTemplateSpec (Q : Type) where
  Labels : StringMap
  Annotations : StringMap
  Spec : PodSpec Q

/-- `batchv1.Job`, with the fields the manifest sets. -/
structure Job (Q : Type) where
  Kind : String
  Name : String
  Labels : StringMap
  Template : PodTemplateSpec Q

/-- The Katib labels of the worker `wid`. -/
def katibLabels (wid : String) : StringMap :=
  ⟨[("katib-version", "alpha-0.2.0"), ("worker-id", wid)], by simp⟩

/-- `for k, v := range conf.Labels { labels[k] = v }`, visiting the entries in the order given. -/
def addLabels (labels : StringMap) (entries : List (String × String)) : StringMap :=
  entries.foldl (fun labels kv => labels.assign kv.1 kv.2) labels

/-- The claim the Pod mounts: the config's, when it names both a claim and a path. -/
def claimMount : Option MountConf → Option MountConf
  | some m => if m.Pvc ≠ "" ∧ m.Path ≠ "" then some m else none
  | none => none

variable {Q : Type}

/-- The limits of the container: `cpu` and `memory`, then `nvidia.com/gpu` when `Gpu > 0`, each
parsed by `resource.ParseQuantity`, here `parseQuantity`; the first that does not parse is the
error. -/
def jobLimits (parseQuantity : String → Except GoError Q) (conf : WorkerConfig) :
    Except GoError (List (String × Q)) := do
  let cpuReq ← parseQuantity (strconvItoa conf.Cpu)
  let memoryReq ← parseQuantity conf.Memory
  if conf.Gpu > 0 then
    let gpuReq ← parseQuantity (strconvItoa conf.Gpu)
    pure [("cpu", cpuReq), ("memory", memoryReq), ("nvidia.com/gpu", gpuReq)]
  else pure [("cpu", cpuReq), ("memory", memoryReq)]

/-- The Job `genJobManifest` builds around the limits `limits`: the template it starts from,
with the labels written over the Job's and the template's, and the annotations, tolerations,
volume and mount set as the config asks. -/
def jobTemplate (wid : String) (conf : WorkerConfig) (limits : List (String × Q)) : Job Q :=
  let labels := if conf.Labels.entries.length ≠ 0 then addLabels (katibLabels wid) conf.Labels.entries
    else katibLabels wid
  { Kind := "Job"
    Name := wid
    Labels := labels
    Template :=
      { Labels := labels
        Annotations := if conf.Annotations.entries.length ≠ 0 then conf.Annotations
          else StringMap.empty
        Spec :=
          { SchedulerName := conf.Scheduler
            Containers :=
              [{ Image := conf.Image
                 Name := wid
                 Command := conf.Command
                 ImagePullPolicy := "Always"
                 VolumeMounts := (claimMount conf.Mount).toList.map fun m =>
                   ⟨"pvc-mount-point", m.Path⟩
                 Limits := limits }]
            RestartPolicy := "OnFailure"
            ImagePullSecrets := [conf.PullSecret]
            Tolerations := if conf.Tolerations.length > 0 then
                conf.Tolerations.map fun t => ⟨t.Key, t.Operator, t.Value, t.Effect⟩
              else []
            Volumes := (claimMount conf.Mount).toList.map fun m => ⟨"pvc-mount-point", m.Pvc⟩ } } }

/-- `genJobManifest`: the template around the parsed limits. -/
def genJobManifest (parseQuantity : String → Except GoError Q) (wid : String)
    (conf : WorkerConfig) : Except GoError (Job Q) :=
  (jobLimits parseQuantity conf).map (jobTemplate wid conf)

/-- `SpawnWorker`: the manifest, then `jcl.Create(job)`, answered from `ρ` by `jobsCreate`. -/
def spawnWorker {ρ : Type} (parseQuantity : String → Except GoError Q)
    (jobsCreate : ρ → Job Q → Except GoError Unit × ρ) (wid : String) (workerConf : WorkerConfig) :
    Go (Cluster ρ) Unit :=
  match genJobManifest parseQuantity wid workerConf with
  | .error err => Go.throw err
  | .ok job => Cluster.call (jobsCreate · job)


/-! ### The labels -/

theorem lookup_eq_none_of_not_mem {entries : List (String × String)} {k : String}
    (absent : k ∉ entries.map Prod.fst) : entries.lookup k = none :=
  List.lookup_eq_none_iff.mpr fun p member => bne_iff_ne.mpr fun same =>
    absent (by rw [same]; exact List.mem_map_of_mem Prod.fst member)

theorem addLabels_lookup (base : StringMap) {entries : List (String × String)}
    (keyed : (entries.map Prod.fst).Nodup) (k : String) :
    (addLabels base entries).lookup k = (entries.lookup k).or (base.lookup k) := by
  induction entries generalizing base with
  | nil => rfl
  | cons e rest ih =>
      obtain ⟨key, value⟩ := e
      rw [List.map_cons, List.nodup_cons] at keyed
      show (addLabels (base.assign key value) rest).lookup k = _
      rw [ih _ keyed.2, StringMap.lookup_assign, lookup_cons_ite]
      by_cases same : k = key
      · subst same
        rw [if_pos rfl, if_pos rfl, lookup_eq_none_of_not_mem keyed.1]
        rfl
      · rw [if_neg same, if_neg same]

theorem jobTemplate_labels (wid : String) (conf : WorkerConfig) (limits : List (String × Q))
    (k : String) :
    (jobTemplate wid conf limits).Labels.lookup k =
      (conf.Labels.lookup k).or ((katibLabels wid).lookup k) := by
  show (if conf.Labels.entries.length ≠ 0 then _ else _ : StringMap).lookup k = _
  split_ifs with custom
  · exact addLabels_lookup _ conf.Labels.keyed k
  · unfold StringMap.lookup
    rw [List.length_eq_zero.mp (not_not.mp custom)]
    rfl

theorem genJobManifest_eq_ok {parseQuantity : String → Except GoError Q} {wid : String}
    {conf : WorkerConfig} {job : Job Q} (built : genJobManifest parseQuantity wid conf = .ok job) :
    ∃ limits, jobLimits parseQuantity conf = .ok limits ∧ job = jobTemplate wid conf limits := by
  unfold genJobManifest at built
  rcases limited : jobLimits parseQuantity conf with err | limits
  · rw [limited] at built
    cases built
  · rw [limited] at built
    exact ⟨limits, rfl, (Except.ok.inj built).symm⟩

/-- A Job built carries the same labels on itself and on its Pod template. A key has the
config's custom label when the config has one, and the Katib label (`katib-version`,
`worker-id`) otherwise, so a custom label overrides a Katib one. The labels are the same
whatever order `range` visits the custom labels in. -/
theorem genJobManifest_labels (parseQuantity : String → Except GoError Q) (wid : String)
    (conf : WorkerConfig) (job : Job Q) (built : genJobManifest parseQuantity wid conf = .ok job) :
    job.Template.Labels = job.Labels ∧
      (∀ k, job.Labels.lookup k = (conf.Labels.lookup k).or ((katibLabels wid).lookup k)) ∧
      ∀ order : List (String × String), order.Perm conf.Labels.entries → ∀ k,
        (addLabels (katibLabels wid) order).lookup k = job.Labels.lookup k := by
  obtain ⟨limits, -, rfl⟩ := genJobManifest_eq_ok built
  refine ⟨rfl, jobTemplate_labels wid conf limits, fun order perm k => ?_⟩
  have keyed : (order.map Prod.fst).Nodup := (perm.map Prod.fst).nodup_iff.mpr conf.Labels.keyed
  rw [jobTemplate_labels, addLabels_lookup _ keyed, lookup_perm perm keyed]
  rfl

/-- A config asking for one GPU and the claim `data` at `/data`, with the custom label
`worker-id`. -/
def gpuConfig : WorkerConfig :=
  { Image := "trainer", Command := ["python", "train.py"], Gpu := 1,
    Scheduler := "default-scheduler", Mount := some ⟨"data", "/data"⟩, PullSecret := "",
    Cpu := 2, Memory := "4Gi", Labels := ⟨[("worker-id", "trial-7")], by simp⟩,
    Annotations := StringMap.empty, Tolerations := [] }

/-- A parser that accepts every quantity as written. -/
def acceptQuantity (s : String) : Except GoError String := .ok s

/-- The Job of `gpuConfig` carries the custom `worker-id` in place of the worker's own. -/
theorem genJobManifest_labels_gpuConfig :
    ∃ job, genJobManifest acceptQuantity "w" gpuConfig = .ok job ∧
      job.Template.Labels = job.Labels ∧
      (∀ k, job.Labels.lookup k = (gpuConfig.Labels.lookup k).or ((katibLabels "w").lookup k)) ∧
      ∀ order : List (String × String), order.Perm gpuConfig.Labels.entries → ∀ k,
        (addLabels (katibLabels "w") order).lookup k = job.Labels.lookup k :=
  ⟨_, rfl, genJobManifest_labels acceptQuantity "w" gpuConfig _ rfl⟩

/-! ### The claim and the limits -/

theorem claimMount_eq_some {mount : Option MountConf} {m : MountConf} :
    claimMount mount = some m ↔ mount = some m ∧ m.Pvc ≠ "" ∧ m.Path ≠ "" := by
  cases mount with
  | none => simp [claimMount]
  | some m' =>
      show (if m'.Pvc ≠ "" ∧ m'.Path ≠ "" then some m' else none) = some m ↔ _
      split_ifs with both
      · simp only [Option.some.injEq]
        constructor
        · rintro rfl
          exact ⟨rfl, both⟩
        · rintro ⟨rfl, -⟩
          rfl
      · simp only [reduceCtorEq, false_iff, not_and, Option.some.injEq]
        rintro rfl
        exact fun pvc path => both ⟨pvc, path⟩

/-- In a Job built, every volume mount of the container names a volume of the Pod, each volume
is of the config's claim and each mount at the config's path, neither empty; and the Pod has a
volume exactly when the config names both a claim and a path. -/
theorem genJobManifest_mounts (parseQuantity : String → Except GoError Q) (wid : String)
    (conf : WorkerConfig) (job : Job Q) (built : genJobManifest parseQuantity wid conf = .ok job) :
    (∀ c ∈ job.Template.Spec.Containers, ∀ vm ∈ c.VolumeMounts,
      ∃ v ∈ job.Template.Spec.Volumes, v.Name = vm.Name) ∧
    (∀ v ∈ job.Template.Spec.Volumes, ∃ m, conf.Mount = some m ∧ v.ClaimName = m.Pvc ∧ m.Pvc ≠ "") ∧
    (∀ c ∈ job.Template.Spec.Containers, ∀ vm ∈ c.VolumeMounts,
      ∃ m, conf.Mount = some m ∧ vm.MountPath = m.Path ∧ m.Path ≠ "") ∧
    (job.Template.Spec.Volumes ≠ [] ↔ ∃ m, conf.Mount = some m ∧ m.Pvc ≠ "" ∧ m.Path ≠ "") := by
  obtain ⟨limits, -, rfl⟩ := genJobManifest_eq_ok built
  simp only [jobTemplate, List.mem_singleton, forall_eq]
  rcases mounted : claimMount conf.Mount with _ | m
  · have none : ¬∃ m, conf.Mount = some m ∧ m.Pvc ≠ "" ∧ m.Path ≠ "" := fun ⟨m, named⟩ =>
      absurd (claimMount_eq_some.mpr named) (by rw [mounted]; exact Option.noConfusion)
    simp [none]
  · obtain ⟨claimed, pvc, path⟩ := claimMount_eq_some.mp mounted
    simp [claimed, pvc, path]

theorem jobLimits_ok_iff (parseQuantity : String → Except GoError Q) (conf : WorkerConfig) :
    (∃ limits, jobLimits parseQuantity conf = .ok limits) ↔
      (∃ q, parseQuantity (strconvItoa conf.Cpu) = .ok q) ∧
      (∃ q, parseQuantity conf.Memory = .ok q) ∧
      (0 < conf.Gpu → ∃ q, parseQuantity (strconvItoa conf.Gpu) = .ok q) := by
  unfold jobLimits
  rcases parseQuantity (strconvItoa conf.Cpu) with _ | cpu <;>
    rcases parseQuantity conf.Memory with _ | memory <;>
    rcases parseQuantity (strconvItoa conf.Gpu) with _ | gpu <;>
    by_cases asked : conf.Gpu > 0 <;>
    simp [bind, Except.bind, pure, Except.pure, asked]

theorem jobLimits_keys {parseQuantity : String → Except GoError Q} {conf : WorkerConfig}
    {limits : List (String × Q)} (limited : jobLimits parseQuantity conf = .ok limits) :
    limits.map Prod.fst = ["cpu", "memory"] ++ if 0 < conf.Gpu then ["nvidia.com/gpu"] else [] := by
  revert limited
  unfold jobLimits
  rcases parseQuantity (strconvItoa conf.Cpu) with _ | cpu <;>
    rcases parseQuantity conf.Memory with _ | memory <;>
    rcases parseQuantity (strconvItoa conf.Gpu) with _ | gpu <;>
    by_cases asked : conf.Gpu > 0 <;>
    simp [bind, Except.bind, pure, Except.pure, asked]
  all_goals
    rintro rfl
    rfl

/-- `genJobManifest` builds a Job exactly when the CPU count, the memory and, when GPUs are
asked for, the GPU count parse as quantities; the container of a Job built then has the limits
`cpu`, `memory` and, exactly when `Gpu > 0`, `nvidia.com/gpu`. -/
theorem genJobManifest_builds (parseQuantity : String → Except GoError Q) (wid : String)
    (conf : WorkerConfig) :
    ((∃ job, genJobManifest parseQuantity wid conf = .ok job) ↔
      (∃ q, parseQuantity (strconvItoa conf.Cpu) = .ok q) ∧
      (∃ q, parseQuantity conf.Memory = .ok q) ∧
      (0 < conf.Gpu → ∃ q, parseQuantity (strconvItoa conf.Gpu) = .ok q)) ∧
    ∀ job, genJobManifest parseQuantity wid conf = .ok job →
      job.Template.Spec.Containers.map (fun c => c.Limits.map Prod.fst) =
        [["cpu", "memory"] ++ if 0 < conf.Gpu then ["nvidia.com/gpu"] else []] := by
  refine ⟨⟨fun ⟨job, built⟩ => ?_, fun parsed => ?_⟩, fun job built => ?_⟩
  · obtain ⟨limits, limited, -⟩ := genJobManifest_eq_ok built
    exact (jobLimits_ok_iff parseQuantity conf).mp ⟨limits, limited⟩
  · obtain ⟨limits, limited⟩ := (jobLimits_ok_iff parseQuantity conf).mpr parsed
    exact ⟨jobTemplate wid conf limits, by rw [genJobManifest, limited]; rfl⟩
  · obtain ⟨limits, limited, rfl⟩ := genJobManifest_eq_ok built
    exact congrArg (· :: []) (jobLimits_keys limited)

/-! ### `SpawnWorker` -/

/-- `SpawnWorker` leaves the worker table and the deleted Jobs as they were. When the manifest
builds, it sends the cluster one request, the creation of that Job, and returns the answer;
otherwise it sends nothing and returns the manifest's error. -/
theorem spawnWorker_creates {ρ : Type} (parseQuantity : String → Except GoError Q)
    (jobsCreate : ρ → Job Q → Except GoError Unit × ρ) (wid : String) (workerConf : WorkerConfig)
    (c : Cluster ρ) :
    (spawnWorker parseQuantity jobsCreate wid workerConf c).2.table = c.table ∧
      (spawnWorker parseQuantity jobsCreate wid workerConf c).2.deletedJobs = c.deletedJobs ∧
      ((∃ job, genJobManifest parseQuantity wid workerConf = .ok job ∧
          spawnWorker parseQuantity jobsCreate wid workerConf c = Cluster.call (jobsCreate · job) c) ∨
        ∃ err, genJobManifest parseQuantity wid workerConf = .error err ∧
          spawnWorker parseQuantity jobsCreate wid workerConf c = (.error (.error err), c)) := by
  unfold spawnWorker
  rcases genJobManifest parseQuantity wid workerConf with err | job
  · exact ⟨rfl, rfl, .inr ⟨err, rfl, rfl⟩⟩
  · obtain ⟨table, jobs⟩ := KubernetesWorkerInterface.call_quiet (jobsCreate · job) c.table c.deletedJobs c ⟨rfl, rfl⟩
    exact ⟨table, jobs, .inl ⟨job, rfl, rfl⟩⟩

end Katib
