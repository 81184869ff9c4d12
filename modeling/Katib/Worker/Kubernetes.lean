import Katib.Api

/-!
# The Kubernetes worker interface

`KubernetesWorkerInterface` runs each worker as a Job of the namespace `katib` and keeps its
status in the database. `UpdateWorkerStatus`, `CleanWorkers` and `StopWorkers` read the study's
workers once, then walk that list, deleting Jobs and Pods and writing statuses. The cluster and
the database may answer anything and fail any call. The worker table is a table keyed by
`WorkerId`: `GetWorkerList` reads the study's rows, and `UpdateWorker` sets a status by ID.
-/

set_option autoImplicit false

namespace Katib

/-- A Pod of a worker's Job: its name and `Status.Phase`. -/
structure Pod where
  Name : String
  Phase : String
  deriving DecidableEq, Repr

/-- The database's worker table; `WorkerId` is its key. -/
structure WorkerTable where
  rows : List Worker
  keyed : (rows.map (·.WorkerId)).Nodup

/-- The table after `UpdateWorker(id, status)`. -/
def WorkerTable.setStatus (table : WorkerTable) (id : String) (status : State) : WorkerTable :=
  ⟨table.rows.map fun w => if w.WorkerId = id then { w with Status := status } else w, by
    simpa [Function.comp_def, apply_ite] using table.keyed⟩

/-- What the worker interface works on: the worker table, the rest of the cluster and the
database, and the Jobs deleted so far, in order. -/
structure Cluster (ρ : Type) where
  table : WorkerTable
  rest : ρ
  deletedJobs : List String

/-- One call to the cluster or the database, answered from `ρ`. -/
def Cluster.call {ρ β : Type} (answer : ρ → Except GoError β × ρ) : Go (Cluster ρ) β := fun c =>
  match answer c.rest with
  | (.ok b, r) => (.ok b, { c with rest := r })
  | (.error err, r) => (.error (.error err), { c with rest := r })

/-- How the cluster and the database answer: the Jobs and Pods clients of the namespace, and
the database. `GetWorkerList` and `UpdateWorker` only decide whether they go through, the table
being part of `Cluster`. -/
structure KubernetesWorkerInterface (ρ : Type) where
  jobsGet : ρ → String → Except GoError Int × ρ
  jobsDelete : ρ → String → Except GoError Unit × ρ
  podsList : ρ → String → Except GoError (List Pod) × ρ
  podsDelete : ρ → String → Except GoError Unit × ρ
  podsGetLogs : ρ → String → Option String → Except GoError String × ρ
  dbGetWorkerList : ρ → String → Except GoError Unit × ρ
  dbUpdateWorker : ρ → String → State → Except GoError Unit × ρ
  dbGetWorkerTimestamp : ρ → String → Except GoError (Option String) × ρ
  dbStoreWorkerLogs : ρ → String → List String → Except GoError Unit × ρ

namespace KubernetesWorkerInterface

variable {ρ : Type} (d : KubernetesWorkerInterface ρ)

/-! ### The calls -/

/-- `d.db.GetWorkerList(studyId, "")`: the study's rows. -/
def getWorkerList (studyId : String) : Go (Cluster ρ) (List Worker) :=
  Cluster.call (d.dbGetWorkerList · studyId) >>= fun _ c =>
    (.ok (c.table.rows.filter fun w => w.StudyId = studyId), c)

/-- `d.db.UpdateWorker(id, status)`. -/
def updateWorker (id : String) (status : State) : Go (Cluster ρ) Unit :=
  Cluster.call (d.dbUpdateWorker · id status) >>= fun _ c =>
    (.ok (), { c with table := c.table.setStatus id status })

/-- `jcl.Get(wID)`: the Job's `Status.Succeeded`. -/
def getJob (wID : String) : Go (Cluster ρ) Int := Cluster.call (d.jobsGet · wID)

/-- `jcl.Delete(name)`; a Job deleted is logged. -/
def deleteJob (name : String) : Go (Cluster ρ) Unit :=
  Cluster.call (d.jobsDelete · name) >>= fun _ c =>
    (.ok (), { c with deletedJobs := c.deletedJobs ++ [name] })

/-- `pcl.List` with the selector `job-name=` and the Job's name. -/
def listPods (jobName : String) : Go (Cluster ρ) (List Pod) := Cluster.call (d.podsList · jobName)

/-- `pl, _ := pcl.List(...)`: on an error the client's list stays empty. -/
def listPodsDroppingError (jobName : String) : Go (Cluster ρ) (List Pod) :=
  Go.attempt (d.listPods jobName) >>= fun
    | .ok pods => pure pods
    | .error _ => pure []

/-- `pcl.Delete(pl.Items[0].ObjectMeta.Name)`, its error dropped; an empty list is an index
out of range. -/
def deleteFirstPod : List Pod → Go (Cluster ρ) Unit
  | [] => Go.panic "index out of range"
  | pod :: _ => Go.discard (Cluster.call (d.podsDelete · pod.Name))

/-- `d.db.GetWorkerTimestamp(wID)`. -/
def getWorkerTimestamp (wID : String) : Go (Cluster ρ) (Option String) :=
  Cluster.call (d.dbGetWorkerTimestamp · wID)

/-- `GetLogs(name, &logopt).Do().Raw()`, from the timestamp when there is one. -/
def getLogs (name : String) (since : Option String) : Go (Cluster ρ) String :=
  Cluster.call (d.podsGetLogs · name since)

/-- `d.db.StoreWorkerLogs(wID, logs)`. -/
def storeWorkerLogs (wID : String) (logs : List String) : Go (Cluster ρ) Unit :=
  Cluster.call (d.dbStoreWorkerLogs · wID logs)

/-! ### The operations -/

/-- `StoreWorkerLog`. -/
def storeWorkerLog (wID : String) : Go (Cluster ρ) Unit :=
  d.listPodsDroppingError wID >>= fun
    | [] => Go.throw (.plain ("No Pods are found in Job " ++ wID))
    | pod :: _ =>
        d.getWorkerTimestamp wID >>= fun mt =>
        d.getLogs pod.Name mt >>= fun logs =>
        if logs = "" then pure () else d.storeWorkerLogs wID (stringsSplit logs '\n')

/-- `IsWorkerComplete`. -/
def isWorkerComplete (wID : String) : Go (Cluster ρ) Bool :=
  d.getJob wID >>= fun succeeded =>
  if succeeded = 0 then pure false
  else d.listPodsDroppingError wID >>= fun
    | [] => Go.throw (.plain ("No Pods are found in Job " ++ wID))
    | pod :: _ => pure (decide (pod.Phase = "Succeeded"))

/-- The body of `UpdateWorkerStatus`'s loop, for the worker `w` as listed. -/
def updateWorkerStatusOf (w : Worker) : Go (Cluster ρ) Unit :=
  match w.Status with
  | .pending =>
      Go.attempt (d.storeWorkerLog w.WorkerId) >>= fun
        | .ok () => d.updateWorker w.WorkerId .running
        | .error _ => pure ()
  | .running =>
      d.isWorkerComplete w.WorkerId >>= fun c =>
      d.storeWorkerLog w.WorkerId >>= fun _ =>
      if c then
        d.updateWorker w.WorkerId .completed >>= fun _ =>
        Go.discard (d.deleteJob w.WorkerId) >>= fun _ =>
        d.listPodsDroppingError w.WorkerId >>= d.deleteFirstPod
      else pure ()
  | _ => pure ()

/-- `UpdateWorkerStatus`. -/
def updateWorkerStatus (studyId : String) : Go (Cluster ρ) Unit :=
  d.getWorkerList studyId >>= fun ws => ws.forM d.updateWorkerStatusOf

/-- The body of `CleanWorkers`'s loop, for the worker `w` as listed. -/
def cleanWorker (w : Worker) : Go (Cluster ρ) Unit :=
  if w.Status = .running then
    Go.discard (d.deleteJob w.WorkerId) >>= fun _ =>
    d.listPodsDroppingError w.WorkerId >>= fun pl =>
    d.deleteFirstPod pl >>= fun _ =>
    d.updateWorker w.WorkerId .killed
  else pure ()

/-- `CleanWorkers`. -/
def cleanWorkers (studyId : String) : Go (Cluster ρ) Unit :=
  d.getWorkerList studyId >>= fun ws => ws.forM d.cleanWorker

/-- The body of `StopWorkers`'s inner loop, for the worker `w` as listed and the ID `wid`. -/
def stopWorker (iscomplete : Bool) (w : Worker) (wid : String) : Go (Cluster ρ) Unit :=
  if w.Status = .running ∧ w.WorkerId = wid then
    Go.discard (d.deleteJob wid) >>= fun _ =>
    d.listPods wid >>= fun pl =>
    d.deleteFirstPod pl >>= fun _ =>
    d.updateWorker wid (if iscomplete then .completed else .killed)
  else pure ()

/-- `StopWorkers`. -/
def stopWorkers (studyId : String) (wIDs : List String) (iscomplete : Bool) :
    Go (Cluster ρ) Unit :=
  d.getWorkerList studyId >>= fun ws => ws.forM fun w => wIDs.forM (d.stopWorker iscomplete w)

/-! ### What leaves the table as it is -/

/-- `x` ends, however it ends, with the worker table it started from. -/
def TableKept {α : Type} (x : Go (Cluster ρ) α) : Prop := ∀ t, Go.Keeps (fun c => c.table = t) x

/-- `x` ends, however it ends, with the worker table and the deleted Jobs it started from. -/
def Quiet {α : Type} (x : Go (Cluster ρ) α) : Prop :=
  ∀ t js, Go.Keeps (fun c => c.table = t ∧ c.deletedJobs = js) x

omit d in
theorem TableKept.keeps {α : Type} {x : Go (Cluster ρ) α} (kept : TableKept x)
    (P : WorkerTable → Prop) : Go.Keeps (fun c => P c.table) x := fun c hold => by
  show P (x c).2.table
  rw [kept c.table c rfl]
  exact hold

omit d in
theorem Quiet.keeps {α : Type} {x : Go (Cluster ρ) α} (quiet : Quiet x)
    (P : WorkerTable → List String → Prop) : Go.Keeps (fun c => P c.table c.deletedJobs) x :=
  fun c hold => by
    obtain ⟨table, jobs⟩ := quiet c.table c.deletedJobs c ⟨rfl, rfl⟩
    show P (x c).2.table (x c).2.deletedJobs
    rw [table, jobs]
    exact hold

omit d in
theorem Quiet.tableKept {α : Type} {x : Go (Cluster ρ) α} (quiet : Quiet x) : TableKept x :=
  fun t c hold => (quiet t c.deletedJobs c ⟨hold, rfl⟩).1

omit d in
theorem call_quiet {β : Type} (answer : ρ → Except GoError β × ρ) : Quiet (Cluster.call answer) := by
  intro t js c hold
  unfold Cluster.call
  split <;> exact hold

omit d in
theorem call_tableKept {β : Type} (answer : ρ → Except GoError β × ρ) :
    TableKept (Cluster.call answer) :=
  (call_quiet answer).tableKept

theorem getWorkerList_quiet (studyId : String) : Quiet (d.getWorkerList studyId) :=
  fun t js => Go.Keeps.bind (call_quiet _ t js) fun _ _ hold => hold

theorem getWorkerList_tableKept (studyId : String) : TableKept (d.getWorkerList studyId) :=
  (d.getWorkerList_quiet studyId).tableKept

theorem getWorkerList_ok {studyId : String} {c c' : Cluster ρ} {ws : List Worker}
    (listed : d.getWorkerList studyId c = (.ok ws, c')) :
    ws = c.table.rows.filter (fun w => w.StudyId = studyId) ∧ c'.table = c.table := by
  obtain ⟨_, c₁, read, rest⟩ := Go.bind_eq_ok.mp listed
  simp only [Prod.mk.injEq, Except.ok.injEq] at rest
  have kept : c₁.table = c.table := by
    simpa only [read] using call_tableKept (d.dbGetWorkerList · studyId) c.table c rfl
  rw [← rest.1, ← rest.2, kept]
  exact ⟨rfl, rfl⟩

theorem getWorkerList_forM_keeps (I : Cluster ρ → Prop) (studyId : String)
    (body : Worker → Go (Cluster ρ) PUnit) (c₀ : Cluster ρ) (listing : Go.Keeps I (d.getWorkerList studyId))
    (step : ∀ w ∈ c₀.table.rows, w.StudyId = studyId → Go.Keeps I (body w)) (start : I c₀) :
    I ((d.getWorkerList studyId >>= fun ws => ws.forM body) c₀).2 := by
  rw [Go.bind_apply]
  have kept := listing c₀ start
  rcases listed : d.getWorkerList studyId c₀ with ⟨_ | ws, c₁⟩
  · rwa [listed] at kept
  · rw [listed] at kept
    obtain ⟨rows, -⟩ := d.getWorkerList_ok listed
    have loop : Go.Keeps I (ws.forM body) := Go.Keeps.forM fun w member => by
      rw [rows, List.mem_filter] at member
      exact step w member.1 (of_decide_eq_true member.2)
    exact loop c₁ kept

theorem deleteJob_tableKept (name : String) : TableKept (d.deleteJob name) :=
  fun t => Go.Keeps.bind (call_tableKept _ t) fun _ _ hold => hold

theorem listPodsDroppingError_quiet (jobName : String) : Quiet (d.listPodsDroppingError jobName) :=
  fun t js => Go.Keeps.bind (Go.Keeps.attempt (call_quiet _ t js)) fun
    | .ok _ => Go.Keeps.pure _
    | .error _ => Go.Keeps.pure _

theorem listPodsDroppingError_tableKept (jobName : String) :
    TableKept (d.listPodsDroppingError jobName) :=
  (d.listPodsDroppingError_quiet jobName).tableKept

theorem deleteFirstPod_quiet : ∀ pods, Quiet (d.deleteFirstPod pods)
  | [], _, _ => Go.Keeps.panic _
  | _ :: _, t, js => Go.Keeps.discard (call_quiet _ t js)

theorem deleteFirstPod_tableKept (pods : List Pod) : TableKept (d.deleteFirstPod pods) :=
  (d.deleteFirstPod_quiet pods).tableKept

theorem storeWorkerLog_quiet (wID : String) : Quiet (d.storeWorkerLog wID) := by
  intro t js
  refine Go.Keeps.bind (d.listPodsDroppingError_quiet wID t js) fun
    | [] => Go.Keeps.throw _
    | _ :: _ => ?_
  exact Go.Keeps.bind (call_quiet _ t js) fun _ => Go.Keeps.bind (call_quiet _ t js) fun _ =>
    Go.Keeps.ite (Go.Keeps.pure _) (call_quiet _ t js)

theorem storeWorkerLog_tableKept (wID : String) : TableKept (d.storeWorkerLog wID) :=
  (d.storeWorkerLog_quiet wID).tableKept

theorem isWorkerComplete_quiet (wID : String) : Quiet (d.isWorkerComplete wID) := by
  intro t js
  refine Go.Keeps.bind (call_quiet _ t js) fun _ => Go.Keeps.ite (Go.Keeps.pure _) ?_
  exact Go.Keeps.bind (d.listPodsDroppingError_quiet wID t js) fun
    | [] => Go.Keeps.throw _
    | _ :: _ => Go.Keeps.pure _

theorem isWorkerComplete_tableKept (wID : String) : TableKept (d.isWorkerComplete wID) :=
  (d.isWorkerComplete_quiet wID).tableKept

end KubernetesWorkerInterface

end Katib
