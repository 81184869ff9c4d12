import Katib.Worker.Jobs

/-!
# The operations against a cluster that serves them

The results of `Lifecycle` and `Jobs` hold however the cluster and the database answer. Here
they serve the calls the operations make: then each operation returns, and what it does to the
table and to the deleted Jobs is a function of the table alone. Every worker of the study moves
to the status its call gives it (`WorkerCall.next`), and the Jobs the call deletes for it
(`WorkerCall.deletes`) are deleted in the order of the table.

`CleanWorkers` and `StopWorkers` need the listing, the status writes and the Job deletions to go
through, and a Pod listed for every Job (`Serves`); a failed Pod deletion is dropped by the code.
`UpdateWorkerStatus` reads the Jobs and the logs as well, and its result depends on what the
cluster reports of each Job (`Reports`).

Each loop is proved once, over any body that moves the listed worker and deletes some Jobs
(`ServedStep`), by induction over the listing with the workers already visited generalised.
-/

set_option autoImplicit false

namespace Katib

/-! ### The abstract operations -/

namespace WorkerCall

/-- The study a call is for. -/
def studyId : WorkerCall → String
  | .updateWorkerStatus studyId => studyId
  | .cleanWorkers studyId => studyId
  | .stopWorkers studyId _ _ => studyId

/-- The status a served call gives the worker `w` of its study; `done` says whose Jobs
`IsWorkerComplete` finds complete. -/
def next (done : String → Bool) : WorkerCall → Worker → State
  | .updateWorkerStatus _, w =>
      match w.Status with
      | .pending => .running
      | .running => if done w.WorkerId then .completed else .running
      | .completed => .completed
      | .killed => .killed
  | .cleanWorkers _, w => if w.Status = .running then .killed else w.Status
  | .stopWorkers _ wIDs iscomplete, w =>
      if w.Status = .running ∧ w.WorkerId ∈ wIDs then (if iscomplete then .completed else .killed)
      else w.Status

/-- The Jobs a served call deletes for the worker `w` of its study: `StopWorkers` deletes a
running worker's Job once for each time `wIDs` names it. -/
def deletes (done : String → Bool) : WorkerCall → Worker → List String
  | .updateWorkerStatus _, w => if w.Status = .running ∧ done w.WorkerId then [w.WorkerId] else []
  | .cleanWorkers _, w => if w.Status = .running then [w.WorkerId] else []
  | .stopWorkers _ wIDs _, w =>
      if w.Status = .running then wIDs.filter (fun wid => w.WorkerId = wid) else []

/-- What a served call does to the rows and to the deleted Jobs. -/
def serve (done : String → Bool) (call : WorkerCall) (state : List Worker × List String) :
    List Worker × List String :=
  (state.1.map fun w => if w.StudyId = call.studyId then { w with Status := call.next done w } else w,
    state.2 ++ (state.1.filter fun w => w.StudyId = call.studyId).flatMap (call.deletes done))

end WorkerCall

/-! ### What the cluster answers -/

/-- The cluster and the database serve the calls of `CleanWorkers` and `StopWorkers`: the
listing, the status writes and the Job deletions go through, and every Pod listing is
non-empty. -/
structure KubernetesWorkerInterface.Serves {ρ : Type} (d : KubernetesWorkerInterface ρ) : Prop where
  dbGetWorkerList : ∀ r studyId, ∃ r', d.dbGetWorkerList r studyId = (.ok (), r')
  dbUpdateWorker : ∀ r id s, ∃ r', d.dbUpdateWorker r id s = (.ok (), r')
  jobsDelete : ∀ r name, ∃ r', d.jobsDelete r name = (.ok (), r')
  podsList : ∀ r jobName, ∃ pod pods r', d.podsList r jobName = (.ok (pod :: pods), r')

/-- The cluster and the database serve every call of the three operations, and report a fixed
state of each Job: `succeeded id` for its `Status.Succeeded`, and a Pod list headed by `pod id`. -/
structure KubernetesWorkerInterface.Reports {ρ : Type} (d : KubernetesWorkerInterface ρ)
    (succeeded : String → Int) (pod : String → Pod) : Prop where
  jobsGet : ∀ r id, ∃ r', d.jobsGet r id = (.ok (succeeded id), r')
  jobsDelete : ∀ r name, ∃ r', d.jobsDelete r name = (.ok (), r')
  podsList : ∀ r jobName, ∃ pods r', d.podsList r jobName = (.ok (pod jobName :: pods), r')
  podsGetLogs : ∀ r name since, ∃ logs r', d.podsGetLogs r name since = (.ok logs, r')
  dbGetWorkerList : ∀ r studyId, ∃ r', d.dbGetWorkerList r studyId = (.ok (), r')
  dbUpdateWorker : ∀ r id s, ∃ r', d.dbUpdateWorker r id s = (.ok (), r')
  dbGetWorkerTimestamp : ∀ r id, ∃ t r', d.dbGetWorkerTimestamp r id = (.ok t, r')
  dbStoreWorkerLogs : ∀ r id logs, ∃ r', d.dbStoreWorkerLogs r id logs = (.ok (), r')

/-- What `IsWorkerComplete` finds of the Job `id` when the cluster reports `succeeded` and
`pod`. -/
def jobDone (succeeded : String → Int) (pod : String → Pod) (id : String) : Bool :=
  if succeeded id = 0 then false else decide ((pod id).Phase = "Succeeded")

theorem servingCluster_reports :
    (servingCluster [⟨"w-0", "Running"⟩] (.ok ())).Reports (fun _ => 1) (fun _ => ⟨"w-0", "Running"⟩) :=
  ⟨fun _ _ => ⟨(), rfl⟩, fun _ _ => ⟨(), rfl⟩, fun _ _ => ⟨[], (), rfl⟩, fun _ _ _ => ⟨_, (), rfl⟩,
    fun _ _ => ⟨(), rfl⟩, fun _ _ _ => ⟨(), rfl⟩, fun _ _ => ⟨_, (), rfl⟩, fun _ _ _ => ⟨(), rfl⟩⟩

/-! ### Loops whose body is served -/

/-- The loop body `body`, served, returns for every worker `w` and every state: it deletes the
Jobs `deletes w`, and either leaves the table, `next w` being the status of `w`, or writes
`next w` to the row of `w`. -/
def ServedStep {ρ : Type} (body : Worker → Go (Cluster ρ) PUnit) (next : Worker → State)
    (deletes : Worker → List String) : Prop :=
  ∀ w c, ∃ c', body w c = (.ok ⟨⟩, c') ∧
    (c'.table = c.table ∧ next w = w.Status ∨ c'.table = c.table.setStatus w.WorkerId (next w)) ∧
    c'.deletedJobs = c.deletedJobs ++ deletes w

/-- `rows₀` with each worker of `visited` moved to `next`. -/
def moveVisited (next : Worker → State) (visited rows₀ : List Worker) : List Worker :=
  rows₀.map fun r => if r ∈ visited then { r with Status := next r } else r

@[simp] theorem Worker.status_update_self (w : Worker) : { w with Status := w.Status } = w := rfl

theorem moveVisited_nil (next : Worker → State) (rows₀ : List Worker) :
    moveVisited next [] rows₀ = rows₀ := by
  simp [moveVisited]

theorem WorkerTable.setStatus_setStatus (t : WorkerTable) (id : String) (s : State) :
    (t.setStatus id s).setStatus id s = t.setStatus id s := by
  simp only [setStatus, List.map_map, WorkerTable.mk.injEq]
  exact List.map_congr_left fun w _ => by by_cases same : w.WorkerId = id <;> simp [same]

theorem moveVisited_step {next : Worker → State} {rows₀ visited : List Worker} {w : Worker}
    {t t' : WorkerTable} (keyed : (rows₀.map (·.WorkerId)).Nodup) (listed : w ∈ rows₀)
    (fresh : w ∉ visited) (current : t.rows = moveVisited next visited rows₀)
    (step : t' = t ∧ next w = w.Status ∨ t' = t.setStatus w.WorkerId (next w)) :
    t'.rows = moveVisited next (w :: visited) rows₀ := by
  rcases step with ⟨rfl, same⟩ | rfl
  · rw [current]
    refine List.map_congr_left fun r _ => ?_
    by_cases hit : r = w
    · subst hit
      simp [fresh, same]
    · simp [hit]
  · show (t.rows.map _) = _
    rw [current, moveVisited, List.map_map]
    refine List.map_congr_left fun r member => ?_
    by_cases hit : r = w
    · subst hit
      simp [fresh]
    · have other : r.WorkerId ≠ w.WorkerId := fun same =>
        hit (List.inj_on_of_nodup_map keyed member listed same)
      by_cases seen : r ∈ visited <;> simp [hit, other, seen]

theorem ServedStep.forM {ρ : Type} {body : Worker → Go (Cluster ρ) PUnit} {next : Worker → State}
    {deletes : Worker → List String} (step : ServedStep body next deletes) {rows₀ : List Worker}
    (keyed : (rows₀.map (·.WorkerId)).Nodup) :
    ∀ (ws visited : List Worker) (c : Cluster ρ), ws.Nodup → (∀ w ∈ ws, w ∈ rows₀ ∧ w ∉ visited) →
      c.table.rows = moveVisited next visited rows₀ →
      ∃ c', ws.forM body c = (.ok ⟨⟩, c') ∧
        c'.table.rows = moveVisited next (ws.reverse ++ visited) rows₀ ∧
        c'.deletedJobs = c.deletedJobs ++ ws.flatMap deletes
  | [], _, c, _, _, current => ⟨c, rfl, current, (List.append_nil _).symm⟩
  | w :: ws, visited, c, distinct, fresh, current => by
    obtain ⟨c₁, run, table, jobs⟩ := step w c
    obtain ⟨listed, unseen⟩ := fresh w (List.mem_cons_self w ws)
    obtain ⟨outside, distinct⟩ := List.nodup_cons.mp distinct
    obtain ⟨c₂, rest, rows, jobs₂⟩ := step.forM keyed ws (w :: visited) c₁ distinct
      (fun v member => ⟨(fresh v (List.mem_cons_of_mem w member)).1, fun seen =>
        (List.mem_cons.mp seen).elim (fun same => outside (same ▸ member))
          (fresh v (List.mem_cons_of_mem w member)).2⟩)
      (moveVisited_step keyed listed unseen current table)
    refine ⟨c₂, by rw [List.forM_cons', Go.bind_ok run, rest], ?_, ?_⟩
    · rw [rows, List.reverse_cons, List.append_assoc]
      rfl
    · rw [jobs₂, jobs, List.flatMap_cons, List.append_assoc]

namespace KubernetesWorkerInterface

variable {ρ : Type} (d : KubernetesWorkerInterface ρ)

omit d in
theorem Quiet.of_ok {α : Type} {x : Go (Cluster ρ) α} (quiet : Quiet x) {c c' : Cluster ρ} {a : α}
    (run : x c = (.ok a, c')) : c'.table = c.table ∧ c'.deletedJobs = c.deletedJobs := by
  simpa only [run] using quiet c.table c.deletedJobs c ⟨rfl, rfl⟩

omit d in
theorem call_ok {β : Type} {answer : ρ → Except GoError β × ρ} {c : Cluster ρ} {b : β} {r : ρ}
    (answered : answer c.rest = (.ok b, r)) : Cluster.call answer c = (.ok b, { c with rest := r }) := by
  unfold Cluster.call
  rw [answered]

omit d in
theorem call_eq_ok {β : Type} {answer : ρ → Except GoError β × ρ} {c c' : Cluster ρ} {b : β}
    (called : Cluster.call answer c = (.ok b, c')) :
    answer c.rest = (.ok b, c'.rest) ∧ c' = { c with rest := c'.rest } := by
  unfold Cluster.call at called
  split at called <;> simp only [Prod.mk.injEq, Except.ok.injEq, reduceCtorEq, false_and] at called
  obtain ⟨rfl, rfl⟩ := called
  exact ⟨by assumption, rfl⟩

omit d in
theorem discard_call {β : Type} (answer : ρ → Except GoError β × ρ) (c : Cluster ρ) :
    ∃ c', Go.discard (Cluster.call answer) c = (.ok (), c') := by
  rcases answered : answer c.rest with ⟨_ | b, r⟩
  · exact ⟨_, Go.discard_error (by unfold Cluster.call; rw [answered])⟩
  · exact ⟨_, Go.discard_ok (call_ok answered)⟩

theorem deleteFirstPod_cons_ok (pod : Pod) (pods : List Pod) (c : Cluster ρ) :
    ∃ c', d.deleteFirstPod (pod :: pods) c = (.ok (), c') :=
  discard_call _ c

theorem deleteJob_ok {name : String} {c c' : Cluster ρ} {u : Unit}
    (deleted : d.deleteJob name c = (.ok u, c')) :
    c'.table = c.table ∧ c'.deletedJobs = c.deletedJobs ++ [name] := by
  obtain ⟨_, c₁, called, rest⟩ := Go.bind_eq_ok.mp deleted
  have frame := (call_quiet (d.jobsDelete · name)).of_ok called
  simp only [Prod.mk.injEq] at rest
  rw [← rest.2, ← frame.1, ← frame.2]
  exact ⟨rfl, rfl⟩

theorem listPodsDroppingError_of_listPods {jobName : String} {c c' : Cluster ρ} {pods : List Pod}
    (listed : d.listPods jobName c = (.ok pods, c')) :
    d.listPodsDroppingError jobName c = (.ok pods, c') := by
  rw [listPodsDroppingError, Go.bind_ok (Go.attempt_ok listed)]
  rfl

theorem podsList_of_listPodsDroppingError {jobName : String} {c c' : Cluster ρ} {pod : Pod}
    {pods : List Pod} (listed : d.listPodsDroppingError jobName c = (.ok (pod :: pods), c')) :
    d.podsList c.rest jobName = (.ok (pod :: pods), c'.rest) := by
  rcases answered : d.podsList c.rest jobName with ⟨err | found, r⟩ <;>
    simp only [listPodsDroppingError, listPods, Go.bind_apply, Go.attempt, Cluster.call, answered,
      Go.pure_apply, Prod.mk.injEq, Except.ok.injEq] at listed
  · exact absurd listed.1 List.noConfusion
  · rw [listed.1, ← listed.2]

/-- Whenever `StoreWorkerLog` returns nil, it has read the logs of the first Pod the listing of
the Job returned, from the timestamp the database gave, and either they were empty and nothing
was stored, or the database took the log's lines: pieces without a newline that, joined with
newlines, give the log back whole. The worker table and the deleted Jobs are untouched. -/
theorem storeWorkerLog_stores_lines {wID : String} {c c' : Cluster ρ}
    (stored : d.storeWorkerLog wID c = (.ok (), c')) :
    c'.table = c.table ∧ c'.deletedJobs = c.deletedJobs ∧
    ∃ pod pods r₁ since r₂ logs r₃, d.podsList c.rest wID = (.ok (pod :: pods), r₁) ∧
      d.dbGetWorkerTimestamp r₁ wID = (.ok since, r₂) ∧
      d.podsGetLogs r₂ pod.Name since = (.ok logs, r₃) ∧
      ((logs = "" ∧ c'.rest = r₃) ∨
        ∃ lines, d.dbStoreWorkerLogs r₃ wID lines = (.ok (), c'.rest) ∧
          (∀ line ∈ lines, '\n' ∉ line.data) ∧ stringsJoin lines '\n' = logs) := by
  refine ⟨(d.storeWorkerLog_quiet wID).of_ok stored |>.1,
    (d.storeWorkerLog_quiet wID).of_ok stored |>.2, ?_⟩
  obtain ⟨pl, c₁, listed, stored⟩ := Go.bind_eq_ok.mp stored
  rcases pl with _ | ⟨pod, pods⟩
  · cases stored
  obtain ⟨since, c₂, stamped, stored⟩ := Go.bind_eq_ok.mp stored
  obtain ⟨logs, c₃, got, stored⟩ := Go.bind_eq_ok.mp stored
  refine ⟨pod, pods, _, since, _, logs, _, d.podsList_of_listPodsDroppingError listed,
    (call_eq_ok stamped).1, (call_eq_ok got).1, ?_⟩
  by_cases empty : logs = ""
  · rw [if_pos empty] at stored
    cases stored
    exact .inl ⟨empty, rfl⟩
  · rw [if_neg empty] at stored
    exact .inr ⟨_, (call_eq_ok stored).1, fun line member => by
      obtain ⟨piece, inSplit, rfl⟩ := List.mem_map.mp member
      exact sep_not_mem_splitChars _ _ piece inSplit, stringsJoin_stringsSplit logs _⟩

section Serves

variable {d} (serves : d.Serves)
include serves

theorem Serves.getWorkerList_ok (studyId : String) (c : Cluster ρ) :
    ∃ c', d.getWorkerList studyId c = (.ok (c.table.rows.filter fun w => w.StudyId = studyId), c') := by
  obtain ⟨r, answered⟩ := serves.dbGetWorkerList c.rest studyId
  exact ⟨_, by rw [getWorkerList, Go.bind_ok (call_ok answered)]⟩

theorem Serves.updateWorker_ok (id : String) (s : State) (c : Cluster ρ) :
    ∃ c', d.updateWorker id s c = (.ok (), c') := by
  obtain ⟨r, answered⟩ := serves.dbUpdateWorker c.rest id s
  exact ⟨_, by rw [updateWorker, Go.bind_ok (call_ok answered)]⟩

theorem Serves.deleteJob_ok (name : String) (c : Cluster ρ) :
    ∃ c', d.deleteJob name c = (.ok (), c') := by
  obtain ⟨r, answered⟩ := serves.jobsDelete c.rest name
  exact ⟨_, by rw [deleteJob, Go.bind_ok (call_ok answered)]⟩

theorem Serves.listPods_ok (jobName : String) (c : Cluster ρ) :
    ∃ pod pods c', d.listPods jobName c = (.ok (pod :: pods), c') := by
  obtain ⟨pod, pods, r, answered⟩ := serves.podsList c.rest jobName
  exact ⟨pod, pods, _, call_ok answered⟩

theorem Serves.listPodsDroppingError_ok (jobName : String) (c : Cluster ρ) :
    ∃ pod pods c', d.listPodsDroppingError jobName c = (.ok (pod :: pods), c') := by
  obtain ⟨pod, pods, c', listed⟩ := serves.listPods_ok jobName c
  exact ⟨pod, pods, c', d.listPodsDroppingError_of_listPods listed⟩

theorem Serves.teardown_ok {list : Go (Cluster ρ) (List Pod)} (quiet : Quiet list)
    (listed : ∀ c, ∃ pod pods c', list c = (.ok (pod :: pods), c')) (id : String) (s : State)
    (c : Cluster ρ) :
    ∃ c', (Go.discard (d.deleteJob id) >>= fun _ => list >>= fun pl =>
        d.deleteFirstPod pl >>= fun _ => d.updateWorker id s) c = (.ok (), c') ∧
      c'.table = c.table.setStatus id s ∧ c'.deletedJobs = c.deletedJobs ++ [id] := by
  obtain ⟨c₁, deleted⟩ := serves.deleteJob_ok id c
  obtain ⟨pod, pods, c₂, podded⟩ := listed c₁
  obtain ⟨c₃, dropped⟩ := d.deleteFirstPod_cons_ok pod pods c₂
  obtain ⟨c₄, written⟩ := serves.updateWorker_ok id s c₃
  have frame₁ := d.deleteJob_ok deleted
  have frame₂ := quiet.of_ok podded
  have frame₃ := (d.deleteFirstPod_quiet _).of_ok dropped
  have frame₄ := d.updateWorker_ok written
  refine ⟨c₄, ?_, ?_, ?_⟩
  · rw [Go.bind_ok (Go.discard_ok deleted), Go.bind_ok podded, Go.bind_ok dropped, written]
  · rw [frame₄.1, frame₃.1, frame₂.1, frame₁.1]
  · rw [frame₄.2, frame₃.2, frame₂.2, frame₁.2]

theorem Serves.cleanWorker_step (done : String → Bool) (studyId : String) :
    ServedStep d.cleanWorker ((WorkerCall.cleanWorkers studyId).next done)
      ((WorkerCall.cleanWorkers studyId).deletes done) := by
  intro w c
  simp only [WorkerCall.next, WorkerCall.deletes, cleanWorker]
  by_cases running : w.Status = .running
  · simp only [if_pos running]
    obtain ⟨c', run, table, jobs⟩ := serves.teardown_ok (d.listPodsDroppingError_quiet _)
      (serves.listPodsDroppingError_ok _) w.WorkerId .killed c
    exact ⟨c', run, .inr table, jobs⟩
  · simp only [if_neg running, List.append_nil]
    exact ⟨c, rfl, .inl ⟨rfl, trivial⟩, rfl⟩

theorem Serves.stopWorker_ok (iscomplete : Bool) (w : Worker) (wid : String) (c : Cluster ρ) :
    ∃ c', d.stopWorker iscomplete w wid c = (.ok (), c') ∧
      c'.table = (if w.Status = .running ∧ w.WorkerId = wid then
        c.table.setStatus wid (if iscomplete then .completed else .killed) else c.table) ∧
      c'.deletedJobs = c.deletedJobs ++ (if w.Status = .running ∧ w.WorkerId = wid then [wid] else []) := by
  unfold stopWorker
  by_cases chosen : w.Status = .running ∧ w.WorkerId = wid
  · simp only [if_pos chosen]
    exact serves.teardown_ok (call_quiet _) (serves.listPods_ok wid) wid _ c
  · simp only [if_neg chosen, List.append_nil]
    exact ⟨c, rfl, rfl, rfl⟩

theorem Serves.stopWorker_forM_ok (iscomplete : Bool) (w : Worker) :
    ∀ (wIDs : List String) (c : Cluster ρ), ∃ c', wIDs.forM (d.stopWorker iscomplete w) c = (.ok ⟨⟩, c') ∧
      c'.table = (if w.Status = .running ∧ w.WorkerId ∈ wIDs then
        c.table.setStatus w.WorkerId (if iscomplete then .completed else .killed) else c.table) ∧
      c'.deletedJobs = c.deletedJobs ++
        (if w.Status = .running then wIDs.filter (fun wid => w.WorkerId = wid) else [])
  | [], c => ⟨c, rfl, by simp, by simp⟩
  | wid :: wIDs, c => by
    obtain ⟨c₁, first, table₁, jobs₁⟩ := serves.stopWorker_ok iscomplete w wid c
    obtain ⟨c₂, rest, table₂, jobs₂⟩ := Serves.stopWorker_forM_ok iscomplete w wIDs c₁
    refine ⟨c₂, by rw [List.forM_cons', Go.bind_ok first, rest], ?_, ?_⟩
    · rw [table₂, table₁]
      by_cases running : w.Status = .running <;> by_cases named : w.WorkerId = wid <;>
        simp [running, named, WorkerTable.setStatus_setStatus]
    · rw [jobs₂, jobs₁, List.append_assoc]
      by_cases running : w.Status = .running <;> by_cases named : w.WorkerId = wid <;>
        simp [running, named, List.filter_cons]

theorem Serves.stopWorkers_step (done : String → Bool) (studyId : String) (wIDs : List String)
    (iscomplete : Bool) :
    ServedStep (fun w => wIDs.forM (d.stopWorker iscomplete w))
      ((WorkerCall.stopWorkers studyId wIDs iscomplete).next done)
      ((WorkerCall.stopWorkers studyId wIDs iscomplete).deletes done) := by
  intro w c
  obtain ⟨c', run, table, jobs⟩ := serves.stopWorker_forM_ok iscomplete w wIDs c
  refine ⟨c', run, ?_, jobs⟩
  simp only [WorkerCall.next]
  by_cases chosen : w.Status = .running ∧ w.WorkerId ∈ wIDs
  · exact .inr (by rw [table, if_pos chosen, if_pos chosen])
  · exact .inl ⟨by rw [table, if_neg chosen], if_neg chosen⟩

theorem Serves.listing_ok {body : Worker → Go (Cluster ρ) PUnit} {next : Worker → State}
    {deletes : Worker → List String} (step : ServedStep body next deletes) (studyId : String)
    (c : Cluster ρ) :
    ∃ c', (d.getWorkerList studyId >>= fun ws => ws.forM body) c = (.ok ⟨⟩, c') ∧
      c'.table.rows = c.table.rows.map
        (fun w => if w.StudyId = studyId then { w with Status := next w } else w) ∧
      c'.deletedJobs = c.deletedJobs ++
        (c.table.rows.filter fun w => w.StudyId = studyId).flatMap deletes := by
  obtain ⟨c₁, listed⟩ := serves.getWorkerList_ok studyId c
  have frame := (d.getWorkerList_quiet studyId).of_ok listed
  obtain ⟨c₂, run, rows, jobs⟩ := step.forM c.table.keyed _ [] c₁
    ((c.table.keyed.of_map _).filter _) (fun w member => ⟨(List.mem_filter.mp member).1,
      List.not_mem_nil w⟩) (by rw [frame.1, moveVisited_nil])
  refine ⟨c₂, by rw [Go.bind_ok listed, run], ?_, by rw [jobs, frame.2]⟩
  rw [rows, moveVisited]
  exact List.map_congr_left fun w member => by simp [member]

end Serves

section Reports

variable {d} {succeeded : String → Int} {pod : String → Pod} (reports : d.Reports succeeded pod)
include reports

theorem Reports.serves : d.Serves where
  dbGetWorkerList := reports.dbGetWorkerList
  dbUpdateWorker := reports.dbUpdateWorker
  jobsDelete := reports.jobsDelete
  podsList r jobName := by
    obtain ⟨pods, r', listed⟩ := reports.podsList r jobName
    exact ⟨_, pods, r', listed⟩

theorem Reports.listPodsDroppingError_ok (jobName : String) (c : Cluster ρ) :
    ∃ pods c', d.listPodsDroppingError jobName c = (.ok (pod jobName :: pods), c') := by
  obtain ⟨pods, r, answered⟩ := reports.podsList c.rest jobName
  exact ⟨pods, _, d.listPodsDroppingError_of_listPods (call_ok answered)⟩

theorem Reports.isWorkerComplete_ok (wID : String) (c : Cluster ρ) :
    ∃ c', d.isWorkerComplete wID c = (.ok (jobDone succeeded pod wID), c') := by
  obtain ⟨r, answered⟩ := reports.jobsGet c.rest wID
  rw [isWorkerComplete, getJob, Go.bind_ok (call_ok answered), jobDone]
  by_cases zero : succeeded wID = 0
  · simp only [if_pos zero]
    exact ⟨_, rfl⟩
  · obtain ⟨pods, c', listed⟩ := reports.listPodsDroppingError_ok wID { c with rest := r }
    simp only [if_neg zero]
    exact ⟨c', by rw [Go.bind_ok listed]; rfl⟩

theorem Reports.storeWorkerLog_ok (wID : String) (c : Cluster ρ) :
    ∃ c', d.storeWorkerLog wID c = (.ok (), c') := by
  obtain ⟨pods, c₁, listed⟩ := reports.listPodsDroppingError_ok wID c
  obtain ⟨t, r₂, stamped⟩ := reports.dbGetWorkerTimestamp c₁.rest wID
  obtain ⟨logs, r₃, got⟩ := reports.podsGetLogs r₂ (pod wID).Name t
  rw [storeWorkerLog, Go.bind_ok listed]
  show ∃ c', (d.getWorkerTimestamp wID >>= fun mt => d.getLogs (pod wID).Name mt >>= fun logs =>
    if logs = "" then pure () else d.storeWorkerLogs wID (stringsSplit logs '\n')) c₁ = _
  rw [getWorkerTimestamp, Go.bind_ok (call_ok stamped), getLogs, Go.bind_ok (call_ok got)]
  by_cases empty : logs = ""
  · simp only [if_pos empty]
    exact ⟨_, rfl⟩
  · obtain ⟨r₄, stored⟩ := reports.dbStoreWorkerLogs r₃ wID (stringsSplit logs '\n')
    simp only [if_neg empty]
    exact ⟨_, call_ok stored⟩

theorem Reports.updateWorkerStatusOf_step (studyId : String) :
    ServedStep d.updateWorkerStatusOf
      ((WorkerCall.updateWorkerStatus studyId).next (jobDone succeeded pod))
      ((WorkerCall.updateWorkerStatus studyId).deletes (jobDone succeeded pod)) := by
  intro w c
  simp only [WorkerCall.next, WorkerCall.deletes, updateWorkerStatusOf]
  rcases status : w.Status <;> dsimp only
  · obtain ⟨c₁, stored⟩ := reports.storeWorkerLog_ok w.WorkerId c
    obtain ⟨c₂, written⟩ := reports.serves.updateWorker_ok w.WorkerId .running c₁
    have frame₁ := (d.storeWorkerLog_quiet _).of_ok stored
    have frame₂ := d.updateWorker_ok written
    refine ⟨c₂, by rw [Go.bind_ok (Go.attempt_ok stored)]; exact written, .inr ?_, ?_⟩
    · rw [frame₂.1, frame₁.1]
    · simp [frame₂.2, frame₁.2]
  · obtain ⟨c₁, complete⟩ := reports.isWorkerComplete_ok w.WorkerId c
    obtain ⟨c₂, stored⟩ := reports.storeWorkerLog_ok w.WorkerId c₁
    have frame₁ := (d.isWorkerComplete_quiet _).of_ok complete
    have frame₂ := (d.storeWorkerLog_quiet _).of_ok stored
    rw [Go.bind_ok complete, Go.bind_ok stored]
    by_cases done : jobDone succeeded pod w.WorkerId = true
    · obtain ⟨c₃, written⟩ := reports.serves.updateWorker_ok w.WorkerId .completed c₂
      obtain ⟨c₄, deleted⟩ := reports.serves.deleteJob_ok w.WorkerId c₃
      obtain ⟨pods, c₅, listed⟩ := reports.listPodsDroppingError_ok w.WorkerId c₄
      obtain ⟨c₆, dropped⟩ := d.deleteFirstPod_cons_ok _ pods c₅
      have frame₃ := d.updateWorker_ok written
      have frame₄ := d.deleteJob_ok deleted
      have frame₅ := (d.listPodsDroppingError_quiet _).of_ok listed
      have frame₆ := (d.deleteFirstPod_quiet _).of_ok dropped
      simp only [if_pos done, true_and, and_true]
      refine ⟨c₆, ?_, .inr ?_, ?_⟩
      · rw [Go.bind_ok written, Go.bind_ok (Go.discard_ok deleted), Go.bind_ok listed, dropped]
      · rw [frame₆.1, frame₅.1, frame₄.1, frame₃.1, frame₂.1, frame₁.1]
      · rw [frame₆.2, frame₅.2, frame₄.2, frame₃.2, frame₂.2, frame₁.2]
    · simp only [if_neg done, true_and, List.append_nil]
      exact ⟨c₂, rfl, .inl ⟨frame₂.1.trans frame₁.1, trivial⟩, frame₂.2.trans frame₁.2⟩
  · exact ⟨c, rfl, .inl ⟨rfl, by trivial⟩, by simp⟩
  · exact ⟨c, rfl, .inl ⟨rfl, by trivial⟩, by simp⟩

end Reports

end KubernetesWorkerInterface

/-! ### Each call, and whole runs -/

/-- The loop body of a call, for one listed worker. -/
def WorkerCall.body {ρ : Type} (d : KubernetesWorkerInterface ρ) :
    WorkerCall → Worker → Go (Cluster ρ) PUnit
  | .updateWorkerStatus _ => d.updateWorkerStatusOf
  | .cleanWorkers _ => d.cleanWorker
  | .stopWorkers _ wIDs iscomplete => fun w => wIDs.forM (d.stopWorker iscomplete w)

theorem WorkerCall.run_eq_listing {ρ : Type} (d : KubernetesWorkerInterface ρ) (call : WorkerCall) :
    call.run d = (d.getWorkerList call.studyId >>= fun ws => ws.forM (call.body d)) := by
  cases call <;> rfl

section Reports

variable {ρ : Type} {d : KubernetesWorkerInterface ρ} {succeeded : String → Int} {pod : String → Pod}
  (reports : d.Reports succeeded pod)
include reports

theorem WorkerCall.body_step (call : WorkerCall) :
    ServedStep (call.body d) (call.next (jobDone succeeded pod)) (call.deletes (jobDone succeeded pod)) := by
  cases call with
  | updateWorkerStatus studyId => exact reports.updateWorkerStatusOf_step studyId
  | cleanWorkers studyId => exact reports.serves.cleanWorker_step _ studyId
  | stopWorkers studyId wIDs iscomplete => exact reports.serves.stopWorkers_step _ studyId wIDs iscomplete

theorem WorkerCall.run_served (call : WorkerCall) (c : Cluster ρ) :
    ∃ c', call.run d c = (.ok (), c') ∧
      (c'.table.rows, c'.deletedJobs) = call.serve (jobDone succeeded pod) (c.table.rows, c.deletedJobs) := by
  obtain ⟨c', run, rows, jobs⟩ := reports.serves.listing_ok (call.body_step reports) call.studyId c
  exact ⟨c', by rw [call.run_eq_listing d, run], by rw [rows, jobs]; rfl⟩

/-- Against a cluster and a database that serve every call and report a fixed state of each Job,
every call of a run returns, and the run does to the table and to the deleted Jobs what the
abstract calls do, one after the other. -/
theorem runCalls_served (calls : List WorkerCall) (c : Cluster ρ) :
    ((runCalls d calls c).table.rows, (runCalls d calls c).deletedJobs) =
        calls.foldl (fun state call => call.serve (jobDone succeeded pod) state)
          (c.table.rows, c.deletedJobs) ∧
      ∀ pre call post, calls = pre ++ call :: post → (call.run d (runCalls d pre c)).1 = .ok () := by
  induction calls generalizing c with
  | nil => exact ⟨rfl, fun pre call post split => by simp at split⟩
  | cons call calls ih =>
      obtain ⟨c', run, served⟩ := WorkerCall.run_served reports call c
      have after : runCalls d (call :: calls) c = runCalls d calls c' := by rw [runCalls, run]
      refine ⟨by rw [after, List.foldl_cons, ← served]; exact (ih c').1, fun pre call' post split => ?_⟩
      rcases pre with _ | ⟨first, pre⟩
      · obtain ⟨rfl, -⟩ := List.cons.inj split
        rw [runCalls, run]
      · obtain ⟨rfl, later⟩ := List.cons.inj split
        rw [runCalls, run]
        exact (ih c').2 pre call' post later

end Reports

theorem runCalls_served_update_clean :
    (servingCluster [⟨"w-0", "Running"⟩] (.ok ())).Reports (fun _ => 1) (fun _ => ⟨"w-0", "Running"⟩) ∧
      (((runCalls (servingCluster [⟨"w-0", "Running"⟩] (.ok ()))
          [.updateWorkerStatus "study", .cleanWorkers "study"] runningWorker).table.rows,
        (runCalls (servingCluster [⟨"w-0", "Running"⟩] (.ok ()))
          [.updateWorkerStatus "study", .cleanWorkers "study"] runningWorker).deletedJobs) =
          [WorkerCall.updateWorkerStatus "study", .cleanWorkers "study"].foldl
            (fun state call => call.serve (jobDone (fun _ => 1) (fun _ => ⟨"w-0", "Running"⟩)) state)
            (runningWorker.table.rows, runningWorker.deletedJobs) ∧
        ∀ pre call post, [WorkerCall.updateWorkerStatus "study", .cleanWorkers "study"] =
          pre ++ call :: post → (call.run (servingCluster [⟨"w-0", "Running"⟩] (.ok ()))
            (runCalls (servingCluster [⟨"w-0", "Running"⟩] (.ok ())) pre runningWorker)).1 = .ok ()) :=
  ⟨servingCluster_reports, runCalls_served servingCluster_reports _ _⟩

theorem flatMap_filter_ite {α β : Type} (p q : α → Prop) [DecidablePred p] [DecidablePred q]
    (g : α → List β) (l : List α) :
    (l.filter fun a => p a).flatMap (fun a => if q a then g a else []) =
      (l.filter fun a => p a ∧ q a).flatMap g := by
  induction l with
  | nil => rfl
  | cons a l ih => by_cases pa : p a <;> by_cases qa : q a <;> simp [List.filter_cons, pa, qa, ih]

namespace KubernetesWorkerInterface

/-- Against a cluster and a database that serve its calls, `CleanWorkers` returns, having written
`KILLED` for exactly the study's `RUNNING` workers and deleted their Jobs in the order of the
table: none of the study's workers is left `RUNNING`. -/
theorem cleanWorkers_kills_running {ρ : Type} {d : KubernetesWorkerInterface ρ} (serves : d.Serves)
    (studyId : String) (c : Cluster ρ) :
    ∃ c', d.cleanWorkers studyId c = (.ok (), c') ∧
      c'.table.rows = c.table.rows.map (fun w =>
        if w.StudyId = studyId ∧ w.Status = .running then { w with Status := .killed } else w) ∧
      c'.deletedJobs = c.deletedJobs ++
        (c.table.rows.filter fun w => w.StudyId = studyId ∧ w.Status = .running).map (·.WorkerId) ∧
      ∀ w ∈ c'.table.rows, w.StudyId = studyId → w.Status ≠ .running := by
  obtain ⟨c', run, rows, jobs⟩ :=
    serves.listing_ok (serves.cleanWorker_step (fun _ => false) studyId) studyId c
  have killed : c'.table.rows = c.table.rows.map (fun w =>
      if w.StudyId = studyId ∧ w.Status = .running then { w with Status := .killed } else w) := by
    rw [rows]
    refine List.map_congr_left fun w _ => ?_
    by_cases running : w.Status = .running <;> simp [WorkerCall.next, running]
  refine ⟨c', run, killed, ?_, fun w member study => ?_⟩
  · rw [jobs, List.map_eq_flatMap]
    exact congrArg _ (flatMap_filter_ite (fun w : Worker => w.StudyId = studyId)
      (fun w : Worker => w.Status = .running) (fun w => [w.WorkerId]) _)
  · rw [killed] at member
    obtain ⟨w₀, -, rfl⟩ := List.mem_map.mp member
    split_ifs at study ⊢ with chosen
    · simp
    · exact fun running => chosen ⟨study, running⟩

theorem cleanWorkers_kills_running_served :
    (servingCluster [⟨"w-0", "Running"⟩] (.ok ())).Serves ∧
      ∃ c', (servingCluster [⟨"w-0", "Running"⟩] (.ok ())).cleanWorkers "study" runningWorker =
          (.ok (), c') ∧
        c'.table.rows = runningWorker.table.rows.map (fun w =>
          if w.StudyId = "study" ∧ w.Status = .running then { w with Status := .killed } else w) ∧
        c'.deletedJobs = runningWorker.deletedJobs ++ (runningWorker.table.rows.filter fun w =>
          w.StudyId = "study" ∧ w.Status = .running).map (·.WorkerId) ∧
        ∀ w ∈ c'.table.rows, w.StudyId = "study" → w.Status ≠ .running :=
  ⟨servingCluster_reports.serves,
    cleanWorkers_kills_running servingCluster_reports.serves "study" runningWorker⟩

/-- Against a cluster and a database that serve its calls, `StopWorkers` returns, having written
the status `iscomplete` asks for to exactly the study's `RUNNING` workers that `wIDs` names. It
deletes the Job of such a worker once for each time `wIDs` names it, in the order of the table. -/
theorem stopWorkers_stops_given {ρ : Type} {d : KubernetesWorkerInterface ρ} (serves : d.Serves)
    (studyId : String) (wIDs : List String) (iscomplete : Bool) (c : Cluster ρ) :
    ∃ c', d.stopWorkers studyId wIDs iscomplete c = (.ok (), c') ∧
      c'.table.rows = c.table.rows.map (fun w =>
        if w.StudyId = studyId ∧ w.Status = .running ∧ w.WorkerId ∈ wIDs then
          { w with Status := if iscomplete then .completed else .killed } else w) ∧
      c'.deletedJobs = c.deletedJobs ++
        (c.table.rows.filter fun w => w.StudyId = studyId ∧ w.Status = .running).flatMap
          fun w => wIDs.filter fun wid => w.WorkerId = wid := by
  obtain ⟨c', run, rows, jobs⟩ :=
    serves.listing_ok (serves.stopWorkers_step (fun _ => false) studyId wIDs iscomplete) studyId c
  refine ⟨c', run, ?_, ?_⟩
  · rw [rows]
    refine List.map_congr_left fun w _ => ?_
    by_cases chosen : w.Status = .running ∧ w.WorkerId ∈ wIDs
    · simp [WorkerCall.next, chosen]
    · simp only [WorkerCall.next, if_neg chosen, Worker.status_update_self, ite_self]
      exact (if_neg fun h => chosen h.2).symm
  · rw [jobs]
    exact congrArg _ (flatMap_filter_ite (fun w : Worker => w.StudyId = studyId)
      (fun w : Worker => w.Status = .running) (fun w => wIDs.filter fun wid => w.WorkerId = wid) _)

/-- Named twice, the running worker `w` is written `COMPLETED` and its Job deleted twice. -/
theorem stopWorkers_stops_given_twice :
    (servingCluster [⟨"w-0", "Running"⟩] (.ok ())).Serves ∧
      ∃ c', (servingCluster [⟨"w-0", "Running"⟩] (.ok ())).stopWorkers "study" ["w", "w"] true
          runningWorker = (.ok (), c') ∧
        c'.table.rows = runningWorker.table.rows.map (fun w =>
          if w.StudyId = "study" ∧ w.Status = .running ∧ w.WorkerId ∈ ["w", "w"] then
            { w with Status := if true then .completed else .killed } else w) ∧
        c'.deletedJobs = runningWorker.deletedJobs ++
          (runningWorker.table.rows.filter fun w => w.StudyId = "study" ∧ w.Status = .running).flatMap
            fun w => ["w", "w"].filter fun wid => w.WorkerId = wid :=
  ⟨servingCluster_reports.serves,
    stopWorkers_stops_given servingCluster_reports.serves "study" ["w", "w"] true runningWorker⟩

theorem updateWorkerStatus_deletes_running (done : String → Bool) (studyId : String) :
    ∀ rows : List Worker, (∀ w ∈ rows, w.StudyId = studyId → done w.WorkerId = true) →
      (rows.filter fun w => w.StudyId = studyId).flatMap
          ((WorkerCall.updateWorkerStatus studyId).deletes done) =
        (rows.filter fun w => w.StudyId = studyId ∧ w.Status = .running).map (·.WorkerId)
  | [], _ => rfl
  | w :: rows, finished => by
      have rest := updateWorkerStatus_deletes_running done studyId rows
        fun w' member => finished w' (List.mem_cons_of_mem _ member)
      by_cases study : w.StudyId = studyId
      · have finishedW := finished w (List.mem_cons_self _ _) study
        by_cases running : w.Status = .running <;>
          simp [List.filter_cons, study, running, finishedW, rest, WorkerCall.deletes]
      · simp [List.filter_cons, study, rest]

theorem updateWorkerStatus_deletes_pending (done : String → Bool) (studyId : String) :
    ∀ rows : List Worker, (∀ w ∈ rows, w.StudyId = studyId → done w.WorkerId = true) →
      ((rows.map fun w => if w.StudyId = studyId then
          { w with Status := (WorkerCall.updateWorkerStatus studyId).next done w } else w).filter
          fun w => w.StudyId = studyId).flatMap ((WorkerCall.updateWorkerStatus studyId).deletes done) =
        (rows.filter fun w => w.StudyId = studyId ∧ w.Status = .pending).map (·.WorkerId)
  | [], _ => rfl
  | w :: rows, finished => by
      have rest := updateWorkerStatus_deletes_pending done studyId rows
        fun w' member => finished w' (List.mem_cons_of_mem _ member)
      by_cases study : w.StudyId = studyId
      · have finishedW := finished w (List.mem_cons_self _ _) study
        obtain ⟨_, _, _, status⟩ := w
        dsimp only at study finishedW
        subst study
        simp only [WorkerCall.next] at rest
        cases status <;> simp [List.filter_cons, finishedW, rest, WorkerCall.deletes, WorkerCall.next]
      · simp [List.filter_cons, study, rest]

/-- Against a cluster and a database that serve every call and report every Job of the study
finished (`Status.Succeeded` non-zero, first Pod `Succeeded`), two `UpdateWorkerStatus` calls
return and bring every `PENDING` or `RUNNING` worker of the study to `COMPLETED`, leaving every
other row as it was. They delete each such worker's Job exactly once: the first call those of the
`RUNNING` workers, the second those of the `PENDING` ones, each in the order of the table. -/
theorem updateWorkerStatus_twice_completes {ρ : Type} {d : KubernetesWorkerInterface ρ}
    {succeeded : String → Int} {pod : String → Pod} (reports : d.Reports succeeded pod)
    (studyId : String) (c : Cluster ρ)
    (finished : ∀ w ∈ c.table.rows, w.StudyId = studyId → jobDone succeeded pod w.WorkerId = true) :
    ∃ c₁ c₂, d.updateWorkerStatus studyId c = (.ok (), c₁) ∧
      d.updateWorkerStatus studyId c₁ = (.ok (), c₂) ∧
      c₂.table.rows = c.table.rows.map (fun w =>
        if w.StudyId = studyId ∧ (w.Status = .pending ∨ w.Status = .running) then
          { w with Status := .completed } else w) ∧
      c₂.deletedJobs = c.deletedJobs ++
        (c.table.rows.filter fun w => w.StudyId = studyId ∧ w.Status = .running).map (·.WorkerId) ++
        (c.table.rows.filter fun w => w.StudyId = studyId ∧ w.Status = .pending).map (·.WorkerId) := by
  obtain ⟨c₁, run₁, served₁⟩ := WorkerCall.run_served reports (.updateWorkerStatus studyId) c
  obtain ⟨c₂, run₂, served₂⟩ := WorkerCall.run_served reports (.updateWorkerStatus studyId) c₁
  simp only [WorkerCall.serve, WorkerCall.studyId, Prod.mk.injEq] at served₁ served₂
  obtain ⟨rows₁, jobs₁⟩ := served₁
  obtain ⟨rows₂, jobs₂⟩ := served₂
  refine ⟨c₁, c₂, run₁, run₂, ?_, ?_⟩
  · rw [rows₂, rows₁, List.map_map]
    refine List.map_congr_left fun w member => ?_
    by_cases study : w.StudyId = studyId
    · have done := finished w member study
      obtain ⟨_, _, _, status⟩ := w
      dsimp only at study done
      subst study
      cases status <;> simp [WorkerCall.next, done]
    · simp [study]
  · have pass₁ := updateWorkerStatus_deletes_running (jobDone succeeded pod) studyId _ finished
    have pass₂ := updateWorkerStatus_deletes_pending (jobDone succeeded pod) studyId _ finished
    rw [jobs₂, jobs₁, rows₁, pass₁, pass₂]

/-- A `PENDING` and a `RUNNING` worker of the study `study`, and no Job deleted yet. -/
def pendingAndRunning : Cluster Unit :=
  ⟨⟨[⟨"p", "study", "t", .pending⟩, ⟨"w", "study", "t", .running⟩], by decide⟩, (), []⟩

theorem updateWorkerStatus_twice_completes_pendingAndRunning :
    (servingCluster [⟨"w-0", "Succeeded"⟩] (.ok ())).Reports (fun _ => 1)
        (fun _ => ⟨"w-0", "Succeeded"⟩) ∧
      (∀ w ∈ pendingAndRunning.table.rows, w.StudyId = "study" →
        jobDone (fun _ => 1) (fun _ => ⟨"w-0", "Succeeded"⟩) w.WorkerId = true) ∧
      ∃ c₁ c₂, (servingCluster [⟨"w-0", "Succeeded"⟩] (.ok ())).updateWorkerStatus "study"
          pendingAndRunning = (.ok (), c₁) ∧
        (servingCluster [⟨"w-0", "Succeeded"⟩] (.ok ())).updateWorkerStatus "study" c₁ = (.ok (), c₂) ∧
        c₂.table.rows = pendingAndRunning.table.rows.map (fun w =>
          if w.StudyId = "study" ∧ (w.Status = .pending ∨ w.Status = .running) then
            { w with Status := .completed } else w) ∧
        c₂.deletedJobs = pendingAndRunning.deletedJobs ++
          (pendingAndRunning.table.rows.filter fun w =>
            w.StudyId = "study" ∧ w.Status = .running).map (·.WorkerId) ++
          (pendingAndRunning.table.rows.filter fun w =>
            w.StudyId = "study" ∧ w.Status = .pending).map (·.WorkerId) := by
  have reports : (servingCluster [⟨"w-0", "Succeeded"⟩] (.ok ())).Reports (fun _ => 1)
      (fun _ => ⟨"w-0", "Succeeded"⟩) :=
    ⟨fun _ _ => ⟨(), rfl⟩, fun _ _ => ⟨(), rfl⟩, fun _ _ => ⟨[], (), rfl⟩, fun _ _ _ => ⟨_, (), rfl⟩,
      fun _ _ => ⟨(), rfl⟩, fun _ _ _ => ⟨(), rfl⟩, fun _ _ => ⟨_, (), rfl⟩, fun _ _ _ => ⟨(), rfl⟩⟩
  have finished : ∀ w ∈ pendingAndRunning.table.rows, w.StudyId = "study" →
      jobDone (fun _ => 1) (fun _ => ⟨"w-0", "Succeeded"⟩) w.WorkerId = true := by decide
  exact ⟨reports, finished, updateWorkerStatus_twice_completes reports "study" _ finished⟩

end KubernetesWorkerInterface

end Katib
