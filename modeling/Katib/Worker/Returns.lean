import Katib.Worker.Served

/-!
# What a returned call says, and what stops every call

The loops of the three operations never retry: a body that fails ends the call, and a loop that
returns has run its body to the end for every worker of the listing. So a nil from `CleanWorkers`
or `StopWorkers` says that every status write the call was for went through: however the cluster
and the database answered, no worker the call was for is left `RUNNING` (`Clears`), and
`StopWorkers` has written each of them the status it was asked for (`ReturnStep`).

The other way round, one worker can stop `UpdateWorkerStatus` for good. A worker the table holds
`RUNNING` whose Job is gone, so that every `Get` of the Job fails, makes `IsWorkerComplete` fail
when the loop reaches it, before any write for it. Every later call for its study fails in turn,
and the worker stays `RUNNING`: a study whose Job was deleted under a `RUNNING` worker (the
`CleanWorkers` and `StopWorkers` paths of `workers_left_running_after_job_delete`) is stuck.
-/

set_option autoImplicit false

namespace Katib

/-- The table holds the worker `wID` of the study `studyId` as `RUNNING`. -/
def WorkerTable.HoldsRunning (t : WorkerTable) (studyId wID : String) : Prop :=
  ∃ w ∈ t.rows, w.StudyId = studyId ∧ w.WorkerId = wID ∧ w.Status = .running

theorem WorkerTable.holdsRunning_setStatus {t : WorkerTable} {studyId wID id : String} {s : State}
    (held : t.HoldsRunning studyId wID) (untouched : id ≠ wID ∨ s = .running) :
    (t.setStatus id s).HoldsRunning studyId wID := by
  obtain ⟨w, member, study, rfl, running⟩ := held
  refine ⟨_, List.mem_map_of_mem _ member, ?_⟩
  by_cases same : w.WorkerId = id
  · rcases untouched with other | rfl
    · exact absurd same.symm other
    · simp [same, study]
  · simp [same, study, running]

/-- The rows that `Target` picks out and that are `RUNNING` are among `remaining`. -/
def RunningAmong (Target : Worker → Prop) (remaining : List Worker) (t : WorkerTable) : Prop :=
  ∀ w ∈ t.rows, Target w → w.Status = .running → w ∈ remaining

theorem RunningAmong.step {Target : Worker → Prop} {w : Worker} {ws : List Worker}
    {t t' : WorkerTable} (held : RunningAmong Target (w :: ws) t)
    (cleared : t' = t ∧ ¬(Target w ∧ w.Status = .running) ∨
      ∃ s, s ≠ .running ∧ t' = t.setStatus w.WorkerId s) :
    RunningAmong Target ws t' := by
  intro v member target running
  rcases cleared with ⟨rfl, other⟩ | ⟨s, stopped, rfl⟩
  · rcases List.mem_cons.mp (held v member target running) with rfl | later
    · exact absurd ⟨target, running⟩ other
    · exact later
  · obtain ⟨v₀, member₀, rfl⟩ := List.mem_map.mp member
    by_cases same : v₀.WorkerId = w.WorkerId
    · rw [if_pos same] at running
      exact absurd running stopped
    · rw [if_neg same] at target running ⊢
      rcases List.mem_cons.mp (held v₀ member₀ target running) with rfl | later
      · exact absurd rfl same
      · exact later

namespace KubernetesWorkerInterface

variable {ρ : Type} (d : KubernetesWorkerInterface ρ)

omit d in
theorem TableKept.of_run {α : Type} {x : Go (Cluster ρ) α} (kept : TableKept x)
    {c c' : Cluster ρ} {r : Except Stop α} (run : x c = (r, c')) : c'.table = c.table := by
  simpa only [run] using kept c.table c rfl

/-! ### A nil return -/

/-- Each returning run of `body` for a listed worker `w` clears it: it leaves the table, `w` not
being a `RUNNING` worker of `Target`, or it writes `w` a status other than `RUNNING`. -/
def Clears (Target : Worker → Prop) (body : Worker → Go (Cluster ρ) PUnit) : Prop :=
  ∀ w c c', body w c = (.ok ⟨⟩, c') →
    c'.table = c.table ∧ ¬(Target w ∧ w.Status = .running) ∨
      ∃ s, s ≠ .running ∧ c'.table = c.table.setStatus w.WorkerId s

theorem Clears.forM_ok {Target : Worker → Prop} {body : Worker → Go (Cluster ρ) PUnit}
    (clears : Clears Target body) {studyId : String} (forStudy : ∀ w, Target w → w.StudyId = studyId)
    {c c' : Cluster ρ} (returned : (d.getWorkerList studyId >>= fun ws => ws.forM body) c = (.ok (), c')) :
    ∀ w ∈ c'.table.rows, Target w → w.Status ≠ .running := by
  obtain ⟨ws, c₁, listed, loop⟩ := Go.bind_eq_ok.mp returned
  obtain ⟨rfl, kept⟩ := d.getWorkerList_ok listed
  have start : RunningAmong Target (c.table.rows.filter fun w => w.StudyId = studyId) c₁.table :=
    fun w member target _ => List.mem_filter.mpr ⟨kept ▸ member, by simpa using forStudy w target⟩
  have cleared := @Go.forM_ok_remaining _ _ body (fun remaining c => RunningAmong Target remaining c.table)
    (fun w ws c c' held run => held.step (clears w c c' run)) _ c₁ c' start loop
  exact fun w member target running => List.not_mem_nil w (cleared w member target running)

omit d in
/-- The loop body `body`, whenever it returns for the listed worker `w`, either leaves the table,
`next w` being the status of `w`, or writes `next w` to the row of `w`. -/
def ReturnStep (body : Worker → Go (Cluster ρ) PUnit) (next : Worker → State) : Prop :=
  ∀ w c c', body w c = (.ok ⟨⟩, c') →
    c'.table = c.table ∧ next w = w.Status ∨ c'.table = c.table.setStatus w.WorkerId (next w)

omit d in
theorem ReturnStep.forM {body : Worker → Go (Cluster ρ) PUnit} {next : Worker → State}
    (step : ReturnStep body next) {rows₀ : List Worker} (keyed : (rows₀.map (·.WorkerId)).Nodup) :
    ∀ (ws visited : List Worker) (c c' : Cluster ρ), ws.Nodup → (∀ w ∈ ws, w ∈ rows₀ ∧ w ∉ visited) →
      c.table.rows = moveVisited next visited rows₀ → ws.forM body c = (.ok ⟨⟩, c') →
      c'.table.rows = moveVisited next (ws.reverse ++ visited) rows₀
  | [], _, c, c', _, _, current, returned => by
    have same : c = c' := congrArg Prod.snd returned
    exact same ▸ current
  | w :: ws, visited, c, c', distinct, fresh, current, returned => by
    rw [List.forM_cons'] at returned
    obtain ⟨⟨⟩, c₁, first, rest⟩ := Go.bind_eq_ok.mp returned
    obtain ⟨listed, unseen⟩ := fresh w (List.mem_cons_self w ws)
    obtain ⟨outside, distinct⟩ := List.nodup_cons.mp distinct
    have rows := step.forM keyed ws (w :: visited) c₁ c' distinct
      (fun v member => ⟨(fresh v (List.mem_cons_of_mem w member)).1, fun seen =>
        (List.mem_cons.mp seen).elim (fun same => outside (same ▸ member))
          (fresh v (List.mem_cons_of_mem w member)).2⟩)
      (moveVisited_step keyed listed unseen current (step w c c₁ first)) rest
    rw [rows, List.reverse_cons, List.append_assoc]
    rfl

theorem ReturnStep.listing {body : Worker → Go (Cluster ρ) PUnit} {next : Worker → State}
    (step : ReturnStep body next) {studyId : String} {c c' : Cluster ρ}
    (returned : (d.getWorkerList studyId >>= fun ws => ws.forM body) c = (.ok ⟨⟩, c')) :
    c'.table.rows = c.table.rows.map
      (fun w => if w.StudyId = studyId then { w with Status := next w } else w) := by
  obtain ⟨ws, c₁, listed, loop⟩ := Go.bind_eq_ok.mp returned
  obtain ⟨rfl, kept⟩ := d.getWorkerList_ok listed
  have rows := step.forM c.table.keyed _ [] c₁ c' ((c.table.keyed.of_map _).filter _)
    (fun w member => ⟨(List.mem_filter.mp member).1, List.not_mem_nil w⟩)
    (by rw [kept, moveVisited_nil]) loop
  rw [rows, moveVisited]
  exact List.map_congr_left fun w member => by simp [member]

theorem cleanWorker_clears (studyId : String) :
    Clears (fun w => w.StudyId = studyId) d.cleanWorker := by
  intro w c c' returned
  unfold cleanWorker at returned
  split at returned
  · obtain ⟨_, c₁, deleted, returned⟩ := Go.bind_eq_ok.mp returned
    obtain ⟨pl, c₂, listed, returned⟩ := Go.bind_eq_ok.mp returned
    obtain ⟨_, c₃, removed, written⟩ := Go.bind_eq_ok.mp returned
    refine .inr ⟨.killed, by decide, ?_⟩
    rw [(d.updateWorker_ok written).1, TableKept.of_run (d.deleteFirstPod_tableKept pl) removed,
      TableKept.of_run (d.listPodsDroppingError_tableKept _) listed,
      TableKept.of_run (fun t => Go.Keeps.discard (d.deleteJob_tableKept _ t)) deleted]
  · next idle =>
    cases returned
    exact .inl ⟨rfl, fun ⟨_, running⟩ => idle running⟩

/-- Whenever `CleanWorkers` returns nil, however the cluster and the database answered, no
worker of the study is left `RUNNING`: each one the listing showed `RUNNING` had its Pod listed
and its `KILLED` written. -/
theorem cleanWorkers_returns_none_running {studyId : String} {c c' : Cluster ρ}
    (returned : d.cleanWorkers studyId c = (.ok (), c')) :
    ∀ w ∈ c'.table.rows, w.StudyId = studyId → w.Status ≠ .running :=
  (d.cleanWorker_clears studyId).forM_ok d (fun _ study => study) returned

theorem cleanWorkers_returns_none_running_served :
    ∃ c', (servingCluster [⟨"w-0", "Running"⟩] (.ok ())).cleanWorkers "study" runningWorker =
        (.ok (), c') ∧ ∀ w ∈ c'.table.rows, w.StudyId = "study" → w.Status ≠ .running :=
  ⟨_, rfl, @cleanWorkers_returns_none_running _ (servingCluster [⟨"w-0", "Running"⟩] (.ok ())) _
    runningWorker _ rfl⟩

/-- The status `StopWorkers` writes. -/
def stopStatus (iscomplete : Bool) : State := if iscomplete then .completed else .killed

theorem stopStatus_ne_running (iscomplete : Bool) : stopStatus iscomplete ≠ .running := by
  cases iscomplete <;> decide

theorem stopWorker_ok {iscomplete : Bool} {w : Worker} {wid : String} {c c' : Cluster ρ}
    (returned : d.stopWorker iscomplete w wid c = (.ok (), c')) :
    c'.table = if w.Status = .running ∧ w.WorkerId = wid then
      c.table.setStatus w.WorkerId (stopStatus iscomplete) else c.table := by
  unfold stopWorker at returned
  split at returned
  · next chosen =>
    obtain ⟨_, c₁, deleted, returned⟩ := Go.bind_eq_ok.mp returned
    obtain ⟨pl, c₂, listed, returned⟩ := Go.bind_eq_ok.mp returned
    obtain ⟨_, c₃, removed, written⟩ := Go.bind_eq_ok.mp returned
    rw [if_pos chosen, chosen.2, (d.updateWorker_ok written).1,
      TableKept.of_run (d.deleteFirstPod_tableKept pl) removed,
      TableKept.of_run (call_tableKept _) listed,
      TableKept.of_run (fun t => Go.Keeps.discard (d.deleteJob_tableKept _ t)) deleted]
    rfl
  · next other =>
    cases returned
    rw [if_neg other]

theorem stopWorker_forM_returns {iscomplete : Bool} {w : Worker} :
    ∀ (wIDs : List String) (c c' : Cluster ρ), wIDs.forM (d.stopWorker iscomplete w) c = (.ok ⟨⟩, c') →
      c'.table = if w.Status = .running ∧ w.WorkerId ∈ wIDs then
        c.table.setStatus w.WorkerId (stopStatus iscomplete) else c.table
  | [], c, c', returned => by
    have same : c = c' := congrArg Prod.snd returned
    rw [← same, if_neg fun chosen => List.not_mem_nil _ chosen.2]
  | wid :: wIDs, c, c', returned => by
    rw [List.forM_cons'] at returned
    obtain ⟨⟨⟩, c₁, first, rest⟩ := Go.bind_eq_ok.mp returned
    rw [stopWorker_forM_returns wIDs c₁ c' rest, d.stopWorker_ok first]
    by_cases running : w.Status = .running
    · by_cases named : w.WorkerId = wid
      · simp [running, named, WorkerTable.setStatus_setStatus]
      · by_cases given : w.WorkerId ∈ wIDs <;> simp [running, named, given]
    · simp [running]

/-- Whenever `StopWorkers` returns nil, however the cluster and the database answered, it has
written the status `iscomplete` asks for to exactly the study's `RUNNING` workers that `wIDs`
names, and left every other row as it was. -/
theorem stopWorkers_returns_stopStatus {studyId : String} {wIDs : List String}
    {iscomplete : Bool} {c c' : Cluster ρ}
    (returned : d.stopWorkers studyId wIDs iscomplete c = (.ok (), c')) :
    c'.table.rows = c.table.rows.map (fun w =>
      if w.StudyId = studyId ∧ w.Status = .running ∧ w.WorkerId ∈ wIDs then
        { w with Status := stopStatus iscomplete } else w) := by
  have step : ReturnStep (fun w => wIDs.forM (d.stopWorker iscomplete w)) fun w =>
      if w.Status = .running ∧ w.WorkerId ∈ wIDs then stopStatus iscomplete else w.Status := by
    intro w c c' run
    rw [d.stopWorker_forM_returns wIDs c c' run]
    dsimp only
    by_cases chosen : w.Status = .running ∧ w.WorkerId ∈ wIDs
    · exact .inr (by rw [if_pos chosen, if_pos chosen])
    · exact .inl ⟨if_neg chosen, if_neg chosen⟩
  rw [step.listing d returned]
  refine List.map_congr_left fun w _ => ?_
  by_cases chosen : w.Status = .running ∧ w.WorkerId ∈ wIDs
  · simp [chosen]
  · simp only [if_neg chosen, Worker.status_update_self, ite_self]
    exact (if_neg fun h => chosen h.2).symm

/-- Named twice, the running worker `w` is written `KILLED`, once the call returns. -/
theorem stopWorkers_returns_stopStatus_served :
    ∃ c', (servingCluster [⟨"w-0", "Running"⟩] (.ok ())).stopWorkers "study" ["w", "w"] false
        runningWorker = (.ok (), c') ∧ c'.table.rows = [⟨"w", "study", "t", .killed⟩] :=
  ⟨_, rfl, (@stopWorkers_returns_stopStatus _ (servingCluster [⟨"w-0", "Running"⟩] (.ok ())) "study"
    ["w", "w"] false runningWorker _ rfl).trans (by decide)⟩

/-! ### A study with no worker `RUNNING` -/

omit d in
theorem call_returns {β : Type} (answer : ρ → Except GoError β × ρ) :
    Go.Returns (Cluster.call answer) := fun c => by
  rcases answered : answer c.rest with ⟨err | b, r⟩
  · exact ⟨.error err, _, Go.attempt_error (by unfold Cluster.call; rw [answered])⟩
  · exact ⟨.ok b, _, Go.attempt_ok (call_ok answered)⟩

theorem listPodsDroppingError_returns (jobName : String) :
    Go.Returns (d.listPodsDroppingError jobName) :=
  Go.Returns.bind (Go.Returns.attempt (call_returns _)) fun
    | .ok _ => Go.Returns.pure _
    | .error _ => Go.Returns.pure _

theorem storeWorkerLog_returns (wID : String) : Go.Returns (d.storeWorkerLog wID) :=
  Go.Returns.bind (d.listPodsDroppingError_returns wID) fun
    | [] => Go.Returns.throw _
    | _ :: _ => Go.Returns.bind (call_returns _) fun _ => Go.Returns.bind (call_returns _) fun _ =>
        Go.Returns.ite (Go.Returns.pure _) (call_returns _)

/-- The database takes the calls `UpdateWorkerStatus` makes of it: the listing and the status
writes go through. -/
structure DatabaseServes : Prop where
  dbGetWorkerList : ∀ r studyId, ∃ r', d.dbGetWorkerList r studyId = (.ok (), r')
  dbUpdateWorker : ∀ r id s, ∃ r', d.dbUpdateWorker r id s = (.ok (), r')

theorem WorkerCall.moves_updateWorkerStatus {studyId : String} {s s' : State} :
    (WorkerCall.updateWorkerStatus studyId).Moves s s' ↔
      s = .pending ∧ s' = .running ∨ s = .running ∧ s' = .completed := by
  cases s <;> cases s' <;> simp [WorkerCall.Moves]

section DatabaseServes

variable {d} (db : d.DatabaseServes)
include db

theorem DatabaseServes.updateWorkerStatusOf_ok {w : Worker} (idle : w.Status ≠ .running)
    (c : Cluster ρ) : ∃ c', d.updateWorkerStatusOf w c = (.ok (), c') := by
  rcases w with ⟨id, studyId, trialId, _ | _ | _ | _⟩
  · obtain ⟨logged, c₁, attempted⟩ := d.storeWorkerLog_returns id c
    simp only [updateWorkerStatusOf]
    rw [Go.bind_ok attempted]
    rcases logged with _ | ⟨⟨⟩⟩
    · exact ⟨c₁, rfl⟩
    · obtain ⟨r, answered⟩ := db.dbUpdateWorker c₁.rest id .running
      exact ⟨_, Go.bind_ok (call_ok answered)⟩
  · exact absurd rfl idle
  all_goals exact ⟨c, rfl⟩

/-- On a study with no worker `RUNNING`, `UpdateWorkerStatus` returns nil whenever the database
takes its listing and its writes, whatever the Jobs, the Pods and the logs calls answer: a
`PENDING` worker whose logs cannot be stored stays `PENDING`, and the call goes on. It deletes no
Job, and it leaves each row as it was or moves a `PENDING` worker of the study to `RUNNING`. -/
theorem updateWorkerStatus_returns_of_none_running (studyId : String) (c : Cluster ρ)
    (idle : ∀ w ∈ c.table.rows, w.StudyId = studyId → w.Status ≠ .running) :
    ∃ c', d.updateWorkerStatus studyId c = (.ok (), c') ∧ c'.deletedJobs = c.deletedJobs ∧
      List.Forall₂ (fun w w' => w' = w ∨
          w.StudyId = studyId ∧ w.Status = .pending ∧ w' = { w with Status := .running })
        c.table.rows c'.table.rows := by
  obtain ⟨r, answered⟩ := db.dbGetWorkerList c.rest studyId
  have listed : d.getWorkerList studyId c =
      (.ok (c.table.rows.filter fun w => w.StudyId = studyId), { c with rest := r }) := by
    rw [getWorkerList, Go.bind_ok (call_ok answered)]
  obtain ⟨c', loop⟩ := Go.forM_ok_of_body _ (fun w member => by
    obtain ⟨member, study⟩ := List.mem_filter.mp member
    exact db.updateWorkerStatusOf_ok (idle w member (of_decide_eq_true study))) _
  have returned : d.updateWorkerStatus studyId c = (.ok (), c') := by
    rw [updateWorkerStatus, Go.bind_ok listed]
    exact loop
  have jobs : (d.updateWorkerStatus studyId c).2.deletedJobs = c.deletedJobs :=
    d.getWorkerList_forM_keeps (fun c' => c'.deletedJobs = c.deletedJobs) studyId
      d.updateWorkerStatusOf c ((d.getWorkerList_quiet studyId).keeps fun _ js => js = c.deletedJobs)
      (fun w member study => d.updateWorkerStatusOf_keepsJobs (· = c.deletedJobs)
        fun running => absurd running (idle w member study)) rfl
  have changed : ChangedBy (.updateWorkerStatus studyId) c.table.rows (d.updateWorkerStatus studyId c).2 :=
    WorkerCall.run_changedBy d _ c
  rw [returned] at changed jobs
  refine ⟨c', returned, jobs, ?_⟩
  refine ((List.forall₂_and_left _ _).mpr ⟨fun _ member => member, changed⟩).imp
    fun w w' ⟨member, step⟩ => ?_
  rcases step with rfl | ⟨shape, study, moves⟩
  · exact .inl rfl
  · rcases WorkerCall.moves_updateWorkerStatus.mp moves with ⟨pending, running⟩ | ⟨running, -⟩
    · exact .inr ⟨study, pending, by rw [shape, running]⟩
    · exact absurd running (idle w member study)

end DatabaseServes

omit d in
/-- One `PENDING` worker `w` of the study `study`, and no Job deleted yet. -/
def pendingWorker : Cluster Unit := ⟨⟨[⟨"w", "study", "t", .pending⟩], by decide⟩, (), []⟩

/-- With no Pod listed for any Job, `StoreWorkerLog` fails for the pending worker: the call
still returns nil, and leaves the worker `PENDING`. -/
theorem updateWorkerStatus_returns_of_none_running_podless :
    (servingCluster [] (.ok ())).DatabaseServes ∧
      (∀ w ∈ pendingWorker.table.rows, w.StudyId = "study" → w.Status ≠ .running) ∧
      ∃ c', (servingCluster [] (.ok ())).updateWorkerStatus "study" pendingWorker = (.ok (), c') ∧
        c'.deletedJobs = pendingWorker.deletedJobs ∧
        List.Forall₂ (fun w w' => w' = w ∨
            w.StudyId = "study" ∧ w.Status = .pending ∧ w' = { w with Status := .running })
          pendingWorker.table.rows c'.table.rows :=
  have db : (servingCluster [] (.ok ())).DatabaseServes := ⟨fun _ _ => ⟨(), rfl⟩, fun _ _ _ => ⟨(), rfl⟩⟩
  have idle : ∀ w ∈ pendingWorker.table.rows, w.StudyId = "study" → w.Status ≠ .running := by
    decide
  ⟨db, idle, updateWorkerStatus_returns_of_none_running db "study" pendingWorker idle⟩

/-! ### A worker whose Job is gone -/

section Gone

variable {wID : String} (gone : ∀ r, ∃ err r', d.jobsGet r wID = (.error err, r'))
include gone

theorem isWorkerComplete_gone (c : Cluster ρ) :
    ∃ err c', d.isWorkerComplete wID c = (.error (.error err), c') ∧
      ∃ r', d.jobsGet c.rest wID = (.error err, r') := by
  obtain ⟨err, r, failed⟩ := gone c.rest
  exact ⟨err, _, Go.bind_stop (by unfold getJob Cluster.call; dsimp only; rw [failed]), r, failed⟩

theorem updateWorkerStatusOf_holdsRunning {studyId : String} (v : Worker) :
    Go.Keeps (fun c => c.table.HoldsRunning studyId wID) (d.updateWorkerStatusOf v) := by
  have quiet : ∀ {α : Type} {x : Go (Cluster ρ) α}, TableKept x →
      Go.Keeps (fun c => c.table.HoldsRunning studyId wID) x :=
    fun kept => kept.keeps (·.HoldsRunning studyId wID)
  have written : ∀ (id : String) (s : State), id ≠ wID ∨ s = .running →
      Go.Keeps (fun c => c.table.HoldsRunning studyId wID) (d.updateWorker id s) :=
    fun id s untouched => d.updateWorker_keeps (fun t _ => t.HoldsRunning studyId wID)
      fun _ _ held => WorkerTable.holdsRunning_setStatus held untouched
  unfold updateWorkerStatusOf
  split
  · exact Go.Keeps.bind (Go.Keeps.attempt (quiet (d.storeWorkerLog_tableKept _))) fun
      | .ok () => written _ _ (.inr rfl)
      | .error _ => Go.Keeps.pure _
  · by_cases named : v.WorkerId = wID
    · refine Go.Keeps.bind_of_ok (quiet (d.isWorkerComplete_tableKept _)) fun c _ _ complete _ => ?_
      obtain ⟨_, _, failed, -⟩ := d.isWorkerComplete_gone (named ▸ gone) c
      rw [failed] at complete
      cases complete
    · exact Go.Keeps.bind (quiet (d.isWorkerComplete_tableKept _)) fun _ =>
        Go.Keeps.bind (quiet (d.storeWorkerLog_tableKept _)) fun _ =>
          Go.Keeps.ite (Go.Keeps.bind (written _ _ (.inl named)) fun _ =>
            Go.Keeps.bind (Go.Keeps.discard (quiet (d.deleteJob_tableKept _))) fun _ =>
              Go.Keeps.bind (quiet (d.listPodsDroppingError_tableKept _)) fun pods =>
                quiet (d.deleteFirstPod_tableKept pods)) (Go.Keeps.pure _)
  · exact Go.Keeps.pure _

theorem updateWorkerStatus_fails_of_gone {studyId : String} {c : Cluster ρ}
    (held : c.table.HoldsRunning studyId wID) :
    ∃ stop c', d.updateWorkerStatus studyId c = (.error stop, c') ∧
      ((∃ err r r', d.jobsGet r wID = (.error err, r') ∧ stop = .error err) ∨
        (∃ c₁, d.getWorkerList studyId c = (.error stop, c₁)) ∨
        ∃ v ∈ c.table.rows, v.StudyId = studyId ∧ v.WorkerId ≠ wID ∧
          ∃ c₁ c₂, d.updateWorkerStatusOf v c₁ = (.error stop, c₂)) := by
  obtain ⟨w, member, study, rfl, running⟩ := held
  unfold updateWorkerStatus
  rcases listed : d.getWorkerList studyId c with ⟨stop | ws, c₁⟩
  · exact ⟨stop, c₁, Go.bind_stop listed, .inr (.inl ⟨c₁, rfl⟩)⟩
  obtain ⟨rfl, -⟩ := d.getWorkerList_ok listed
  rw [Go.bind_ok listed]
  have stops : ∀ s, ∃ stop s', d.updateWorkerStatusOf w s = (.error stop, s') ∧
      ∃ err r r', d.jobsGet r w.WorkerId = (.error err, r') ∧ stop = .error err := fun s => by
    obtain ⟨err, s', failed, r', got⟩ := d.isWorkerComplete_gone gone s
    exact ⟨_, s', by simp only [updateWorkerStatusOf, running]; exact Go.bind_stop failed,
      err, s.rest, r', got, rfl⟩
  obtain ⟨stop, c', stopped, whence⟩ :=
    Go.forM_stop_of_mem stops (c.table.rows.filter fun w => w.StudyId = studyId)
      (List.mem_filter.mpr ⟨member, by simpa using study⟩) c₁
  refine ⟨stop, c', stopped, ?_⟩
  rcases whence with named | ⟨v, listedV, other, failed⟩
  · exact .inl named
  · obtain ⟨memberV, studyV⟩ := List.mem_filter.mp listedV
    exact .inr (.inr ⟨v, memberV, by simpa using studyV,
      fun same => other (List.inj_on_of_nodup_map c.table.keyed memberV member same), failed⟩)

/-- A `RUNNING` worker whose Job is gone blocks its study: over every run of `UpdateWorkerStatus`
calls, for any studies, it stays `RUNNING`, and the next call for its study fails, however the
rest of the cluster and the database answer. The call fails with the error the Job's `Get`
returned, which `IsWorkerComplete` passes on, unless the listing or the loop's body for another
worker of the study failed first. -/
theorem updateWorkerStatus_blocked_by_missing_job {studyId : String} (calls : List WorkerCall)
    (updates : ∀ call ∈ calls, ∃ s, call = .updateWorkerStatus s) (c : Cluster ρ)
    (held : c.table.HoldsRunning studyId wID) :
    (runCalls d calls c).table.HoldsRunning studyId wID ∧
      ∃ stop c', d.updateWorkerStatus studyId (runCalls d calls c) = (.error stop, c') ∧
        ((∃ err r r', d.jobsGet r wID = (.error err, r') ∧ stop = .error err) ∨
          (∃ c₁, d.getWorkerList studyId (runCalls d calls c) = (.error stop, c₁)) ∨
          ∃ v ∈ (runCalls d calls c).table.rows, v.StudyId = studyId ∧ v.WorkerId ≠ wID ∧
            ∃ c₁ c₂, d.updateWorkerStatusOf v c₁ = (.error stop, c₂)) := by
  have kept : (runCalls d calls c).table.HoldsRunning studyId wID := by
    induction calls generalizing c with
    | nil => exact held
    | cons call calls ih =>
      obtain ⟨s, rfl⟩ := updates call (List.mem_cons_self _ _)
      refine ih (fun call member => updates call (List.mem_cons_of_mem _ member)) _ ?_
      exact d.getWorkerList_forM_keeps (fun c => c.table.HoldsRunning studyId wID) s _ c
        ((d.getWorkerList_tableKept s).keeps (·.HoldsRunning studyId wID))
        (fun v _ _ => d.updateWorkerStatusOf_holdsRunning gone v) held
  exact ⟨kept, d.updateWorkerStatus_fails_of_gone gone kept⟩

end Gone

omit d in
/-- The serving cluster, with the Job of every worker gone. -/
def jobGoneCluster : KubernetesWorkerInterface Unit :=
  { servingCluster [⟨"w-0", "Running"⟩] (.ok ()) with
    jobsGet := fun _ _ => (.error (.plain "jobs.batch \"w\" not found"), ()) }

/-- Against `jobGoneCluster`, after three calls, the fourth fails with the Job's `NotFound`
error. -/
theorem updateWorkerStatus_blocked_by_missing_job_jobGone :
    (∀ r, ∃ err r', jobGoneCluster.jobsGet r "w" = (.error err, r')) ∧
      (∀ call ∈ List.replicate 3 (WorkerCall.updateWorkerStatus "study"),
        ∃ s, call = .updateWorkerStatus s) ∧
      runningWorker.table.HoldsRunning "study" "w" ∧
      (runCalls jobGoneCluster (List.replicate 3 (.updateWorkerStatus "study"))
          runningWorker).table.HoldsRunning "study" "w" ∧
      ∃ c', jobGoneCluster.updateWorkerStatus "study"
        (runCalls jobGoneCluster (List.replicate 3 (.updateWorkerStatus "study")) runningWorker) =
          (.error (.error (.plain "jobs.batch \"w\" not found")), c') := by
  have gone : ∀ r, ∃ err r', jobGoneCluster.jobsGet r "w" = (.error err, r') :=
    fun r => ⟨_, r, rfl⟩
  have updates : ∀ call ∈ List.replicate 3 (WorkerCall.updateWorkerStatus "study"),
      ∃ s, call = .updateWorkerStatus s :=
    fun _ member => ⟨"study", (List.mem_replicate.mp member).2⟩
  have held : runningWorker.table.HoldsRunning "study" "w" :=
    ⟨_, List.mem_singleton_self _, rfl, rfl, rfl⟩
  obtain ⟨kept, stop, c', failed, whence⟩ :=
    updateWorkerStatus_blocked_by_missing_job jobGoneCluster gone _ updates runningWorker held
  refine ⟨gone, updates, held, kept, c', ?_⟩
  rcases whence with ⟨err, r, r', got, rfl⟩ | ⟨c₁, listed⟩ | ⟨v, member, -, other, -⟩
  · cases got
    exact failed
  · cases listed
  · have rows := runCalls_forward jobGoneCluster (List.replicate 3 (.updateWorkerStatus "study"))
      runningWorker
    change List.Forall₂ Forward [⟨"w", "study", "t", .running⟩] _ at rows
    obtain ⟨v', _, forward, rest, listed⟩ := List.forall₂_cons_left_iff.mp rows
    rw [listed, List.forall₂_nil_left_iff.mp rest, List.mem_singleton] at member
    rw [member, forward.1] at other
    exact absurd rfl other

end KubernetesWorkerInterface

end Katib
