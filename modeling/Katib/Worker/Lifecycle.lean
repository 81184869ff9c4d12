import Katib.Worker.Kubernetes

/-!
# The worker lifecycle in the database

A worker goes `PENDING → RUNNING → COMPLETED | KILLED`. Each of the three operations writes a
status only for a worker of its own study, read from the listing the call made at its start,
and only along the edge it is for: `UpdateWorkerStatus` starts pending workers and completes
running ones, `CleanWorkers` kills running ones, and `StopWorkers` completes or kills the running
ones it is given. The table is keyed by `WorkerId`, so a write by ID reaches exactly the listed
worker, and the listed status is the one in the table.
-/

set_option autoImplicit false

namespace Katib

/-- A call of one of the three operations that write worker statuses. -/
inductive WorkerCall where
  | updateWorkerStatus (studyId : String)
  | cleanWorkers (studyId : String)
  | stopWorkers (studyId : String) (wIDs : List String) (iscomplete : Bool)
  deriving DecidableEq, Repr

namespace WorkerCall

/-- The status changes `call` may make. -/
def Moves : WorkerCall → State → State → Prop
  | .updateWorkerStatus _, .pending, .running => True
  | .updateWorkerStatus _, .running, .completed => True
  | .cleanWorkers _, .running, .killed => True
  | .stopWorkers _ _ true, .running, .completed => True
  | .stopWorkers _ _ false, .running, .killed => True
  | _, _, _ => False

/-- The workers `call` may change: its study's, and for `StopWorkers` only those in `wIDs`. -/
def Touches : WorkerCall → Worker → Prop
  | .updateWorkerStatus studyId, w => w.StudyId = studyId
  | .cleanWorkers studyId, w => w.StudyId = studyId
  | .stopWorkers studyId wIDs _, w => w.StudyId = studyId ∧ w.WorkerId ∈ wIDs

/-- How `call` may change the row `w` into `w'`: not at all, or only in its status, for a
worker it touches, along an edge it makes. -/
def Changes (call : WorkerCall) (w w' : Worker) : Prop :=
  w' = w ∨ (w' = { w with Status := w'.Status } ∧ call.Touches w ∧ call.Moves w.Status w'.Status)

/-- The operation of the call. -/
def run {ρ : Type} (d : KubernetesWorkerInterface ρ) : WorkerCall → Go (Cluster ρ) Unit
  | .updateWorkerStatus studyId => d.updateWorkerStatus studyId
  | .cleanWorkers studyId => d.cleanWorkers studyId
  | .stopWorkers studyId wIDs iscomplete => d.stopWorkers studyId wIDs iscomplete

end WorkerCall

/-- The state after the calls, one after the other, each however it ended. -/
def runCalls {ρ : Type} (d : KubernetesWorkerInterface ρ) : List WorkerCall → Cluster ρ → Cluster ρ
  | [], c => c
  | call :: calls, c => runCalls d calls (call.run d c).2

theorem runCalls_append {ρ : Type} (d : KubernetesWorkerInterface ρ) (pre post : List WorkerCall)
    (c : Cluster ρ) : runCalls d (pre ++ post) c = runCalls d post (runCalls d pre c) := by
  induction pre generalizing c with
  | nil => rfl
  | cons call pre ih => exact ih _

/-! ### One write -/

theorem changes_setStatus {call : WorkerCall} {rows₀ : List Worker} {w : Worker} {s : State}
    (keyed : (rows₀.map (·.WorkerId)).Nodup) (listed : w ∈ rows₀) (touches : call.Touches w)
    (moves : call.Moves w.Status s) :
    ∀ {rows : List Worker}, List.Forall₂ call.Changes rows₀ rows →
      List.Forall₂ call.Changes rows₀
        (rows.map fun r => if r.WorkerId = w.WorkerId then { r with Status := s } else r) := by
  intro rows changed
  rw [List.forall₂_map_right_iff]
  refine ((List.forall₂_and_left _ _).mpr ⟨fun _ member => member, changed⟩).imp
    fun r₀ r ⟨(member : r₀ ∈ rows₀), step⟩ => ?_
  have sameId : r.WorkerId = r₀.WorkerId := by
    rcases step with rfl | ⟨shape, -⟩
    · rfl
    · rw [shape]
  split_ifs with hit
  · obtain rfl : r₀ = w := List.inj_on_of_nodup_map keyed member listed (sameId ▸ hit)
    refine .inr ⟨?_, touches, moves⟩
    rcases step with rfl | ⟨shape, -⟩
    · rfl
    · rw [shape]
  · exact step

/-- Since the table held `rows₀`, every row changed only as `call` may change it. -/
def ChangedBy {ρ : Type} (call : WorkerCall) (rows₀ : List Worker) (c : Cluster ρ) : Prop :=
  List.Forall₂ call.Changes rows₀ c.table.rows

namespace KubernetesWorkerInterface

variable {ρ : Type} (d : KubernetesWorkerInterface ρ)

theorem changedBy_of_tableKept {call : WorkerCall} {rows₀ : List Worker} {α : Type}
    {x : Go (Cluster ρ) α} (kept : TableKept x) : Go.Keeps (ChangedBy call rows₀) x :=
  kept.keeps fun t => List.Forall₂ call.Changes rows₀ t.rows

theorem updateWorker_changedBy {call : WorkerCall} {rows₀ : List Worker} {w : Worker} {s : State}
    (keyed : (rows₀.map (·.WorkerId)).Nodup) (listed : w ∈ rows₀) (touches : call.Touches w)
    (moves : call.Moves w.Status s) : Go.Keeps (ChangedBy call rows₀) (d.updateWorker w.WorkerId s) :=
  Go.Keeps.bind (changedBy_of_tableKept (call_tableKept _)) fun _ _ changed =>
    changes_setStatus keyed listed touches moves changed

theorem getWorkerList_forM_changedBy (call : WorkerCall) (studyId : String)
    (body : Worker → Go (Cluster ρ) PUnit) (c₀ : Cluster ρ)
    (step : ∀ w ∈ c₀.table.rows, w.StudyId = studyId →
      Go.Keeps (ChangedBy call c₀.table.rows) (body w)) :
    ChangedBy call c₀.table.rows ((d.getWorkerList studyId >>= fun ws => ws.forM body) c₀).2 :=
  d.getWorkerList_forM_keeps _ studyId body c₀
    (changedBy_of_tableKept (d.getWorkerList_tableKept studyId)) step
    (List.forall₂_same.mpr fun _ _ => .inl rfl)

theorem updateWorkerStatusOf_changedBy {studyId : String} {rows₀ : List Worker}
    (keyed : (rows₀.map (·.WorkerId)).Nodup) {w : Worker} (listed : w ∈ rows₀)
    (study : w.StudyId = studyId) :
    Go.Keeps (ChangedBy (.updateWorkerStatus studyId) rows₀) (d.updateWorkerStatusOf w) := by
  unfold updateWorkerStatusOf
  split
  · next pending =>
    exact Go.Keeps.bind (Go.Keeps.attempt (changedBy_of_tableKept (d.storeWorkerLog_tableKept _)))
      fun
        | .ok () => d.updateWorker_changedBy keyed listed study (by rw [pending]; trivial)
        | .error _ => Go.Keeps.pure _
  · next running =>
    refine Go.Keeps.bind (changedBy_of_tableKept (d.isWorkerComplete_tableKept _)) fun _ =>
      Go.Keeps.bind (changedBy_of_tableKept (d.storeWorkerLog_tableKept _)) fun _ =>
        Go.Keeps.ite ?_ (Go.Keeps.pure _)
    exact Go.Keeps.bind (d.updateWorker_changedBy keyed listed study (by rw [running]; trivial))
      fun _ => Go.Keeps.bind (Go.Keeps.discard (changedBy_of_tableKept (d.deleteJob_tableKept _)))
        fun _ => Go.Keeps.bind (changedBy_of_tableKept (d.listPodsDroppingError_tableKept _))
          fun pods => changedBy_of_tableKept (d.deleteFirstPod_tableKept pods)
  · exact Go.Keeps.pure _

theorem cleanWorker_changedBy {studyId : String} {rows₀ : List Worker}
    (keyed : (rows₀.map (·.WorkerId)).Nodup) {w : Worker} (listed : w ∈ rows₀)
    (study : w.StudyId = studyId) :
    Go.Keeps (ChangedBy (.cleanWorkers studyId) rows₀) (d.cleanWorker w) := by
  unfold cleanWorker
  split_ifs with running
  · exact Go.Keeps.bind (Go.Keeps.discard (changedBy_of_tableKept (d.deleteJob_tableKept _)))
      fun _ => Go.Keeps.bind (changedBy_of_tableKept (d.listPodsDroppingError_tableKept _))
        fun pods => Go.Keeps.bind (changedBy_of_tableKept (d.deleteFirstPod_tableKept pods))
          fun _ => d.updateWorker_changedBy keyed listed study (by rw [running]; trivial)
  · exact Go.Keeps.pure _

theorem stopWorker_changedBy {studyId : String} {wIDs : List String} {iscomplete : Bool}
    {rows₀ : List Worker} (keyed : (rows₀.map (·.WorkerId)).Nodup) {w : Worker}
    (listed : w ∈ rows₀) (study : w.StudyId = studyId) {wid : String} (given : wid ∈ wIDs) :
    Go.Keeps (ChangedBy (.stopWorkers studyId wIDs iscomplete) rows₀)
      (d.stopWorker iscomplete w wid) := by
  unfold stopWorker
  split
  · next chosen =>
    obtain ⟨running, rfl⟩ := chosen
    exact Go.Keeps.bind (Go.Keeps.discard (changedBy_of_tableKept (d.deleteJob_tableKept _)))
      fun _ => Go.Keeps.bind (changedBy_of_tableKept (call_tableKept _))
        fun pods => Go.Keeps.bind (changedBy_of_tableKept (d.deleteFirstPod_tableKept pods))
          fun _ => d.updateWorker_changedBy keyed listed ⟨study, given⟩
            (by rw [running]; cases iscomplete <;> trivial)
  · exact Go.Keeps.pure _

end KubernetesWorkerInterface

theorem WorkerCall.run_changedBy {ρ : Type} (d : KubernetesWorkerInterface ρ) (call : WorkerCall)
    (c₀ : Cluster ρ) : ChangedBy call c₀.table.rows (call.run d c₀).2 := by
  cases call with
  | updateWorkerStatus studyId =>
      exact d.getWorkerList_forM_changedBy _ studyId _ c₀ fun _ listed study =>
        d.updateWorkerStatusOf_changedBy c₀.table.keyed listed study
  | cleanWorkers studyId =>
      exact d.getWorkerList_forM_changedBy _ studyId _ c₀ fun _ listed study =>
        d.cleanWorker_changedBy c₀.table.keyed listed study
  | stopWorkers studyId wIDs iscomplete =>
      exact d.getWorkerList_forM_changedBy _ studyId _ c₀ fun _ listed study =>
        Go.Keeps.forM fun _ given => d.stopWorker_changedBy c₀.table.keyed listed study given

/-- Over every sequence of calls, each call changes a worker's row only in its status, only for a
worker of its study (for `StopWorkers`, one of `wIDs`), and only by an edge it is for:
`PENDING → RUNNING` and `RUNNING → COMPLETED` by `UpdateWorkerStatus`, `RUNNING → KILLED` by
`CleanWorkers`, and `RUNNING → COMPLETED` or `KILLED` by `StopWorkers` as `iscomplete` says. -/
theorem workerCall_changes {ρ : Type} (d : KubernetesWorkerInterface ρ) (pre : List WorkerCall)
    (call : WorkerCall) (c : Cluster ρ) :
    List.Forall₂ call.Changes (runCalls d pre c).table.rows
      (runCalls d (pre ++ [call]) c).table.rows := by
  rw [runCalls_append]
  exact WorkerCall.run_changedBy d call _

/-! ### Whole runs -/

/-- Where a status stands on the lifecycle: `PENDING`, `RUNNING`, then the final ones. -/
def State.rank : State → Nat
  | .pending => 0
  | .running => 1
  | .completed => 2
  | .killed => 2

theorem State.rank_le_two (s : State) : s.rank ≤ 2 := by
  cases s <;> decide

theorem WorkerCall.Moves.rank_lt {call : WorkerCall} {s s' : State} (moves : call.Moves s s') :
    s.rank < s'.rank := by
  rcases call with _ | _ | ⟨_, _, _ | _⟩ <;> cases s <;> cases s' <;> first | decide | cases moves

/-- The row `w'` is `w` moved forward on the lifecycle: changed at most in its status, and then
to a later one. -/
def Forward (w w' : Worker) : Prop :=
  w' = { w with Status := w'.Status } ∧ (w'.Status = w.Status ∨ w.Status.rank < w'.Status.rank)

theorem Forward.refl (w : Worker) : Forward w w := ⟨rfl, .inl rfl⟩

theorem Forward.trans {w₁ w₂ w₃ : Worker} (first : Forward w₁ w₂) (second : Forward w₂ w₃) :
    Forward w₁ w₃ := by
  obtain ⟨shape₁, step₁⟩ := first
  obtain ⟨shape₂, step₂⟩ := second
  refine ⟨by rw [shape₂, shape₁], ?_⟩
  rcases step₁ with same₁ | later₁ <;> rcases step₂ with same₂ | later₂
  · exact .inl (same₂.trans same₁)
  · exact .inr (same₁ ▸ later₂)
  · exact .inr (same₂ ▸ later₁)
  · exact .inr (later₁.trans later₂)

theorem Forward.eq_of_final {w w' : Worker} (forward : Forward w w') (final : w.Status.rank = 2) :
    w' = w := by
  obtain ⟨shape, same | later⟩ := forward
  · rw [shape, same]
  · exact absurd (State.rank_le_two w'.Status) (by omega)

theorem WorkerCall.Changes.forward {call : WorkerCall} {w w' : Worker} (changed : call.Changes w w') :
    Forward w w' := by
  rcases changed with rfl | ⟨shape, -, moves⟩
  · exact Forward.refl _
  · exact ⟨shape, .inr moves.rank_lt⟩

theorem forall₂_forward_trans {rows₁ rows₂ rows₃ : List Worker}
    (first : List.Forall₂ Forward rows₁ rows₂) (second : List.Forall₂ Forward rows₂ rows₃) :
    List.Forall₂ Forward rows₁ rows₃ := by
  induction first generalizing rows₃ with
  | nil => exact second
  | cons head _ ih =>
      cases second with
      | cons head' tail' => exact .cons (head.trans head') (ih tail')

theorem runCalls_forward {ρ : Type} (d : KubernetesWorkerInterface ρ) (calls : List WorkerCall)
    (c : Cluster ρ) : List.Forall₂ Forward c.table.rows (runCalls d calls c).table.rows := by
  induction calls generalizing c with
  | nil => exact List.forall₂_same.mpr fun w _ => Forward.refl w
  | cons call calls ih =>
      exact forall₂_forward_trans
        ((WorkerCall.run_changedBy d call c).imp fun _ _ changed => changed.forward) (ih _)

/-- No run of calls changes the row of a `COMPLETED` or `KILLED` worker. -/
theorem runCalls_keeps_final {ρ : Type} (d : KubernetesWorkerInterface ρ) (calls : List WorkerCall)
    (c : Cluster ρ) :
    List.Forall₂ (fun w w' => w.Status = .completed ∨ w.Status = .killed → w' = w)
      c.table.rows (runCalls d calls c).table.rows :=
  (runCalls_forward d calls c).imp fun w _ forward final =>
    forward.eq_of_final (by rcases final with final | final <;> rw [final] <;> rfl)

/-! ### Deleting a Job before the status is written -/

/-- A cluster and a database that serve every call, listing `pods` for every Job and answering
`update` to every `UpdateWorker`. -/
def servingCluster (pods : List Pod) (update : Except GoError Unit) : KubernetesWorkerInterface Unit where
  jobsGet _ _ := (.ok 1, ())
  jobsDelete _ _ := (.ok (), ())
  podsList _ _ := (.ok pods, ())
  podsDelete _ _ := (.ok (), ())
  podsGetLogs _ _ _ := (.ok "", ())
  dbGetWorkerList _ _ := (.ok (), ())
  dbUpdateWorker _ _ _ := (update, ())
  dbGetWorkerTimestamp _ _ := (.ok none, ())
  dbStoreWorkerLogs _ _ _ := (.ok (), ())

/-- One running worker `w` of the study `study`, and no Job deleted yet. -/
def runningWorker : Cluster Unit := ⟨⟨[⟨"w", "study", "t", .running⟩], by decide⟩, (), []⟩

/-- `CleanWorkers` and `StopWorkers` delete a running worker's Job before they write its status:
when the Pod list is empty, or the update fails, the call ends with the Job deleted and the
worker still `RUNNING`. -/
theorem workers_left_running_after_job_delete :
    (servingCluster [] (.ok ())).cleanWorkers "study" runningWorker =
        (.error (.panic "index out of range"), { runningWorker with deletedJobs := ["w"] }) ∧
      (servingCluster [] (.ok ())).stopWorkers "study" ["w"] true runningWorker =
        (.error (.panic "index out of range"), { runningWorker with deletedJobs := ["w"] }) ∧
      (servingCluster [⟨"w-0", "Running"⟩] (.error (.plain "database is locked"))).cleanWorkers
          "study" runningWorker =
        (.error (.error (.plain "database is locked")), { runningWorker with deletedJobs := ["w"] }) :=
  ⟨rfl, rfl, rfl⟩

/-! ### A Job whose Pods are gone -/

/-- A cluster whose Jobs have all succeeded and whose Pod listings answer a Pod `w-0` in phase
`Succeeded` until a Job is deleted, and `afterDelete` from then on; the state is whether a Job was
deleted. The database serves every call. -/
def teardownCluster (afterDelete : Except GoError (List Pod)) : KubernetesWorkerInterface Bool where
  jobsGet deleted _ := (.ok 1, deleted)
  jobsDelete _ _ := (.ok (), true)
  podsList deleted _ :=
    if deleted then (afterDelete, deleted) else (.ok [⟨"w-0", "Succeeded"⟩], deleted)
  podsDelete deleted _ := (.ok (), deleted)
  podsGetLogs deleted _ _ := (.ok "", deleted)
  dbGetWorkerList deleted _ := (.ok (), deleted)
  dbUpdateWorker deleted _ _ := (.ok (), deleted)
  dbGetWorkerTimestamp deleted _ := (.ok none, deleted)
  dbStoreWorkerLogs deleted _ _ := (.ok (), deleted)

/-- Two running workers `w1` and `w2` of the study `study`, and no Job deleted yet. -/
def twoRunning : Cluster Bool :=
  ⟨⟨[⟨"w1", "study", "t1", .running⟩, ⟨"w2", "study", "t2", .running⟩], by decide⟩, false, []⟩

/-- Once the Job of `w1` is deleted its Pod list is empty, or the listing fails: each of the
three operations then indexes the empty list and panics. `UpdateWorkerStatus` has written `w1`
`COMPLETED` but never reaches `w2`; `CleanWorkers` and `StopWorkers` leave both `RUNNING`.
`StopWorkers` returns a failed listing instead, again leaving `w1` `RUNNING`. -/
theorem teardown_indexes_missing_pod :
    ((teardownCluster (.error (.plain "connection refused"))).updateWorkerStatus "study"
        twoRunning).1 = .error (.panic "index out of range") ∧
      ((teardownCluster (.error (.plain "connection refused"))).updateWorkerStatus "study"
        twoRunning).2.table.rows =
          [⟨"w1", "study", "t1", .completed⟩, ⟨"w2", "study", "t2", .running⟩] ∧
      ((teardownCluster (.ok [])).cleanWorkers "study" twoRunning).1 =
        .error (.panic "index out of range") ∧
      ((teardownCluster (.ok [])).cleanWorkers "study" twoRunning).2.table = twoRunning.table ∧
      ((teardownCluster (.ok [])).stopWorkers "study" ["w1", "w2"] false twoRunning).1 =
        .error (.panic "index out of range") ∧
      ((teardownCluster (.ok [])).stopWorkers "study" ["w1", "w2"] false twoRunning).2.table =
        twoRunning.table ∧
      ((teardownCluster (.error (.plain "connection refused"))).stopWorkers "study" ["w1", "w2"]
        false twoRunning).1 = .error (.error (.plain "connection refused")) ∧
      ((teardownCluster (.error (.plain "connection refused"))).stopWorkers "study" ["w1", "w2"]
        false twoRunning).2.table = twoRunning.table :=
  ⟨rfl, rfl, rfl, rfl, rfl, rfl, rfl, rfl⟩

end Katib
