import Katib.Worker.Lifecycle

/-!
# The Jobs the operations delete

Each operation deletes the Job of a worker only when its listing, made at the start of the call,
shows the worker `RUNNING`, of the call's study (and, for `StopWorkers`, among `wIDs`). Rows only
move forward on the lifecycle, so over every run of calls each Job deleted is of a worker the
table held, `PENDING` or `RUNNING`, at the start of the run: no run deletes the Job of a worker
that had already finished.

`UpdateWorkerStatus` deletes a worker's Job only after it has written the worker `COMPLETED`, and
it visits each worker of its listing once, the table being keyed by `WorkerId`: no later write of
the call reaches that row. So every Job the call deletes is of a worker whose row it leaves
`COMPLETED`, however the call ends.
-/

set_option autoImplicit false

namespace Katib

/-- The IDs of the rows, in order. -/
def WorkerTable.ids (t : WorkerTable) : List String := t.rows.map (·.WorkerId)

/-- The table holds the worker `id` as `COMPLETED`. -/
def WorkerTable.Completed (t : WorkerTable) (id : String) : Prop :=
  ∃ w ∈ t.rows, w.WorkerId = id ∧ w.Status = .completed

theorem WorkerTable.ids_setStatus (t : WorkerTable) (id : String) (s : State) :
    (t.setStatus id s).ids = t.ids := by
  rw [ids, setStatus, List.map_map]
  exact List.map_congr_left fun w _ => by by_cases same : w.WorkerId = id <;> simp [same]

theorem WorkerTable.completed_setStatus {t : WorkerTable} {name id : String} {s : State}
    (completed : t.Completed name) (untouched : name ≠ id ∨ s = .completed) :
    (t.setStatus id s).Completed name := by
  obtain ⟨w, member, named, status⟩ := completed
  refine ⟨_, List.mem_map_of_mem _ member, ?_⟩
  by_cases same : w.WorkerId = id
  · rcases untouched with other | rfl
    · exact absurd (named.symm.trans same) other
    · rw [if_pos same]
      exact ⟨named, rfl⟩
  · rw [if_neg same]
    exact ⟨named, status⟩

theorem WorkerTable.completed_setStatus_self {t : WorkerTable} {id : String} (held : id ∈ t.ids) :
    (t.setStatus id .completed).Completed id := by
  obtain ⟨w, member, named⟩ := List.mem_map.mp held
  exact ⟨_, List.mem_map_of_mem _ member, by simp [named]⟩

/-- Along `UpdateWorkerStatus`'s loop, of the table `t` and the deleted Jobs `js`, with `js₀` the
Jobs deleted before the call and `remaining` the workers left to visit: their IDs are distinct
and in the table, and every Job deleted since is of none of them and of a `COMPLETED` row. -/
structure JobsInv (js₀ : List String) (remaining : List Worker) (t : WorkerTable)
    (js : List String) : Prop where
  fresh : (remaining.map (·.WorkerId)).Nodup
  listed : ∀ w ∈ remaining, w.WorkerId ∈ t.ids
  deleted : ∀ name ∈ js, name ∈ js₀ ∨ name ∉ remaining.map (·.WorkerId) ∧ t.Completed name

theorem JobsInv.tail {js₀ js : List String} {w : Worker} {ws : List Worker} {t : WorkerTable}
    (inv : JobsInv js₀ (w :: ws) t js) : JobsInv js₀ ws t js where
  fresh := (List.nodup_cons.mp inv.fresh).2
  listed := fun v member => inv.listed v (List.mem_cons_of_mem w member)
  deleted := fun name member => (inv.deleted name member).imp_right fun ⟨other, completed⟩ =>
    ⟨fun listed => other (List.mem_cons_of_mem _ listed), completed⟩

theorem JobsInv.setStatus {js₀ js : List String} {remaining : List Worker} {t : WorkerTable}
    {id : String} {s : State} (inv : JobsInv js₀ remaining t js)
    (allowed : id ∈ remaining.map (·.WorkerId) ∨ s = .completed) :
    JobsInv js₀ remaining (t.setStatus id s) js := by
  refine ⟨inv.fresh, fun w member => (t.ids_setStatus id s).symm ▸ inv.listed w member,
    fun name member => (inv.deleted name member).imp_right fun ⟨other, completed⟩ =>
      ⟨other, WorkerTable.completed_setStatus completed ?_⟩⟩
  exact allowed.imp_left fun left same => other (same ▸ left)

theorem JobsInv.delete {js₀ js : List String} {remaining : List Worker} {t : WorkerTable}
    {id : String} (inv : JobsInv js₀ remaining t js) (visited : id ∉ remaining.map (·.WorkerId))
    (completed : t.Completed id) : JobsInv js₀ remaining t (js ++ [id]) := by
  refine ⟨inv.fresh, inv.listed, fun name member => ?_⟩
  rcases List.mem_append.mp member with old | new
  · exact inv.deleted name old
  · rw [List.mem_singleton.mp new]
    exact .inr ⟨visited, completed⟩

namespace KubernetesWorkerInterface

variable {ρ : Type} (d : KubernetesWorkerInterface ρ)

theorem updateWorker_keeps {id : String} {s : State} (P : WorkerTable → List String → Prop)
    (written : ∀ t js, P t js → P (t.setStatus id s) js) :
    Go.Keeps (fun c => P c.table c.deletedJobs) (d.updateWorker id s) :=
  Go.Keeps.bind ((call_quiet _).keeps P) fun _ c hold => written c.table c.deletedJobs hold

theorem updateWorker_ok {id : String} {s : State} {c c' : Cluster ρ} {u : Unit}
    (written : d.updateWorker id s c = (.ok u, c')) :
    c'.table = c.table.setStatus id s ∧ c'.deletedJobs = c.deletedJobs := by
  obtain ⟨_, c₁, called, rest⟩ := Go.bind_eq_ok.mp written
  have kept := call_quiet (d.dbUpdateWorker · id s) c.table c.deletedJobs c ⟨rfl, rfl⟩
  rw [called] at kept
  simp only [Prod.mk.injEq] at rest
  rw [← rest.2, ← kept.1, ← kept.2]
  exact ⟨rfl, rfl⟩

theorem deleteJob_keeps {id : String} (P : WorkerTable → List String → Prop)
    (deleted : ∀ t js, P t js → P t (js ++ [id])) :
    Go.Keeps (fun c => P c.table c.deletedJobs) (d.deleteJob id) :=
  Go.Keeps.bind ((call_quiet _).keeps P) fun _ c hold => deleted c.table c.deletedJobs hold

theorem updateWorkerStatusOf_jobsInv {js₀ : List String} {w : Worker} {ws : List Worker}
    (c : Cluster ρ) (inv : JobsInv js₀ (w :: ws) c.table c.deletedJobs) :
    JobsInv js₀ ws (d.updateWorkerStatusOf w c).2.table (d.updateWorkerStatusOf w c).2.deletedJobs := by
  have visited : w.WorkerId ∉ ws.map (·.WorkerId) := (List.nodup_cons.mp inv.fresh).1
  unfold updateWorkerStatusOf
  cases w.Status with
  | pending =>
    refine (Go.Keeps.bind (Go.Keeps.attempt ((d.storeWorkerLog_quiet _).keeps _)) (fun
        | .ok () => d.updateWorker_keeps _ fun _ _ inv =>
            inv.setStatus (.inl (List.mem_map_of_mem _ (List.mem_cons_self _ _)))
        | .error _ => Go.Keeps.pure _) c inv).tail
  | running =>
    -- the invariant of `ws`, with `w` still in the table, and after the write its row `COMPLETED`
    let J : WorkerTable → List String → Prop := fun t js => JobsInv js₀ ws t js ∧ w.WorkerId ∈ t.ids
    have completing : Go.Keeps (fun c => J c.table c.deletedJobs)
        (d.updateWorker w.WorkerId .completed >>= fun _ =>
          Go.discard (d.deleteJob w.WorkerId) >>= fun _ =>
          d.listPodsDroppingError w.WorkerId >>= d.deleteFirstPod) := by
      refine Go.Keeps.bind_of_ok (d.updateWorker_keeps J fun t _ ⟨inv, held⟩ =>
        ⟨inv.setStatus (.inr rfl), (t.ids_setStatus _ _).symm ▸ held⟩)
        fun c _ c' written ⟨inv, held⟩ => ?_
      have completed : c'.table.Completed w.WorkerId := by
        rw [(d.updateWorker_ok written).1] at held ⊢
        exact WorkerTable.completed_setStatus_self ((c.table.ids_setStatus _ _) ▸ held)
      let J' : WorkerTable → List String → Prop := fun t js => J t js ∧ t.Completed w.WorkerId
      exact (Go.Keeps.bind (Go.Keeps.discard (d.deleteJob_keeps J'
        fun _ _ ⟨⟨inv, held⟩, completed⟩ => ⟨⟨inv.delete visited completed, held⟩, completed⟩))
        (fun _ => Go.Keeps.bind ((d.listPodsDroppingError_quiet _).keeps J') fun pods =>
          (d.deleteFirstPod_quiet pods).keeps J') c' ⟨⟨inv, held⟩, completed⟩).1
    exact (Go.Keeps.bind ((d.isWorkerComplete_quiet _).keeps J) (fun _ =>
      Go.Keeps.bind ((d.storeWorkerLog_quiet _).keeps J) fun _ =>
        Go.Keeps.ite completing (Go.Keeps.pure _)) c
      ⟨inv.tail, inv.listed w (List.mem_cons_self _ _)⟩).1
  | completed => exact inv.tail
  | killed => exact inv.tail

/-- Every Job `UpdateWorkerStatus` deletes is of a worker whose row it leaves `COMPLETED`,
however the call ends. -/
theorem updateWorkerStatus_deletes_completed (studyId : String) (c₀ : Cluster ρ) :
    ∀ name ∈ (d.updateWorkerStatus studyId c₀).2.deletedJobs,
      name ∈ c₀.deletedJobs ∨ (d.updateWorkerStatus studyId c₀).2.table.Completed name := by
  have kept := d.getWorkerList_quiet studyId c₀.table c₀.deletedJobs c₀ ⟨rfl, rfl⟩
  unfold updateWorkerStatus
  rw [Go.bind_apply]
  rcases listed : d.getWorkerList studyId c₀ with ⟨_ | ws, c₁⟩
  all_goals rw [listed] at kept; obtain ⟨table, jobs⟩ := kept
  · exact fun name member => .inl (jobs ▸ member)
  obtain ⟨rfl, -⟩ := d.getWorkerList_ok listed
  have start : JobsInv c₀.deletedJobs (c₀.table.rows.filter fun w => w.StudyId = studyId)
      c₁.table c₁.deletedJobs := by
    rw [table, jobs]
    exact ⟨c₀.table.keyed.sublist ((List.filter_sublist _).map _),
      fun w member => List.mem_map_of_mem _ (List.mem_filter.mp member).1, fun _ => .inl⟩
  obtain ⟨_, inv⟩ := @Go.forM_remaining (Cluster ρ) Worker d.updateWorkerStatusOf
    (fun ws c => JobsInv c₀.deletedJobs ws c.table c.deletedJobs)
    (fun _ _ => d.updateWorkerStatusOf_jobsInv) _ c₁ start
  exact fun name member => (inv.deleted name member).imp_right And.right

/-- With every Job succeeded and its Pod `Succeeded`, the running worker `w` is completed and its
Job deleted. -/
theorem updateWorkerStatus_deletes_completed_succeeded :
    "w" ∈ ((servingCluster [⟨"w-0", "Succeeded"⟩] (.ok ())).updateWorkerStatus "study"
        runningWorker).2.deletedJobs ∧
      ("w" ∈ runningWorker.deletedJobs ∨ ((servingCluster [⟨"w-0", "Succeeded"⟩] (.ok ())).updateWorkerStatus
        "study" runningWorker).2.table.Completed "w") :=
  ⟨by decide, updateWorkerStatus_deletes_completed _ "study" runningWorker "w" (by decide)⟩

end KubernetesWorkerInterface


/-! ### The Jobs any call deletes -/

/-- `call`, having listed the rows `rows₀`, may delete the Job `name`: that of a worker it
touches, listed as `RUNNING`. -/
def WorkerCall.Deletes (call : WorkerCall) (rows₀ : List Worker) (name : String) : Prop :=
  ∃ w ∈ rows₀, w.WorkerId = name ∧ call.Touches w ∧ w.Status = .running

/-- The deleted Jobs `js` are `js₀` followed by Jobs `call` may delete. -/
def WorkerCall.DeletedSince (call : WorkerCall) (rows₀ : List Worker) (js₀ js : List String) :
    Prop :=
  ∃ deleted, js = js₀ ++ deleted ∧ ∀ name ∈ deleted, call.Deletes rows₀ name

theorem WorkerCall.DeletedSince.delete {call : WorkerCall} {rows₀ : List Worker}
    {js₀ js : List String} {name : String} (since : call.DeletedSince rows₀ js₀ js)
    (deletes : call.Deletes rows₀ name) : call.DeletedSince rows₀ js₀ (js ++ [name]) := by
  obtain ⟨deleted, rfl, ok⟩ := since
  refine ⟨deleted ++ [name], List.append_assoc _ _ _, fun other member => ?_⟩
  rcases List.mem_append.mp member with old | new
  · exact ok other old
  · rw [List.mem_singleton.mp new]
    exact deletes

/-- A call touches a row whatever its status. -/
@[simp] theorem WorkerCall.touches_status (call : WorkerCall) (w : Worker) (s : State) :
    call.Touches { w with Status := s } ↔ call.Touches w := by
  cases call <;> rfl

theorem State.rank_le_one {s : State} : s.rank ≤ 1 ↔ s = .pending ∨ s = .running := by
  cases s <;> decide

theorem Forward.rank_le {w w' : Worker} (forward : Forward w w') : w.Status.rank ≤ w'.Status.rank := by
  rcases forward.2 with same | later
  · rw [same]
  · exact later.le

theorem forall₂_exists_left {α β : Type} {R : α → β → Prop} {l₁ : List α} {l₂ : List β}
    (related : List.Forall₂ R l₁ l₂) {b : β} (member : b ∈ l₂) : ∃ a ∈ l₁, R a b := by
  induction related with
  | nil => cases member
  | cons head _ ih =>
      rcases List.mem_cons.mp member with rfl | later
      · exact ⟨_, List.mem_cons_self _ _, head⟩
      · obtain ⟨a, listed, rel⟩ := ih later
        exact ⟨a, List.mem_cons_of_mem _ listed, rel⟩

namespace KubernetesWorkerInterface

variable {ρ : Type} (d : KubernetesWorkerInterface ρ) (J : List String → Prop)

theorem updateWorkerStatusOf_keepsJobs {w : Worker}
    (deleted : w.Status = .running → ∀ js, J js → J (js ++ [w.WorkerId])) :
    Go.Keeps (fun c => J c.deletedJobs) (d.updateWorkerStatusOf w) := by
  unfold updateWorkerStatusOf
  rcases status : w.Status
  · exact Go.Keeps.bind (Go.Keeps.attempt ((d.storeWorkerLog_quiet _).keeps fun _ => J)) fun
      | .ok () => d.updateWorker_keeps (fun _ => J) fun _ _ kept => kept
      | .error _ => Go.Keeps.pure _
  · exact Go.Keeps.bind ((d.isWorkerComplete_quiet _).keeps fun _ => J) fun _ =>
      Go.Keeps.bind ((d.storeWorkerLog_quiet _).keeps fun _ => J) fun _ =>
        Go.Keeps.ite (Go.Keeps.bind (d.updateWorker_keeps (fun _ => J) fun _ _ kept => kept)
          fun _ => Go.Keeps.bind (Go.Keeps.discard (d.deleteJob_keeps (fun _ => J) fun _ =>
            deleted status)) fun _ =>
              Go.Keeps.bind ((d.listPodsDroppingError_quiet _).keeps fun _ => J) fun pods =>
                (d.deleteFirstPod_quiet pods).keeps fun _ => J) (Go.Keeps.pure _)
  · exact Go.Keeps.pure _
  · exact Go.Keeps.pure _

theorem cleanWorker_keepsJobs {w : Worker}
    (deleted : w.Status = .running → ∀ js, J js → J (js ++ [w.WorkerId])) :
    Go.Keeps (fun c => J c.deletedJobs) (d.cleanWorker w) := by
  unfold cleanWorker
  split_ifs with running
  · exact Go.Keeps.bind (Go.Keeps.discard (d.deleteJob_keeps (fun _ => J) fun _ =>
      deleted running)) fun _ =>
        Go.Keeps.bind ((d.listPodsDroppingError_quiet _).keeps fun _ => J) fun pods =>
          Go.Keeps.bind ((d.deleteFirstPod_quiet pods).keeps fun _ => J) fun _ =>
            d.updateWorker_keeps (fun _ => J) fun _ _ kept => kept
  · exact Go.Keeps.pure _

theorem stopWorker_keepsJobs {iscomplete : Bool} {w : Worker} {wid : String}
    (deleted : w.Status = .running ∧ w.WorkerId = wid → ∀ js, J js → J (js ++ [wid])) :
    Go.Keeps (fun c => J c.deletedJobs) (d.stopWorker iscomplete w wid) := by
  unfold stopWorker
  split
  · next chosen =>
    exact Go.Keeps.bind (Go.Keeps.discard (d.deleteJob_keeps (fun _ => J) fun _ =>
      deleted chosen)) fun _ =>
        Go.Keeps.bind ((call_quiet _).keeps fun _ => J) fun pods =>
          Go.Keeps.bind ((d.deleteFirstPod_quiet pods).keeps fun _ => J) fun _ =>
            d.updateWorker_keeps (fun _ => J) fun _ _ kept => kept
  · exact Go.Keeps.pure _

end KubernetesWorkerInterface

theorem WorkerCall.run_deletedSince {ρ : Type} (d : KubernetesWorkerInterface ρ)
    (call : WorkerCall) (c₀ : Cluster ρ) :
    call.DeletedSince c₀.table.rows c₀.deletedJobs (call.run d c₀).2.deletedJobs := by
  have start : call.DeletedSince c₀.table.rows c₀.deletedJobs c₀.deletedJobs :=
    ⟨[], (List.append_nil _).symm, fun _ member => by cases member⟩
  have listing : ∀ studyId, Go.Keeps (fun c => call.DeletedSince c₀.table.rows c₀.deletedJobs
      c.deletedJobs) (d.getWorkerList studyId) := fun studyId =>
    (d.getWorkerList_quiet studyId).keeps fun _ => call.DeletedSince c₀.table.rows c₀.deletedJobs
  cases call with
  | updateWorkerStatus studyId =>
      exact d.getWorkerList_forM_keeps _ studyId _ c₀ (listing studyId) (fun w listed study =>
        d.updateWorkerStatusOf_keepsJobs _ fun running _ since =>
          since.delete ⟨w, listed, rfl, study, running⟩) start
  | cleanWorkers studyId =>
      exact d.getWorkerList_forM_keeps _ studyId _ c₀ (listing studyId) (fun w listed study =>
        d.cleanWorker_keepsJobs _ fun running _ since =>
          since.delete ⟨w, listed, rfl, study, running⟩) start
  | stopWorkers studyId wIDs iscomplete =>
      exact d.getWorkerList_forM_keeps _ studyId _ c₀ (listing studyId) (fun w listed study =>
        Go.Keeps.forM fun wid given => d.stopWorker_keepsJobs _ fun ⟨running, named⟩ _ since =>
          since.delete ⟨w, listed, named, ⟨study, named ▸ given⟩, running⟩) start

/-- Over every run of calls, the deleted Jobs only grow, and each Job the run deletes is of a
worker the table held at the start of the run, `PENDING` or `RUNNING` there, that one of the
calls touches: no run deletes the Job of a worker that had already finished, of a worker outside
the table, or of one no call of the run is for. -/
theorem runCalls_deletes_unfinished {ρ : Type} (d : KubernetesWorkerInterface ρ)
    (calls : List WorkerCall) (c : Cluster ρ) :
    ∃ deleted, (runCalls d calls c).deletedJobs = c.deletedJobs ++ deleted ∧
      ∀ name ∈ deleted, ∃ w ∈ c.table.rows, w.WorkerId = name ∧
        (w.Status = .pending ∨ w.Status = .running) ∧ ∃ call ∈ calls, call.Touches w := by
  induction calls generalizing c with
  | nil => exact ⟨[], (List.append_nil _).symm, fun _ member => by cases member⟩
  | cons call calls ih =>
      obtain ⟨first, log₁, ok₁⟩ := WorkerCall.run_deletedSince d call c
      obtain ⟨later, log₂, ok₂⟩ := ih (call.run d c).2
      have forward := (WorkerCall.run_changedBy d call c).imp fun _ _ changed => changed.forward
      refine ⟨first ++ later, by rw [runCalls, log₂, log₁, List.append_assoc], fun name member => ?_⟩
      rcases List.mem_append.mp member with now | next
      · obtain ⟨w, listed, named, touches, running⟩ := ok₁ name now
        exact ⟨w, listed, named, .inr running, call, List.mem_cons_self _ _, touches⟩
      · obtain ⟨w₁, listed₁, named, unfinished, call', made, touches⟩ := ok₂ name next
        obtain ⟨w, listed, moved⟩ := forall₂_exists_left forward listed₁
        have same : w₁ = { w with Status := w₁.Status } := moved.1
        refine ⟨w, listed, by rw [← named, same], State.rank_le_one.mp ?_, call',
          List.mem_cons_of_mem _ made, by rwa [same, WorkerCall.touches_status] at touches⟩
        exact moved.rank_le.trans (State.rank_le_one.mpr unfinished)

end Katib
