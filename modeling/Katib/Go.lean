import Mathlib.Logic.Basic

/-!
# The Go runtime of the two source files

A Go function returns its results together with an `error`. Besides returning, a call can
end the process through `log.Fatalf`, or panic on a runtime fault (an index out of range,
`make` with a negative length). `Go S α` runs on the state `S` that the call reads and
changes (the Manager, the cluster, the database), and `Stop` is every way it can end
without a result. The state after a stop is kept: what a call did before it stopped has
happened.
-/

set_option autoImplicit false

namespace Katib

/-- The status codes of `google.golang.org/grpc/codes`, `OK` apart. -/
inductive Code where
  | canceled | unknown | invalidArgument | deadlineExceeded | notFound | alreadyExists
  | permissionDenied | resourceExhausted | failedPrecondition | aborted | outOfRange
  | unimplemented | internal | unavailable | dataLoss | unauthenticated
  deriving DecidableEq, Repr

/-- A non-nil Go `error`: a gRPC status (from `status.Errorf` or a failed RPC), or a plain
error from `fmt.Errorf` or `errors.New`. -/
inductive GoError where
  | status (code : Code) (message : String)
  | plain (message : String)
  deriving DecidableEq, Repr

/-- How a call ends when it does not return normally. -/
inductive Stop where
  | error (err : GoError)
  | fatal (message : String)
  | panic (message : String)
  deriving DecidableEq, Repr

/-- A Go call on the state `S`, returning an `α`. -/
def Go (S α : Type) : Type := S → Except Stop α × S

namespace Go

variable {S α β : Type}

protected def pure (a : α) : Go S α := fun s => (.ok a, s)

protected def bind (x : Go S α) (f : α → Go S β) : Go S β := fun s =>
  match x s with
  | (.ok a, s') => f a s'
  | (.error stop, s') => (.error stop, s')

instance : Monad (Go S) where
  pure := Go.pure
  bind := Go.bind

/-- `return ..., err` with a non-nil `err`. -/
def throw (err : GoError) : Go S α := fun s => (.error (.error err), s)

/-- `log.Fatalf`: the process exits. -/
def fatal (message : String) : Go S α := fun s => (.error (.fatal message), s)

/-- A runtime panic. -/
def panic (message : String) : Go S α := fun s => (.error (.panic message), s)

/-- `err = f()` where the caller goes on: a returned error becomes a value, while an exit
or a panic still ends the caller. -/
def attempt (x : Go S α) : Go S (Except GoError α) := fun s =>
  match x s with
  | (.ok a, s') => (.ok (.ok a), s')
  | (.error (.error err), s') => (.ok (.error err), s')
  | (.error stop, s') => (.error stop, s')

/-- `f()` as a statement: its results, the error among them, are dropped. -/
def discard (x : Go S α) : Go S Unit := attempt x >>= fun _ => pure ()

@[simp] theorem pure_apply (a : α) (s : S) : (pure a : Go S α) s = (.ok a, s) := rfl

@[simp] theorem throw_apply (err : GoError) (s : S) :
    (throw err : Go S α) s = (.error (.error err), s) := rfl

@[simp] theorem fatal_apply (message : String) (s : S) :
    (fatal message : Go S α) s = (.error (.fatal message), s) := rfl

@[simp] theorem panic_apply (message : String) (s : S) :
    (panic message : Go S α) s = (.error (.panic message), s) := rfl

theorem bind_apply (x : Go S α) (f : α → Go S β) (s : S) :
    (x >>= f) s = match x s with
      | (.ok a, s') => f a s'
      | (.error stop, s') => (.error stop, s') := rfl

theorem bind_ok {x : Go S α} {f : α → Go S β} {s s' : S} {a : α}
    (run : x s = (.ok a, s')) : (x >>= f) s = f a s' := by
  rw [bind_apply, run]

theorem bind_stop {x : Go S α} {f : α → Go S β} {s s' : S} {stop : Stop}
    (run : x s = (.error stop, s')) : (x >>= f) s = (.error stop, s') := by
  rw [bind_apply, run]

theorem bind_pure_state (x : Go S α) (f : α → β) (s : S) :
    ((x >>= fun a => pure (f a)) s).2 = (x s).2 := by
  rw [bind_apply]
  rcases x s with ⟨_ | a, s'⟩ <;> rfl

theorem bind_eq_ok {x : Go S α} {f : α → Go S β} {s s'' : S} {b : β} :
    (x >>= f) s = (.ok b, s'') ↔ ∃ a s', x s = (.ok a, s') ∧ f a s' = (.ok b, s'') := by
  rw [bind_apply]
  rcases x s with ⟨_ | a, s'⟩ <;> simp [and_assoc]

theorem bind_eq_stop {x : Go S α} {f : α → Go S β} {s s'' : S} {stop : Stop} :
    (x >>= f) s = (.error stop, s'') ↔
      x s = (.error stop, s'') ∨ ∃ a s', x s = (.ok a, s') ∧ f a s' = (.error stop, s'') := by
  rw [bind_apply]
  rcases x s with ⟨_ | a, s'⟩ <;> simp [and_assoc]

theorem attempt_ok {x : Go S α} {s s' : S} {a : α} (run : x s = (.ok a, s')) :
    attempt x s = (.ok (.ok a), s') := by
  simp only [attempt, run]

theorem attempt_error {x : Go S α} {s s' : S} {err : GoError}
    (run : x s = (.error (.error err), s')) : attempt x s = (.ok (.error err), s') := by
  simp only [attempt, run]

theorem discard_ok {x : Go S α} {s s' : S} {a : α} (run : x s = (.ok a, s')) :
    discard x s = (.ok (), s') := by
  simp only [discard, bind_apply, attempt, run]
  rfl

theorem discard_error {x : Go S α} {s s' : S} {err : GoError} (run : x s = (.error (.error err), s')) :
    discard x s = (.ok (), s') := by
  simp only [discard, bind_apply, attempt, run]
  rfl

/-! ### Invariants of the final state -/

/-- From a state where `I` holds, `x` ends (however it ends) in a state where `I` holds. -/
def Keeps (I : S → Prop) (x : Go S α) : Prop := ∀ s, I s → I (x s).2

namespace Keeps

variable {I : S → Prop}

theorem pure (a : α) : Keeps I (Pure.pure a : Go S α) := fun _ hold => hold

theorem throw (err : GoError) : Keeps I (Go.throw err : Go S α) := fun _ hold => hold

theorem fatal (message : String) : Keeps I (Go.fatal message : Go S α) := fun _ hold => hold

theorem panic (message : String) : Keeps I (Go.panic message : Go S α) := fun _ hold => hold

theorem bind {x : Go S α} {f : α → Go S β} (first : Keeps I x) (rest : ∀ a, Keeps I (f a)) :
    Keeps I (x >>= f) := by
  intro s hold
  rw [bind_apply]
  rcases hx : x s with ⟨_ | a, s'⟩
  · simpa [hx] using first s hold
  · exact rest a s' (by simpa [hx] using first s hold)

theorem bind_of_ok {x : Go S α} {f : α → Go S β} (first : Keeps I x)
    (rest : ∀ s a s', x s = (.ok a, s') → I s' → I (f a s').2) : Keeps I (x >>= f) := by
  intro s hold
  rw [bind_apply]
  rcases hx : x s with ⟨_ | a, s'⟩
  · simpa [hx] using first s hold
  · exact rest s a s' hx (by simpa [hx] using first s hold)

theorem attempt {x : Go S α} (kept : Keeps I x) : Keeps I (Go.attempt x) := by
  intro s hold
  have after := kept s hold
  unfold Go.attempt
  rcases hx : x s with ⟨(err | message | message) | a, s'⟩ <;> simpa [hx] using after

theorem and {J : S → Prop} {x : Go S α} (left : Keeps I x) (right : Keeps J x) :
    Keeps (fun s => I s ∧ J s) x := fun s hold => ⟨left s hold.1, right s hold.2⟩

theorem ite {p : Prop} [Decidable p] {x y : Go S α} (left : Keeps I x) (right : Keeps I y) :
    Keeps I (if p then x else y) := by
  split
  · exact left
  · exact right

theorem discard {x : Go S α} (kept : Keeps I x) : Keeps I (Go.discard x) :=
  bind (attempt kept) fun _ => Keeps.pure _

theorem forM {f : α → Go S PUnit} {as : List α} (body : ∀ a ∈ as, Keeps I (f a)) :
    Keeps I (as.forM f) := by
  induction as with
  | nil => exact Keeps.pure _
  | cons a as ih =>
      rw [List.forM_cons']
      exact bind (body a (List.mem_cons_self a as)) fun _ =>
        ih fun b member => body b (List.mem_cons_of_mem a member)

end Keeps

/-- A `for _, a := range as` loop whose body may return early, with an invariant of the elements
left to visit: the loop ends in a state where it holds of some of them. -/
theorem forM_remaining {f : α → Go S PUnit} {R : List α → S → Prop}
    (body : ∀ a as s, R (a :: as) s → R as (f a s).2) :
    ∀ (as : List α) (s : S), R as s → ∃ rest, R rest (as.forM f s).2
  | [], _, hold => ⟨[], hold⟩
  | a :: as, s, hold => by
    have next := body a as s hold
    rw [List.forM_cons']
    rcases step : f a s with ⟨_ | _, s'⟩
    · rw [step] at next
      exact ⟨as, by rwa [bind_stop step]⟩
    · rw [step] at next
      rw [bind_ok step]
      exact forM_remaining body as s' next

/-- A loop that returns has run its body to the end for every element: an invariant of the
elements left to visit that each returning run of the body keeps holds of none left. -/
theorem forM_ok_remaining {f : α → Go S PUnit} {R : List α → S → Prop}
    (body : ∀ a as s s', R (a :: as) s → f a s = (.ok ⟨⟩, s') → R as s') :
    ∀ (as : List α) (s s' : S), R as s → as.forM f s = (.ok ⟨⟩, s') → R [] s'
  | [], s, s', hold, returned =>
    have same : s = s' := congrArg Prod.snd returned
    same ▸ hold
  | a :: as, s, s', hold, returned => by
    rw [List.forM_cons'] at returned
    obtain ⟨⟨⟩, s₁, first, rest⟩ := bind_eq_ok.mp returned
    exact forM_ok_remaining body as s₁ s' (body a as s s₁ hold first) rest

/-- A loop stops once it reaches an element whose body stops from every state: with a stop that
body returns, or with one the body returned for another element before it. -/
theorem forM_stop_of_mem {f : α → Go S PUnit} {a : α} {Stopped : Stop → Prop}
    (stops : ∀ s, ∃ stop s', f a s = (.error stop, s') ∧ Stopped stop) :
    ∀ (as : List α), a ∈ as → ∀ s, ∃ stop s', as.forM f s = (.error stop, s') ∧
      (Stopped stop ∨ ∃ b ∈ as, b ≠ a ∧ ∃ s₁ s₂, f b s₁ = (.error stop, s₂))
  | [], absent, _ => absurd absent (List.not_mem_nil a)
  | b :: as, member, s => by
    rw [List.forM_cons']
    by_cases same : b = a
    · subst same
      obtain ⟨stop, s', stopped, holds⟩ := stops s
      exact ⟨stop, s', bind_stop stopped, .inl holds⟩
    rcases step : f b s with ⟨stop | ⟨⟩, s₁⟩
    · exact ⟨stop, s₁, bind_stop step, .inr ⟨b, List.mem_cons_self b as, same, s, s₁, step⟩⟩
    rw [bind_ok step]
    obtain ⟨stop, s', stopped, whence⟩ := forM_stop_of_mem stops as
      ((List.mem_cons.mp member).resolve_left fun first => same first.symm) s₁
    exact ⟨stop, s', stopped, whence.imp_right fun ⟨c, member, other, body⟩ =>
      ⟨c, List.mem_cons_of_mem b member, other, body⟩⟩

theorem forM_ok_of_body {f : α → Go S PUnit} :
    ∀ (as : List α), (∀ a ∈ as, ∀ s, ∃ s', f a s = (.ok ⟨⟩, s')) →
      ∀ s, ∃ s', as.forM f s = (.ok ⟨⟩, s')
  | [], _, s => ⟨s, rfl⟩
  | a :: as, body, s => by
    obtain ⟨s₁, first⟩ := body a (List.mem_cons_self a as) s
    rw [List.forM_cons', bind_ok first]
    exact forM_ok_of_body as (fun b member => body b (List.mem_cons_of_mem a member)) s₁

/-! ### Calls that end by returning -/

/-- `x` returns from every state, nil or an error: it neither exits nor panics. -/
def Returns (x : Go S α) : Prop := ∀ s, ∃ r s', attempt x s = (.ok r, s')

namespace Returns

theorem pure (a : α) : Returns (Pure.pure a : Go S α) := fun s => ⟨.ok a, s, rfl⟩

theorem throw (err : GoError) : Returns (Go.throw err : Go S α) := fun s => ⟨.error err, s, rfl⟩

theorem bind {x : Go S α} {f : α → Go S β} (first : Returns x) (rest : ∀ a, Returns (f a)) :
    Returns (x >>= f) := by
  intro s
  obtain ⟨r, s₁, ran⟩ := first s
  rcases run : x s with ⟨(err | message | message) | a, s'⟩
  · exact ⟨.error err, s', attempt_error (bind_stop run)⟩
  all_goals rw [attempt, run] at ran
  · cases ran
  · cases ran
  · obtain ⟨r', s'', rest⟩ := rest a s'
    exact ⟨r', s'', by rw [attempt, bind_ok run]; exact rest⟩

theorem ite {p : Prop} [Decidable p] {x y : Go S α} (left : Returns x) (right : Returns y) :
    Returns (if p then x else y) := by
  split
  · exact left
  · exact right

theorem attempt {x : Go S α} (returns : Returns x) : Returns (Go.attempt x) := fun s => by
  obtain ⟨r, s', ran⟩ := returns s
  exact ⟨.ok r, s', attempt_ok ran⟩

end Returns

end Go

end Katib
