import Katib.Suggestion.Run

/-!
# A call touches only its own study

`GetSuggestions` reads and writes only what its request names. Every request it sends is about
the request's study (`GetStudy`, `GetTrials`, `GetWorkers`, `GetMetrics`, and the trials it
creates) or about its suggestion parameters (`GetSuggestionParameters`, and the save, which names
both), and the only stored list it may change is the request's own. So over every run of calls
for one request, the Manager is asked nothing about another study, and every other stored list
stays as it was.
-/

set_option autoImplicit false

namespace Katib

/-- The request is about the study `studyId` and the suggestion parameters `paramId` alone. -/
def Request.About (studyId paramId : String) : Request → Prop
  | .getSuggestionParameters id => id = paramId
  | .setSuggestionParameters request => request.StudyId = studyId ∧ request.ParamId = paramId
  | .getStudy id => id = studyId
  | .createTrial t => t.StudyId = studyId
  | .getTrials id => id = studyId
  | .getWorkers id _ => id = studyId
  | .getMetrics id _ _ => id = studyId

variable {σ : Type}

namespace World

/-- Since `w₀`, no stored list but the one of `paramId` changed, and every request sent is about
`studyId` and `paramId`. -/
def Confined (studyId paramId : String) (w₀ w : World σ) : Prop :=
  (∀ id, id ≠ paramId → w.params id = w₀.params id) ∧
    ∃ sent, w.requests = w₀.requests ++ sent ∧ ∀ q ∈ sent, q.1.About studyId paramId

variable {studyId paramId : String}

theorem Confined.refl (w₀ : World σ) : Confined studyId paramId w₀ w₀ :=
  ⟨fun _ _ => rfl, [], by simp, by simp⟩

theorem Confined.trans {w₀ w w' : World σ} (first : Confined studyId paramId w₀ w)
    (second : Confined studyId paramId w w') : Confined studyId paramId w₀ w' := by
  obtain ⟨kept, sent, log, about⟩ := first
  obtain ⟨kept', sent', log', about'⟩ := second
  refine ⟨fun id other => (kept' id other).trans (kept id other), sent ++ sent',
    by rw [log', log, List.append_assoc], fun q member => ?_⟩
  rcases List.mem_append.mp member with old | new
  · exact about q old
  · exact about' q new

theorem Extends.confined {w₀ w : World σ} (grown : Extends (Request.About studyId paramId) w₀ w) :
    Confined studyId paramId w₀ w := by
  obtain ⟨same, sent, log, about⟩ := grown
  exact ⟨fun _ _ => by rw [same], sent, log, about⟩

theorem keeps_confined {β : Type} {x : Go (World σ) β}
    (step : ∀ w, Go.Keeps (Extends (Request.About studyId paramId) w) x) (w₀ : World σ) :
    Go.Keeps (Confined studyId paramId w₀) x :=
  fun w confined => confined.trans (step w w (Extends.refl _ w)).confined

end World

section Call

variable (h : HyperBandSuggestService σ) (c : ManagerClient σ) (req : GetSuggestionsRequest)

theorem loadParameters_about (w₀ : World σ) :
    Go.Keeps (World.Extends (Request.About req.StudyId req.ParamId) w₀) (loadParameters c req) := by
  refine Go.Keeps.bind (orFatal_keeps _ (dial_extends _ c w₀)) fun _ => ?_
  refine Go.Keeps.bind (orFatal_keeps _ (Go.Keeps.bind (World.rpc_extends w₀ _ _ rfl)
    fun _ _ grown => grown)) fun sparam => ?_
  exact World.keeps_extends (purseSuggestionParameters_extends c req.StudyId sparam)
    (fun q asked => by rw [asked]; rfl) w₀

theorem roundBracket_about (hbparam : HyperBandParameters) (w₀ : World σ) :
    Go.Keeps (World.Extends (Request.About req.StudyId req.ParamId) w₀)
      (roundBracket h c req.StudyId hbparam) := by
  refine makeBracket_keeps h c req.StudyId _ _ _ ?_ ?_ ?_ ?_ ?_ ?_ w₀
  all_goals intros; rfl

theorem saveSuggestionParameters_confined (hbparam : HyperBandParameters) (w₀ : World σ) :
    Go.Keeps (World.Confined req.StudyId req.ParamId w₀)
      (saveSuggestionParameters c req.StudyId req.SuggestionAlgorithm req.ParamId hbparam) := by
  refine Go.Keeps.bind (World.keeps_confined (fun w => World.rpc_extends w _ _ ?_) w₀)
    fun _ w confined => ?_
  · exact ⟨rfl, rfl⟩
  obtain ⟨kept, sent, log, about⟩ := confined
  exact ⟨fun id other => (Function.update_noteq other _ _).trans (kept id other), sent, log, about⟩

theorem suggestRound_confined (p : HyperBandParameters) (w₀ : World σ) :
    Go.Keeps (World.Confined req.StudyId req.ParamId w₀) (suggestRound h c req p) :=
  Go.Keeps.ite (Go.Keeps.pure _)
    (Go.Keeps.bind (World.keeps_confined (roundBracket_about h c req p) w₀) fun
      | none => Go.Keeps.throw _
      | some _ => Go.Keeps.bind (Go.Keeps.attempt (saveSuggestionParameters_confined c req _ w₀))
          fun _ => Go.Keeps.pure _)

theorem getSuggestions_confined (w₀ : World σ) :
    Go.Keeps (World.Confined req.StudyId req.ParamId w₀) (getSuggestions h c req) :=
  Go.Keeps.bind (World.keeps_confined (loadParameters_about c req) w₀) fun p =>
    suggestRound_confined h c req p w₀

/-- Over every run of `GetSuggestions` calls for one request, the service asks the Manager only
about the request's study and suggestion parameters: `GetStudy`, `GetTrials`, `GetWorkers`,
`GetMetrics` and the trials it creates are of its `StudyId`, and `GetSuggestionParameters` and
`SetSuggestionParameters` of its `ParamId`, the save for its `StudyId` too. No stored list but the
request's own ever changes. -/
theorem afterCalls_confined (k : Nat) (w : World σ) :
    (∀ id, id ≠ req.ParamId → (afterCalls h c req k w).params id = w.params id) ∧
      ∀ q ∈ World.sentSince w (afterCalls h c req k w), q.1.About req.StudyId req.ParamId := by
  have confined : World.Confined req.StudyId req.ParamId w (afterCalls h c req k w) := by
    induction k generalizing w with
    | zero => exact .refl w
    | succ k ih => exact (getSuggestions_confined h c req w w (.refl w)).trans (ih _)
  obtain ⟨kept, sent, log, about⟩ := confined
  exact ⟨kept, by rwa [World.sentSince_of_append log]⟩

/-! ### The order of a call's requests -/

theorem purseSuggestionParameters_confined (sparam : List SuggestionParameter) (w₀ : World σ) :
    Go.Keeps (World.Confined req.StudyId req.ParamId w₀)
      (purseSuggestionParameters c req.StudyId sparam) :=
  World.keeps_confined (fun w => World.keeps_extends
    (purseSuggestionParameters_extends c req.StudyId sparam) (fun q asked => by rw [asked]; rfl) w) w₀

/-- A call's first request, if it sends any, is the `GetSuggestionParameters` of its stored list:
the connection makes none, and a failed read ends the call. -/
theorem getSuggestions_reads_first (w : World σ) :
    sentBy h c req w = [] ∨
      ∃ b rest, sentBy h c req w = (.getSuggestionParameters req.ParamId, b) :: rest := by
  unfold sentBy
  rcases dialed : c.dial w.manager with ⟨_ | ⟨⟩, m₁⟩
  · left
    simp [getSuggestions, loadParameters, orFatal, dial, dialed, Go.bind_apply, World.sentSince]
  rcases read : c.getSuggestionParameters m₁ req.ParamId with ⟨_ | ⟨⟩, m₂⟩
  · refine .inr ⟨false, [], World.sentSince_of_append ?_⟩
    simp [getSuggestions, loadParameters, orFatal, dial, dialed, Go.bind_apply,
      getSuggestionParameters, World.rpc, read]
  · have dialOk : dial c w = (.ok (), { w with manager := m₁ }) := by simp only [dial, dialed]
    have readOk : getSuggestionParameters c req.ParamId { w with manager := m₁ } =
        (.ok (w.params req.ParamId), { w with
          manager := m₂
          requests := w.requests ++ [(.getSuggestionParameters req.ParamId, true)] }) :=
      (Go.bind_ok (World.rpc_ok read)).trans rfl
    have load : loadParameters c req w = purseSuggestionParameters c req.StudyId
        (w.params req.ParamId) { w with
          manager := m₂
          requests := w.requests ++ [(.getSuggestionParameters req.ParamId, true)] } := by
      rw [loadParameters, Go.bind_ok (orFatal_ok.mpr dialOk), Go.bind_ok (orFatal_ok.mpr readOk)]
    have call : getSuggestions h c req w = (purseSuggestionParameters c req.StudyId
        (w.params req.ParamId) >>= suggestRound h c req) { w with
          manager := m₂
          requests := w.requests ++ [(.getSuggestionParameters req.ParamId, true)] } := by
      rw [getSuggestions, Go.bind_apply, load, ← Go.bind_apply]
    obtain ⟨-, sent, log, -⟩ := Go.Keeps.bind
      (purseSuggestionParameters_confined c req (w.params req.ParamId) _)
      (fun p => suggestRound_confined h c req p _) _ (World.Confined.refl _)
    rw [← call, List.append_assoc, List.singleton_append] at log
    exact .inr ⟨true, sent, World.sentSince_of_append log⟩

/-- A call sends at most one `SetSuggestionParameters`, of its own stored list, and only as its
last request. -/
theorem getSuggestions_saves_last (w : World σ) :
    ∃ pre, (∀ q ∈ pre, q.1.isSet = false) ∧
      (sentBy h c req w = pre ∨ ∃ sparam b, sentBy h c req w = pre ++
        [(.setSuggestionParameters ⟨req.StudyId, req.SuggestionAlgorithm, req.ParamId, sparam⟩, b)]) := by
  have unsaved : ∀ {allowed : Request → Prop}, (∀ q, allowed q → q.isSet = false) →
      World.Extends allowed w (getSuggestions h c req w).2 →
      ∃ pre, (∀ q ∈ pre, q.1.isSet = false) ∧ sentBy h c req w = pre := by
    rintro allowed noSet ⟨-, sent, log, ok⟩
    exact ⟨sent, fun q member => noSet _ (ok q member), World.sentSince_of_append log⟩
  rcases getSuggestions_cases h c req w with ⟨stop, loaded, -⟩ |
    ⟨p, w₁, loaded, ⟨-, call⟩ | ⟨pos, ⟨stop, built, -⟩ | ⟨built, -⟩ | ⟨made, wb, built, -, saved⟩⟩⟩
  · obtain ⟨pre, noSet, sent⟩ := @unsaved Request.ReadOnly (fun _ readOnly => readOnly.1) (loadParameters_reads loaded)
    exact ⟨pre, noSet, .inl sent⟩
  · obtain ⟨pre, noSet, sent⟩ := @unsaved Request.ReadOnly (fun _ readOnly => readOnly.1)
      (by rw [call]; exact loadParameters_reads loaded)
    exact ⟨pre, noSet, .inl sent⟩
  · obtain ⟨pre, noSet, sent⟩ := @unsaved (RoundRequest c req w) (fun _ round => round.1)
      (roundRequests_of_bracket loaded pos built)
    exact ⟨pre, noSet, .inl sent⟩
  · obtain ⟨pre, noSet, sent⟩ := @unsaved (RoundRequest c req w) (fun _ round => round.1)
      (roundRequests_of_bracket loaded pos built)
    exact ⟨pre, noSet, .inl sent⟩
  · obtain ⟨-, sent, log, ok⟩ := roundRequests_of_bracket loaded pos built
    obtain ⟨m, ⟨err, attempted⟩ | attempted⟩ :=
      attempt_saveSuggestionParameters c req.StudyId req.SuggestionAlgorithm req.ParamId
        (commitRound (startRound p) made.1) wb
    all_goals
      rw [attempted] at saved
      have grown := congrArg World.requests saved
      dsimp only at grown
      rw [log, List.append_assoc] at grown
      exact ⟨sent, fun q member => (ok q member).1, .inr ⟨_, _, World.sentSince_of_append grown.symm⟩⟩

/-- Each call reads before it writes: its first request, if it sends any, reads its stored list,
and it writes that list at most once, with its last request. The state a call persists is the
one it computed after every other request, as the source's one `SetSuggestionParameters` at
the end of `GetSuggestions` has it. -/
theorem getSuggestions_reads_first_saves_last (w : World σ) :
    (sentBy h c req w = [] ∨
      ∃ b rest, sentBy h c req w = (.getSuggestionParameters req.ParamId, b) :: rest) ∧
    ∃ pre, (∀ q ∈ pre, q.1.isSet = false) ∧
      (sentBy h c req w = pre ∨ ∃ sparam b, sentBy h c req w = pre ++
        [(.setSuggestionParameters ⟨req.StudyId, req.SuggestionAlgorithm, req.ParamId, sparam⟩, b)]) :=
  ⟨getSuggestions_reads_first h c req w, getSuggestions_saves_last h c req w⟩

end Call

end Katib
