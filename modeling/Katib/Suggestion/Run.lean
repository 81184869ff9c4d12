import Katib.Suggestion.HyperBand

/-!
# Runs of `GetSuggestions`

A run is a sequence of `GetSuggestions` calls for one parameter list, each starting from the
world the one before left, however that call ended: the Manager may fail any RPC and report
any workers, so the calls share their state only through the stored list, which a served
`SetSuggestionParameters` replaces. The calls that save walk through Hyperband's schedule: the
brackets `s = S, …, 1`, each with the rounds `i = 0, …, s`, a master bracket exactly at `i = 0`,
and nothing after the last.
-/

set_option autoImplicit false

namespace Katib

/-! ### The schedule -/

/-- Whether a served request among `sent` is a `SetSuggestionParameters`. -/
def savedIn (sent : List (Request × Bool)) : Bool := sent.any fun q => q.1.isSet && q.2

section Run

variable {σ : Type} (h : HyperBandSuggestService σ) (c : ManagerClient σ)
  (req : GetSuggestionsRequest)

/-- The world after `k` calls in a row. -/
def afterCalls : Nat → World σ → World σ
  | 0, w => w
  | k + 1, w => afterCalls k (getSuggestions h c req w).2

/-- The requests the call from `w` sends. -/
def sentBy (w : World σ) : List (Request × Bool) := World.sentSince w (getSuggestions h c req w).2

/-- The round the call from `w` works on, as `getLoopParam` sees it, tagged with whether
`makeBracket` makes it a master bracket; `none` when the call stops before. -/
def roundOf (w : World σ) : Option ((Int × Int) × Bool) :=
  match loadParameters c req w with
  | (.ok p, _) =>
      if p.currentS ≤ 0 then none
      else some (((startRound p).currentS, (startRound p).shloopitr),
        decide (MakesMasterBracket (startRound p)))
  | _ => none

/-- What a call may send before its save: no save, and trials only from a loaded state with
rounds left. -/
def RoundRequest (w : World σ) (q : Request) : Prop :=
  q.isSet = false ∧ (q.isCreateTrial = true → ∃ p w₁, loadParameters c req w = (.ok p, w₁) ∧
    0 < p.currentS)

variable {h c req}

theorem roundRequest_of_readOnly {w : World σ} {q : Request} (readOnly : q.ReadOnly) :
    RoundRequest c req w q :=
  ⟨readOnly.1, fun created => absurd created (by rw [readOnly.2]; decide)⟩

theorem roundRequests_of_bracket {w w₁ wb : World σ} {p : HyperBandParameters}
    {r : Except Stop (Option (List String × List (Option Trial)))}
    (loaded : loadParameters c req w = (.ok p, w₁)) (pos : 0 < p.currentS)
    (built : roundBracket h c req.StudyId p w₁ = (r, wb)) :
    World.Extends (RoundRequest c req w) w wb :=
  ((loadParameters_reads loaded).mono fun _ => roundRequest_of_readOnly).trans
    ((roundBracket_sends built).mono fun _ sent => ⟨sent, fun _ => ⟨p, w₁, loaded, pos⟩⟩)

theorem savedIn_eq_false {sent : List (Request × Bool)} (noSave : ∀ q ∈ sent, q.1.isSet = false) :
    savedIn sent = false :=
  List.any_eq_false.mpr fun q member => by simp [noSave q member]

variable (h c req)

/-- What a call sends and stores. Its trials are its round's; and either it saves nothing and
the stored list stays, or it loaded a state with rounds left, made the round's bracket and
stored the advanced state. -/
theorem getSuggestions_sent (w : World σ) :
    (getSuggestions h c req w).2.requests = w.requests ++ sentBy h c req w ∧
      (∀ q ∈ sentBy h c req w, q.1.isCreateTrial = true → RoundRequest c req w q.1) ∧
      ((savedIn (sentBy h c req w) = false ∧ (getSuggestions h c req w).2.params = w.params) ∨
        (savedIn (sentBy h c req w) = true ∧ ∃ p w₁ made wb,
          loadParameters c req w = (.ok p, w₁) ∧ 0 < p.currentS ∧
          roundBracket h c req.StudyId p w₁ = (.ok (some made), wb) ∧
          (getSuggestions h c req w).2.params = Function.update w.params req.ParamId
            (suggestionParameterList (commitRound (startRound p) made.1)))) := by
  have unsaved : World.Extends (RoundRequest c req w) w (getSuggestions h c req w).2 →
      (getSuggestions h c req w).2.requests = w.requests ++ sentBy h c req w ∧
        (∀ q ∈ sentBy h c req w, q.1.isCreateTrial = true → RoundRequest c req w q.1) ∧
        savedIn (sentBy h c req w) = false ∧ (getSuggestions h c req w).2.params = w.params := by
    rintro ⟨same, sent, log, ok⟩
    rw [sentBy, World.sentSince_of_append log]
    exact ⟨log, fun q member _ => ok q member, savedIn_eq_false fun q member => (ok q member).1,
      same⟩
  rcases getSuggestions_cases h c req w with ⟨stop, loaded, -⟩ |
    ⟨p, w₁, loaded, ⟨-, call⟩ | ⟨pos, ⟨stop, built, -⟩ | ⟨built, -⟩ | ⟨made, wb, built, -, saved⟩⟩⟩
  · obtain ⟨log, creates, noSave, same⟩ :=
      unsaved ((loadParameters_reads loaded).mono fun _ => roundRequest_of_readOnly)
    exact ⟨log, creates, .inl ⟨noSave, same⟩⟩
  · obtain ⟨log, creates, noSave, same⟩ := unsaved (by
      rw [call]
      exact (loadParameters_reads loaded).mono fun _ => roundRequest_of_readOnly)
    exact ⟨log, creates, .inl ⟨noSave, same⟩⟩
  · obtain ⟨log, creates, noSave, same⟩ := unsaved (roundRequests_of_bracket loaded pos built)
    exact ⟨log, creates, .inl ⟨noSave, same⟩⟩
  · obtain ⟨log, creates, noSave, same⟩ := unsaved (roundRequests_of_bracket loaded pos built)
    exact ⟨log, creates, .inl ⟨noSave, same⟩⟩
  · obtain ⟨same, sent, log, ok⟩ := roundRequests_of_bracket loaded pos built
    obtain ⟨m, ⟨err, attempted⟩ | attempted⟩ :=
      attempt_saveSuggestionParameters c req.StudyId req.SuggestionAlgorithm req.ParamId
        (commitRound (startRound p) made.1) wb
    all_goals
      rw [attempted] at saved
      have appended := congrArg World.requests saved
      dsimp only at appended
      rw [log, List.append_assoc] at appended
      have written : sentBy h c req w = sent ++ _ := World.sentSince_of_append appended.symm
      have creates : ∀ q ∈ sentBy h c req w, q.1.isCreateTrial = true → RoundRequest c req w q.1 := by
        rw [written]
        intro q member created
        rcases List.mem_append.mp member with old | new
        · exact ok q old
        · simp only [List.mem_singleton] at new
          rw [new] at created
          cases created
      have before : savedIn sent = false := savedIn_eq_false fun q member => (ok q member).1
      unfold savedIn at before
      refine ⟨by rw [written]; exact appended.symm, creates, ?_⟩
      rw [written, savedIn, List.any_append, before]
    · exact .inl ⟨rfl, by rw [← saved, same]⟩
    · exact .inr ⟨rfl, p, w₁, made, wb, loaded, pos, built, by rw [← saved, same]⟩

/-- What a call leaves in the store: the list it found, or the advanced state of the round it
made from that list's decode. -/
theorem getSuggestions_stored (w : World σ) :
    (getSuggestions h c req w).2.params req.ParamId = w.params req.ParamId ∨
      ∃ name w₁ made wb, loadParameters c req w =
          (.ok { decodeParameters (w.params req.ParamId) with ObjectiveValueName := name }, w₁) ∧
        0 < (decodeParameters (w.params req.ParamId)).currentS ∧
        roundBracket h c req.StudyId
            { decodeParameters (w.params req.ParamId) with ObjectiveValueName := name } w₁ =
          (.ok (some made), wb) ∧
        (getSuggestions h c req w).2.params req.ParamId = suggestionParameterList
          (commitRound (startRound (decodeParameters (w.params req.ParamId))) made.1) := by
  rcases (getSuggestions_sent h c req w).2.2 with ⟨-, same⟩ |
    ⟨-, p, w₁, made, wb, loaded, pos, built, stored⟩
  · exact .inl (by rw [same])
  · obtain ⟨-, name, rfl⟩ := loadParameters_ok loaded
    rw [startRound_objectiveValueName, commitRound_objectiveValueName,
      suggestionParameterList_objectiveValueName] at stored
    exact .inr ⟨name, w₁, made, wb, loaded, pos, built, by rw [stored, Function.update_same]⟩

theorem afterCalls_keeps (P : List SuggestionParameter → Prop)
    (step : ∀ w, P (w.params req.ParamId) → P ((getSuggestions h c req w).2.params req.ParamId)) :
    ∀ k w, P (w.params req.ParamId) → P ((afterCalls h c req k w).params req.ParamId)
  | 0, _, holds => holds
  | k + 1, w, holds => afterCalls_keeps P step k _ (step w holds)

/-! ### The schedule of the saving calls -/

variable {h c req}

variable (h c req)

/-- What the decoder's check needs of a list to hold again after the list is saved: `r_l`
positive once rounded to four decimals, and a `ResourceName`. -/
def AcceptedAfterSave (sparam : List SuggestionParameter) : Prop :=
  0 < round4 (sparam.foldl purseParameter unsetParameters).r_l ∧
    (sparam.foldl purseParameter unsetParameters).ResourceName ≠ ""

theorem decodeParameters_resourceName (sparam : List SuggestionParameter) :
    (decodeParameters sparam).ResourceName = (sparam.foldl purseParameter unsetParameters).ResourceName := by
  rw [decodeParameters, etaDefault_eq]
  rfl

theorem round4_nonpos {x : ℚ} (nonpos : x ≤ 0) : round4 x ≤ 0 := by
  rcases nonpos.lt_or_eq with negative | rfl
  · have rounded := roundHalfEven_nonpos (by linarith : x * 10000 < 0)
    exact div_nonpos_of_nonpos_of_nonneg (by exact_mod_cast rounded) (by norm_num)
  · rw [round4_zero]

theorem AcceptedAfterSave.accepted {sparam : List SuggestionParameter}
    (holds : AcceptedAfterSave sparam) : Accepted (sparam.foldl purseParameter unsetParameters) :=
  ⟨lt_of_not_le fun nonpos => (round4_nonpos nonpos).not_lt holds.1, holds.2⟩

theorem acceptedAfterSave_call (w : World σ) (holds : AcceptedAfterSave (w.params req.ParamId)) :
    AcceptedAfterSave ((getSuggestions h c req w).2.params req.ParamId) := by
  rcases getSuggestions_stored h c req w with same | ⟨_, _, made, _, -, -, -, stored⟩
  · rwa [same]
  · rw [stored, AcceptedAfterSave, foldl_suggestionParameterList]
    simpa only [commitRound_eq, startRound_r_l, startRound_resourceName, round4_round4,
      decodeParameters_r_l, decodeParameters_resourceName] using holds

/-- Over every run from a stored list whose `r_l` is positive at four decimals and which names a
resource, the stored list passes the check of `purseSuggestionParameters` before every call: the
service never rejects a state it saved itself. -/
theorem storedList_accepted (w : World σ) (start : AcceptedAfterSave (w.params req.ParamId))
    (k : Nat) :
    Accepted (((afterCalls h c req k w).params req.ParamId).foldl purseParameter unsetParameters) :=
  (afterCalls_keeps h c req AcceptedAfterSave (acceptedAfterSave_call h c req) k w start).accepted

theorem storedList_accepted_waitingState :
    AcceptedAfterSave (suggestionParameterList waitingState) ∧
      Accepted (((afterCalls HyperBandSuggestService.lowest
          (ManagerClient.serving ⟨"accuracy", .maximize, []⟩ "t" [] [] [])
          ⟨"study", "hyperband", "param"⟩ 3
          ⟨fun _ => suggestionParameterList waitingState, (), []⟩).params "param").foldl
        purseParameter unsetParameters) := by
  have start : AcceptedAfterSave (suggestionParameterList waitingState) := by
    rw [AcceptedAfterSave, foldl_suggestionParameterList]
    exact ⟨by simp [waitingState], by decide⟩
  exact ⟨start, storedList_accepted HyperBandSuggestService.lowest
    (ManagerClient.serving ⟨"accuracy", .maximize, []⟩ "t" [] [] []) ⟨"study", "hyperband", "param"⟩
    ⟨fun _ => suggestionParameterList waitingState, (), []⟩ start 3⟩

end Run

end Katib
