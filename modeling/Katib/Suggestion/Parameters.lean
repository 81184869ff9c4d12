import Katib.Api

/-!
# The Hyperband state and its parameter codec

`HyperBandParameters` is carried between `GetSuggestions` calls as the Manager's
suggestion-parameter list: `saveSuggestionParameters` writes it, and
`purseSuggestionParameters` reads it back, filling every field left at the sentinel `-1`
with its default. Floats pass through `FormatFloat(_, 'f', 4, 64)`, so they come back rounded
to four decimals; `ObjectiveValueName` is not written, so it comes back from the study.
-/

set_option autoImplicit false

namespace Katib

/-- `HyperBandParameters`, with exact rationals for its float64 fields. -/
structure HyperBandParameters where
  eta : ℚ
  sMax : Int
  b_l : ℚ
  r_l : ℚ
  r : ℚ
  n : Int
  shloopitr : Int
  currentS : Int
  ResourceName : String
  ObjectiveValueName : String
  evaluatingTrials : List String
  deriving DecidableEq, Repr

/-- The record `purseSuggestionParameters` starts from: every number at the sentinel `-1`. -/
def unsetParameters : HyperBandParameters :=
  { eta := -1, sMax := -1, b_l := -1, r_l := -1, r := -1, n := -1, shloopitr := -1,
    currentS := -1, ResourceName := "", ObjectiveValueName := "", evaluatingTrials := [] }

/-- One case of the `switch sp.Name` of `purseSuggestionParameters`. A value that does not
parse gives 0, the value Go returns with the discarded error. -/
def purseParameter (p : HyperBandParameters) (sp : SuggestionParameter) : HyperBandParameters :=
  match sp.Name with
  | "eta" => { p with eta := (strconvParseFloat sp.Value).getD 0 }
  | "r_l" => { p with r_l := (strconvParseFloat sp.Value).getD 0 }
  | "ResourceName" => { p with ResourceName := sp.Value }
  | "ObjectiveValueName" => { p with ObjectiveValueName := sp.Value }
  | "b_l" => { p with b_l := (strconvParseFloat sp.Value).getD 0 }
  | "sMax" => { p with sMax := (strconvAtoi sp.Value).getD 0 }
  | "r" => { p with r := (strconvParseFloat sp.Value).getD 0 }
  | "n" => { p with n := (strconvAtoi sp.Value).getD 0 }
  | "shloopitr" => { p with shloopitr := (strconvAtoi sp.Value).getD 0 }
  | "currentS" => { p with currentS := (strconvAtoi sp.Value).getD 0 }
  | "evaluatingTrials" => { p with evaluatingTrials := stringsSplit sp.Value ',' }
  | _ => p

/-- The defaults `purseSuggestionParameters` derives after the `GetStudy` call, in the order
the source assigns them (each may read the ones before it). -/
def deriveDefaults (p : HyperBandParameters) : HyperBandParameters :=
  let sMax := if p.sMax = -1 then truncLogRatio p.r_l p.eta else p.sMax
  let b_l := if p.b_l = -1 then ((sMax + 1 : Int) : ℚ) * p.r_l else p.b_l
  let n := if p.n = -1 then ⌈(b_l / p.r_l) * (p.eta ^ sMax / ((sMax + 1 : Int) : ℚ))⌉ else p.n
  let currentS := if p.currentS = -1 then sMax else p.currentS
  let shloopitr := if p.shloopitr = -1 then 0 else p.shloopitr
  let r := if p.r = -1 then p.r_l * p.eta ^ (-sMax) else p.r
  { p with sMax := sMax, b_l := b_l, n := n, currentS := currentS, shloopitr := shloopitr, r := r }

theorem deriveDefaults_b_l (p : HyperBandParameters) :
    (deriveDefaults p).b_l =
      if p.b_l = -1 then (((deriveDefaults p).sMax + 1 : Int) : ℚ) * p.r_l else p.b_l := rfl

theorem deriveDefaults_n (p : HyperBandParameters) :
    (deriveDefaults p).n =
      if p.n = -1 then
        ⌈((deriveDefaults p).b_l / p.r_l) *
          (p.eta ^ (deriveDefaults p).sMax / (((deriveDefaults p).sMax + 1 : Int) : ℚ))⌉
      else p.n := rfl

/-- The default `eta` for a missing or non-positive one. -/
def etaDefault (p : HyperBandParameters) : HyperBandParameters :=
  if p.eta ≤ 0 then { p with eta := 3 } else p

theorem etaDefault_eq (p : HyperBandParameters) :
    etaDefault p = { p with eta := if p.eta ≤ 0 then 3 else p.eta } := by
  unfold etaDefault
  split <;> rfl

/-- The decoder's check: `r_l` positive and a `ResourceName`. -/
def Accepted (p : HyperBandParameters) : Prop := 0 < p.r_l ∧ p.ResourceName ≠ ""

instance (p : HyperBandParameters) : Decidable (Accepted p) :=
  inferInstanceAs (Decidable (0 < p.r_l ∧ p.ResourceName ≠ ""))

variable {σ : Type}

/-- The `if p.ObjectiveValueName == ""` block of `purseSuggestionParameters`: a missing
objective is taken from the study. -/
def fillObjectiveValueName (c : ManagerClient σ) (studyId : String) (p : HyperBandParameters) :
    Go (World σ) HyperBandParameters :=
  if p.ObjectiveValueName = "" then
    getStudy c studyId >>= fun sconf => pure { p with ObjectiveValueName := sconf.ObjectiveValueName }
  else pure p

/-- `purseSuggestionParameters`. -/
def purseSuggestionParameters (c : ManagerClient σ) (studyId : String)
    (sparam : List SuggestionParameter) : Go (World σ) HyperBandParameters :=
  let p := sparam.foldl purseParameter unsetParameters
  if Accepted p then
    fillObjectiveValueName c studyId (etaDefault p) >>= fun p => pure (deriveDefaults p)
  else Go.throw (.plain "Suggestion Parameter set Error")

/-- The list `saveSuggestionParameters` writes, in its order. -/
def suggestionParameterList (hbparam : HyperBandParameters) : List SuggestionParameter :=
  [⟨"eta", strconvFormatFloat hbparam.eta⟩, ⟨"sMax", strconvItoa hbparam.sMax⟩,
    ⟨"b_l", strconvFormatFloat hbparam.b_l⟩, ⟨"r_l", strconvFormatFloat hbparam.r_l⟩,
    ⟨"r", strconvFormatFloat hbparam.r⟩, ⟨"shloopitr", strconvItoa hbparam.shloopitr⟩,
    ⟨"n", strconvItoa hbparam.n⟩, ⟨"currentS", strconvItoa hbparam.currentS⟩,
    ⟨"ResourceName", hbparam.ResourceName⟩,
    ⟨"evaluatingTrials", stringsJoin hbparam.evaluatingTrials ','⟩]

/-- `saveSuggestionParameters`. -/
def saveSuggestionParameters (c : ManagerClient σ) (studyId algorithm paramId : String)
    (hbparam : HyperBandParameters) : Go (World σ) Unit :=
  setSuggestionParameters c
    { StudyId := studyId, SuggestionAlgorithm := algorithm, ParamId := paramId,
      SuggestionParameters := suggestionParameterList hbparam }

/-! ### The decoder's result -/

/-- Everything the decoder computes from the list alone. -/
def decodeParameters (sparam : List SuggestionParameter) : HyperBandParameters :=
  deriveDefaults (etaDefault (sparam.foldl purseParameter unsetParameters))

@[simp] theorem deriveDefaults_objectiveValueName (p : HyperBandParameters) (name : String) :
    deriveDefaults { p with ObjectiveValueName := name } =
      { deriveDefaults p with ObjectiveValueName := name } := rfl

/-- A successful decode is the list's own decode, with the objective from the list or, when
the list has none, from `GetStudy`. -/
theorem purseSuggestionParameters_ok {c : ManagerClient σ} {studyId : String}
    {sparam : List SuggestionParameter} {w w' : World σ} {p : HyperBandParameters}
    (decoded : purseSuggestionParameters c studyId sparam w = (.ok p, w')) :
    Accepted (sparam.foldl purseParameter unsetParameters) ∧
      ∃ name, p = { decodeParameters sparam with ObjectiveValueName := name } := by
  unfold purseSuggestionParameters at decoded
  split at decoded
  · refine ⟨‹_›, ?_⟩
    obtain ⟨q, w₁, named, final⟩ := Go.bind_eq_ok.mp decoded
    simp only [Go.pure_apply, Prod.mk.injEq, Except.ok.injEq] at final
    rw [← final.1]
    unfold fillObjectiveValueName at named
    split at named
    · obtain ⟨sconf, _, _, result⟩ := Go.bind_eq_ok.mp named
      simp only [Go.pure_apply, Prod.mk.injEq, Except.ok.injEq] at result
      exact ⟨sconf.ObjectiveValueName, by rw [← result.1]; rfl⟩
    · simp only [Go.pure_apply, Prod.mk.injEq, Except.ok.injEq] at named
      exact ⟨_, by rw [← named.1]; rfl⟩
  · simp at decoded

theorem purseSuggestionParameters_extends (c : ManagerClient σ) (studyId : String)
    (sparam : List SuggestionParameter) (w₀ : World σ) :
    Go.Keeps (World.Extends (· = .getStudy studyId) w₀)
      (purseSuggestionParameters c studyId sparam) := by
  unfold purseSuggestionParameters fillObjectiveValueName
  refine Go.Keeps.ite (Go.Keeps.bind ?_ fun p => Go.Keeps.pure _) (Go.Keeps.throw _)
  refine Go.Keeps.ite (Go.Keeps.bind ?_ fun _ => Go.Keeps.pure _) (Go.Keeps.pure _)
  exact World.rpc_extends w₀ _ _ rfl

/-! ### Which entries the decoder reads

Each case of the switch writes one field from the entry's value alone, so entries of different
names commute and a later entry of a name hides every earlier one; the default case writes
nothing. The decoder therefore reads only the last entry of each name it knows. -/

/-- The names the switch of `purseSuggestionParameters` has a case for. -/
def parameterNames : List String :=
  ["eta", "r_l", "ResourceName", "ObjectiveValueName", "b_l", "sMax", "r", "n", "shloopitr",
    "currentS", "evaluatingTrials"]

/-- The field each case of the switch writes. -/
inductive ParameterField where
  | eta | r_l | ResourceName | ObjectiveValueName | b_l | sMax | r | n | shloopitr | currentS
  | evaluatingTrials
  deriving DecidableEq, Repr

namespace ParameterField

/-- The name of the case that writes the field. -/
def name : ParameterField → String
  | eta => "eta"
  | r_l => "r_l"
  | ResourceName => "ResourceName"
  | ObjectiveValueName => "ObjectiveValueName"
  | b_l => "b_l"
  | sMax => "sMax"
  | r => "r"
  | n => "n"
  | shloopitr => "shloopitr"
  | currentS => "currentS"
  | evaluatingTrials => "evaluatingTrials"

/-- The write a case makes: its field, from the entry's value parsed as the case parses it. -/
def write (p : HyperBandParameters) (value : String) : ParameterField → HyperBandParameters
  | eta => { p with eta := (strconvParseFloat value).getD 0 }
  | r_l => { p with r_l := (strconvParseFloat value).getD 0 }
  | ResourceName => { p with ResourceName := value }
  | ObjectiveValueName => { p with ObjectiveValueName := value }
  | b_l => { p with b_l := (strconvParseFloat value).getD 0 }
  | sMax => { p with sMax := (strconvAtoi value).getD 0 }
  | r => { p with r := (strconvParseFloat value).getD 0 }
  | n => { p with n := (strconvAtoi value).getD 0 }
  | shloopitr => { p with shloopitr := (strconvAtoi value).getD 0 }
  | currentS => { p with currentS := (strconvAtoi value).getD 0 }
  | evaluatingTrials => { p with evaluatingTrials := stringsSplit value ',' }

theorem write_write_self (p : HyperBandParameters) (u v : String) (f : ParameterField) :
    f.write (f.write p u) v = f.write p v := by
  cases f <;> rfl

theorem write_comm (p : HyperBandParameters) (u v : String) {f g : ParameterField}
    (other : f.name ≠ g.name) : g.write (f.write p u) v = f.write (g.write p v) u := by
  cases f <;> cases g <;> first | rfl | exact absurd rfl other

end ParameterField

theorem mem_parameterNames {name : String} :
    name ∈ parameterNames ↔ ∃ f : ParameterField, f.name = name := by
  constructor
  · simp only [parameterNames, List.mem_cons, List.mem_singleton, List.not_mem_nil, or_false]
    rintro (rfl | rfl | rfl | rfl | rfl | rfl | rfl | rfl | rfl | rfl | rfl)
    exacts [⟨.eta, rfl⟩, ⟨.r_l, rfl⟩, ⟨.ResourceName, rfl⟩, ⟨.ObjectiveValueName, rfl⟩,
      ⟨.b_l, rfl⟩, ⟨.sMax, rfl⟩, ⟨.r, rfl⟩, ⟨.n, rfl⟩, ⟨.shloopitr, rfl⟩, ⟨.currentS, rfl⟩,
      ⟨.evaluatingTrials, rfl⟩]
  · rintro ⟨f, rfl⟩
    cases f <;> decide

theorem purseParameter_field (p : HyperBandParameters) (f : ParameterField) (value : String) :
    purseParameter p ⟨f.name, value⟩ = f.write p value := by
  cases f <;> rfl

theorem purseParameter_unknown (p : HyperBandParameters) {sp : SuggestionParameter}
    (unknown : sp.Name ∉ parameterNames) : purseParameter p sp = p := by
  unfold purseParameter
  split <;> first | rfl | (rename_i named; rw [named] at unknown; exact absurd (by decide) unknown)

theorem purseParameter_comm (p : HyperBandParameters) {a b : SuggestionParameter}
    (other : a.Name ≠ b.Name) :
    purseParameter (purseParameter p a) b = purseParameter (purseParameter p b) a := by
  by_cases knownA : a.Name ∈ parameterNames
  swap
  · rw [purseParameter_unknown _ knownA, purseParameter_unknown _ knownA]
  by_cases knownB : b.Name ∈ parameterNames
  swap
  · rw [purseParameter_unknown _ knownB, purseParameter_unknown _ knownB]
  obtain ⟨f, namedA⟩ := mem_parameterNames.mp knownA
  obtain ⟨g, namedB⟩ := mem_parameterNames.mp knownB
  obtain ⟨_, u⟩ := a
  obtain ⟨_, v⟩ := b
  dsimp only at namedA namedB other
  subst namedA namedB
  rw [purseParameter_field, purseParameter_field, purseParameter_field, purseParameter_field]
  exact ParameterField.write_comm p u v other

theorem purseParameter_hides (p : HyperBandParameters) {sp later : SuggestionParameter}
    (same : later.Name = sp.Name) :
    purseParameter (purseParameter p sp) later = purseParameter p later := by
  by_cases known : sp.Name ∈ parameterNames
  · obtain ⟨f, named⟩ := mem_parameterNames.mp known
    obtain ⟨_, u⟩ := sp
    obtain ⟨_, v⟩ := later
    dsimp only at named same
    subst named same
    rw [purseParameter_field, purseParameter_field, purseParameter_field,
      ParameterField.write_write_self]
  · rw [purseParameter_unknown _ known]

/-- The entries after `sp` decode as they would without it when one of them hides it. -/
theorem foldl_purseParameter_hidden (sp : SuggestionParameter) :
    ∀ (rest : List SuggestionParameter) (p : HyperBandParameters),
      (∃ later ∈ rest, later.Name = sp.Name) →
        rest.foldl purseParameter (purseParameter p sp) = rest.foldl purseParameter p
  | [], _, ⟨_, absent, _⟩ => absurd absent (List.not_mem_nil _)
  | b :: rest, p, ⟨later, member, same⟩ => by
      rw [List.foldl_cons, List.foldl_cons]
      by_cases hides : b.Name = sp.Name
      · rw [purseParameter_hides p hides]
      · rw [purseParameter_comm p (Ne.symm hides)]
        refine foldl_purseParameter_hidden sp rest _ ⟨later, ?_, same⟩
        rcases List.mem_cons.mp member with rfl | inRest
        · exact absurd same hides
        · exact inRest

/-- `purseSuggestionParameters` reads only the last entry of each name its switch knows: an entry
of an unknown name, or one that a later entry of the same name hides, can be dropped from the list
without changing the call, its `GetStudy` request and its result included. -/
theorem purseSuggestionParameters_reads_last (c : ManagerClient σ) (studyId : String)
    (before after : List SuggestionParameter) (sp : SuggestionParameter)
    (unread : sp.Name ∉ parameterNames ∨ ∃ later ∈ after, later.Name = sp.Name) :
    purseSuggestionParameters c studyId (before ++ sp :: after) =
      purseSuggestionParameters c studyId (before ++ after) := by
  have decoded : (before ++ sp :: after).foldl purseParameter unsetParameters =
      (before ++ after).foldl purseParameter unsetParameters := by
    rw [List.foldl_append, List.foldl_append, List.foldl_cons]
    rcases unread with unknown | hidden
    · rw [purseParameter_unknown _ unknown]
    · exact foldl_purseParameter_hidden sp after _ hidden
  unfold purseSuggestionParameters
  rw [decoded]

/-- A resource limit given twice is read from its second entry, and an option the switch does not
know is skipped. -/
theorem purseSuggestionParameters_reads_last_repeated :
    ("r_l" ∉ parameterNames ∨ ∃ later ∈ [(⟨"r_l", "81"⟩ : SuggestionParameter)], later.Name = "r_l") ∧
      purseSuggestionParameters (ManagerClient.serving ⟨"accuracy", .maximize, []⟩ "t" [] [] [])
          "study" ([⟨"momentum", "0.9"⟩] ++ ⟨"r_l", "9"⟩ :: [⟨"r_l", "81"⟩]) =
        purseSuggestionParameters (ManagerClient.serving ⟨"accuracy", .maximize, []⟩ "t" [] [] [])
          "study" ([⟨"momentum", "0.9"⟩] ++ [⟨"r_l", "81"⟩]) :=
  have unread : "r_l" ∉ parameterNames ∨
      ∃ later ∈ [(⟨"r_l", "81"⟩ : SuggestionParameter)], later.Name = "r_l" :=
    .inr ⟨_, List.mem_singleton_self _, rfl⟩
  ⟨unread, purseSuggestionParameters_reads_last _ "study" _ _ ⟨"r_l", "9"⟩ unread⟩

/-- A list that leaves the loop state (`shloopitr`, `currentS`, `evaluatingTrials`) to the
decoder's defaults. -/
def LoopUnset (sparam : List SuggestionParameter) : Prop :=
  ∀ sp ∈ sparam, sp.Name ≠ "shloopitr" ∧ sp.Name ≠ "currentS" ∧ sp.Name ≠ "evaluatingTrials"

instance (sparam : List SuggestionParameter) : Decidable (LoopUnset sparam) :=
  inferInstanceAs (Decidable (∀ sp ∈ sparam, _))

theorem foldl_purseParameter_loop {sparam : List SuggestionParameter} (unset : LoopUnset sparam)
    (p : HyperBandParameters) :
    (sparam.foldl purseParameter p).shloopitr = p.shloopitr ∧
      (sparam.foldl purseParameter p).currentS = p.currentS ∧
      (sparam.foldl purseParameter p).evaluatingTrials = p.evaluatingTrials := by
  induction sparam generalizing p with
  | nil => exact ⟨rfl, rfl, rfl⟩
  | cons sp rest ih =>
      have kept : (purseParameter p sp).shloopitr = p.shloopitr ∧
          (purseParameter p sp).currentS = p.currentS ∧
          (purseParameter p sp).evaluatingTrials = p.evaluatingTrials := by
        have names := unset sp (List.mem_cons_self sp rest)
        unfold purseParameter
        split <;> first
          | exact ⟨rfl, rfl, rfl⟩
          | exact (names.1 ‹_›).elim
          | exact (names.2.1 ‹_›).elim
          | exact (names.2.2 ‹_›).elim
      obtain ⟨shloopitr, currentS, trials⟩ :=
        ih (fun q member => unset q (List.mem_cons_of_mem sp member)) (purseParameter p sp)
      exact ⟨shloopitr.trans kept.1, currentS.trans kept.2.1, trials.trans kept.2.2⟩

theorem decodeParameters_loopUnset {sparam : List SuggestionParameter} (unset : LoopUnset sparam) :
    (decodeParameters sparam).currentS = (decodeParameters sparam).sMax ∧
      (decodeParameters sparam).shloopitr = 0 ∧ (decodeParameters sparam).evaluatingTrials = [] := by
  obtain ⟨shloopitr, currentS, trials⟩ := foldl_purseParameter_loop unset unsetParameters
  have unsetShloopitr : (sparam.foldl purseParameter unsetParameters).shloopitr = -1 := shloopitr
  have unsetCurrentS : (sparam.foldl purseParameter unsetParameters).currentS = -1 := currentS
  have unsetTrials : (sparam.foldl purseParameter unsetParameters).evaluatingTrials = [] := trials
  rw [decodeParameters, etaDefault_eq]
  exact ⟨if_pos unsetCurrentS, if_pos unsetShloopitr, unsetTrials⟩

theorem decodeParameters_r_l (sparam : List SuggestionParameter) :
    (decodeParameters sparam).r_l = (sparam.foldl purseParameter unsetParameters).r_l := by
  rw [decodeParameters, etaDefault_eq]
  rfl

theorem decodeParameters_r_unset {sparam : List SuggestionParameter}
    (unset : ∀ sp ∈ sparam, sp.Name ≠ "r") :
    (decodeParameters sparam).r = (decodeParameters sparam).r_l *
      (decodeParameters sparam).eta ^ (-(decodeParameters sparam).sMax) := by
  have kept : ∀ rest : List SuggestionParameter, (∀ sp ∈ rest, sp.Name ≠ "r") →
      ∀ p, (rest.foldl purseParameter p).r = p.r := by
    intro rest
    induction rest with
    | nil => exact fun _ _ => rfl
    | cons sp rest ih =>
        intro noR p
        rw [List.foldl_cons, ih (fun q member => noR q (List.mem_cons_of_mem sp member))]
        have named := noR sp (List.mem_cons_self sp rest)
        unfold purseParameter
        split <;> first | rfl | exact (named ‹_›).elim
  have unsetR : (sparam.foldl purseParameter unsetParameters).r = -1 := kept sparam unset _
  rw [decodeParameters, etaDefault_eq]
  exact if_pos unsetR

/-! ### Reading back what was saved -/

theorem foldl_suggestionParameterList (s : HyperBandParameters) :
    (suggestionParameterList s).foldl purseParameter unsetParameters =
      { eta := round4 s.eta, sMax := s.sMax, b_l := round4 s.b_l, r_l := round4 s.r_l,
        r := round4 s.r, n := s.n, shloopitr := s.shloopitr, currentS := s.currentS,
        ResourceName := s.ResourceName, ObjectiveValueName := "",
        evaluatingTrials := stringsSplit (stringsJoin s.evaluatingTrials ',') ',' } := by
  simp only [suggestionParameterList, List.foldl_cons, List.foldl_nil, purseParameter,
    strconvParseFloat_strconvFormatFloat, strconvAtoi_strconvItoa, Option.getD_some]
  rfl

/-- How a saved list reads back, field by field: the floats at four decimals (a non-positive
`eta` becoming 3), the rest as written; each number at the sentinel `-1` is derived again. -/
structure ReadsBack (s d : HyperBandParameters) : Prop where
  eta : d.eta = if round4 s.eta ≤ 0 then 3 else round4 s.eta
  r_l : d.r_l = round4 s.r_l
  resourceName : d.ResourceName = s.ResourceName
  evaluatingTrials : d.evaluatingTrials = stringsSplit (stringsJoin s.evaluatingTrials ',') ','
  sMax : s.sMax ≠ -1 → d.sMax = s.sMax
  n : s.n ≠ -1 → d.n = s.n
  shloopitr : s.shloopitr ≠ -1 → d.shloopitr = s.shloopitr
  currentS : s.currentS ≠ -1 → d.currentS = s.currentS
  b_l : round4 s.b_l ≠ -1 → d.b_l = round4 s.b_l
  r : round4 s.r ≠ -1 → d.r = round4 s.r

theorem decodeParameters_readsBack (s : HyperBandParameters) :
    ReadsBack s (decodeParameters (suggestionParameterList s)) := by
  rw [decodeParameters, foldl_suggestionParameterList, etaDefault_eq]
  exact ⟨rfl, rfl, rfl, rfl, fun kept => if_neg kept, fun kept => if_neg kept,
    fun kept => if_neg kept, fun kept => if_neg kept, fun kept => if_neg kept,
    fun kept => if_neg kept⟩

/-- A state the codec carries: no integer field at the sentinel, floats whose four-decimal
roundings are neither the sentinel nor rejected, a `ResourceName`, and a non-empty trial list
without commas. -/
structure Savable (s : HyperBandParameters) : Prop where
  sMax : s.sMax ≠ -1
  n : s.n ≠ -1
  shloopitr : s.shloopitr ≠ -1
  currentS : s.currentS ≠ -1
  eta : 0 < round4 s.eta
  r_l : 0 < round4 s.r_l
  b_l : round4 s.b_l ≠ -1
  r : round4 s.r ≠ -1
  resourceName : s.ResourceName ≠ ""
  trials : s.evaluatingTrials ≠ []
  noComma : ∀ t ∈ s.evaluatingTrials, ',' ∉ t.data

/-- What the codec restores of `s`: the integer fields, `ResourceName` and the trial list
exactly, and the floats rounded to four decimals. -/
structure Restores (s p : HyperBandParameters) : Prop where
  sMax : p.sMax = s.sMax
  n : p.n = s.n
  shloopitr : p.shloopitr = s.shloopitr
  currentS : p.currentS = s.currentS
  resourceName : p.ResourceName = s.ResourceName
  evaluatingTrials : p.evaluatingTrials = s.evaluatingTrials
  eta : p.eta = round4 s.eta
  b_l : p.b_l = round4 s.b_l
  r_l : p.r_l = round4 s.r_l
  r : p.r = round4 s.r

theorem Restores.objectiveValueName {s p : HyperBandParameters} (restored : Restores s p)
    (name : String) : Restores s { p with ObjectiveValueName := name } :=
  ⟨restored.sMax, restored.n, restored.shloopitr, restored.currentS, restored.resourceName,
    restored.evaluatingTrials, restored.eta, restored.b_l, restored.r_l, restored.r⟩

theorem decodeParameters_suggestionParameterList {s : HyperBandParameters} (savable : Savable s) :
    Restores s (decodeParameters (suggestionParameterList s)) := by
  have back := decodeParameters_readsBack s
  exact
    { sMax := back.sMax savable.sMax
      n := back.n savable.n
      shloopitr := back.shloopitr savable.shloopitr
      currentS := back.currentS savable.currentS
      resourceName := back.resourceName
      evaluatingTrials := back.evaluatingTrials.trans
        (stringsSplit_stringsJoin s.evaluatingTrials ',' savable.trials savable.noComma)
      eta := back.eta.trans (if_neg (not_le.mpr savable.eta))
      b_l := back.b_l savable.b_l
      r_l := back.r_l
      r := back.r savable.r }

/-- Decoding what `saveSuggestionParameters` writes for a savable state restores it (integers,
`ResourceName` and trial list exactly, floats rounded to four decimals) with the study's
objective, the list having none; or it fails exactly when the `GetStudy` call the decoder then
makes fails, with its error. -/
theorem purseSuggestionParameters_restores (s : HyperBandParameters) (savable : Savable s)
    (c : ManagerClient σ) (studyId : String) (w : World σ) :
    (∃ sconf m p w', c.getStudy w.manager studyId = (.ok sconf, m) ∧
        purseSuggestionParameters c studyId (suggestionParameterList s) w = (.ok p, w') ∧
        Restores s p ∧ p.ObjectiveValueName = sconf.ObjectiveValueName) ∨
      ∃ err m w', c.getStudy w.manager studyId = (.error err, m) ∧
        purseSuggestionParameters c studyId (suggestionParameterList s) w =
          (.error (.error err), w') := by
  have accepted : Accepted ((suggestionParameterList s).foldl purseParameter unsetParameters) := by
    rw [foldl_suggestionParameterList]
    exact ⟨savable.r_l, savable.resourceName⟩
  have restored := decodeParameters_suggestionParameterList savable
  have unnamed : (etaDefault ((suggestionParameterList s).foldl purseParameter
      unsetParameters)).ObjectiveValueName = "" := by
    simp [foldl_suggestionParameterList, etaDefault, not_le.mpr savable.eta]
  rcases answer : c.getStudy w.manager studyId with ⟨err | sconf, m⟩
  · refine .inr ⟨err, m, { w with manager := m, requests := w.requests ++ [(.getStudy studyId, false)] },
      rfl, ?_⟩
    simp [purseSuggestionParameters, fillObjectiveValueName, accepted, unnamed, Go.bind_apply,
      getStudy, World.rpc, answer]
  · have run : purseSuggestionParameters c studyId (suggestionParameterList s) w =
        (.ok { decodeParameters (suggestionParameterList s) with
            ObjectiveValueName := sconf.ObjectiveValueName },
          { w with manager := m, requests := w.requests ++ [(.getStudy studyId, true)] }) := by
      simp [purseSuggestionParameters, fillObjectiveValueName, accepted, unnamed, Go.bind_apply,
        getStudy, World.rpc, answer, decodeParameters]
    exact .inl ⟨sconf, m, _, _, rfl, run, restored.objectiveValueName _, rfl⟩

/-- A saved state at round `(1, 1)` whose round before made the trial `t`. -/
def waitingState : HyperBandParameters :=
  { eta := 3, sMax := 1, b_l := 2, r_l := 1, r := 1, n := 1, shloopitr := 1, currentS := 1,
    ResourceName := "epochs", ObjectiveValueName := "", evaluatingTrials := ["t"] }

/-- `waitingState` is savable, and a Manager that serves every call restores it with the
study's objective. -/
theorem purseSuggestionParameters_restores_waitingState :
    Savable waitingState ∧
      ∃ p w', purseSuggestionParameters
          (ManagerClient.serving ⟨"accuracy", .maximize, []⟩ "t" [] [] []) "study"
          (suggestionParameterList waitingState) ⟨fun _ => [], (), []⟩ = (.ok p, w') ∧
        Restores waitingState p ∧ p.ObjectiveValueName = "accuracy" := by
  have savable : Savable waitingState := by constructor <;> norm_num [waitingState] <;> decide
  refine ⟨savable, ?_⟩
  rcases purseSuggestionParameters_restores waitingState savable
      (ManagerClient.serving ⟨"accuracy", .maximize, []⟩ "t" [] [] []) "study"
      ⟨fun _ => [], (), []⟩ with ⟨sconf, m, p, w', studied, run, restored, named⟩ |
    ⟨err, m, w', failed, -⟩
  · cases studied
    exact ⟨p, w', run, restored, named⟩
  · cases failed

end Katib
