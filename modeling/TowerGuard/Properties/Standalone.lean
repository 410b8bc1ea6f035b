import TowerGuard.Composition
import TowerGuard.Agreement
import TowerGuard.Engine.Metered

/-!
# The fused pipeline and the stacked layers

One layer, put in front of a service at once or stage by stage. Both come to the same, but for the
rate-limit tiers a request brings along, which the stacked tiers do not read.
-/

namespace TowerGuard

open Text Traced

variable {W : World} {κ γ : Type}

/-! ### What is assumed -/

/-- The layer leaves the request to its stages: no IP gate, no carrier, no excluded paths, no
response processor, and detection off. -/
structure StagesOnly (E : Engine W) (layer : GuardLayer W) : Prop where
  ipGate : layer.ipGate = none
  routeConfigs : layer.routeConfigs = none
  excludePaths : layer.excludePaths = []
  responseProcessor : layer.responseProcessor = none
  detection : E.detectionEnabled layer.penetrationDetectionEnabled none = false

/-- The stages decide on `f` of the counters and `g` of the rest. -/
structure StagesSteady (f : W.Limits → κ) (g : W.Other → γ) (E : Engine W) (layer : GuardLayer W) :
    Prop where
  emergencyMode : ∀ stage, layer.emergencyMode = some stage →
    ∀ ip ipString path method, Steady g (stage.decide ip ipString path method)
  https : ∀ stage, layer.httpsEnforcement = some stage →
    ∀ path scheme host forwarded url, Steady g (stage.decide path scheme host forwarded url)
  headersAuth : ∀ stage, layer.headersAuth = some stage →
    ∀ path headers, Steady g (stage.decide path headers)
  referrerGate : ∀ stage, layer.referrerGate = some stage →
    ∀ path referer ip url method, Steady g (stage.decide path referer ip url method)
  customValidators : ∀ stage, layer.customChecks = some stage →
    ∀ path method ip, Steady g (stage.decideCustomValidators path method ip none)
  timeWindowGate : ∀ stage, layer.timeWindowGate = some stage →
    ∀ path ip url method, Steady g (stage.decide path ip url method)
  geo : ∀ stage, layer.geoBlocking = some stage → ∀ ip gate, Steady g (stage.decide ip gate)
  cloud : ∀ stage, layer.cloudProvider = some stage → ∀ ip gate, Steady g (stage.decide ip gate)
  userAgent : ∀ stage, layer.userAgent = some stage → ∀ ip gate path userAgent,
    Call.Agree (SameView f g) Eq (stage.decide ip gate path userAgent none)
      (stage.decide ip gate path userAgent none)
  customRequest : ∀ stage, layer.customChecks = some stage →
    ∀ method path ip, Steady g (stage.decideCustomRequest method path ip none)
  -- An observation goes into the reports, and no decision depends on it.
  bans : ∀ stage, layer.rateLimitStage E = some stage → ∀ ip observation,
    Call.Agree (SameView f g) Eq (stage.decideBansObserved ip observation)
      (stage.decideBansObserved ip none)
  tiers : ∀ stage, layer.rateLimitStage E = some stage → ∀ ip path routeTiers gate observation,
    Call.Agree (SameView f g) Eq
      (stage.decideTiersObserved ip path routeTiers gate none observation)
      (stage.decideTiersObserved ip path routeTiers gate none none)

/-- What only the fused pipeline asks passes, and leaves the view: the log lines, and an engine
stage with neither a limiter nor a ban half. -/
structure Inert (f : W.Limits → κ) (g : W.Other → γ) (E : Engine W) (layer : GuardLayer W) :
    Prop where
  requestLogging : ∀ stage, layer.requestLogging = some stage → ∀ ip method path query,
    Leaves g (stage.compose ip method path query) ∧
      ∀ o, (stage.compose ip method path query o).1.isSome = true
  countryLog : ∀ stage, layer.geoBlocking = some stage → ∀ ip suspicious country,
    Leaves g (stage.countryCheckLog ip suspicious country) ∧
      ∀ o, (stage.countryCheckLog ip suspicious country o).1.isSome = true
  bans : layer.rateLimitStage E = none → ∀ ip observation s,
    ∃ s', (layer.buildStage E).decideBansObserved ip observation s = (some none, s') ∧
      SameView f g s s'
  tiers : layer.rateLimitStage E = none → ∀ ip path routeTiers gate observation s,
    ∃ s', (layer.buildStage E).decideTiersObserved ip path routeTiers gate none observation s =
      (some none, s') ∧ SameView f g s s'

/-- A status that is an HTTP status. -/
def IsHttpStatus (status : Nat) : Prop := 100 ≤ status ∧ status ≤ 999

/-- The answer of a stage without an override and without a delay. -/
def StageResponse.Bare (response : StageResponse) : Prop :=
  response.customBody = none ∧ response.retryAfter = none

/-- The stages answer as documented: with HTTP statuses, and the geo, cloud and user-agent stages
without an override of their body. The custom checks ignore the request's body. -/
structure StagesAnswer (layer : GuardLayer W) : Prop where
  emergencyMode : ∀ stage, layer.emergencyMode = some stage → ∀ ip ipString path method o answer,
    (stage.decide ip ipString path method o).1 = some (some answer) → IsHttpStatus answer.status
  referrerGate : ∀ stage, layer.referrerGate = some stage →
    ∀ path referer ip url method o answer,
      (stage.decide path referer ip url method o).1 = some (some answer) →
      IsHttpStatus answer.status
  timeWindowGate : ∀ stage, layer.timeWindowGate = some stage → ∀ path ip url method o answer,
    (stage.decide path ip url method o).1 = some (some answer) → IsHttpStatus answer.status
  geo : ∀ stage, layer.geoBlocking = some stage → ∀ ip gate o answer,
    (stage.decide ip gate o).1 = some (some answer) → answer.Bare
  cloud : ∀ stage, layer.cloudProvider = some stage → ∀ ip gate o answer,
    (stage.decide ip gate o).1 = some (some answer) → answer.Bare
  userAgent : ∀ stage, layer.userAgent = some stage → ∀ ip gate path userAgent s answer,
    (stage.decide ip gate path userAgent none s).1 = some (some answer) → answer.Bare
  customValidators : ∀ stage, layer.customChecks = some stage → ∀ path method ip body o failure,
    (stage.decideCustomValidators path method ip body o).1 = some (some failure) →
      ∀ status, failure.status = some status → IsHttpStatus status
  customRequest : ∀ stage, layer.customChecks = some stage → ∀ method path ip body o answer,
    (stage.decideCustomRequest method path ip body o).1 = some (some answer) →
      ∀ status, answer.status = some status → IsHttpStatus status
  validatorsIgnoreBody : ∀ stage, layer.customChecks = some stage → ∀ path method ip body,
    stage.decideCustomValidators path method ip body =
      stage.decideCustomValidators path method ip none
  requestIgnoresBody : ∀ stage, layer.customChecks = some stage → ∀ method path ip body,
    stage.decideCustomRequest method path ip body =
      stage.decideCustomRequest method path ip none

/-- The response body holds the text it is made from. -/
structure HoldsText (bytes : W.ResBody → Bytes) (inner : StageInner W) : Prop where
  fromStr : ∀ text, bytes (inner.fromStr text) = bytesOf text
  fromString : ∀ text, bytes (inner.fromString text) = bytesOf text

/-! ### The layers, check by check -/

/-- The decision that stands for a check in the stack, with these tiers of the route. -/
def Check.decision (E : Engine W) (layer : GuardLayer W) (request : Request W)
    (routeTiers : Option W.RouteRateLimits) :
    Check → Option (Call (Store W) (Option StageVerdict)) :=
  let facts := RequestFacts.extract request.toParts
  let decide := GuardStageLayer.decide facts (headerPairs request.headers)
  fun
  | .emergencyMode => layer.emergencyMode.map fun stage => decide (.emergency stage)
  | .httpsEnforcement => layer.httpsEnforcement.map fun stage => decide (.https stage)
  | .headersAuth => layer.headersAuth.map fun stage => decide (.headersAuth stage)
  | .referrerGate => layer.referrerGate.map fun stage => decide (.referrer stage)
  | .customValidators => layer.customChecks.map fun stage => decide (.customValidators stage)
  | .timeWindowGate => layer.timeWindowGate.map fun stage => decide (.timeWindow stage)
  | .bans => (layer.rateLimitStage E).map fun stage => decide (.bans stage)
  | .geo => layer.geoBlocking.map fun stage => decide (.geo stage)
  | .cloud => layer.cloudProvider.map fun stage => decide (.cloud stage)
  | .userAgent => layer.userAgent.map fun stage => decide (.userAgent stage)
  | .rateLimit => (layer.rateLimitStage E).map fun stage =>
      Call.map (Option.map .stage)
        (stage.decideTiersObserved facts.ip (some facts.path) routeTiers facts.gate none none)
  | .customRequest => layer.customChecks.map fun stage => decide (.customRequest stage)
  | _ => none

/-- Those decisions in the order of the pipeline. -/
def decisionsWith (E : Engine W) (layer : GuardLayer W) (request : Request W)
    (routeTiers : Option W.RouteRateLimits) (cs : List Check) :
    List (Call (Store W) (Option StageVerdict)) :=
  cs.filterMap (Check.decision E layer request routeTiers)

theorem decisionsWith_cons {E : Engine W} {layer : GuardLayer W} {request : Request W}
    {routeTiers : Option W.RouteRateLimits} {k : Check} {cs : List Check} :
    decisionsWith E layer request routeTiers (k :: cs) =
      (k.decision E layer request routeTiers).toList ++
        decisionsWith E layer request routeTiers cs := by
  unfold decisionsWith
  cases applies : k.decision E layer request routeTiers with
  | none => rw [List.filterMap_cons_none applies]; rfl
  | some decision => rw [List.filterMap_cons_some applies]; rfl

/-- The stack decides without tiers of the route. -/
theorem decisionsOn_providedLayers (E : Engine W) (layer : GuardLayer W) (request : Request W) :
    decisionsOn request (layer.providedLayers E) =
      decisionsWith E layer request none Check.pipeline := by
  have one {α : Type} (stage : Option α) (place : α → GuardStageLayer W) :
      decisionsOn request (stage.map place).toList =
        (stage.map fun stage => (place stage).decide (.extract request.toParts)
          (headerPairs request.headers)).toList := by
    cases stage <;> rfl
  have append (front back : List (GuardStageLayer W)) :
      decisionsOn request (front ++ back) = decisionsOn request front ++ decisionsOn request back :=
    List.map_append
  have cons (place : GuardStageLayer W) (places : List (GuardStageLayer W)) :
      decisionsOn request (place :: places) =
        place.decide (.extract request.toParts) (headerPairs request.headers) ::
          decisionsOn request places := rfl
  have nil : decisionsOn request ([] : List (GuardStageLayer W)) = [] := rfl
  have nothing : decisionsWith E layer request none [] = [] := rfl
  simp only [Check.pipeline, decisionsWith_cons, nothing, Check.decision, Option.toList_none,
    List.nil_append, List.append_nil, GuardLayer.providedLayers, append, one]
  -- The ban arm and the tiers are there together or not at all.
  cases layer.rateLimitStage E with
  | none =>
    simp only [GuardLayer.middle, append, one, Option.map_none, Option.toList_none, List.nil_append,
      List.append_assoc]
  | some stage =>
    simp only [GuardLayer.middle, append, one, cons, nil, Option.map_some, Option.toList_some,
      List.cons_append, List.nil_append, List.append_assoc]
    rfl

/-! ### Rendering -/

section Rendering

theorem fromU16_of_isHttpStatus {status : Nat} (valid : IsHttpStatus status) :
    ∃ code : StatusCode, StatusCode.fromU16 status = some code := by
  have range : 100 ≤ status ∧ status < 1000 := ⟨valid.1, Nat.lt_succ_of_le valid.2⟩
  exact ⟨⟨status, range⟩, dif_pos range⟩

/-- A header inserted as text where there was none of that name. -/
theorem get_insertText {headers : HeaderMap} {name : String} (value other : String)
    (lower : headerName name = some name) (absent : ∀ entry ∈ headers, entry.1 ≠ name) :
    HeaderMap.get (headers.insertText name value) other =
      if name = other then HeaderValue.fromStr value else HeaderMap.get headers other := by
  have missing : HeaderMap.get headers name = none := by
    simp only [HeaderMap.get, Option.map_eq_none_iff, List.find?_eq_none]
    intro entry member same
    exact absent entry member (of_decide_eq_true same)
  have unlisted : (headers.any fun entry => entry.1 = name) = false := by
    simp only [List.any_eq_false]
    intro entry member same
    exact absent entry member (of_decide_eq_true same)
  unfold HeaderMap.insertText
  rw [lower]
  cases HeaderValue.fromStr value with
  | none =>
    dsimp only
    by_cases same : name = other
    · rw [if_pos same, ← same]
      exact missing
    · rw [if_neg same]
  | some text =>
    simp only [HeaderMap.get, Option.map_eq_none_iff] at missing
    dsimp only
    rw [HeaderMap.insert, if_neg (by simp [unlisted])]
    by_cases same : name = other
    · simp [HeaderMap.get, List.find?_append, ← same, missing]
    · simp [HeaderMap.get, List.find?_append, same]

variable {bytes : W.ResBody → Bytes} {alone : StageInner W} (holds : HoldsText bytes alone)
  {request : Request W} {parts : Parts W}

include holds

theorem block_outcome {status : Nat} {body : String} {verdict : StageVerdict}
    (valid : IsHttpStatus status)
    (renders : alone.renderVerdict verdict = some (alone.renderBlock status body none)) :
    (parts.block status body).outcome = alone.outcome bytes request (.blocked verdict) := by
  obtain ⟨code, converts⟩ := fromU16_of_isHttpStatus valid
  simp only [Parts.block, Early.outcome, Answer.shape, Generated.blockedWithBody, converts,
    Option.map_some, StageInner.outcome, renders, StageInner.renderBlock, Option.getD_some,
    Generated.block, InnerResponse.block, Generated.plainText, holds.fromString]
  rfl

theorem stage_outcome {response : StageResponse} :
    (Early.answered parts (.stage response)).outcome =
      alone.outcome bytes request (.blocked (.stage response)) := by
  have lower : headerName "retry-after" = some "retry-after" := by decide
  simp only [Early.outcome, Answer.shape, StageInner.outcome, StageInner.renderVerdict,
    StageInner.renderBlock, StatusCode.fromU16_asU16, Option.getD_some, Outcome.blocks.injEq,
    InnerResponse.block, Generated.block, Generated.stage, holds.fromString]
  cases response.retryAfter with
  | none => rfl
  | some seconds =>
    simp only [Generated.plainText]
    rw [get_insertText _ _ lower (by decide), get_insertText _ _ lower (by simp),
      get_insertText _ _ lower (by decide), get_insertText _ _ lower (by simp)]
    rfl

theorem redirect_outcome {answer : HttpsRedirectAnswer} :
    (Early.answered parts (.redirect answer)).outcome =
      alone.outcome bytes request (.blocked (.redirect answer)) := by
  have lower : headerName "location" = some "location" := by decide
  simp only [Early.outcome, Answer.shape, StageInner.outcome, StageInner.renderVerdict,
    Generated.redirect, StageInner.renderRedirect]
  -- A status that is no HTTP status panics on both sides.
  cases StatusCode.fromU16 answer.status with
  | none => rfl
  | some status =>
    simp only [Option.map_some, Outcome.blocks.injEq, InnerResponse.block, Generated.block,
      Generated.plainText, holds.fromStr]
    rw [get_insertText _ _ lower (by decide), get_insertText _ _ lower (by simp),
      get_insertText _ _ lower (by decide), get_insertText _ _ lower (by simp)]
    rfl

end Rendering

/-! ### One check -/

/-- The locals of a request that only the stages judge. -/
structure Locals.Plain (request : Request W) (χ : Locals W) : Prop where
  facts : χ.facts = .extract request.toParts
  parts : χ.parts = request.toParts
  body : χ.body = request.body
  route : χ.route = none
  skipGlobalCountries : χ.skipGlobalCountries = false
  verdict : χ.verdict = none

/-- What a check comes to, whether it applies or not. -/
def Check.comesTo (E : Engine W) (service : GuardService W) (k : Check) (χ : Locals W) :
    Call (Store W) (Ruling W) :=
  match k.trial E service χ with
  | none => Call.returning (.pass χ)
  | some trial => trial.ruling

section Check

variable (R : Store W → Store W → Prop) (bytes : W.ResBody → Bytes) (alone : StageInner W)
  (request : Request W)

/-- A check and the decision in its place come to the same. -/
inductive Matches : Option (Ruling W) × Store W → Option (Option StageVerdict) × Store W → Prop
  | passes {χ : Locals W} {s s' : Store W} : χ.Plain request → R s s' →
      Matches (some (.pass χ), s) (some none, s')
  | blocks {early : Early W} {verdict : StageVerdict} {s s' : Store W} :
      early.outcome = alone.outcome bytes request (.blocked verdict) → R s s' →
      Matches (some (.deny early none), s) (some (some verdict), s')
  | panics {s s' : Store W} : R s s' → Matches (none, s) (none, s')

variable {R bytes alone request} {f : W.Limits → κ} {g : W.Other → γ} {E : Engine W}
  {layer : GuardLayer W} {inner : InnerService W} {k : Check} {χ : Locals W} {s s' : Store W}

theorem screen_matches {α : Type} {decision decision' : Call (Store W) (Option α)}
    {question : Consult W} {early : α → Early W} {wrap : α → StageVerdict}
    (plain : χ.Plain request) (agree : Call.Agree R Eq decision decision')
    (renders : ∀ s a, (decision s).1 = some (some a) →
      (early a).outcome = alone.outcome bytes request (.blocked (wrap a)))
    (same : R s s') : Matches R bytes alone request
      ((Trial.screen χ question decision early).ruling s)
      (Call.map (Option.map wrap) decision' s') := by
  obtain ⟨answers, left⟩ := agree s s' same
  have answers := eq_of_rel answers
  rcases said : decision s with ⟨answer, s₁⟩
  rcases said' : decision' s' with ⟨answer', s₁'⟩
  simp only [said, said'] at answers left
  subst answers
  simp only [Trial.screen, Call.map, said, said']
  rcases answer with _ | _ | denial
  · exact .panics left
  · exact .passes plain left
  · exact .blocks (renders s denial (congrArg Prod.fst said)) left

variable (f g E layer inner bytes alone request) in
/-- The decisions in place of the checks, with the tiers the request brings along, keep step with
the pipeline. -/
def Check.InStep (k : Check) : Prop :=
  ∀ χ : Locals W, χ.Plain request → ∀ s s', SameView f g s s' →
    Matches (SameView f g) bytes alone request (k.comesTo E (layer.wrap E inner) χ s)
      (((k.decision E layer request request.extensions.rateLimits).getD (Call.returning none)) s')

/-- A check that does not apply and has no layer. -/
theorem inStep_of_none (trial : ∀ χ : Locals W, χ.Plain request →
      k.trial E (layer.wrap E inner) χ = none)
    (decision : k.decision E layer request request.extensions.rateLimits = none) :
    k.InStep bytes alone request f g E layer inner := by
  intro χ plain s s' same
  rw [Check.comesTo, trial χ plain, decision]
  exact .passes plain same

/-- A stage in its place. -/
theorem inStep_of_stage {α β : Type} {installed : Option β}
    {question : Locals W → β → Consult W} {decision : Locals W → β → Call (Store W) (Option α)}
    {decision' : β → Call (Store W) (Option α)} {early : Locals W → α → Early W}
    {wrap : α → StageVerdict}
    (trial : ∀ χ : Locals W, χ.Plain request → k.trial E (layer.wrap E inner) χ =
      installed.map fun stage => .screen χ (question χ stage) (decision χ stage) (early χ))
    (decides : k.decision E layer request request.extensions.rateLimits =
      installed.map fun stage => Call.map (Option.map wrap) (decision' stage))
    (agree : ∀ stage, installed = some stage → ∀ χ : Locals W, χ.Plain request →
      Call.Agree (SameView f g) Eq (decision χ stage) (decision' stage))
    (renders : ∀ stage, installed = some stage → ∀ χ : Locals W, χ.Plain request → ∀ s a,
      (decision χ stage s).1 = some (some a) →
      (early χ a).outcome = alone.outcome bytes request (.blocked (wrap a))) :
    k.InStep bytes alone request f g E layer inner := by
  intro χ plain s s' same
  rw [Check.comesTo, trial χ plain, decides]
  cases there : installed with
  | none => exact .passes plain same
  | some stage =>
    exact screen_matches plain (agree stage there χ plain) (renders stage there χ plain) same

theorem isHttpStatus_asU16 (status : StatusCode) : IsHttpStatus status.asU16 :=
  ⟨status.property.1, Nat.le_of_lt_succ status.property.2⟩

/-- The stage of the service is the one the stack is made from. -/
theorem wrap_stage_of_some {stage : RateLimitStage W}
    (there : layer.rateLimitStage E = some stage) : (layer.wrap E inner).stage = stage := by
  unfold GuardLayer.rateLimitStage at there
  simp only [GuardService.stage, GuardLayer.wrap, GuardLayer.layered, Option.get_some]
  cases built : layer.stage with
  | some installed =>
    rw [built] at there
    cases there
    rfl
  | none =>
    rw [built] at there
    obtain ⟨-, ⟨⟩⟩ := Option.ite_none_right_eq_some.mp there
    rfl

theorem wrap_stage_of_none (absent : layer.rateLimitStage E = none) :
    (layer.wrap E inner).stage = layer.buildStage E := by
  refine GuardLayer.wrap_stage E layer inner ?_
  unfold GuardLayer.rateLimitStage at absent
  cases built : layer.stage with
  | some installed => rw [built] at absent; cases absent
  | none => rfl

/-- A half of the engine stage: the fused pipeline asks it in any case, the stack where the layer
has a limiter or a ban half. -/
theorem inStep_of_half (question : Consult W)
    (decision : RateLimitStage W → Option RequestObservation →
      Call (Store W) (Option StageResponse))
    (trial : ∀ χ : Locals W, χ.Plain request → k.trial E (layer.wrap E inner) χ =
      some (.screen χ question
        (decision (layer.wrap E inner).stage (some (requestObservation χ.parts)))
        fun response => .answered χ.parts (.stage response)))
    (decides : k.decision E layer request request.extensions.rateLimits =
      (layer.rateLimitStage E).map fun stage => Call.map (Option.map .stage) (decision stage none))
    (agree : ∀ stage, layer.rateLimitStage E = some stage → ∀ observation,
      Call.Agree (SameView f g) Eq (decision stage observation) (decision stage none))
    (inert : layer.rateLimitStage E = none → ∀ observation s,
      ∃ s', decision (layer.buildStage E) observation s = (some none, s') ∧ SameView f g s s')
    (holds : HoldsText bytes alone) : k.InStep bytes alone request f g E layer inner := by
  intro χ plain s s' same
  rw [Check.comesTo, trial χ plain, decides]
  cases there : layer.rateLimitStage E with
  | some stage =>
    rw [wrap_stage_of_some there]
    exact screen_matches plain (agree stage there _) (fun _ _ _ => stage_outcome holds) same
  | none =>
    rw [wrap_stage_of_none there]
    obtain ⟨s₁, passes, left⟩ := inert there (some (requestObservation χ.parts)) s
    simp only [Trial.screen, Call.map, passes]
    exact .passes plain (left.symm.trans same)

/-- A question whose answer is not read passes, and leaves the view. -/
theorem compose_passes {α : Type} {question : Consult W} {call : Call W.Other α}
    (plain : χ.Plain request) (leaves : Leaves g call) (answers : ∀ o, (call o).1.isSome = true)
    (same : SameView f g s s') : Matches (SameView f g) bytes alone request
      ((Trial.compose question call fun _ => χ).ruling s) (Call.returning none s') := by
  obtain ⟨answer, said⟩ := Option.isSome_iff_exists.mp (answers s.other)
  have left : SameView f g (onOther call s).2 s' :=
    ⟨same.limits, (leaves s.other).trans same.other⟩
  have ruled : (Trial.compose question call fun _ => χ).ruling s =
      (some (.pass χ), (onOther call s).2) := by
    refine Prod.ext ?_ rfl
    rw [Trial.compose_ruling, onOther_answer, said]
    rfl
  rw [ruled]
  exact .passes plain left

/-- What a geo, cloud or user-agent stage answers renders alike. -/
theorem bare_outcome {parts : Parts W} {answer : StageResponse} (holds : HoldsText bytes alone)
    (bare : answer.Bare) : (parts.blockStage answer).outcome =
      alone.outcome bytes request (.blocked (.stage answer)) := by
  refine block_outcome holds (isHttpStatus_asU16 answer.status) ?_
  rw [StageInner.renderVerdict, bare.1, bare.2]
  rfl

theorem isHttpStatus_getD {status : Option Nat}
    (valid : ∀ code, status = some code → IsHttpStatus code) : IsHttpStatus (status.getD 200) := by
  cases status with
  | none => exact ⟨by decide, by decide⟩
  | some code => exact valid code rfl

/-- Every check keeps step with the decision in its place. -/
theorem check_inStep (only : StagesOnly E layer) (steady : StagesSteady f g E layer)
    (inert : Inert f g E layer) (answers : StagesAnswer layer) (holds : HoldsText bytes alone)
    (bare : request.extensions.routeConfig = none)
    (buffers : ∃ buffered unread, bufferBody request.body layer.bodyCap = (.ok buffered, unread))
    (k : Check) : k.InStep bytes alone request f g E layer inner := by
  cases k with
  | excludePaths =>
    intro χ plain s s' same
    have included : (layer.wrap E inner).layer.excludePaths = [] := only.excludePaths
    simp only [Check.comesTo, Check.trial, included]
    exact .passes plain same
  | corsPreflight =>
    have absent : (layer.wrap E inner).layer.responseProcessor = none := only.responseProcessor
    exact inStep_of_none (fun χ plain => by simp [Check.trial, absent]) rfl
  | routeCarrier =>
    have absent : (layer.wrap E inner).layer.routeConfigs = none := only.routeConfigs
    refine inStep_of_none (fun χ plain => ?_) rfl
    have carried : χ.parts.extensions.routeConfig = none := by rw [plain.parts]; exact bare
    simp only [Check.trial, carried, absent]
    rfl
  | usageRules =>
    have absent : (layer.wrap E inner).layer.responseProcessor = none := only.responseProcessor
    exact inStep_of_none (fun χ plain => by simp [Check.trial, absent]) rfl
  | routeIpLists => exact inStep_of_none (fun χ plain => by simp [Check.trial, plain.route]) rfl
  | routeCountries => exact inStep_of_none (fun χ plain => by simp [Check.trial, plain.route]) rfl
  | ipGate =>
    have absent : (layer.wrap E inner).layer.ipGate = none := only.ipGate
    exact inStep_of_none (fun χ plain => by simp [Check.trial, absent]) rfl
  | emergencyMode =>
    refine inStep_of_stage (fun χ plain => rfl) rfl ?_ ?_
    · intro stage there χ plain
      rw [plain.facts]
      exact (steady.emergencyMode stage there _ _ _ _).agree
    · intro stage there χ plain s answer said
      exact block_outcome holds (answers.emergencyMode stage there _ _ _ _ _ _ said) rfl
  | httpsEnforcement =>
    have trial : ∀ χ : Locals W, χ.Plain request →
        Check.httpsEnforcement.trial E (layer.wrap E inner) χ =
          layer.httpsEnforcement.map fun stage =>
            .screen χ (.httpsEnforcement (χ.facts.host.map hostOfAuthority)
                χ.facts.xForwardedProto none)
              (onOther (stage.decide χ.facts.path χ.facts.scheme
                (χ.facts.host.map hostOfAuthority) χ.facts.xForwardedProto χ.facts.httpsUrl))
              fun answer => .answered χ.parts (.redirect answer) := by
      intro χ plain
      simp only [Check.trial, plain.route, GuardLayer.wrap, GuardLayer.layered]
      cases layer.httpsEnforcement <;> rfl
    refine inStep_of_stage trial rfl ?_ fun _ _ _ _ _ _ _ => redirect_outcome holds
    intro stage there χ plain
    rw [plain.facts]
    exact (steady.https stage there _ _ _ _ _).agree
  | requestLogging =>
    intro χ plain s s' same
    simp only [Check.comesTo, Check.trial, GuardLayer.wrap, GuardLayer.layered]
    cases installed : layer.requestLogging with
    | none => exact .passes plain same
    | some stage =>
      obtain ⟨leaves, answers⟩ := inert.requestLogging stage installed χ.facts.attributed
        (some χ.facts.method) (some χ.facts.path) none
      exact compose_passes plain leaves answers same
  | countryLog =>
    intro χ plain s s' same
    simp only [Check.comesTo, Check.trial, GuardLayer.wrap, GuardLayer.layered]
    cases layer.observability with
    | none => exact .passes plain same
    | some observability =>
      cases installed : layer.geoBlocking with
      | none => exact .passes plain same
      | some stage =>
        obtain ⟨leaves, answers⟩ := inert.countryLog stage installed χ.facts.ip
          observability.logSuspiciousLevel observability.logCountryCheckLevel
        exact compose_passes plain leaves answers same
  | bodyBuffering =>
    intro χ plain s s' same
    obtain ⟨buffered, unread, reads⟩ := buffers
    have cap : bodyCap E (layer.wrap E inner).layer χ.route = layer.bodyCap := by
      rw [plain.route]
      rfl
    simp only [Check.comesTo, Check.trial, plain.body, cap, reads]
    exact .passes ⟨plain.facts, plain.parts, rfl, plain.route, plain.skipGlobalCountries,
      plain.verdict⟩ same
  | routeHeadersAuth => exact inStep_of_none (fun χ plain => by simp [Check.trial, plain.route]) rfl
  | headersAuth =>
    refine inStep_of_stage (fun χ plain => rfl) rfl ?_ ?_
    · intro stage there χ plain
      rw [plain.facts, plain.parts]
      exact (steady.headersAuth stage there _ _).agree
    · intro stage there χ plain s answer said
      exact block_outcome holds (isHttpStatus_asU16 _) rfl
  | routeReferrer => exact inStep_of_none (fun χ plain => by simp [Check.trial, plain.route]) rfl
  | referrerGate =>
    refine inStep_of_stage (fun χ plain => rfl) rfl ?_ ?_
    · intro stage there χ plain
      rw [plain.facts]
      exact (steady.referrerGate stage there _ _ _ _ _).agree
    · intro stage there χ plain s answer said
      exact block_outcome holds (answers.referrerGate stage there _ _ _ _ _ _ _ said) rfl
  | routeValidators => exact inStep_of_none (fun χ plain => by simp [Check.trial, plain.route]) rfl
  | customValidators =>
    refine inStep_of_stage (fun χ plain => rfl) rfl ?_ ?_
    · intro stage there χ plain
      rw [answers.validatorsIgnoreBody stage there, plain.facts]
      exact (steady.customValidators stage there _ _ _).agree
    · intro stage there χ plain s failure said
      exact block_outcome holds (isHttpStatus_getD
        (answers.customValidators stage there _ _ _ _ _ _ said)) rfl
  | routeTimeWindow => exact inStep_of_none (fun χ plain => by simp [Check.trial, plain.route]) rfl
  | timeWindowGate =>
    refine inStep_of_stage (fun χ plain => rfl) rfl ?_ ?_
    · intro stage there χ plain
      rw [plain.facts]
      exact (steady.timeWindowGate stage there _ _ _ _).agree
    · intro stage there χ plain s answer said
      exact block_outcome holds (answers.timeWindowGate stage there _ _ _ _ _ _ said) rfl
  | scan =>
    refine inStep_of_none (fun χ plain => ?_) rfl
    have off : detectionOff E (layer.wrap E inner).layer χ.route = true := by
      rw [plain.route]
      simp only [detectionOff, Bool.or_eq_true, Bool.not_eq_true']
      exact .inr only.detection
    rw [Check.trial, if_pos off]
  | bans =>
    refine inStep_of_half (.bans (RequestFacts.extract request.toParts).ip)
      (fun stage observation =>
        stage.decideBansObserved (RequestFacts.extract request.toParts).ip observation)
      (fun χ plain => ?_) rfl (fun stage there => steady.bans stage there _)
      (fun there => inert.bans there _) holds
    simp only [Check.trial, plain.route, plain.facts]
    rfl
  | geo =>
    have trial : ∀ χ : Locals W, χ.Plain request → Check.geo.trial E (layer.wrap E inner) χ =
        layer.geoBlocking.map fun stage => .screen χ (.geo χ.facts.ip χ.facts.gate)
          (onOther (stage.decide χ.facts.ip χ.facts.gate)) χ.parts.blockStage := by
      intro χ plain
      simp only [Check.trial, plain.route, plain.skipGlobalCountries, GuardLayer.wrap,
        GuardLayer.layered]
      cases layer.geoBlocking <;> rfl
    refine inStep_of_stage trial rfl ?_ ?_
    · intro stage there χ plain
      rw [plain.facts]
      exact (steady.geo stage there _ _).agree
    · intro stage there χ plain s answer said
      exact bare_outcome holds (answers.geo stage there _ _ _ _ said)
  | cloud =>
    have trial : ∀ χ : Locals W, χ.Plain request → Check.cloud.trial E (layer.wrap E inner) χ =
        layer.cloudProvider.map fun stage => .screen χ (.cloud χ.facts.ip χ.facts.gate)
          (onOther (stage.decide χ.facts.ip χ.facts.gate)) χ.parts.blockStage := by
      intro χ plain
      simp only [Check.trial, plain.route, GuardLayer.wrap, GuardLayer.layered]
      rfl
    refine inStep_of_stage trial rfl ?_ ?_
    · intro stage there χ plain
      rw [plain.facts]
      exact (steady.cloud stage there _ _).agree
    · intro stage there χ plain s answer said
      exact bare_outcome holds (answers.cloud stage there _ _ _ _ said)
  | routeUserAgents =>
    refine inStep_of_none (fun χ plain => ?_) rfl
    simp [Check.trial, patternsDue, routePatterns, plain.route]
  | userAgent =>
    refine inStep_of_stage (fun χ plain => rfl) rfl ?_ ?_
    · intro stage there χ plain
      rw [plain.facts, plain.verdict]
      exact steady.userAgent stage there _ _ _ _
    · intro stage there χ plain s answer said
      rw [plain.verdict] at said
      exact bare_outcome holds (answers.userAgent stage there _ _ _ _ _ _ said)
  | rateLimit =>
    -- The tiers the request brings along are the ones the fused pipeline hands on.
    let facts := RequestFacts.extract request.toParts
    refine inStep_of_half (.rateLimit facts.ip facts.gate none)
      (fun stage observation => stage.decideTiersObserved facts.ip (some facts.path)
        request.extensions.rateLimits facts.gate none observation)
      (fun χ plain => ?_) rfl (fun stage there => steady.tiers stage there _ _ _ _)
      (fun there => inert.tiers there _ _ _ _) holds
    simp only [Check.trial, plain.route, plain.facts, plain.parts, plain.verdict]
    rfl
  | detection => exact inStep_of_none (fun χ plain => by simp [Check.trial, plain.verdict]) rfl
  | customRequest =>
    refine inStep_of_stage (fun χ plain => rfl) rfl ?_ ?_
    · intro stage there χ plain
      rw [answers.requestIgnoresBody stage there, plain.facts]
      exact (steady.customRequest stage there _ _ _).agree
    · intro stage there χ plain s answer said
      exact block_outcome holds (isHttpStatus_getD
        (answers.customRequest stage there _ _ _ _ _ _ said)) rfl

end Check

/-! ### One request -/

/-- The same outcome, in states of the same view. -/
def Outcome.Alike (R : Store W → Store W → Prop) (came came' : Outcome W × Store W) : Prop :=
  came.1 = came'.1 ∧ R came.2 came'.2

section Run

variable {f : W.Limits → κ} {g : W.Other → γ} {bytes : W.ResBody → Bytes} {alone : StageInner W}
  {E : Engine W} {layer : GuardLayer W} {inner : InnerService W} {request : Request W}
  {routeTiers : Option W.RouteRateLimits} {k : Check} {cs : List Check} {χ : Locals W}
  {s s' : Store W}

theorem ending_cons {service : GuardService W} : Check.ending E service (k :: cs) χ s =
    match k.comesTo E service χ s with
    | (some (.pass next), s') | (some (.flag next), s') => Check.ending E service cs next s'
    | (some (.deny early payload), s') => (.denied k early payload, s')
    | (some (.recover early), s') => (.denied k early none, s')
    | (none, s') => (.panicked k, s') := by
  rw [Check.ending, Check.comesTo]
  cases k.trial E service χ <;> rfl

theorem of_decisionsWith_cons :
    StageEnding.of (decisionsWith E layer request routeTiers (k :: cs)) s =
      match (k.decision E layer request routeTiers).getD (Call.returning none) s with
      | (some none, s') => StageEnding.of (decisionsWith E layer request routeTiers cs) s'
      | (some (some verdict), s') => (.blocked verdict, s')
      | (none, s') => (.panicked, s') := by
  rw [decisionsWith_cons]
  cases k.decision E layer request routeTiers <;> rfl

variable (inner) in
/-- The pipeline and the decisions in its place keep step to the end: both forward, or both come
to the same. -/
theorem ending_inStep (steps : ∀ k ∈ cs, k.InStep bytes alone request f g E layer inner)
    (plain : χ.Plain request) (same : SameView f g s s') :
    let ended := Check.ending E (layer.wrap E inner) cs χ s
    let ended' := StageEnding.of (decisionsWith E layer request request.extensions.rateLimits cs) s'
    SameView f g ended.2 ended'.2 ∧
      ((∃ final : Locals W, ended.1 = .forward final ∧ ended'.1 = .forward ∧ final.Plain request) ∨
        ended.1.Unreported ∧ ended.1.outcome = alone.outcome bytes request ended'.1) := by
  induction cs generalizing χ s s' with
  | nil => exact ⟨same, .inl ⟨χ, rfl, rfl, plain⟩⟩
  | cons k cs ih =>
    have here := steps k List.mem_cons_self χ plain s s' same
    dsimp only
    rw [ending_cons, of_decisionsWith_cons]
    generalize k.comesTo E (layer.wrap E inner) χ s = came at here
    generalize (k.decision E layer request request.extensions.rateLimits).getD
      (Call.returning none) s' = came' at here
    cases here with
    | passes plain same =>
      exact ih (fun k member => steps k (List.mem_cons_of_mem _ member)) plain same
    | blocks alike same => exact ⟨same, .inr ⟨rfl, alike⟩⟩
    | panics same => exact ⟨same, .inr ⟨trivial, rfl⟩⟩

variable (bytes alone E layer request routeTiers) in
/-- What the decisions in place of the checks come to, with these tiers of the route. -/
def outcomeWith (cs : List Check) (s : Store W) : Outcome W × Store W :=
  let ended := StageEnding.of (decisionsWith E layer request routeTiers cs) s
  (alone.outcome bytes request ended.1, ended.2)

variable (E layer request s s') in
/-- The stages ahead of the tiers let the request through, into this state. -/
def ComesToTiers : Prop :=
  StageEnding.of
      (decisionsWith E layer request none (Check.pipeline.takeWhile (· ≠ .rateLimit))) s =
    (.forward, s')

variable (inner s) in
/-- The fused pipeline comes to what the stack would with the request's own tiers. -/
theorem outcome_fused (only : StagesOnly E layer) (steady : StagesSteady f g E layer)
    (inert : Inert f g E layer) (answers : StagesAnswer layer) (holds : HoldsText bytes alone)
    (bare : request.extensions.routeConfig = none)
    (buffers : ∃ buffered unread, bufferBody request.body layer.bodyCap = (.ok buffered, unread)) :
    (Check.ending E (layer.wrap E inner) Check.pipeline (.start request) s).1.Unreported ∧
      Outcome.Alike (SameView f g) ((layer.wrap E inner).outcome E request s)
        (outcomeWith bytes alone E layer request request.extensions.rateLimits Check.pipeline
          s) := by
  have plain : (Locals.start request).Plain request := ⟨rfl, rfl, rfl, bare, rfl, rfl⟩
  obtain ⟨same, came⟩ := ending_inStep inner
    (fun k _ => check_inStep only steady inert answers holds bare buffers k) plain (.refl s)
  rcases came with ⟨final, forwards, forwards', plain⟩ | ⟨unreported, alike⟩
  · refine ⟨by rw [forwards]; trivial, ?_, same⟩
    simp only [GuardService.outcome, outcomeWith, forwards, forwards', Check.Ending.outcome,
      StageInner.outcome, plain.parts]
    -- The buffer a forward goes on with reads back as the body.
    obtain ⟨χ, s₁, arrives, frame⟩ := Check.Arrives.of_forward (Prod.ext forwards rfl)
    rw [frame.buffered (by decide), arrives.buffered (by decide)]
  · exact ⟨unreported, alike, same⟩

theorem of_append (front back : List (Call (Store W) (Option StageVerdict))) :
    StageEnding.of (front ++ back) s =
      match StageEnding.of front s with
      | (.forward, s') => StageEnding.of back s'
      | ended => ended := by
  induction front generalizing s with
  | nil => rfl
  | cons decision front ih =>
    simp only [List.cons_append, StageEnding.of]
    rcases decision s with ⟨_ | _ | verdict, s'⟩
    · rfl
    · exact ih
    · rfl

/-- Only the decision of the tiers reads the tiers of the route. -/
theorem decisionsWith_ahead (absent : .rateLimit ∉ cs) :
    decisionsWith E layer request routeTiers cs = decisionsWith E layer request none cs := by
  induction cs with
  | nil => rfl
  | cons k cs ih =>
    rw [decisionsWith_cons, decisionsWith_cons,
      ih fun member => absent (List.mem_cons_of_mem _ member)]
    cases k with
    | rateLimit => exact absurd List.mem_cons_self absent
    | _ => rfl

/-- With these tiers or with none, all comes to the same but for what follows from the tiers on. -/
theorem outcomeWith_iff : Outcome.Alike (SameView f g)
      (outcomeWith bytes alone E layer request routeTiers Check.pipeline s)
      (outcomeWith bytes alone E layer request none Check.pipeline s) ↔
    ∀ s₁, ComesToTiers E layer request s s₁ → Outcome.Alike (SameView f g)
      (outcomeWith bytes alone E layer request routeTiers [.rateLimit, .customRequest] s₁)
      (outcomeWith bytes alone E layer request none [.rateLimit, .customRequest] s₁) := by
  have split : Check.pipeline = Check.pipeline.takeWhile (· ≠ .rateLimit) ++
    [.rateLimit, .detection, .customRequest] := by decide
  have cut (routeTiers : Option W.RouteRateLimits) :
      StageEnding.of (decisionsWith E layer request routeTiers Check.pipeline) s =
        match StageEnding.of (decisionsWith E layer request none
          (Check.pipeline.takeWhile (· ≠ .rateLimit))) s with
        | (.forward, s') => StageEnding.of (decisionsWith E layer request routeTiers
            [.rateLimit, .customRequest]) s'
        | ended => ended := by
    have lists : decisionsWith E layer request routeTiers Check.pipeline =
        decisionsWith E layer request routeTiers (Check.pipeline.takeWhile (· ≠ .rateLimit)) ++
          decisionsWith E layer request routeTiers [.rateLimit, .detection, .customRequest] :=
      (congrArg (decisionsWith E layer request routeTiers) split).trans List.filterMap_append
    -- The detection block has no layer of its own.
    have behind :
        decisionsWith E layer request routeTiers [.rateLimit, .detection, .customRequest] =
          decisionsWith E layer request routeTiers [.rateLimit, .customRequest] := by
      simp only [decisionsWith_cons, Check.decision, Option.toList_none, List.nil_append]
    rw [lists, behind, of_append, decisionsWith_ahead (by decide)]
  simp only [outcomeWith, cut, ComesToTiers]
  rcases StageEnding.of (decisionsWith E layer request none
    (Check.pipeline.takeWhile (· ≠ .rateLimit))) s with ⟨_ | verdict | _, s₁⟩
  · constructor
    · rintro alike _ ⟨⟩
      exact alike
    · intro alike
      exact alike s₁ rfl
  -- Whatever is answered ahead of the tiers is answered alike.
  · exact iff_of_true ⟨rfl, .refl s₁⟩ fun _ came => nomatch came
  · exact iff_of_true ⟨rfl, .refl s₁⟩ fun _ came => nomatch came

theorem Outcome.Alike.symm {came came' : Outcome W × Store W}
    (alike : Outcome.Alike (SameView f g) came came') : Outcome.Alike (SameView f g) came' came :=
  ⟨alike.1.symm, alike.2.symm⟩

theorem Outcome.Alike.trans {came came' came'' : Outcome W × Store W}
    (alike : Outcome.Alike (SameView f g) came came')
    (alike' : Outcome.Alike (SameView f g) came' came'') :
    Outcome.Alike (SameView f g) came came'' :=
  ⟨alike.1.trans alike'.1, alike.2.trans alike'.2⟩

theorem outcomeBehind_eq : alone.outcomeBehind request s bytes (layer.providedLayers E) =
    outcomeWith bytes alone E layer request none Check.pipeline s := by
  simp only [StageInner.outcomeBehind, outcomeWith, decisionsOn_providedLayers]

/-- The fused service and the stack end as their outcomes say, and these are alike exactly where
the tiers and the custom request function behind them come to the same with the tiers the request
brings along and without any. -/
theorem composed_as_fused_iff (only : StagesOnly E layer) (steady : StagesSteady f g E layer)
    (inert : Inert f g E layer) (answers : StagesAnswer layer) (holds : HoldsText bytes alone)
    (bare : request.extensions.routeConfig = none)
    (buffers : ∃ buffered unread, bufferBody request.body layer.bodyCap = (.ok buffered, unread)) :
    let service := layer.wrap E inner
    let layers := layer.providedLayers E
    service.EndsAs E request s (service.outcome E request s) ∧
      alone.EndsAs request s (alone.behind layers) bytes
        (alone.outcomeBehind request s bytes layers) ∧
      (Outcome.Alike (SameView f g) (service.outcome E request s)
          (alone.outcomeBehind request s bytes layers) ↔
        ∀ s₁, ComesToTiers E layer request s s₁ → Outcome.Alike (SameView f g)
          (outcomeWith bytes alone E layer request request.extensions.rateLimits
            [.rateLimit, .customRequest] s₁)
          (outcomeWith bytes alone E layer request none [.rateLimit, .customRequest] s₁)) := by
  intro service layers
  obtain ⟨unreported, fused⟩ :=
    outcome_fused inner s only steady inert answers holds bare buffers
  refine ⟨service.endsAs_outcome only.responseProcessor unreported,
    alone.endsAs_outcomeBehind request s bytes layers, ?_⟩
  rw [outcomeBehind_eq, ← outcomeWith_iff]
  exact ⟨fused.symm.trans, fused.trans⟩

end Run

/-! ### A request with tiers of its own -/

def roomyLimiter : RateLimiter where
  store := 0
  config := { Bench.engine.defaultRateLimitConfig with rateLimit := 10 }

/-- A layer with a limiter, and nothing besides. -/
def roomyLayer : GuardLayer Metered.world :=
  (Metered.layer.withRateLimiting roomyLimiter).withPenetrationDetection false

/-- The service the layers are stacked on. -/
def meteredInner : StageInner Metered.world where
  call := Metered.ok.call
  fromStr := bytesOf
  fromString := bytesOf

theorem roomy_only : StagesOnly Metered.engine roomyLayer := ⟨rfl, rfl, rfl, rfl, rfl⟩

theorem roomy_steady : StagesSteady id id Metered.engine roomyLayer where
  emergencyMode := fun _ installed => nomatch installed
  https := fun _ installed => nomatch installed
  headersAuth := fun _ installed => nomatch installed
  referrerGate := fun _ installed => nomatch installed
  customValidators := fun _ installed => nomatch installed
  timeWindowGate := fun _ installed => nomatch installed
  geo := fun _ installed => nomatch installed
  cloud := fun _ installed => nomatch installed
  userAgent := fun _ installed => nomatch installed
  customRequest := fun _ installed => nomatch installed
  bans := by
    rintro stage ⟨⟩ ip observation
    exact agree_self _
  tiers := by
    rintro stage ⟨⟩ ip path routeTiers gate observation
    exact agree_self _

theorem roomy_inert : Inert id id Metered.engine roomyLayer where
  requestLogging := fun _ installed => nomatch installed
  countryLog := fun _ installed => nomatch installed
  bans := fun absent => nomatch absent
  tiers := fun absent => nomatch absent

theorem roomy_answers : StagesAnswer roomyLayer := by
  constructor
  all_goals exact fun _ installed => nomatch installed

theorem metered_holds : HoldsText id meteredInner := ⟨fun _ => rfl, fun _ => rfl⟩

/-- A request of the client's, with these tiers of its own. -/
def tieredRequest (routeTiers : Option Nat) : Request Metered.world :=
  let request := Metered.request (some Bench.client) "GET" "/items" none []
  { request with extensions := { request.extensions with rateLimits := routeTiers } }

/-- The client has used the route's tier once. -/
def once : Store Metered.world :=
  { Metered.start with limits := [⟨0, some "/items", Bench.client.display⟩] }

theorem untiered_composed_as_fused :
    Outcome.Alike (SameView id id)
      ((roomyLayer.wrap Metered.engine Metered.ok).outcome Metered.engine (tieredRequest none) once)
      (meteredInner.outcomeBehind (tieredRequest none) once id
        (roomyLayer.providedLayers Metered.engine)) :=
  (composed_as_fused_iff roomy_only roomy_steady roomy_inert roomy_answers metered_holds rfl
    ⟨none, [], rfl⟩).2.2.mpr fun _ _ => ⟨rfl, .refl _⟩

/-- With tiers of one request a minute the fused pipeline throttles the second request, and the
stack lets it through. -/
theorem tiered_composed_apart :
    let service := roomyLayer.wrap Metered.engine Metered.ok
    let layers := roomyLayer.providedLayers Metered.engine
    let request := tieredRequest (some 1)
    Bench.statusOf (service.call Metered.engine request once).flow = some 429 ∧
      (((meteredInner.behind layers).call request once).1.bind Except.toOption).map
        (·.status.asU16) = some 200 ∧
      ¬Outcome.Alike (SameView id id) (service.outcome Metered.engine request once)
        (meteredInner.outcomeBehind request once id layers) := by
  intro service layers request
  refine ⟨by decide +kernel, by decide +kernel, fun alike => ?_⟩
  have blocks : ∃ block, (service.outcome Metered.engine request once).1 = .blocks block := ⟨_, rfl⟩
  have forwards : ∃ parts content,
      (meteredInner.outcomeBehind request once id layers).1 = .forwards parts content := ⟨_, _, rfl⟩
  obtain ⟨block, came⟩ := blocks
  obtain ⟨parts, content, came'⟩ := forwards
  have same := alike.1
  rw [came, came'] at same
  cases same

end TowerGuard
