import TowerGuard.StageService
import TowerGuard.Answers

/-!
# Composing the standalone layers

`provided_layers`, the service they stack up to over an inner one, and what a request put to it
comes to. Beside it, in the same terms, what the fused pipeline comes to.
-/

namespace TowerGuard

open Text Traced

variable {W : World}

namespace GuardLayer

variable (E : Engine W) (layer : GuardLayer W)

/-- `rate_limit_stage`: the built stage, or one built on demand. -/
def rateLimitStage : Option (RateLimitStage W) :=
  match layer.stage with
  | some stage => some stage
  | none => if layer.rateLimiter.isSome || layer.banState.isSome then some (layer.buildStage E)
    else none

/-- The stages between the ban arm and the tiers, wherever those run. -/
def middle : List (GuardStageLayer W) :=
  (layer.geoBlocking.map .geo).toList ++ (layer.cloudProvider.map .cloud).toList ++
    (layer.userAgent.map .userAgent).toList

/-- `provided_layers`. -/
def providedLayers : List (GuardStageLayer W) :=
  (layer.emergencyMode.map .emergency).toList ++ (layer.httpsEnforcement.map .https).toList ++
    (layer.headersAuth.map .headersAuth).toList ++ (layer.referrerGate.map .referrer).toList ++
    (layer.customChecks.map .customValidators).toList ++
    (layer.timeWindowGate.map .timeWindow).toList ++
    (match layer.rateLimitStage E with
      | some stage => .bans stage :: (layer.middle ++ [.rateLimit stage])
      | none => layer.middle) ++
    (layer.customChecks.map .customRequest).toList

end GuardLayer

/-- The gated service, as the next layer wraps it. -/
def GuardStageService.asInner (gate : GuardStageService W) : StageInner W where
  call := fun request s =>
    let run : Run (Store W) (Event W) Empty _ := gate.call request s
    match run.flow with
    | .pass answer => (some answer, run.state)
    | .unwound => (none, run.state)
  fromStr := gate.inner.fromStr
  fromString := gate.inner.fromString

/-- The layers folded in reverse over a service. -/
def StageInner.behind (inner : StageInner W) (layers : List (GuardStageLayer W)) : StageInner W :=
  layers.reverse.foldl (fun service layer => (layer.wrap service).asInner) inner

/-! ### What the stack comes to -/

/-- How a row of decisions ends. -/
inductive StageEnding where
  | forward
  | blocked (verdict : StageVerdict)
  | panicked

/-- The decisions in order, up to the first that blocks. -/
def StageEnding.of : List (Call (Store W) (Option StageVerdict)) → Store W → StageEnding × Store W
  | [], s => (.forward, s)
  | decision :: decisions, s =>
    match decision s with
    | (some none, s') => StageEnding.of decisions s'
    | (some (some verdict), s') => (.blocked verdict, s')
    | (none, s') => (.panicked, s')

/-- The decisions of the layers on one request. -/
def decisionsOn (request : Request W) (layers : List (GuardStageLayer W)) :
    List (Call (Store W) (Option StageVerdict)) :=
  layers.map (GuardStageLayer.decide (.extract request.toParts) (headerPairs request.headers))

section Behind

variable (inner : StageInner W) (layer : GuardStageLayer W) (layers : List (GuardStageLayer W))
  (request : Request W) (s : Store W)

theorem StageInner.behind_cons :
    inner.behind (layer :: layers) = (layer.wrap (inner.behind layers)).asInner := by
  simp only [behind, List.reverse_cons, List.foldl_append, List.foldl_cons, List.foldl_nil]

/-- A stack renders as the service it is stacked on. -/
theorem StageInner.behind_renderVerdict (verdict : StageVerdict) :
    (inner.behind layers).renderVerdict verdict = inner.renderVerdict verdict := by
  have conversions : (inner.behind layers).fromStr = inner.fromStr ∧
      (inner.behind layers).fromString = inner.fromString := by
    induction layers with
    | nil => exact ⟨rfl, rfl⟩
    | cons layer layers ih =>
      rw [behind_cons]
      exact ih
  cases verdict <;> simp only [renderVerdict, renderBlock, renderRedirect, conversions]

theorem GuardStageService.asInner_call :
    ((layer.wrap inner).asInner).call request s =
      match layer.decide (.extract request.toParts) (headerPairs request.headers) s with
      | (some none, s') => inner.call request s'
      | (some (some verdict), s') => ((inner.renderVerdict verdict).map .ok, s')
      | (none, s') => (none, s') := by
  simp only [asInner]
  rcases decided : layer.decide (.extract request.toParts) (headerPairs request.headers) s with
    ⟨_ | _ | verdict, s'⟩
  · rw [call_of_panic _ decided]
  · rw [call_of_pass _ decided]
    rcases called : inner.call request s' with ⟨_ | answer, s''⟩ <;>
      simp [GuardStageLayer.wrap, Prog.ask, called]
  · rw [call_of_denial _ decided]
    cases rendered : inner.renderVerdict verdict <;>
      simp only [GuardStageLayer.wrap, rendered] <;> rfl

/-- The stack answers what its row of decisions comes to, and calls the service it is stacked on
where none of them blocks. -/
theorem StageInner.behind_call :
    (inner.behind layers).call request s =
      match StageEnding.of (decisionsOn request layers) s with
      | (.forward, s') => inner.call request s'
      | (.blocked verdict, s') => ((inner.renderVerdict verdict).map .ok, s')
      | (.panicked, s') => (none, s') := by
  induction layers generalizing s with
  | nil => rfl
  | cons layer layers ih =>
    rw [behind_cons, GuardStageService.asInner_call]
    simp only [decisionsOn, List.map_cons, StageEnding.of, behind_renderVerdict]
    -- The outermost layer decides first, and hands the request on to the stack behind it.
    rcases layer.decide (.extract request.toParts) (headerPairs request.headers) s with
      ⟨_ | _ | verdict, s'⟩
    · rfl
    · exact ih s'
    · rfl

end Behind

/-! ### Outcomes -/

/-- A block as the client sees it. -/
structure Block where
  status : StatusCode
  body : Bytes
  retryAfter : Option HeaderValue
  location : Option HeaderValue
  deriving DecidableEq

variable (W) in
/-- What a request comes to: it goes on to the wrapped service, with these parts and this content
of its body, it is blocked, or a panic ends it. -/
inductive Outcome where
  | forwards (parts : Parts W) (content : Bytes)
  | blocks (block : Block)
  | panics

/-- A response whose body holds these bytes. -/
def InnerResponse.block (bytes : W.ResBody → Bytes) (response : InnerResponse W) : Block where
  status := response.status
  body := bytes response.body
  retryAfter := HeaderMap.get response.headers "retry-after"
  location := HeaderMap.get response.headers "location"

def StageInner.outcome (inner : StageInner W) (bytes : W.ResBody → Bytes) (request : Request W) :
    StageEnding → Outcome W
  | .forward => .forwards request.toParts request.body.content
  | .blocked verdict =>
    match inner.renderVerdict verdict with
    | some response => .blocks (response.block bytes)
    | none => .panics
  | .panicked => .panics

def Generated.block (generated : Generated) : Block where
  status := generated.status
  body := generated.body
  retryAfter := HeaderMap.get generated.headers "retry-after"
  location := HeaderMap.get generated.headers "location"

/-- A response of the guard's own. -/
def Response.block (response : Response W) : Option Block :=
  match response.body with
  | .generated body => some
      { status := response.status
        body
        retryAfter := HeaderMap.get response.headers "retry-after"
        location := HeaderMap.get response.headers "location" }
  | .passthrough _ => none

/-- The shape of an answer, which without a response processor is what leaves. -/
def Answer.shape : Answer → Option Generated
  | .preflight answer => Generated.preflight answer
  | .block status body => Generated.blockedWithBody status body
  | .gate body => Generated.blockedWithBody 403 body
  | .stage response => some (Generated.stage response)
  | .redirect answer => Generated.redirect answer
  | .oversize => some Generated.oversize
  | .failure => some Generated.failure

def Early.outcome : Early W → Outcome W
  | .excluded parts => .forwards parts []
  | .answered _ answer =>
    match answer.shape with
    | some generated => .blocks generated.block
    | none => .panics

/-- The block hook hears nothing of the ending. -/
def Check.Ending.Unreported : Check.Ending W → Prop
  | .denied _ _ payload => payload = none
  | .forward _ | .panicked _ => True

def Check.Ending.outcome : Check.Ending W → Outcome W
  | .forward final => .forwards final.parts (final.buffered.getD [])
  | .denied _ early _ => early.outcome
  | .panicked _ => .panics

variable (E : Engine W) (service : GuardService W) (request : Request W) (s : Store W)

/-- What the fused pipeline comes to, and in which state. -/
def GuardService.outcome : Outcome W × Store W :=
  let ended := Check.ending E service Check.pipeline (.start request) s
  (ended.1.outcome, ended.2)

/-- What the stacked layers come to. -/
def StageInner.outcomeBehind (inner : StageInner W) (bytes : W.ResBody → Bytes)
    (layers : List (GuardStageLayer W)) : Outcome W × Store W :=
  let ended := StageEnding.of (decisionsOn request layers) s
  (inner.outcome bytes request ended.1, ended.2)

/-- The call ends as the outcome says: with the forward of these parts and this content, with the
block, or in the panic, each from this state. -/
def GuardService.EndsAs : Outcome W × Store W → Prop
  | (.forwards parts content, s') => ∃ buffered t, buffered.getD [] = content ∧
      service.call E request s =
        (forward E service.layer (.extract request.toParts) parts buffered service.inner s').after t
  | (.blocks block, s') => ∃ response t,
      service.call E request s = ⟨.pass (.ok response), s', t⟩ ∧ response.block = some block
  | (.panics, s') => ∃ t, service.call E request s = ⟨.unwound, s', t⟩

/-- The stack ends as the outcome says, by the call of the service it is stacked on where it
forwards. -/
def StageInner.EndsAs (inner stack : StageInner W) (bytes : W.ResBody → Bytes) :
    Outcome W × Store W → Prop
  | (.forwards parts content, s') => parts = request.toParts ∧ content = request.body.content ∧
      stack.call request s = inner.call request s'
  | (.blocks block, s') => ∃ response,
      stack.call request s = (some (.ok response), s') ∧ response.block bytes = block
  | (.panics, s') => stack.call request s = (none, s')

theorem StageInner.endsAs_outcomeBehind (inner : StageInner W) (bytes : W.ResBody → Bytes)
    (layers : List (GuardStageLayer W)) :
    inner.EndsAs request s (inner.behind layers) bytes
      (inner.outcomeBehind request s bytes layers) := by
  have called := inner.behind_call layers request s
  rcases ended : StageEnding.of (decisionsOn request layers) s with ⟨_ | verdict | _, s'⟩ <;>
    rw [ended] at called <;> simp only [outcomeBehind, ended]
  · exact ⟨rfl, rfl, called⟩
  · cases rendered : inner.renderVerdict verdict with
    | none =>
      simp only [outcome, rendered] at called ⊢
      exact called
    | some response =>
      simp only [outcome, rendered] at called ⊢
      exact ⟨response, called, rfl⟩
  · exact called

section Fused

variable {E service request s} {s' : Store W}

theorem finishGenerated_of_plain (plain : service.layer.responseProcessor = none)
    {parts : Parts W} {generated : Generated} :
    (finishGenerated E service.layer parts generated :
      Prog (Store W) (Event W) Empty (Response W)) = pure generated.response := by
  simp only [finishGenerated, passGenerated, applyResponseProcessor, plain, pure_bind]
  rfl

/-- Without a response processor an answer leaves in its shape. -/
theorem render_of_plain (plain : service.layer.responseProcessor = none) (parts : Parts W)
    (answer : Answer) :
    (render E service.layer parts answer : Prog (Store W) (Event W) Empty (Response W)) =
      (do let generated ← Prog.expect answer.shape; pure generated.response) := by
  have pass : ∀ {generated : Generated}, (passGenerated E service.layer parts generated :
      Prog (Store W) (Event W) Empty Generated) = pure generated := by
    intro generated
    simp only [passGenerated, applyResponseProcessor, plain, pure_bind]
    rfl
  cases answer with
  | preflight answer => rfl
  | block status body =>
    simp only [render, blockResponse, Answer.shape, finishGenerated_of_plain plain]
  | gate body =>
    simp only [render, Answer.shape, pass, pure_bind, finishGenerated_of_plain plain]
  | stage response => exact finishGenerated_of_plain plain
  | redirect answer => simp only [render, Answer.shape, finishGenerated_of_plain plain]
  | oversize => exact finishGenerated_of_plain plain
  | failure => exact finishGenerated_of_plain plain

/-- The call ends as its outcome says, where the denial is not one the block hook hears of. -/
theorem GuardService.endsAs_outcome (plain : service.layer.responseProcessor = none)
    (unreported : (Check.ending E service Check.pipeline (.start request) s).1.Unreported) :
    service.EndsAs E request s (service.outcome E request s) := by
  obtain ⟨t, -, answered, -⟩ := call_ending E service request s
  rcases ended : Check.ending E service Check.pipeline (.start request) s with
    ⟨final | ⟨k, early, payload⟩ | k, s'⟩
  · rw [ended] at answered
    simp only [outcome, ended]
    exact ⟨final.buffered, t, rfl, answered⟩
  · rw [ended] at answered unreported
    obtain rfl : payload = none := unreported
    simp only [outcome, ended, Check.Ending.outcome]
    cases early with
    | excluded parts => exact ⟨none, t, rfl, answered⟩
    | answered parts answer =>
      simp only [answerTo, fireBlock, conclude, pure_bind, render_of_plain plain] at answered
      cases shaped : answer.shape with
      | none =>
        simp only [Early.outcome, shaped]
        rw [shaped] at answered
        exact ⟨_, answered⟩
      | some generated =>
        simp only [Early.outcome, shaped]
        rw [shaped] at answered
        exact ⟨generated.response, _, answered, rfl⟩
  · rw [ended] at answered
    simp only [outcome, ended]
    exact ⟨_, answered⟩

end Fused

end TowerGuard
