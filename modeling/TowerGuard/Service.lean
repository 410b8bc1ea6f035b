import TowerGuard.Checks

/-!
# `GuardService::call`

The pipeline in the order of the source, the rendering of an early answer, and the forward
to the wrapped service with the response-side pass over what it answered.
-/

namespace TowerGuard

open Text Traced

variable {W : World} {ε : Type}

/-- The request as it goes on: the parts, and the buffer as its body. -/
def InnerService.rebuild (inner : InnerService W) (parts : Parts W) (buffered : Option Bytes) :
    Request W :=
  { parts with body := inner.fromBytes (buffered.getD []) }

/-- The response-side pass over what the wrapped service answered; its error passes
through unchanged. -/
def passForwarded (E : Engine W) (layer : GuardLayer W) (facts : RequestFacts) :
    Except W.InnerError (InnerResponse W) →
      Prog (Store W) (Event W) ε (Except W.InnerError (Response W))
  | .error error => pure (.error error)
  | .ok response => do
    let (modified, headers) ← applyResponseProcessor E layer (.fromFacts facts)
      response.status.asU16 response.headers .forwarded
    pure (.ok
      { status := overrideStatus response.status modified
        headers := headers
        body := .passthrough response.body })

/-- `forward`. -/
def forward (E : Engine W) (layer : GuardLayer W) (facts : RequestFacts) (parts : Parts W)
    (buffered : Option Bytes) (inner : InnerService W) :
    Prog (Store W) (Event W) ε (Except W.InnerError (Response W)) := do
  let rebuilt := inner.rebuild parts buffered
  let answer ← Prog.ask
    (fun answer => ⟨.inner rebuilt, if answer.isSome then .passed else .panicked⟩)
    (inner.call rebuilt)
  passForwarded E layer facts answer

/-- A guard answer as the response that leaves. The IP gate's denial renders through its
own pass (`block_response_owned`) before the one every answer takes. -/
def render (E : Engine W) (layer : GuardLayer W) (parts : Parts W) :
    Answer → Prog (Store W) (Event W) ε (Response W)
  | .preflight answer => do
    let generated ← Prog.expect (Generated.preflight answer)
    pure generated.response
  | .block status body => blockResponse E layer parts status body
  | .gate body => do
    let generated ← Prog.expect (Generated.blockedWithBody 403 body)
    let denial ← passGenerated E layer parts generated
    finishGenerated E layer parts denial
  | .stage response => finishGenerated E layer parts (Generated.stage response)
  | .redirect answer => do
    let generated ← Prog.expect (Generated.redirect answer)
    finishGenerated E layer parts generated
  | .oversize => finishGenerated E layer parts Generated.oversize
  | .failure => finishGenerated E layer parts Generated.failure

namespace GuardService

/-- The async block up to its forward: the parts and the buffer the request goes on with. -/
def screening (E : Engine W) (service : GuardService W) (request : Request W) :
    Guarded W (Parts W × Option Bytes) := do
  let layer := service.layer
  let parts := request.toParts
  let facts := RequestFacts.extract parts
  excludePaths layer facts parts
  corsPreflight E layer facts parts
  let route ← routeCarrier layer facts parts
  usageRules E layer facts parts route
  let skipGlobalIpLists ← routeIpLists E facts parts route
  let skipGlobalCountries ← routeCountries E layer facts parts route
  -- From here on the parts may carry the gate's decision; `facts` does not.
  let parts ← ipGate E layer parts route skipGlobalIpLists
  emergencyMode layer facts parts
  httpsEnforcement layer facts parts route
  requestLogging layer facts
  countryLog layer facts
  -- The body is polled here and nowhere else.
  let buffered ← bodyBuffering E layer parts request.body route
  routeHeadersAuth E parts route
  headersAuth layer facts parts
  routeReferrer E facts parts route
  referrerGate layer facts parts
  routeValidators E facts parts route buffered
  customValidators layer facts parts buffered
  routeTimeWindow E parts route
  timeWindowGate layer facts parts
  let verdict ← scan E layer parts route buffered
  let stage := service.stage
  let finding := threatFinding verdict
  -- The engine stage is asked twice, with the geo, cloud and user-agent arms in between.
  bans stage facts parts route
  geo layer facts parts route skipGlobalCountries
  cloud E layer facts parts route
  routeUserAgents E facts parts route
  userAgent layer facts parts finding
  rateLimit stage facts parts route finding
  detection E layer stage facts parts verdict
  customRequest layer facts parts buffered
  pure (parts, buffered)

/-- What follows an early return: an excluded path forwards with no body at all, an answer
renders. -/
def conclude (E : Engine W) (service : GuardService W) (facts : RequestFacts) :
    Early W → Prog (Store W) (Event W) ε (Except W.InnerError (Response W))
  | .excluded parts => forward E service.layer facts parts none service.inner
  | .answered parts answer => do
    let response ← render E service.layer parts answer
    pure (.ok response)

/-- `Service::call`. -/
def call (E : Engine W) (service : GuardService W) (request : Request W) :
    Prog (Store W) (Event W) Empty (Except W.InnerError (Response W)) :=
  let facts := RequestFacts.extract request.toParts
  (service.screening E request).settle
    (fun (parts, buffered) => forward E service.layer facts parts buffered service.inner)
    (service.conclude E facts)

end GuardService

end TowerGuard
