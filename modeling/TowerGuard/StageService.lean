import TowerGuard.Service

/-!
# The standalone stage layers

One stage in front of a service: decide over the request facts, render the denial, or call
the wrapped service in place with the request as it came.
-/

namespace TowerGuard

open Text Traced

variable {W : World} {ε : Type}

variable (W) in
/-- The service a stage wraps, with its response body's two conversions. -/
structure StageInner where
  call : Request W → Call (Store W) (Except W.InnerError (InnerResponse W))
  fromStr : String → W.ResBody
  fromString : String → W.ResBody

/-! ### Verdicts -/

inductive StageVerdict where
  | emergency (answer : EmergencyAnswer)
  | redirect (answer : HttpsRedirectAnswer)
  | headersAuth (answer : StageAnswer)
  | gate (answer : GateAnswer)
  | validator (failure : ValidatorFailure)
  | customRequest (answer : CustomRequestAnswer)
  | stage (response : StageResponse)

namespace StageInner

variable (inner : StageInner W)

/-- `render_block`: a status that is no HTTP status becomes a 403. -/
def renderBlock (status : Nat) (body : String) (retryAfter : Option Nat) : InnerResponse W where
  -- Unlike `blocked_with_body`, which panics here.
  status := (StatusCode.fromU16 status).getD .forbidden
  headers :=
    match retryAfter with
    | some after => HeaderMap.insertText [] "retry-after" (toString after)
    | none => []
  body := inner.fromString body

/-- `render_redirect`: a status that is no HTTP status panics (`expect`). -/
def renderRedirect (redirect : HttpsRedirectAnswer) : Option (InnerResponse W) :=
  (StatusCode.fromU16 redirect.status).map fun status =>
    { status
      headers := HeaderMap.insertText [] "location" redirect.location
      body := inner.fromStr "" }

/-- `render_verdict`. -/
def renderVerdict : StageVerdict → Option (InnerResponse W)
  | .emergency answer => some (inner.renderBlock answer.status answer.body none)
  | .redirect redirect => inner.renderRedirect redirect
  | .headersAuth answer => some (inner.renderBlock answer.status.asU16 answer.body none)
  | .gate answer => some (inner.renderBlock answer.status answer.body none)
  | .validator failure => some (inner.renderBlock (failure.status.getD 200) "" none)
  | .customRequest answer => some (inner.renderBlock (answer.status.getD 200) "" none)
  | .stage response =>
    some (inner.renderBlock response.status.asU16 (response.customBody.getD response.body)
      response.retryAfter)

end StageInner

/-! ### The host -/

namespace Stages

/-- `rsplit`: the pieces between separators, the last one first. -/
def rsplit (separator : Char) (text : List Char) : List (List Char) :=
  (text.splitOn separator).reverse

/-- `strip_prefix`. -/
def stripPrefix (first : Char) : List Char → Option (List Char)
  | [] => none
  | c :: rest => if c = first then some rest else none

/-- `is_ascii_digit`, of a byte. -/
def isAsciiDigit (b : UInt8) : Bool := 0x30 ≤ b.toNat && b.toNat ≤ 0x39

/-- `host_of_authority`, as the module of the standalone stages has it once more. -/
def hostOfAuthority (value : String) : String :=
  let hostPort := (rsplit '@' value.toList).headD []
  match stripPrefix '[' hostPort with
  | some rest => String.ofList ((rest.splitOn ']').headD rest)
  | none =>
    match splitOnce ':' hostPort with
    | some (host, port) =>
      if port ≠ [] ∧ (encode port).all isAsciiDigit then String.ofList host
      else String.ofList hostPort
    | none => String.ofList hostPort

end Stages

/-! ### Decisions -/

variable (W) in
/-- `GuardStageLayer`. -/
inductive GuardStageLayer where
  | emergency (stage : EmergencyModeStage W)
  | https (stage : HttpsEnforcementStage W)
  | headersAuth (stage : HeadersAuthStage W)
  | referrer (stage : ReferrerStage W)
  | customValidators (stage : CustomChecksStage W)
  | timeWindow (stage : TimeWindowStage W)
  | bans (stage : RateLimitStage W)
  | geo (stage : GeoStage W)
  | cloud (stage : CloudProviderStage W)
  | userAgent (stage : UserAgentStage W)
  | rateLimit (stage : RateLimitStage W)
  | customRequest (stage : CustomChecksStage W)

namespace GuardStageLayer

/-- The context of the custom checks; a standalone stage sees no buffered body. -/
def unbuffered (facts : RequestFacts) : CustomRequestContext := customContext facts none

/-- `Decides::decide`, for the stage or position wrapper of each variant. -/
def decide (facts : RequestFacts) (headers : List (String × String)) :
    GuardStageLayer W → Call (Store W) (Option StageVerdict)
  | .emergency stage =>
    Call.map (Option.map .emergency)
      (onOther (stage.decide facts.attributed facts.ipString facts.path facts.method))
  | .https stage =>
    Call.map (Option.map .redirect)
      (onOther (stage.decide facts.path facts.scheme (facts.host.map hostOfAuthority)
        facts.xForwardedProto facts.httpsUrl))
  | .headersAuth stage =>
    Call.map (Option.map fun (_, answer) => .headersAuth answer)
      (onOther (stage.decide facts.path headers))
  | .referrer stage =>
    Call.map (Option.map .gate)
      (onOther (stage.decide facts.path facts.referer facts.ipString facts.path facts.method))
  | .customValidators stage =>
    Call.map (Option.map .validator)
      (onOther (stage.decideCustomValidators facts.path facts.method facts.attributed none))
  | .timeWindow stage =>
    Call.map (Option.map .gate)
      (onOther (stage.decide facts.path facts.ipString facts.path facts.method))
  -- A standalone stage passes no observation, no finding and no route tier.
  | .bans stage => Call.map (Option.map .stage) (stage.decideBansObserved facts.ip none)
  | .geo stage => Call.map (Option.map .stage) (onOther (stage.decide facts.ip facts.gate))
  | .cloud stage => Call.map (Option.map .stage) (onOther (stage.decide facts.ip facts.gate))
  | .userAgent stage =>
    Call.map (Option.map .stage)
      (stage.decide facts.ip facts.gate (some facts.path) facts.userAgent none)
  | .rateLimit stage =>
    Call.map (Option.map .stage)
      (stage.decideTiersObserved facts.ip (some facts.path) none facts.gate none none)
  | .customRequest stage =>
    Call.map (Option.map .customRequest)
      (onOther (stage.decideCustomRequest facts.method facts.path facts.attributed none))

/-- The question the decision answers. -/
def question (facts : RequestFacts) : GuardStageLayer W → Consult W
  | .emergency _ => .emergencyMode facts.attributed
  | .https _ => .httpsEnforcement (facts.host.map hostOfAuthority) facts.xForwardedProto none
  | .headersAuth _ => .headersAuth facts.path
  | .referrer _ => .referrerGate facts.path facts.referer
  | .customValidators _ => .customValidators (unbuffered facts)
  | .timeWindow _ => .timeWindowGate facts.path
  | .bans _ => .bans facts.ip
  | .geo _ => .geo facts.ip facts.gate
  | .cloud _ => .cloud facts.ip facts.gate
  | .userAgent _ => .userAgent facts.ip facts.gate none
  | .rateLimit _ => .rateLimit facts.ip facts.gate none
  | .customRequest _ => .customRequest (unbuffered facts)

end GuardStageLayer

/-! ### The service -/

variable (W) in
/-- `GuardStageService`: the `Gate` of one variant. -/
structure GuardStageService where
  inner : StageInner W
  decides : GuardStageLayer W

/-- `Layer::layer`. -/
def GuardStageLayer.wrap (layer : GuardStageLayer W) (inner : StageInner W) :
    GuardStageService W where
  inner := inner
  decides := layer

/-- `pass_gate`, the call of every variant. -/
def GuardStageService.call (gate : GuardStageService W) (request : Request W) :
    Prog (Store W) (Event W) ε (Except W.InnerError (InnerResponse W)) := do
  let facts := RequestFacts.extract request.toParts
  let headers := headerPairs request.headers
  -- Everything happens in place: no clone of the wrapped service, and no buffering.
  match ← judge (gate.decides.question facts) (gate.decides.decide facts headers) with
  | some verdict => do
    let response ← Prog.expect (gate.inner.renderVerdict verdict)
    pure (.ok response)
  | none =>
    Prog.ask (fun answer => ⟨.inner request, if answer.isSome then .passed else .panicked⟩)
      (gate.inner.call request)

/-! A decision panics, lets the request through, or denies it. -/

section Decided

variable (gate : GuardStageService W) {request : Request W} {s s' : Store W}

theorem GuardStageService.call_of_panic (decided : gate.decides.decide (.extract request.toParts)
    (headerPairs request.headers) s = (none, s')) :
    (gate.call request : Prog (Store W) (Event W) ε _) s =
      ⟨.unwound, s', [⟨gate.decides.question (.extract request.toParts), .panicked⟩]⟩ := by
  unfold GuardStageService.call
  exact Prog.bind_unwound (judge_unwound decided)

theorem GuardStageService.call_of_pass (decided : gate.decides.decide (.extract request.toParts)
    (headerPairs request.headers) s = (some none, s')) :
    (gate.call request : Prog (Store W) (Event W) ε _) s =
      (Prog.ask (fun answer => ⟨.inner request, if answer.isSome then .passed else .panicked⟩)
        (gate.inner.call request) s').after
          [⟨gate.decides.question (.extract request.toParts), .passed⟩] := by
  unfold GuardStageService.call
  exact Prog.bind_pass (judge_pass decided)

theorem GuardStageService.call_of_denial {verdict : StageVerdict}
    (decided : gate.decides.decide (.extract request.toParts) (headerPairs request.headers) s =
      (some (some verdict), s')) :
    (gate.call request : Prog (Store W) (Event W) ε _) s =
      ((do let response ← Prog.expect (gate.inner.renderVerdict verdict); pure (.ok response) :
        Prog (Store W) (Event W) ε (Except W.InnerError (InnerResponse W))) s').after
          [⟨gate.decides.question (.extract request.toParts), .denied⟩] := by
  unfold GuardStageService.call
  exact Prog.bind_pass (judge_pass decided)

end Decided

end TowerGuard
