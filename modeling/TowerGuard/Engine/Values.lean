import TowerGuard.Http
import TowerGuard.Traced.Program

/-!
# The engine's values

The adapter is written against two crates that are not part of it,
`guard_core_engine` and `guard_core_rs`. This module has the data that passes between
the adapter and those crates: decisions, answers, configurations and the route carrier.
What the adapter never looks into is a type of the `World` the development is
parametrised by.
-/

namespace TowerGuard

open Text Traced

/-- The types the adapter only passes on. `Limits` is what the engine stage counts in
(rate-limit windows and violation counters), `Other` all remaining state: ban stores,
the behavior tracker, the clock, and whatever the host's closures touch. -/
structure World where
  Limits : Type
  Other : Type
  Attachment : Type
  ResBody : Type
  InnerError : Type
  RouteRateLimits : Type
  ResolvedExclusions : Type
  CloudSelectors : Type
  HeaderSettings : Type

/-- The state a request runs against. -/
structure Store (W : World) where
  limits : W.Limits
  other : W.Other

/-- Foreign code without a handle on the engine stage. -/
def onOther {W : World} {α : Type} (c : Call W.Other α) : Call (Store W) α := fun s =>
  ((c s.other).1, { s with other := (c s.other).2 })

@[simp, grind =] theorem onOther_answer {W : World} {α : Type} (c : Call W.Other α)
    (s : Store W) : (onOther c s).1 = (c s.other).1 := rfl

@[simp, grind =] theorem onOther_limits {W : World} {α : Type} (c : Call W.Other α)
    (s : Store W) : (onOther c s).2.limits = s.limits := rfl

abbrev SystemTime := Int

/-! ### Configuration values -/

structure DetectConfig where
  maxContentLength : Nat
  maxFullScanBytes : Nat
  preserveAttackPatterns : Bool
  semanticThreshold : Float
  threatScoreThreshold : Float
  binaryMinRunLength : Nat
  maxScanValues : Nat
  maxScanChars : Nat
  maxJsonDepth : Nat

inductive LogLevel where
  | info | debug | warning | error | critical
  deriving DecidableEq

structure SensitiveNames where
  headers : Option (List String)
  params : Option (List String)
  bodyFields : Option (List String)
  deriving DecidableEq

structure ObservabilityConfig where
  logSuspiciousLevel : Option LogLevel
  logRequestLevel : Option LogLevel
  logCountryCheckLevel : Option LogLevel
  mutedCheckLogs : Option (List String)
  sensitive : SensitiveNames
  deriving DecidableEq

/-- `CustomErrorResponses`: a status to its body override. -/
abbrev CustomErrorResponses := List (Nat × String)

structure RateLimitConfig where
  enableRateLimiting : Bool
  rateLimit : Nat
  rateLimitWindow : Nat
  enableRateLimitAutoBan : Bool
  deriving DecidableEq

structure ThreatBanEntry where
  threshold : Nat
  duration : Nat
  deriving DecidableEq

structure IpBanConfig where
  enableIpBanning : Bool
  autoBanThreshold : Nat
  autoBanDuration : Nat
  threatBanConfig : List (String × ThreatBanEntry)
  deriving DecidableEq

/-- Handles: clones of one handle name the same store, each `new()` a store of its own. -/
structure IpBanManager where
  store : Nat
  deriving DecidableEq

structure ViolationCounters where
  store : Nat
  deriving DecidableEq

structure RateLimiter where
  store : Nat
  config : RateLimitConfig
  deriving DecidableEq

structure SlidingWindowStore where
  store : Nat
  deriving DecidableEq

structure BanStore where
  store : Nat
  deriving DecidableEq

structure DetectionExclusionConfig where
  excludedDetectionHeaders : List String
  excludedDetectionParams : List String
  excludedDetectionBodyFields : List String
  enabledDetectionCategories : Option (List String)
  detectionScanBody : Option Bool
  deriving DecidableEq

/-- The per-route surface: a present value takes the global one's place. -/
structure RouteDetectionExclusions where
  excludedDetectionHeaders : Option (List String)
  excludedDetectionParams : Option (List String)
  excludedDetectionBodyFields : Option (List String)
  enabledDetectionCategories : Option (List String)
  detectionScanBody : Option Bool
  deriving DecidableEq

structure CorsConfig where
  enabled : Bool
  allowOrigins : List String
  allowMethods : List String
  allowHeaders : List String
  allowCredentials : Bool
  maxAge : Nat
  deriving DecidableEq

structure SecurityHeadersConfig (W : World) where
  enabled : Bool
  settings : W.HeaderSettings

/-- An engine constructor's refusal, by its message. -/
structure EngineError where
  message : String
  deriving DecidableEq

/-! ### Decisions and answers -/

structure IpGateDecision where
  isWhitelisted : Bool
  isExempt : Bool
  deriving DecidableEq

/-- The skip condition every check with a skip state reads. -/
def IpGateDecision.skips (decision : IpGateDecision) : Bool :=
  decision.isWhitelisted || decision.isExempt

structure IpGateDenial where
  reason : String
  deriving DecidableEq

inductive IpGateVerdict where
  | allowed (decision : IpGateDecision)
  | denied (denial : IpGateDenial)
  deriving DecidableEq

inductive RouteIpVerdict where
  | unrestricted | allowed | denied
  deriving DecidableEq

/-- The parsed country lists. -/
structure CountryGate where
  whitelistCountries : List String
  blockedCountries : List String
  deriving DecidableEq

structure EmergencyAnswer where
  status : Nat
  body : String
  deriving DecidableEq

structure HttpsRedirectAnswer where
  status : Nat
  location : String
  deriving DecidableEq

/-- The answer of the required-headers stage. -/
structure StageAnswer where
  status : StatusCode
  body : String
  deriving DecidableEq

structure HeaderAuthBlock where
  status : Nat
  body : String
  deriving DecidableEq

structure GateAnswer where
  status : Nat
  body : String
  deriving DecidableEq

inductive ReferrerVerdict where
  | allowed | missing | invalid (domain : String)
  deriving DecidableEq

structure StageResponse where
  status : StatusCode
  body : String
  customBody : Option String
  retryAfter : Option Nat
  deriving DecidableEq

structure CustomResponse where
  status : Option Nat
  body : String
  deriving DecidableEq

inductive ValidatorAnswer where
  | response (response : CustomResponse)
  | truthyNonResponse
  deriving DecidableEq

inductive CustomValidatorsVerdict where
  | passed
  | failed (name : String) (block : Option CustomResponse)
  deriving DecidableEq

structure ValidatorFailure where
  status : Option Nat
  body : String
  deriving DecidableEq

structure CustomRequestAnswer where
  status : Option Nat
  body : String
  deriving DecidableEq

structure CustomRequestContext where
  method : String
  path : String
  clientIp : Option String
  body : Option String
  deriving DecidableEq

structure RequestScanVerdict where
  isThreat : Bool
  categories : List String
  reason : String
  deriving DecidableEq

/-- The views of a request one scan judges. -/
structure RequestSurfaces where
  urlPath : Option String
  queryParams : List (String × String)
  headers : List (String × String)
  contentType : String
  rawBody : String
  deriving DecidableEq

structure ThreatFinding where
  isThreat : Bool
  categories : List String
  triggerInfo : String
  deriving DecidableEq

structure RequestObservation where
  method : Option String
  url : Option String
  userAgent : Option String
  deriving DecidableEq

structure BehaviorRule where
  ruleType : String
  threshold : Nat
  window : Nat
  pattern : String
  action : String
  banDuration : Option Nat
  correlateWithDetection : Bool
  deriving DecidableEq

structure BehaviorAction where
  isBan : Bool
  deriving DecidableEq

structure PreflightRequest where
  origin : Option String
  requestMethod : Option String
  requestHeadersRaw : Option String
  deriving DecidableEq

structure PreflightAnswer where
  statusCode : Nat
  body : String
  headers : List (String × String)
  deriving DecidableEq

/-- What the response-side pass reads of the request. -/
structure RequestBits where
  method : String
  urlPath : String
  clientIp : String
  origin : Option String
  deriving DecidableEq

/-- The response view the processor and the modifier write. `headers` is a sorted map. -/
structure ResponseBits where
  status : Nat
  body : Option Bytes
  headers : List (String × String)
  deriving DecidableEq

/-- What `build_block_payload` is called with, besides the redaction names. -/
structure BlockFacts where
  checkName : String
  reason : String
  triggerInfo : String
  passiveMode : Bool
  clientIp : String
  url : String
  method : String
  statusCode : Option Nat
  deriving DecidableEq

structure BlockPayload where
  checkName : String
  reason : String
  triggerInfo : String
  passiveMode : Bool
  clientIp : String
  path : String
  method : String
  statusCode : Option Nat
  deriving DecidableEq

/-- The composed `security_headers_applied` event. -/
structure HeadersAppliedEvent where
  path : String
  headersCount : Nat
  hasCsp : Bool
  hasHsts : Bool
  clientIp : String
  deriving DecidableEq

structure TimeWindow where
  start : Option String
  end_ : Option String
  timezone : Option String
  deriving DecidableEq

structure RequiredHeader where
  name : String
  expected : String
  deriving DecidableEq

structure HeaderAuthRules where
  requiredHeaders : List RequiredHeader
  authRequired : Option String
  apiKeyRequired : Bool
  apiKeyHeader : Option String
  authorizationHeaderRequired : Option String
  deriving DecidableEq

end TowerGuard
