import TowerGuard.Engine.Values

/-!
# The engine's objects

A stage, the response processor, a resolver or a host closure is a record of the calls
the adapter makes on it. Each call is an arbitrary function of its arguments and of the
state it has a handle on, and may panic. Only the rate-limit stage and the user-agent
stage (which feeds the auto-ban counters) run against the whole store.
-/

namespace TowerGuard

open Text Traced

variable (W : World)

/-! ### Gates and resolvers -/

/-- `IpGateConfig`: the parsed lists, through their one query. -/
structure IpGateConfig where
  evaluate : IpAddr → IpGateVerdict

/-- `RouteIpGate`: the route's own lists. -/
structure RouteIpGate where
  evaluate : IpAddr → RouteIpVerdict
  whitelistConfigured : Bool

structure UserAgentFilter where
  isBlocked : String → Bool

structure GeoIpHandler where
  getCountry : IpAddr → Call W.Other (Option String)

abbrev RouteRateResolver := String → Call W.Other (Option W.RouteRateLimits)

abbrev AuthVerifier := String → Call W.Other Bool

abbrev CustomValidatorFn := CustomRequestContext → Call W.Other (Option ValidatorAnswer)

structure RouteVerifiers where
  auth : Option (AuthVerifier W)
  apiKey : Option (AuthVerifier W)

/-- The route carrier. `exclusions` is its detection view (the five exclusion knobs), and
`rateLimits` its validated rate-limit tier. -/
structure RouteConfig where
  bypassedChecks : List String
  ipWhitelist : Option (List String)
  ipBlacklist : Option (List String)
  blockedCountries : Option (List String)
  whitelistCountries : Option (List String)
  requireHttps : Bool
  maxRequestSize : Option Nat
  requiredHeaders : List (String × String)
  authRequired : Option String
  apiKeyRequired : Bool
  apiKeyHeader : Option String
  authorizationHeaderRequired : Option String
  authVerifier : Option (AuthVerifier W)
  apiKeyVerifier : Option (AuthVerifier W)
  requireReferrer : Option (List String)
  customValidators : List (CustomValidatorFn W)
  timeRestrictions : Option (List (String × String))
  enableSuspiciousDetection : Bool
  blockCloudProviders : List String
  blockedUserAgents : List String
  behaviorRules : List BehaviorRule
  exclusions : RouteDetectionExclusions
  rateLimits : Except EngineError (Option W.RouteRateLimits)

abbrev RouteConfigResolver := String → String → Call W.Other (Option (RouteConfig W))

/-! ### Stages -/

structure EmergencyModeStage where
  decide : (ip : Option String) → (ipString path method : String) →
    Call W.Other (Option EmergencyAnswer)

structure HttpsEnforcementStage where
  decide : (path scheme : String) → (clientHost forwardedProto : Option String) →
    (httpsUrl : String) → Call W.Other (Option HttpsRedirectAnswer)
  decideRoute : (path scheme : String) → (clientHost forwardedProto : Option String) →
    (httpsUrl : String) → (requireHttps : Option Bool) →
    Call W.Other (Option HttpsRedirectAnswer)

structure RequestLoggingStage where
  compose : (ip method path query : Option String) → Call W.Other (Option String)

structure HeadersAuthStage where
  decide : (path : String) → (headers : List (String × String)) →
    Call W.Other (Option (String × StageAnswer))

structure ReferrerStage where
  decide : (path : String) → (referer : Option String) → (ip url method : String) →
    Call W.Other (Option GateAnswer)

structure TimeWindowStage where
  decide : (path ip url method : String) → Call W.Other (Option GateAnswer)

structure CustomChecksStage where
  decideCustomValidators : (path method : String) → (clientIp body : Option String) →
    Call W.Other (Option ValidatorFailure)
  decideCustomRequest : (method path : String) → (clientIp body : Option String) →
    Call W.Other (Option CustomRequestAnswer)

structure GeoStage where
  decide : (ip : Option IpAddr) → (gate : Option IpGateDecision) →
    Call W.Other (Option StageResponse)
  countryCheckLog : (ip : Option IpAddr) → (suspicious country : Option LogLevel) →
    Call W.Other (Option String)

structure CloudProviderStage where
  decide : (ip : Option IpAddr) → (gate : Option IpGateDecision) →
    Call W.Other (Option StageResponse)
  decideRoute : (ip : Option IpAddr) → (gate : Option IpGateDecision) →
    (selectors : W.CloudSelectors) → Call W.Other (Option StageResponse)

structure UserAgentStage where
  decide : (ip : Option IpAddr) → (gate : Option IpGateDecision) → (path : Option String) →
    (userAgent : Option String) → (finding : Option ThreatFinding) →
    Call (Store W) (Option StageResponse)

structure RateLimitStageConfig where
  rateLimit : RateLimitConfig
  ipBan : IpBanConfig
  passiveMode : Bool
  customErrorResponses : CustomErrorResponses

/-- The stateful stage: the ban arm and the rate-limit tiers with the detection feed. -/
structure RateLimitStage where
  config : RateLimitStageConfig
  decideBansObserved : (ip : Option IpAddr) → (observation : Option RequestObservation) →
    Call (Store W) (Option StageResponse)
  decideTiersObserved : (ip : Option IpAddr) → (path : Option String) →
    (routeTiers : Option W.RouteRateLimits) → (gate : Option IpGateDecision) →
    (finding : Option ThreatFinding) → (observation : Option RequestObservation) →
    Call (Store W) (Option StageResponse)

/-! ### Response side -/

/-- `process` may rewrite the view and reports a crossed rule's action. -/
structure ResponseProcessor where
  securityHeaders : Option (SecurityHeadersConfig W)
  cors : Option CorsConfig
  corsEnabled : Bool
  processUsageRules : (endpoint client : String) → (rules : List BehaviorRule) →
    (now : SystemTime) → Call W.Other (List BehaviorAction)
  process : (request : RequestBits) → (bits : ResponseBits) → (now : SystemTime) →
    Call W.Other (ResponseBits × Option BehaviorAction)

structure SecurityEventBus where
  sendEvent : HeadersAppliedEvent → Call W.Other Unit

abbrev OnBlockHook := BlockPayload → Call W.Other Unit

abbrev OnErrorHook := (stage error : String) → (context : List (String × String)) →
  Call W.Other Unit

/-- The callback mutates the view in place; a panic loses what it wrote. -/
abbrev ResponseModifierFn := ResponseBits → Call W.Other ResponseBits

/-- `ScanFn`: the multi-surface scan entry point. -/
abbrev ScanFn := RequestSurfaces → W.ResolvedExclusions → DetectConfig →
  Call W.Other RequestScanVerdict

/-! ### The HTTP exchange -/

/-- The request extensions the guard reads or writes, and all others. -/
structure Extensions where
  clientIp : Option IpAddr
  gateDecision : Option IpGateDecision
  routeConfig : Option (RouteConfig W)
  detectionExclusions : Option RouteDetectionExclusions
  rateLimits : Option W.RouteRateLimits
  other : W.Attachment

/-- `http::request::Parts`. -/
structure Parts where
  method : String
  uri : Uri
  version : HttpVersion
  headers : HeaderMap
  extensions : Extensions W

structure Request extends Parts W where
  body : Body

/-- `GuardBody`. -/
inductive GuardBody where
  | passthrough (body : W.ResBody)
  | generated (bytes : Bytes)

structure Response where
  status : StatusCode
  headers : HeaderMap
  body : GuardBody W

structure InnerResponse where
  status : StatusCode
  headers : HeaderMap
  body : W.ResBody

/-- The wrapped service, with its request body's `From<Bytes>`. -/
structure InnerService where
  call : Request W → Call (Store W) (Except W.InnerError (InnerResponse W))
  fromBytes : Bytes → Body

/-! ### The engine's free functions -/

/-- What the stage builder is given. -/
structure RateLimitStageParts where
  config : RateLimitStageConfig
  limiter : Option RateLimiter
  banManager : Option (IpBanManager × ViolationCounters)
  routeResolver : Option (RouteRateResolver W)
  geoHandler : Option (GeoIpHandler W)
  events : Option (SecurityEventBus W)
  observability : Option ObservabilityConfig
  onBlock : Option (OnBlockHook W)
  distributedStore : Option (SlidingWindowStore × String × Bool)
  distributedBanStore : Option BanStore

/-- What `ResponseProcessor::new` is given, the tracker aside. -/
structure ResponseProcessorParts where
  securityHeaders : Option (SecurityHeadersConfig W)
  cors : Option CorsConfig
  rules : List BehaviorRule
  banManager : IpBanManager
  scanResponseBody : Bool
  maxResponseBodyInspectBytes : Nat
  passiveMode : Bool

/-- The functions of the two engine crates the request path calls. -/
structure Engine where
  usizeMax : Nat
  now : W.Other → SystemTime
  utcNow : W.Other → SystemTime
  allowedPreflightRequestHeader : String
  isPreflight : (method : String) → (headers : List (String × String)) → Bool
  buildPreflightResponse : CorsConfig → PreflightRequest → PreflightAnswer
  routeIpGate : (whitelist blacklist : List String) → Except EngineError RouteIpGate
  parseCountryLists : (whitelist blocked : List String) → CountryGate
  checkCountries : IpAddr → CountryGate → GeoIpHandler W → (passive : Bool) →
    Call W.Other (Option String)
  resolveErrorBody : CustomErrorResponses → (status : Nat) → (fallback : String) → String
  buildBlockPayload : BlockFacts → SensitiveNames → BlockPayload
  fireBlockHook : Option (OnBlockHook W) → BlockPayload → Call W.Other Unit
  hasRules : HeaderAuthRules → Bool
  headersAuthDecide : HeaderAuthRules → RouteVerifiers W → (lookup : String → Option String) →
    Call W.Other (Option HeaderAuthBlock)
  referrerDecide : (referer : Option String) → (domains : List String) → ReferrerVerdict
  referrerMissing : GateAnswer
  referrerInvalid : GateAnswer
  anonymousName : String
  decideCustomValidators : List (String × CustomValidatorFn W) → CustomRequestContext →
    Call W.Other CustomValidatorsVerdict
  hhmmInZone : SystemTime → (timezone : Option String) → String
  isWithin : TimeWindow → (current : String) → Bool
  timeWindowBlock : GateAnswer
  detectionEnabled : (enabled : Bool) → (route : Option Bool) → Bool
  resolve : Option DetectionExclusionConfig → Option RouteDetectionExclusions →
    W.ResolvedExclusions
  scanRequest : ScanFn W
  parseCloudSelectors : List String → Except EngineError W.CloudSelectors
  /-- `UserAgentFilter::from_trusted_patterns`, for the patterns of a route. -/
  userAgentFilter : List String → Except EngineError UserAgentFilter
  securityHeaders : SecurityHeadersConfig W → List (String × String)
  defaultRateLimitConfig : RateLimitConfig
  defaultIpBanConfig : IpBanConfig
  rateLimitStage : RateLimitStageParts W → RateLimitStage W

end TowerGuard
