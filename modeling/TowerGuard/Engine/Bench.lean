import TowerGuard.StageService
import TowerGuard.Config

/-!
# A small engine

An engine over one ledger of bans, for the instances of the theorems at concrete
configurations. It follows the two crates where a configuration asks it to and lets
everything else pass.
-/

namespace TowerGuard.Bench

open Text Traced

/-- Live and expired bans of every store, the time, and which response was given whom when. -/
structure Ledger where
  now : SystemTime
  bans : List (Nat × String × SystemTime)
  responses : List (SystemTime × String × Nat)

/-! ### Values of any world -/

section Plain

variable {W : World}

/-- A processor with no headers, no rules and a ban store of its own. -/
def plainProcessor : ResponseProcessorParts W where
  securityHeaders := none
  cors := none
  rules := []
  banManager := ⟨0⟩
  scanResponseBody := false
  maxResponseBodyInspectBytes := 0
  passiveMode := false

/-- A scan that flags a `<script` in the body. -/
def scanRequest : ScanFn W := fun surfaces _ _ =>
  Call.returning
    (if "<script".toList.isPrefixOf surfaces.rawBody.toList then
      { isThreat := true, categories := ["xss"], reason := "body: xss" }
    else { isThreat := false, categories := [], reason := "" })

/-- The first required header that is absent blocks. -/
def headersAuthDecide (rules : HeaderAuthRules) (_ : RouteVerifiers W)
    (lookup : String → Option String) : Call W.Other (Option HeaderAuthBlock) :=
  Call.returning
    ((rules.requiredHeaders.find? fun header => (lookup header.name).isNone).map fun header =>
      { status := 400, body := "Missing required header: " ++ header.name })

def defaultIpBanConfig : IpBanConfig where
  enableIpBanning := true
  autoBanThreshold := 10
  autoBanDuration := 3600
  threatBanConfig := []

/-- A configuration that asks for detection only. -/
def plainConfig (settings : W.HeaderSettings) : SecurityConfig W where
  detectionMaxContentLength := 10000
  detectionMaxBodyInspectBytes := 262144
  detectionPreserveAttackPatterns := true
  detectionSemanticThreshold := 0.7
  detectionThreatScoreThreshold := 1.0
  detectionBinaryMinRunLength := 16
  detectionMaxScanValues := 512
  detectionMaxScanChars := 65536
  detectionMaxJsonDepth := 32
  passiveMode := false
  enablePenetrationDetection := true
  excludePaths := []
  whitelist := none
  blacklist := []
  exemptIps := []
  enableRateLimiting := false
  rateLimit := 10
  rateLimitWindow := 60
  enableIpBanning := false
  ipBanConfig := defaultIpBanConfig
  enforceHttps := false
  trustXForwardedProto := false
  emergencyMode := false
  emergencyWhitelist := []
  customErrorResponses := []
  onBlock := none
  excludedDetectionHeaders := []
  excludedDetectionParams := []
  excludedDetectionBodyFields := []
  enabledDetectionCategories := []
  detectionScanBody := true
  logRequestLevel := none
  logSuspiciousLevel := none
  logCountryCheckLevel := none
  mutedCheckLogs := []
  logSensitiveHeaders := []
  logSensitiveParams := []
  logSensitiveBodyFields := []
  blockedUserAgents := []
  securityHeaders := { enabled := false, settings }
  enableCors := false
  corsAllowOrigins := []
  corsAllowMethods := []
  corsAllowHeaders := []
  corsAllowCredentials := false
  corsMaxAge := 600
  globalBehaviorRules := []
  behaviorScanResponseBody := false
  behaviorMaxResponseBodyInspectBytes := 262144

/-- A carrier that asks for nothing. -/
def openRoute : RouteConfig W where
  bypassedChecks := []
  ipWhitelist := none
  ipBlacklist := none
  blockedCountries := none
  whitelistCountries := none
  requireHttps := false
  maxRequestSize := none
  requiredHeaders := []
  authRequired := none
  apiKeyRequired := false
  apiKeyHeader := none
  authorizationHeaderRequired := none
  authVerifier := none
  apiKeyVerifier := none
  requireReferrer := none
  customValidators := []
  timeRestrictions := none
  enableSuspiciousDetection := true
  blockCloudProviders := []
  blockedUserAgents := []
  behaviorRules := []
  exclusions := ⟨none, none, none, none, none⟩
  rateLimits := .ok none

/-- `method` to `path`, with this client and carrier. -/
def requestFrom (attached : W.Attachment) (client : Option IpAddr) (method path : String)
    (route : Option (RouteConfig W)) (body : Body) : Request W where
  method := method
  uri := { scheme := none, authority := none, path := path, query := none }
  version := .http11
  headers := []
  extensions :=
    { clientIp := client
      gateDecision := none
      routeConfig := route
      detectionExclusions := none
      rateLimits := none
      other := attached }
  body := body

end Plain

/-! ### Engine -/

abbrev world : World where
  Limits := Nat
  Other := Ledger
  Attachment := Unit
  ResBody := Unit
  InnerError := Unit
  RouteRateLimits := Unit
  ResolvedExclusions := List String
  CloudSelectors := List String
  HeaderSettings := Unit

/-- A store holds a ban of this client that has not expired. -/
def Ledger.banned (ledger : Ledger) (store : Nat) (client : String) : Bool :=
  ledger.bans.any fun (holder, banned, until_) =>
    holder = store && banned = client && ledger.now < until_

def Ledger.ban (ledger : Ledger) (store : Nat) (client : String) (seconds : Nat) : Ledger :=
  { ledger with bans := (store, client, ledger.now + seconds) :: ledger.bans }

/-- The responses of this status that the client was given in the window. -/
def Ledger.given (ledger : Ledger) (window : Nat) (client : String) (status : Nat) : Nat :=
  ledger.responses.countP fun (at_, told, got) =>
    ledger.now < at_ + window && told = client && got = status

def banResponse : StageResponse where
  status := .forbidden
  body := bannedMessage
  customBody := none
  retryAfter := none

def agentResponse : StageResponse where
  status := .forbidden
  body := "User-Agent not allowed"
  customBody := none
  retryAfter := none

def rateLimitStage (parts : RateLimitStageParts world) : RateLimitStage world where
  config := parts.config
  decideBansObserved := fun ip _ s =>
    let banned := parts.config.ipBan.enableIpBanning && !parts.config.passiveMode &&
      (ip.any fun ip => parts.banManager.any fun (manager, _) =>
        s.other.banned manager.store ip.display)
    (some (if banned then some banResponse else none), s)
  decideTiersObserved := fun _ _ _ _ _ _ => Call.returning none

/-- A processor whose `return_pattern` ban rules count the responses of their status, and are
crossed by the first past the threshold. -/
def responseProcessor (parts : ResponseProcessorParts world) : ResponseProcessor world where
  securityHeaders := parts.securityHeaders
  cors := parts.cors
  corsEnabled := parts.cors.isSome
  processUsageRules := fun _ _ _ _ => Call.returning []
  process := fun request bits _ ledger =>
    let crossed := parts.rules.find? fun rule => rule.ruleType = "return_pattern" &&
      rule.pattern = "status:" ++ toString bits.status && rule.action = "ban" &&
      decide (rule.threshold ≤ ledger.given rule.window request.clientIp bits.status)
    let counted := { ledger with
      responses := (ledger.now, request.clientIp, bits.status) :: ledger.responses }
    match crossed with
    | some rule =>
      (some (bits, some ⟨true⟩),
        counted.ban parts.banManager.store request.clientIp (rule.banDuration.getD 3600))
    | none => (some (bits, none), counted)

def userAgentFilter (patterns : List String) : UserAgentFilter where
  isBlocked := fun userAgent => patterns.contains userAgent

def ipGate (whitelist blacklist exempt : List String) : IpGateConfig where
  evaluate := fun ip =>
    let listed := fun entries : List String => entries.contains ip.display
    if listed blacklist then .denied ⟨"blacklisted"⟩
    else if listed whitelist || listed exempt || whitelist.isEmpty then
      .allowed ⟨listed whitelist, listed exempt⟩
    else .denied ⟨"not whitelisted"⟩

def routeIpGate (whitelist blacklist : List String) : RouteIpGate where
  evaluate := fun ip =>
    if blacklist.contains ip.display then .denied
    else if whitelist.isEmpty then .unrestricted
    else if whitelist.contains ip.display then .allowed
    else .denied
  whitelistConfigured := !whitelist.isEmpty

def engine : Engine world where
  usizeMax := 0xFFFFFFFFFFFFFFFF
  now := Ledger.now
  utcNow := Ledger.now
  allowedPreflightRequestHeader := "access-control-request-method"
  isPreflight := fun method headers => method = "OPTIONS" &&
    headers.any fun entry => entry.1 = "access-control-request-method"
  buildPreflightResponse := fun cors _ =>
    { statusCode := 204
      body := ""
      headers := [("access-control-allow-origin", ",".intercalate cors.allowOrigins)] }
  routeIpGate := fun whitelist blacklist => .ok (routeIpGate whitelist blacklist)
  parseCountryLists := CountryGate.mk
  checkCountries := fun ip gate handler passive other =>
    match handler.getCountry ip other with
    | (some country, other') =>
      (some (country.filter fun country => gate.blockedCountries.contains country && !passive),
        other')
    | (none, other') => (none, other')
  resolveErrorBody := fun responses status fallback => (responses.lookup status).getD fallback
  buildBlockPayload := fun facts _ =>
    { checkName := facts.checkName
      reason := facts.reason
      triggerInfo := facts.triggerInfo
      passiveMode := facts.passiveMode
      clientIp := facts.clientIp
      path := facts.url
      method := facts.method
      statusCode := facts.statusCode }
  fireBlockHook := fun hook payload => (hook.map fun hook => hook payload).getD (Call.returning ())
  hasRules := fun rules => !rules.requiredHeaders.isEmpty
  headersAuthDecide := headersAuthDecide
  referrerDecide := fun referer domains =>
    match referer with
    | none => .missing
    | some referer => if domains.contains referer then .allowed else .invalid referer
  referrerMissing := { status := 403, body := "Referrer required" }
  referrerInvalid := { status := 403, body := "Invalid referrer" }
  anonymousName := "anonymous"
  decideCustomValidators := fun _ _ => Call.returning .passed
  hhmmInZone := fun _ _ => "12:00"
  isWithin := fun _ _ => true
  timeWindowBlock := { status := 403, body := "Access not allowed at this time" }
  detectionEnabled := fun enabled route => enabled && route.getD true
  resolve := fun global route =>
    (route.bind RouteDetectionExclusions.excludedDetectionHeaders).getD
      ((global.map DetectionExclusionConfig.excludedDetectionHeaders).getD [])
  scanRequest := scanRequest
  parseCloudSelectors := .ok
  userAgentFilter := fun patterns => .ok (userAgentFilter patterns)
  securityHeaders := fun _ => []
  defaultRateLimitConfig :=
    { enableRateLimiting := true
      rateLimit := 10
      rateLimitWindow := 60
      enableRateLimitAutoBan := false }
  defaultIpBanConfig := defaultIpBanConfig
  rateLimitStage := rateLimitStage

def constructors : Constructors world where
  ipGateConfig := fun whitelist blacklist exempt => .ok (ipGate whitelist blacklist exempt)
  rateLimiter := fun store config =>
    if config.rateLimit = 0 then .error ⟨"rate_limit must be at least 1"⟩
    else .ok { store, config }
  httpsEnforcementStage := fun config => .ok
    { decide := fun _ scheme _ _ httpsUrl => Call.returning
        (if config.enforceHttps && !config.passiveMode && scheme ≠ "https" then
          some { status := 301, location := httpsUrl } else none)
      decideRoute := fun _ scheme _ _ httpsUrl requireHttps => Call.returning
        (if requireHttps.getD config.enforceHttps && !config.passiveMode && scheme ≠ "https" then
          some { status := 301, location := httpsUrl } else none) }
  emergencyModeStage := fun config whitelist => .ok
    { decide := fun _ ip _ _ => Call.returning
        (if config.emergencyMode && !config.passiveMode && !whitelist.contains ip then
          some { status := 503, body := "Service temporarily unavailable" } else none) }
  requestLoggingStage := fun _ => { compose := fun _ _ _ _ => Call.returning none }
  userAgentFilter := fun patterns => .ok (userAgentFilter patterns)
  userAgentStage := fun config => .ok
    { decide := fun _ gate _ userAgent _ => Call.returning
        (if gate.any IpGateDecision.skips || config.passiveMode then none
        else if config.blockedUserAgents.isBlocked (userAgent.getD "") then some agentResponse
        else none) }
  responseProcessor := responseProcessor

/-- A configuration that bans and otherwise asks for these behaviour rules only. -/
def banning (rules : List BehaviorRule) : SecurityConfig world :=
  { plainConfig () with enableIpBanning := true, globalBehaviorRules := rules }

/-- The stores of one construction. -/
def stores : Allocation where
  limiter := 0
  bans := 1
  counters := 2
  processorBans := 3
  distinct := by decide

/-! ### Requests and services -/

def detectConfig : DetectConfig where
  maxContentLength := 10000
  maxFullScanBytes := 262144
  preserveAttackPatterns := true
  semanticThreshold := 0.7
  threatScoreThreshold := 1.0
  binaryMinRunLength := 16
  maxScanValues := 512
  maxScanChars := 65536
  maxJsonDepth := 32

def client : IpAddr := .v4 192 0 2 41

/-- `GET` or `POST` to `path`, attributed to the client, with this carrier. -/
def request (method path : String) (route : Option (RouteConfig world)) (body : Body) :
    Request world :=
  requestFrom () (some client) method path route body

/-- A service that answers every request with this status. -/
def answering (status : StatusCode) : InnerService world where
  call := fun _ => Call.returning (.ok { status, headers := [], body := () })
  fromBytes := fun bytes => if bytes = [] then [] else [.data bytes]

def ok : InnerService world := answering ⟨200, by decide⟩

theorem answering_fromBytes (status : StatusCode) (bytes : Bytes) :
    Body.content ((answering status).fromBytes bytes) = bytes := by
  simp only [answering]
  split
  next empty => exact empty.symm
  next => simp [Body.content]

def layer : GuardLayer world := .new engine detectConfig

/-- The ban arm of the default engine stage, in front of a service that answers 200. -/
def banStage : GuardStageService world :=
  (GuardStageLayer.bans (layer.buildStage engine)).wrap
    { call := ok.call, fromStr := fun _ => (), fromString := fun _ => () }

def start : Store world := ⟨0, ⟨0, [], []⟩⟩

/-! ### Runs -/

/-- A call ends with a response. -/
def answers {W : World} (run : Run (Store W) (Event W) Empty (Except W.InnerError (Response W))) :
    Bool :=
  match run.flow with
  | .pass (.ok _) => true
  | .pass (.error _) | .exit _ | .unwound => false

/-- The status of the response a call ends with. -/
def statusOf {W : World} : Flow Empty (Except W.InnerError (Response W)) → Option Nat
  | .pass (.ok response) => some response.status.asU16
  | .pass (.error _) | .unwound => none

theorem response_of_status {W : World} {flow : Flow Empty (Except W.InnerError (Response W))}
    {status : Nat} (h : statusOf flow = some status) : ∃ response, flow = .pass (.ok response) := by
  unfold statusOf at h
  split at h
  next response => exact ⟨response, rfl⟩
  · cases h
  · cases h

theorem response_of_answers {W : World}
    {run : Run (Store W) (Event W) Empty (Except W.InnerError (Response W))}
    (h : answers run = true) : ∃ response, run.flow = .pass (.ok response) := by
  unfold answers at h
  split at h
  next response flow => exact ⟨response, flow⟩
  · cases h
  · cases h
  · cases h

end TowerGuard.Bench
