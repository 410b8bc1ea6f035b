import TowerGuard.Engine.Bench

/-!
# A metering engine

An engine that counts: rate-limit hits in memory and in a distributed store, usage-rule
crossings, and the payloads its block hook was called with. It stands beside the small engine
where an instance needs that state, and takes the pure functions over from it.
-/

namespace TowerGuard.Metered

open Text Traced

/-- What a scan leaves out. -/
structure Resolved where
  headers : List String
  params : List String
  bodyFields : List String
  categories : Option (List String)
  scansBody : Bool
  deriving DecidableEq

/-- A request that a tier let through: whose it was, and in which window of which store, the global
tier's or that of a route's. -/
structure Hit where
  store : Nat
  tier : Option String
  client : String
  deriving DecidableEq

/-- The state outside the process and of the host: the distributed hits, the bans, the uses the
behavior tracker counted, and what the block hook was called with. -/
structure Journal where
  now : SystemTime
  hits : List Hit
  bans : List (Nat × String)
  uses : List (String × String)
  fired : List BlockPayload

abbrev world : World where
  Limits := List Hit
  Other := Journal
  Attachment := Unit
  ResBody := Bytes
  InnerError := Unit
  RouteRateLimits := Nat
  ResolvedExclusions := Resolved
  CloudSelectors := List String
  HeaderSettings := Unit

def start : Store world := ⟨[], ⟨0, [], [], [], []⟩⟩

/-! ### The engine stage -/

/-- The hook's own call, and nothing without one. -/
def fire (hook : Option (OnBlockHook world)) (payload : BlockPayload) : Call Journal Unit :=
  (hook.map fun hook => hook payload).getD (Call.returning ())

/-- A hook that keeps its payloads. -/
def record : OnBlockHook world := fun payload journal =>
  (some (), { journal with fired := journal.fired ++ [payload] })

/-- A stage's report of its denial. -/
def report (parts : RateLimitStageParts world) (check : String) (status : Nat) (ip : IpAddr) :
    Call Journal Unit :=
  if parts.observability.isSome then
    fire parts.onBlock
      { checkName := check
        reason := check
        triggerInfo := ""
        passiveMode := false
        clientIp := ip.display
        path := ""
        method := ""
        statusCode := some status }
  else Call.returning ()

def throttledResponse : StageResponse where
  status := ⟨429, by decide⟩
  body := "Too many requests"
  customBody := none
  retryAfter := some 60

/-- One tier: throttle at the limit of the window, else count the hit there, in the distributed
store where there is one and in the limiter's own otherwise. -/
def throttle (parts : RateLimitStageParts world) (tier : Option String) (limit : Nat)
    (ip : IpAddr) : Call (Store world) (Option StageResponse) := fun s =>
  match parts.distributedStore, parts.limiter with
  | some (window, _, _), _ =>
    if limit ≤ s.other.hits.count ⟨window.store, tier, ip.display⟩ then
      (some (some throttledResponse),
        { s with other := (report parts "rate_limit" 429 ip s.other).2 })
    else (some none, { s with other := { s.other with
      hits := ⟨window.store, tier, ip.display⟩ :: s.other.hits } })
  | none, some limiter =>
    if limit ≤ s.limits.count ⟨limiter.store, tier, ip.display⟩ then
      (some (some throttledResponse),
        { s with other := (report parts "rate_limit" 429 ip s.other).2 })
    else (some none, { s with limits := ⟨limiter.store, tier, ip.display⟩ :: s.limits })
  | none, none => (some none, s)

/-- The route's tier, on top of the global one. The first that throttles decides. -/
def throttleTiers (parts : RateLimitStageParts world) (path : Option String)
    (routeTiers : Option Nat) (ip : IpAddr) : Call (Store world) (Option StageResponse) := fun s =>
  let globally := throttle parts none parts.config.rateLimit.rateLimit ip
  match routeTiers with
  | none => globally s
  | some limit =>
    match throttle parts (some (path.getD "")) limit ip s with
    | (some none, s') => globally s'
    | throttled => throttled

/-- The last tier that is asked decides, the global one if the request passes. -/
theorem throttleTiers_last (parts : RateLimitStageParts world) (path : Option String)
    (routeTiers : Option Nat) (ip : IpAddr) (s : Store world) : ∃ tier limit s₁,
      throttleTiers parts path routeTiers ip s = throttle parts tier limit ip s₁ ∧
      (s₁ = s ∨ ∃ first limit₁, throttle parts first limit₁ ip s = (some none, s₁)) ∧
      ((throttleTiers parts path routeTiers ip s).1 = some none →
        tier = none ∧ limit = parts.config.rateLimit.rateLimit) := by
  unfold throttleTiers
  cases routeTiers with
  | none => exact ⟨none, _, s, rfl, .inl rfl, fun _ => ⟨rfl, rfl⟩⟩
  | some limit =>
    dsimp only
    split
    next s₁ passed => exact ⟨none, _, s₁, rfl, .inr ⟨_, _, passed⟩, fun _ => ⟨rfl, rfl⟩⟩
    next throttled =>
      exact ⟨_, _, s, rfl, .inl rfl, fun passes => (throttled _ (Prod.ext passes rfl)).elim⟩

def rateLimitStage (parts : RateLimitStageParts world) : RateLimitStage world where
  config := parts.config
  decideBansObserved := fun ip _ s =>
    match ip, parts.banManager with
    | some ip, some (manager, _) =>
      if parts.config.ipBan.enableIpBanning && !parts.config.passiveMode &&
          s.other.bans.contains (manager.store, ip.display) then
        (some (some Bench.banResponse),
          { s with other := (report parts "ip_ban" 403 ip s.other).2 })
      else (some none, s)
    | _, _ => (some none, s)
  decideTiersObserved := fun ip path routeTiers gate _ _ =>
    match ip with
    | some ip =>
      if gate.any IpGateDecision.skips || !parts.config.rateLimit.enableRateLimiting then
        Call.returning none
      else throttleTiers parts path routeTiers ip
    | none => Call.returning none

/-- A processor whose usage rules ban a client from the threshold of the first rule on. -/
def responseProcessor (parts : ResponseProcessorParts world) : ResponseProcessor world where
  securityHeaders := parts.securityHeaders
  cors := parts.cors
  corsEnabled := parts.cors.isSome
  processUsageRules := fun endpoint client rules _ journal =>
    let used := journal.uses.countP fun use => use.1 = endpoint && use.2 = client
    (some (rules.map fun rule => ⟨rule.action = "ban" && decide (rule.threshold ≤ used)⟩),
      { journal with uses := (endpoint, client) :: journal.uses })
  process := fun _ bits _ => Call.returning (bits, none)

/-! ### The engine -/

/-- A present field of the route, else the global one, else what an absent one means. -/
def resolve (global : Option DetectionExclusionConfig) (route : Option RouteDetectionExclusions) :
    Resolved where
  headers := (global.map DetectionExclusionConfig.excludedDetectionHeaders).getD [] ++
    (route.bind RouteDetectionExclusions.excludedDetectionHeaders).getD []
  params := (route.bind RouteDetectionExclusions.excludedDetectionParams).getD
    ((global.map DetectionExclusionConfig.excludedDetectionParams).getD [])
  bodyFields := (route.bind RouteDetectionExclusions.excludedDetectionBodyFields).getD
    ((global.map DetectionExclusionConfig.excludedDetectionBodyFields).getD [])
  categories := (route.bind RouteDetectionExclusions.enabledDetectionCategories).or
    (global.bind DetectionExclusionConfig.enabledDetectionCategories)
  scansBody := ((route.bind RouteDetectionExclusions.detectionScanBody).or
    (global.bind DetectionExclusionConfig.detectionScanBody)).getD true

def engine : Engine world where
  usizeMax := Bench.engine.usizeMax
  now := Journal.now
  utcNow := Journal.now
  allowedPreflightRequestHeader := Bench.engine.allowedPreflightRequestHeader
  isPreflight := Bench.engine.isPreflight
  buildPreflightResponse := Bench.engine.buildPreflightResponse
  routeIpGate := Bench.engine.routeIpGate
  parseCountryLists := Bench.engine.parseCountryLists
  checkCountries := fun _ _ _ _ => Call.returning none
  resolveErrorBody := Bench.engine.resolveErrorBody
  buildBlockPayload := Bench.engine.buildBlockPayload
  fireBlockHook := fire
  hasRules := Bench.engine.hasRules
  headersAuthDecide := Bench.headersAuthDecide
  referrerDecide := Bench.engine.referrerDecide
  referrerMissing := Bench.engine.referrerMissing
  referrerInvalid := Bench.engine.referrerInvalid
  anonymousName := Bench.engine.anonymousName
  decideCustomValidators := fun _ _ => Call.returning .passed
  hhmmInZone := Bench.engine.hhmmInZone
  isWithin := Bench.engine.isWithin
  timeWindowBlock := Bench.engine.timeWindowBlock
  detectionEnabled := Bench.engine.detectionEnabled
  resolve := resolve
  scanRequest := Bench.scanRequest
  parseCloudSelectors := .ok
  userAgentFilter := Bench.engine.userAgentFilter
  securityHeaders := fun _ => []
  defaultRateLimitConfig := Bench.engine.defaultRateLimitConfig
  defaultIpBanConfig := Bench.engine.defaultIpBanConfig
  rateLimitStage := rateLimitStage

def constructors : Constructors world where
  ipGateConfig := Bench.constructors.ipGateConfig
  rateLimiter := Bench.constructors.rateLimiter
  userAgentFilter := Bench.constructors.userAgentFilter
  httpsEnforcementStage := fun _ => .ok
    { decide := fun _ _ _ _ _ => Call.returning none
      decideRoute := fun _ _ _ _ _ _ => Call.returning none }
  emergencyModeStage := fun _ _ => .ok { decide := fun _ _ _ _ => Call.returning none }
  requestLoggingStage := fun _ => { compose := fun _ _ _ _ => Call.returning none }
  userAgentStage := fun config => .ok
    { decide := fun _ _ _ userAgent _ => Call.returning
        (if config.blockedUserAgents.isBlocked (userAgent.getD "") then some Bench.agentResponse
        else none) }
  responseProcessor := responseProcessor

/-- A configuration that asks for detection of two categories only. -/
def config : SecurityConfig world :=
  { Bench.plainConfig () with enabledDetectionCategories := ["sqli", "xss"] }

/-! ### Requests and services -/

/-- `method` to `path`, with this client and carrier. -/
def request : Option IpAddr → String → String → Option (RouteConfig world) → Body →
    Request world :=
  Bench.requestFrom ()

def ok : InnerService world where
  call := fun _ => Call.returning
    (.ok { status := (StatusCode.fromU16 200).get rfl, headers := [], body := [] })
  fromBytes := fun bytes => [.data bytes]

def layer : GuardLayer world := .new engine Bench.detectConfig

end TowerGuard.Metered
