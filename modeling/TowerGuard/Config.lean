import TowerGuard.Layer

/-!
# The layer from a configuration

`GuardLayer::from_security_config`, one step for each group of fields. A step installs what
its fields ask for, and fails closed when an engine constructor refuses a value.
-/

namespace TowerGuard

open Text Traced

variable {W : World}

/-- The engine's own log levels. -/
inductive ConfigLogLevel where
  | info | debug | warning | error | critical
  deriving DecidableEq

def mapLogLevel : ConfigLogLevel → LogLevel
  | .info => .info
  | .debug => .debug
  | .warning => .warning
  | .error => .error
  | .critical => .critical

variable (W) in
/-- `SecurityConfig`, the fields the layer consumes. `ipBanConfig` is the method of that name. -/
structure SecurityConfig where
  detectionMaxContentLength : Nat
  detectionMaxBodyInspectBytes : Nat
  detectionPreserveAttackPatterns : Bool
  detectionSemanticThreshold : Float
  detectionThreatScoreThreshold : Float
  detectionBinaryMinRunLength : Nat
  detectionMaxScanValues : Nat
  detectionMaxScanChars : Nat
  detectionMaxJsonDepth : Nat
  passiveMode : Bool
  enablePenetrationDetection : Bool
  excludePaths : List String
  whitelist : Option (List String)
  blacklist : List String
  exemptIps : List String
  enableRateLimiting : Bool
  rateLimit : Nat
  rateLimitWindow : Nat
  enableIpBanning : Bool
  ipBanConfig : IpBanConfig
  enforceHttps : Bool
  trustXForwardedProto : Bool
  emergencyMode : Bool
  emergencyWhitelist : List String
  customErrorResponses : CustomErrorResponses
  onBlock : Option (OnBlockHook W)
  excludedDetectionHeaders : List String
  excludedDetectionParams : List String
  excludedDetectionBodyFields : List String
  enabledDetectionCategories : List String
  detectionScanBody : Bool
  logRequestLevel : Option ConfigLogLevel
  logSuspiciousLevel : Option ConfigLogLevel
  logCountryCheckLevel : Option ConfigLogLevel
  mutedCheckLogs : List String
  logSensitiveHeaders : List String
  logSensitiveParams : List String
  logSensitiveBodyFields : List String
  blockedUserAgents : List String
  securityHeaders : SecurityHeadersConfig W
  enableCors : Bool
  corsAllowOrigins : List String
  corsAllowMethods : List String
  corsAllowHeaders : List String
  corsAllowCredentials : Bool
  corsMaxAge : Nat
  globalBehaviorRules : List BehaviorRule
  behaviorScanResponseBody : Bool
  behaviorMaxResponseBodyInspectBytes : Nat

/-! ### Constructors -/

/-- `GuardConfigError`, by the constructor that refused. -/
inductive GuardConfigError where
  | ipGate (error : EngineError)
  | rateLimit (error : EngineError)
  | userAgent (error : EngineError)
  | ban (error : EngineError)
  deriving DecidableEq

/-- `Display` of the error. -/
def GuardConfigError.display : GuardConfigError → String
  | .ipGate error => "ip list: " ++ error.message
  | .rateLimit error => "rate limit: " ++ error.message
  | .userAgent error => "blocked user agent: " ++ error.message
  | .ban error => "ip ban: " ++ error.message

structure HttpsEnforcementStageConfig where
  enforceHttps : Bool
  trustXForwardedProto : Bool
  passiveMode : Bool

structure EmergencyModeStageConfig where
  emergencyMode : Bool
  passiveMode : Bool

structure RequestLoggingStageConfig where
  logRequestLevel : Option LogLevel
  mutedCheckLogs : Option (List String)
  sensitive : SensitiveNames

structure UserAgentStageConfig where
  blockedUserAgents : UserAgentFilter
  ipBan : IpBanConfig
  passiveMode : Bool

variable (W) in
/-- The engine constructors a configuration is built with. The errors of the stage builders
come in the layer's own type, as `?` converts them. -/
structure Constructors where
  ipGateConfig : (whitelist blacklist exemptIps : List String) → Except EngineError IpGateConfig
  rateLimiter : (store : Nat) → RateLimitConfig → Except EngineError RateLimiter
  /-- `UserAgentFilter::new`, which the configuration's own patterns go through. -/
  userAgentFilter : List String → Except EngineError UserAgentFilter
  httpsEnforcementStage : HttpsEnforcementStageConfig →
    Except GuardConfigError (HttpsEnforcementStage W)
  emergencyModeStage : EmergencyModeStageConfig → (emergencyWhitelist : List String) →
    Except GuardConfigError (EmergencyModeStage W)
  requestLoggingStage : RequestLoggingStageConfig → RequestLoggingStage W
  userAgentStage : UserAgentStageConfig → Except GuardConfigError (UserAgentStage W)
  responseProcessor : ResponseProcessorParts W → ResponseProcessor W

/-- The stores that one construction allocates. The two ban stores come from two
`IpBanManager::new()`. -/
structure Allocation where
  limiter : Nat
  bans : Nat
  counters : Nat
  processorBans : Nat
  distinct : bans ≠ processorBans

/-! ### Steps -/

namespace SecurityConfig

variable (config : SecurityConfig W)

def detectConfig : DetectConfig where
  maxContentLength := config.detectionMaxContentLength
  maxFullScanBytes := config.detectionMaxBodyInspectBytes
  preserveAttackPatterns := config.detectionPreserveAttackPatterns
  semanticThreshold := config.detectionSemanticThreshold
  threatScoreThreshold := config.detectionThreatScoreThreshold
  binaryMinRunLength := config.detectionBinaryMinRunLength
  maxScanValues := config.detectionMaxScanValues
  maxScanChars := config.detectionMaxScanChars
  maxJsonDepth := config.detectionMaxJsonDepth

def baseLayer (E : Engine W) : GuardLayer W :=
  let passive := (GuardLayer.new E config.detectConfig).withPassiveMode config.passiveMode
  (passive.withPenetrationDetection config.enablePenetrationDetection).withExcludePaths
    config.excludePaths

def installIpGate (C : Constructors W) (layer : GuardLayer W) :
    Except GuardConfigError (GuardLayer W) :=
  if config.whitelist.isSome || !config.blacklist.isEmpty || !config.exemptIps.isEmpty then
    ((C.ipGateConfig (config.whitelist.getD []) config.blacklist config.exemptIps).mapError
      .ipGate).map layer.withIpGate
  else .ok layer

def installRateLimiting (E : Engine W) (C : Constructors W) (stores : Allocation)
    (layer : GuardLayer W) : Except GuardConfigError (GuardLayer W) :=
  if config.enableRateLimiting then
    ((C.rateLimiter stores.limiter
      -- The remaining knobs keep the engine's defaults.
      { E.defaultRateLimitConfig with
        enableRateLimiting := true
        rateLimit := config.rateLimit
        rateLimitWindow := config.rateLimitWindow }).mapError .rateLimit).map
      layer.withRateLimiting
  else .ok layer

def installIpBanning (stores : Allocation) (layer : GuardLayer W) : GuardLayer W :=
  if config.enableIpBanning then
    layer.withIpBanning ⟨stores.bans⟩ ⟨stores.counters⟩ config.ipBanConfig
  else layer

def installHttpsEnforcement (C : Constructors W) (layer : GuardLayer W) :
    Except GuardConfigError (GuardLayer W) :=
  -- Installed whatever the configuration says; the stage itself knows whether to enforce.
  (C.httpsEnforcementStage
    { enforceHttps := config.enforceHttps
      trustXForwardedProto := config.trustXForwardedProto
      passiveMode := config.passiveMode }).map layer.withHttpsEnforcement

def installEmergencyMode (C : Constructors W) (layer : GuardLayer W) :
    Except GuardConfigError (GuardLayer W) :=
  if config.emergencyMode || !config.emergencyWhitelist.isEmpty then
    -- A whitelist alone installs the stage too, with the mode off.
    (C.emergencyModeStage
      { emergencyMode := config.emergencyMode, passiveMode := config.passiveMode }
      config.emergencyWhitelist).map layer.withEmergencyMode
  else .ok layer

def installErrorResponses (layer : GuardLayer W) : GuardLayer W :=
  if config.customErrorResponses.isEmpty then layer
  else layer.withCustomErrorResponses config.customErrorResponses

def installOnBlock (layer : GuardLayer W) : GuardLayer W :=
  match config.onBlock with
  | some hook => layer.withOnBlock hook
  | none => layer

def installDetectionExclusions (layer : GuardLayer W) : GuardLayer W :=
  if !config.excludedDetectionHeaders.isEmpty || !config.excludedDetectionParams.isEmpty ||
      !config.excludedDetectionBodyFields.isEmpty || !config.enabledDetectionCategories.isEmpty then
    layer.withDetectionExclusions
      { excludedDetectionHeaders := config.excludedDetectionHeaders
        excludedDetectionParams := config.excludedDetectionParams
        excludedDetectionBodyFields := config.excludedDetectionBodyFields
        -- An empty list means all categories.
        enabledDetectionCategories :=
          if config.enabledDetectionCategories.isEmpty then none
          else some config.enabledDetectionCategories
        detectionScanBody := some config.detectionScanBody }
  else layer

def sensitiveNames : SensitiveNames where
  headers := some config.logSensitiveHeaders
  params := some config.logSensitiveParams
  bodyFields := some config.logSensitiveBodyFields

def installRequestLogging (C : Constructors W) (layer : GuardLayer W) : GuardLayer W :=
  match config.logRequestLevel with
  | some level =>
    layer.withRequestLogging (C.requestLoggingStage
      { logRequestLevel := some (mapLogLevel level)
        mutedCheckLogs := some config.mutedCheckLogs
        sensitive := config.sensitiveNames })
  | none => layer

/-- Country verdicts compose without a suspicious level too. -/
def installObservability (layer : GuardLayer W) : GuardLayer W :=
  if config.logSuspiciousLevel.isSome || config.logCountryCheckLevel.isSome then
    layer.withObservability
      { logSuspiciousLevel := config.logSuspiciousLevel.map mapLogLevel
        logRequestLevel := config.logRequestLevel.map mapLogLevel
        logCountryCheckLevel := config.logCountryCheckLevel.map mapLogLevel
        mutedCheckLogs := some config.mutedCheckLogs
        sensitive := config.sensitiveNames }
  else layer

def installUserAgent (C : Constructors W) (layer : GuardLayer W) :
    Except GuardConfigError (GuardLayer W) :=
  if config.blockedUserAgents.isEmpty then .ok layer
  else do
    -- The patterns compile here, so that a bad one fails the construction.
    let filter ← (C.userAgentFilter config.blockedUserAgents).mapError .userAgent
    (C.userAgentStage
      { blockedUserAgents := filter
        ipBan := config.ipBanConfig
        passiveMode := config.passiveMode }).map layer.withUserAgent

def corsConfig : Option CorsConfig :=
  if config.enableCors then
    some
      { enabled := true
        allowOrigins := config.corsAllowOrigins
        allowMethods := config.corsAllowMethods
        allowHeaders := config.corsAllowHeaders
        allowCredentials := config.corsAllowCredentials
        maxAge := config.corsMaxAge }
  else none

/-- What `ResponseProcessor::new` is given: a ban manager of its own among the rest. -/
def processorParts (stores : Allocation) : ResponseProcessorParts W where
  securityHeaders := if config.securityHeaders.enabled then some config.securityHeaders else none
  cors := config.corsConfig
  rules := config.globalBehaviorRules
  -- Not the manager of `installIpBanning`: the constructor makes a second one.
  banManager := ⟨stores.processorBans⟩
  scanResponseBody := config.behaviorScanResponseBody
  maxResponseBodyInspectBytes := config.behaviorMaxResponseBodyInspectBytes
  passiveMode := config.passiveMode

def wantsProcessor : Bool :=
  config.securityHeaders.enabled || config.enableCors || !config.globalBehaviorRules.isEmpty

def installProcessor (C : Constructors W) (stores : Allocation) (layer : GuardLayer W) :
    GuardLayer W :=
  if config.wantsProcessor then
    layer.withResponseProcessor (C.responseProcessor (config.processorParts stores))
  else layer

end SecurityConfig

/-- `GuardLayer::from_security_config`. -/
def fromSecurityConfig (E : Engine W) (C : Constructors W) (stores : Allocation)
    (config : SecurityConfig W) : Except GuardConfigError (GuardLayer W) := do
  let gated ← config.installIpGate C (config.baseLayer E)
  let limited ← config.installRateLimiting E C stores gated
  let banning := config.installIpBanning stores limited
  let secured ← config.installHttpsEnforcement C banning
  let emergency ← config.installEmergencyMode C secured
  let answering := config.installOnBlock (config.installErrorResponses emergency)
  let detecting := config.installDetectionExclusions answering
  let logging := config.installObservability (config.installRequestLogging C detecting)
  let filtering ← config.installUserAgent C logging
  pure (config.installProcessor C stores filtering)

/-! ### Wiring

The steps install into disjoint fields, so that a field is as its own step left it. For the ban
half and the processor this says which ban manager goes where.
-/

theorem bind_ok_iff {ε α β : Type} {x : Except ε α} {f : α → Except ε β} {b : β} :
    x >>= f = .ok b ↔ ∃ a, x = .ok a ∧ f a = .ok b := by
  cases x with
  | ok a =>
    constructor
    · intro h
      exact ⟨a, rfl, h⟩
    · rintro ⟨_, ⟨⟩, h⟩
      exact h
  | error e =>
    constructor
    · intro h
      cases h
    · rintro ⟨_, ⟨⟩, _⟩

theorem map_ok_iff {ε α β : Type} {x : Except ε α} {f : α → β} {b : β} :
    x.map f = .ok b ↔ ∃ a, x = .ok a ∧ f a = b := by
  cases x <;> simp [Except.map]

/-- The fields that decide where bans are written and read. -/
structure BanWiring (W : World) where
  banState : Option BanState
  stage : Option (RateLimitStage W)
  passiveMode : Bool
  responseProcessor : Option (ResponseProcessor W)

def GuardLayer.banWiring (layer : GuardLayer W) : BanWiring W where
  banState := layer.banState
  stage := layer.stage
  passiveMode := layer.passiveMode
  responseProcessor := layer.responseProcessor

section Wiring

variable {E : Engine W} {C : Constructors W} {stores : Allocation} {config : SecurityConfig W}
  {layer layer' : GuardLayer W}

namespace SecurityConfig

section Keeps

variable {κ : Type} (f : GuardLayer W → κ)

/-- What an installation does not touch it keeps, installed or not. -/
private theorem keeps_of_map {ε α : Type} {x : Except ε α} {install : α → GuardLayer W}
    (keeps : ∀ a, f (install a) = f layer) (installed : x.map install = .ok layer') :
    f layer' = f layer := by
  obtain ⟨a, -, rfl⟩ := map_ok_iff.mp installed
  exact keeps a

theorem installIpGate_keeps (keeps : ∀ gate, f (layer.withIpGate gate) = f layer)
    (h : config.installIpGate C layer = .ok layer') : f layer' = f layer := by
  unfold installIpGate at h
  split at h
  · exact keeps_of_map f keeps h
  · cases h; rfl

theorem installRateLimiting_keeps (keeps : ∀ limiter, f (layer.withRateLimiting limiter) = f layer)
    (h : config.installRateLimiting E C stores layer = .ok layer') : f layer' = f layer := by
  unfold installRateLimiting at h
  split at h
  · exact keeps_of_map f keeps h
  · cases h; rfl

theorem installIpBanning_keeps
    (keeps : ∀ manager counters ipBan, f (layer.withIpBanning manager counters ipBan) = f layer) :
    f (config.installIpBanning stores layer) = f layer := by
  unfold installIpBanning
  split
  · exact keeps _ _ _
  · rfl

theorem installHttpsEnforcement_keeps
    (keeps : ∀ stage, f (layer.withHttpsEnforcement stage) = f layer)
    (h : config.installHttpsEnforcement C layer = .ok layer') : f layer' = f layer :=
  keeps_of_map f keeps h

theorem installEmergencyMode_keeps (keeps : ∀ stage, f (layer.withEmergencyMode stage) = f layer)
    (h : config.installEmergencyMode C layer = .ok layer') : f layer' = f layer := by
  unfold installEmergencyMode at h
  split at h
  · exact keeps_of_map f keeps h
  · cases h; rfl

theorem installErrorResponses_keeps
    (keeps : ∀ responses, f (layer.withCustomErrorResponses responses) = f layer) :
    f (config.installErrorResponses layer) = f layer := by
  unfold installErrorResponses
  split
  · rfl
  · exact keeps _

theorem installOnBlock_keeps (keeps : ∀ hook, f (layer.withOnBlock hook) = f layer) :
    f (config.installOnBlock layer) = f layer := by
  unfold installOnBlock
  split
  · exact keeps _
  · rfl

theorem installDetectionExclusions_keeps
    (keeps : ∀ exclusions, f (layer.withDetectionExclusions exclusions) = f layer) :
    f (config.installDetectionExclusions layer) = f layer := by
  unfold installDetectionExclusions
  split
  · exact keeps _
  · rfl

theorem installRequestLogging_keeps
    (keeps : ∀ stage, f (layer.withRequestLogging stage) = f layer) :
    f (config.installRequestLogging C layer) = f layer := by
  unfold installRequestLogging
  split
  · exact keeps _
  · rfl

theorem installObservability_keeps
    (keeps : ∀ observability, f (layer.withObservability observability) = f layer) :
    f (config.installObservability layer) = f layer := by
  unfold installObservability
  split
  · exact keeps _
  · rfl

theorem installUserAgent_keeps (keeps : ∀ stage, f (layer.withUserAgent stage) = f layer)
    (h : config.installUserAgent C layer = .ok layer') : f layer' = f layer := by
  unfold installUserAgent at h
  split at h
  · cases h; rfl
  · obtain ⟨filter, -, built⟩ := bind_ok_iff.mp h
    exact keeps_of_map f keeps built

theorem installProcessor_keeps
    (keeps : ∀ processor, f (layer.withResponseProcessor processor) = f layer) :
    f (config.installProcessor C stores layer) = f layer := by
  unfold installProcessor
  split
  · exact keeps _
  · rfl

end Keeps

theorem installIpBanning_banWiring (banning : config.enableIpBanning = true) :
    (config.installIpBanning stores layer).banWiring =
      { layer.banWiring with
        banState := some ⟨⟨stores.bans⟩, ⟨stores.counters⟩, config.ipBanConfig⟩ } := by
  rw [installIpBanning, if_pos banning]
  rfl

theorem installProcessor_banWiring :
    (config.installProcessor C stores layer).banWiring =
      { layer.banWiring with
        responseProcessor :=
          if config.wantsProcessor then some (C.responseProcessor (config.processorParts stores))
          else layer.responseProcessor } := by
  unfold installProcessor
  split <;> rfl

end SecurityConfig

open SecurityConfig in
/-- The ban half has one manager, the processor another. -/
theorem fromSecurityConfig_banWiring (banning : config.enableIpBanning = true)
    (built : fromSecurityConfig E C stores config = .ok layer) :
    layer.banWiring =
      { banState := some ⟨⟨stores.bans⟩, ⟨stores.counters⟩, config.ipBanConfig⟩
        stage := none
        passiveMode := config.passiveMode
        responseProcessor :=
          if config.wantsProcessor then some (C.responseProcessor (config.processorParts stores))
          else none } := by
  -- The construction succeeded, so that each fallible step did.
  obtain ⟨gated, ipGate, built⟩ := bind_ok_iff.mp built
  obtain ⟨limited, rateLimiting, built⟩ := bind_ok_iff.mp built
  obtain ⟨secured, https, built⟩ := bind_ok_iff.mp built
  obtain ⟨emergency, emergencyMode, built⟩ := bind_ok_iff.mp built
  obtain ⟨filtering, userAgent, ⟨⟩⟩ := bind_ok_iff.mp built
  -- Backwards from the processor: of all these steps only `installIpBanning` touches the wiring.
  have kept : filtering.banWiring =
      { (config.baseLayer E).banWiring with
        banState := some ⟨⟨stores.bans⟩, ⟨stores.counters⟩, config.ipBanConfig⟩ } := by
    rw [installUserAgent_keeps GuardLayer.banWiring (fun _ => rfl) userAgent,
      installObservability_keeps GuardLayer.banWiring fun _ => rfl,
      installRequestLogging_keeps GuardLayer.banWiring fun _ => rfl,
      installDetectionExclusions_keeps GuardLayer.banWiring fun _ => rfl,
      installOnBlock_keeps GuardLayer.banWiring fun _ => rfl,
      installErrorResponses_keeps GuardLayer.banWiring fun _ => rfl,
      installEmergencyMode_keeps GuardLayer.banWiring (fun _ => rfl) emergencyMode,
      installHttpsEnforcement_keeps GuardLayer.banWiring (fun _ => rfl) https,
      installIpBanning_banWiring banning,
      installRateLimiting_keeps GuardLayer.banWiring (fun _ => rfl) rateLimiting,
      installIpGate_keeps GuardLayer.banWiring (fun _ => rfl) ipGate]
  have vacant : filtering.responseProcessor = none :=
    congrArg BanWiring.responseProcessor kept
  rw [installProcessor_banWiring, kept, vacant]
  rfl

open SecurityConfig in
/-- The layer has the detection view its own step installs. -/
theorem fromSecurityConfig_detectionExclusions
    (built : fromSecurityConfig E C stores config = .ok layer) :
    layer.detectionExclusions =
      (config.installDetectionExclusions (config.baseLayer E)).detectionExclusions := by
  obtain ⟨gated, ipGate, built⟩ := bind_ok_iff.mp built
  obtain ⟨limited, rateLimiting, built⟩ := bind_ok_iff.mp built
  obtain ⟨secured, https, built⟩ := bind_ok_iff.mp built
  obtain ⟨emergency, emergencyMode, built⟩ := bind_ok_iff.mp built
  obtain ⟨filtering, userAgent, ⟨⟩⟩ := bind_ok_iff.mp built
  have before : (config.installOnBlock (config.installErrorResponses emergency)).detectionExclusions
      = (config.baseLayer E).detectionExclusions := by
    rw [installOnBlock_keeps GuardLayer.detectionExclusions fun _ => rfl,
      installErrorResponses_keeps GuardLayer.detectionExclusions fun _ => rfl,
      installEmergencyMode_keeps GuardLayer.detectionExclusions (fun _ => rfl) emergencyMode,
      installHttpsEnforcement_keeps GuardLayer.detectionExclusions (fun _ => rfl) https,
      installIpBanning_keeps GuardLayer.detectionExclusions fun _ _ _ => rfl,
      installRateLimiting_keeps GuardLayer.detectionExclusions (fun _ => rfl) rateLimiting,
      installIpGate_keeps GuardLayer.detectionExclusions (fun _ => rfl) ipGate]
  have own : ∀ first second : GuardLayer W,
      first.detectionExclusions = second.detectionExclusions →
      (config.installDetectionExclusions first).detectionExclusions =
        (config.installDetectionExclusions second).detectionExclusions := by
    intro first second same
    unfold installDetectionExclusions
    split
    · rfl
    · exact same
  rw [installProcessor_keeps GuardLayer.detectionExclusions fun _ => rfl,
    installUserAgent_keeps GuardLayer.detectionExclusions (fun _ => rfl) userAgent,
    installObservability_keeps GuardLayer.detectionExclusions fun _ => rfl,
    installRequestLogging_keeps GuardLayer.detectionExclusions fun _ => rfl]
  exact own _ _ before

end Wiring

end TowerGuard
