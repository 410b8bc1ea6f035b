import TowerGuard.Config

/-!
# The layer a configuration asks for

`from_security_config` installs one group of fields after the other. Read as a whole, it asks the
engine's constructors in the order of the source, fails with the first that refuses, and
assembles what they built into one record.
-/

namespace TowerGuard

open Text Traced

variable {W : World}

variable (W) in
/-- What the constructors that can refuse built of a configuration. -/
structure Built where
  ipGate : Option IpGateConfig
  rateLimiter : Option RateLimiter
  httpsEnforcement : HttpsEnforcementStage W
  emergencyMode : Option (EmergencyModeStage W)
  userAgent : Option (UserAgentStage W)

namespace SecurityConfig

section Build

variable (config : SecurityConfig W) (E : Engine W) (C : Constructors W) (stores : Allocation)

/-! ### What is built -/

/-- A gate where any of the three lists asks for one. -/
def builtIpGate : Except GuardConfigError (Option IpGateConfig) :=
  if config.whitelist.isSome || !config.blacklist.isEmpty || !config.exemptIps.isEmpty then
    ((C.ipGateConfig (config.whitelist.getD []) config.blacklist config.exemptIps).mapError
      .ipGate).map some
  else .ok none

def builtRateLimiter : Except GuardConfigError (Option RateLimiter) :=
  if config.enableRateLimiting then
    ((C.rateLimiter stores.limiter
      { E.defaultRateLimitConfig with
        enableRateLimiting := true
        rateLimit := config.rateLimit
        rateLimitWindow := config.rateLimitWindow }).mapError .rateLimit).map some
  else .ok none

def builtHttpsEnforcement : Except GuardConfigError (HttpsEnforcementStage W) :=
  C.httpsEnforcementStage
    { enforceHttps := config.enforceHttps
      trustXForwardedProto := config.trustXForwardedProto
      passiveMode := config.passiveMode }

def builtEmergencyMode : Except GuardConfigError (Option (EmergencyModeStage W)) :=
  if config.emergencyMode || !config.emergencyWhitelist.isEmpty then
    (C.emergencyModeStage
      { emergencyMode := config.emergencyMode, passiveMode := config.passiveMode }
      config.emergencyWhitelist).map some
  else .ok none

def builtUserAgent : Except GuardConfigError (Option (UserAgentStage W)) :=
  if config.blockedUserAgents.isEmpty then .ok none
  else do
    let filter ← (C.userAgentFilter config.blockedUserAgents).mapError .userAgent
    (C.userAgentStage
      { blockedUserAgents := filter
        ipBan := config.ipBanConfig
        passiveMode := config.passiveMode }).map some

/-- All the constructors' answers, or the first refusal. -/
def build : Except GuardConfigError (Built W) := do
  let ipGate ← config.builtIpGate C
  let rateLimiter ← config.builtRateLimiter E C stores
  let httpsEnforcement ← config.builtHttpsEnforcement C
  let emergencyMode ← config.builtEmergencyMode C
  let userAgent ← config.builtUserAgent C
  pure { ipGate, rateLimiter, httpsEnforcement, emergencyMode, userAgent }

/-! ### What is installed -/

def banState : Option BanState :=
  if config.enableIpBanning then
    some ⟨⟨stores.bans⟩, ⟨stores.counters⟩, config.ipBanConfig⟩
  else none

/-- The global detection view, where any of its lists asks for one. -/
def exclusions : Option DetectionExclusionConfig :=
  if !config.excludedDetectionHeaders.isEmpty || !config.excludedDetectionParams.isEmpty ||
      !config.excludedDetectionBodyFields.isEmpty || !config.enabledDetectionCategories.isEmpty then
    some
      { excludedDetectionHeaders := config.excludedDetectionHeaders
        excludedDetectionParams := config.excludedDetectionParams
        excludedDetectionBodyFields := config.excludedDetectionBodyFields
        enabledDetectionCategories :=
          if config.enabledDetectionCategories.isEmpty then none
          else some config.enabledDetectionCategories
        detectionScanBody := some config.detectionScanBody }
  else none

def requestLogging : Option (RequestLoggingStage W) :=
  config.logRequestLevel.map fun level => C.requestLoggingStage
    { logRequestLevel := some (mapLogLevel level)
      mutedCheckLogs := some config.mutedCheckLogs
      sensitive := config.sensitiveNames }

def observability : Option ObservabilityConfig :=
  if config.logSuspiciousLevel.isSome || config.logCountryCheckLevel.isSome then
    some
      { logSuspiciousLevel := config.logSuspiciousLevel.map mapLogLevel
        logRequestLevel := config.logRequestLevel.map mapLogLevel
        logCountryCheckLevel := config.logCountryCheckLevel.map mapLogLevel
        mutedCheckLogs := some config.mutedCheckLogs
        sensitive := config.sensitiveNames }
  else none

def responseProcessor : Option (ResponseProcessor W) :=
  if config.wantsProcessor then some (C.responseProcessor (config.processorParts stores))
  else none

/-- The layer, field by field; what the configuration has no field for is left out. -/
def assemble (built : Built W) : GuardLayer W :=
  { GuardLayer.new E config.detectConfig with
    passiveMode := config.passiveMode
    penetrationDetectionEnabled := config.enablePenetrationDetection
    excludePaths := config.excludePaths
    ipGate := built.ipGate
    rateLimiter := built.rateLimiter
    banState := config.banState stores
    httpsEnforcement := some built.httpsEnforcement
    emergencyMode := built.emergencyMode
    customErrorResponses := config.customErrorResponses
    onBlock := config.onBlock
    detectionExclusions := config.exclusions
    requestLogging := config.requestLogging C
    observability := config.observability
    userAgent := built.userAgent
    responseProcessor := config.responseProcessor C stores }

end Build

/-! ### Step by step the same -/

section Steps

variable {config : SecurityConfig W} {E : Engine W} {C : Constructors W} {stores : Allocation}
  {layer : GuardLayer W}

theorem installIpGate_eq : config.installIpGate C layer =
    (config.builtIpGate C).map fun gate => { layer with ipGate := gate.or layer.ipGate } := by
  unfold installIpGate builtIpGate
  split
  · cases (C.ipGateConfig _ _ _) <;> rfl
  · rfl

theorem installRateLimiting_eq : config.installRateLimiting E C stores layer =
    (config.builtRateLimiter E C stores).map fun limiter =>
      { layer with rateLimiter := limiter.or layer.rateLimiter } := by
  unfold installRateLimiting builtRateLimiter
  split
  · cases (C.rateLimiter _ _) <;> rfl
  · rfl

theorem installIpBanning_eq : config.installIpBanning stores layer =
    { layer with banState := (config.banState stores).or layer.banState } := by
  unfold installIpBanning banState
  split <;> rfl

theorem installHttpsEnforcement_eq : config.installHttpsEnforcement C layer =
    (config.builtHttpsEnforcement C).map fun stage =>
      { layer with httpsEnforcement := some stage } := rfl

theorem installEmergencyMode_eq : config.installEmergencyMode C layer =
    (config.builtEmergencyMode C).map fun stage =>
      { layer with emergencyMode := stage.or layer.emergencyMode } := by
  unfold installEmergencyMode builtEmergencyMode
  split
  · cases (C.emergencyModeStage _ _) <;> rfl
  · rfl

theorem installErrorResponses_eq (none : layer.customErrorResponses = []) :
    config.installErrorResponses layer =
      { layer with customErrorResponses := config.customErrorResponses } := by
  unfold installErrorResponses
  split
  next empty =>
    -- An empty table is what the layer starts with.
    rw [List.isEmpty_iff.mp empty, ← none]
  next => rfl

theorem installOnBlock_eq : config.installOnBlock layer =
    { layer with onBlock := config.onBlock.or layer.onBlock } := by
  unfold installOnBlock
  split
  next hook asked => rw [asked]; rfl
  next absent => rw [absent]; rfl

theorem installDetectionExclusions_eq : config.installDetectionExclusions layer =
    { layer with detectionExclusions := config.exclusions.or layer.detectionExclusions } := by
  unfold installDetectionExclusions exclusions
  split <;> rfl

theorem installRequestLogging_eq : config.installRequestLogging C layer =
    { layer with requestLogging := (config.requestLogging C).or layer.requestLogging } := by
  unfold installRequestLogging requestLogging
  split
  next level asked => rw [asked]; rfl
  next absent => rw [absent]; rfl

theorem installObservability_eq : config.installObservability layer =
    { layer with observability := config.observability.or layer.observability } := by
  unfold installObservability observability
  split <;> rfl

theorem installUserAgent_eq : config.installUserAgent C layer =
    (config.builtUserAgent C).map fun stage =>
      { layer with userAgent := stage.or layer.userAgent } := by
  unfold installUserAgent builtUserAgent
  split
  · rfl
  · cases (C.userAgentFilter _) with
    | error error => rfl
    | ok filter =>
      change (C.userAgentStage _).map _ = ((C.userAgentStage _).map some).map _
      cases (C.userAgentStage _) <;> rfl

theorem installProcessor_eq : config.installProcessor C stores layer =
    { layer with
      responseProcessor := (config.responseProcessor C stores).or layer.responseProcessor } := by
  unfold installProcessor responseProcessor
  split <;> rfl

end Steps

end SecurityConfig

open SecurityConfig in
/-- The construction fails as its first refusing constructor does, and otherwise installs what was
built and nothing else. -/
theorem fromSecurityConfig_eq (E : Engine W) (C : Constructors W) (stores : Allocation)
    (config : SecurityConfig W) : fromSecurityConfig E C stores config =
      (config.build E C stores).map (config.assemble E C stores) := by
  unfold fromSecurityConfig build
  simp only [installIpGate_eq, installRateLimiting_eq, installIpBanning_eq,
    installHttpsEnforcement_eq, installEmergencyMode_eq, installOnBlock_eq,
    installDetectionExclusions_eq, installRequestLogging_eq, installObservability_eq,
    installUserAgent_eq, installProcessor_eq]
  cases config.builtIpGate C with
  | error refused => rfl
  | ok ipGate =>
    cases config.builtRateLimiter E C stores with
    | error refused => rfl
    | ok rateLimiter =>
      cases config.builtHttpsEnforcement C with
      | error refused => rfl
      | ok httpsEnforcement =>
        cases config.builtEmergencyMode C with
        | error refused => rfl
        | ok emergencyMode =>
          simp only [Except.map, bind, Except.bind]
          rw [installErrorResponses_eq rfl]
          cases config.builtUserAgent C with
          | error refused => rfl
          | ok userAgent =>
            -- The base has none of what is installed here.
            simp only [pure, Except.pure, assemble, baseLayer, GuardLayer.new,
              GuardLayer.withPassiveMode, GuardLayer.withPenetrationDetection,
              GuardLayer.withExcludePaths, Option.or_none]

end TowerGuard
