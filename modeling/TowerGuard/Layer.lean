import TowerGuard.Engine.Stages

/-!
# The guard layer

`GuardLayer` with its builders, and `layer`, which wraps a service. A wrapped service
always carries the engine stage, which `GuardService` states as a field.
-/

namespace TowerGuard

open Text Traced

variable {W : World}

/-- The ban half of the stateful stage. -/
structure BanState where
  manager : IpBanManager
  counters : ViolationCounters
  config : IpBanConfig

variable (W) in
structure GuardLayer where
  config : DetectConfig
  bodyCap : Nat
  ipGate : Option IpGateConfig
  rateLimiter : Option RateLimiter
  banState : Option BanState
  routeTiers : Option (RouteRateResolver W)
  routeConfigs : Option (RouteConfigResolver W)
  geoHandler : Option (GeoIpHandler W)
  events : Option (SecurityEventBus W)
  observability : Option ObservabilityConfig
  onBlock : Option (OnBlockHook W)
  responseModifier : Option (ResponseModifierFn W)
  onError : Option (OnErrorHook W)
  customErrorResponses : CustomErrorResponses
  passiveMode : Bool
  distributed : Option (SlidingWindowStore × String × Bool)
  distributedBanStore : Option BanStore
  detectionExclusions : Option DetectionExclusionConfig
  emergencyMode : Option (EmergencyModeStage W)
  httpsEnforcement : Option (HttpsEnforcementStage W)
  requestLogging : Option (RequestLoggingStage W)
  headersAuth : Option (HeadersAuthStage W)
  referrerGate : Option (ReferrerStage W)
  customChecks : Option (CustomChecksStage W)
  timeWindowGate : Option (TimeWindowStage W)
  geoBlocking : Option (GeoStage W)
  cloudProvider : Option (CloudProviderStage W)
  userAgent : Option (UserAgentStage W)
  responseProcessor : Option (ResponseProcessor W)
  excludePaths : List String
  penetrationDetectionEnabled : Bool
  scanFn : ScanFn W
  stage : Option (RateLimitStage W)

namespace GuardLayer

/-- `GuardLayer::new`: nothing installed, the body cap at `max_full_scan_bytes`. -/
def new (E : Engine W) (config : DetectConfig) : GuardLayer W where
  config := config
  bodyCap := config.maxFullScanBytes
  ipGate := none
  rateLimiter := none
  banState := none
  routeTiers := none
  routeConfigs := none
  geoHandler := none
  events := none
  observability := none
  onBlock := none
  responseModifier := none
  onError := none
  customErrorResponses := []
  passiveMode := false
  distributed := none
  distributedBanStore := none
  detectionExclusions := none
  emergencyMode := none
  httpsEnforcement := none
  requestLogging := none
  headersAuth := none
  referrerGate := none
  customChecks := none
  timeWindowGate := none
  geoBlocking := none
  cloudProvider := none
  userAgent := none
  responseProcessor := none
  excludePaths := []
  penetrationDetectionEnabled := true
  scanFn := E.scanRequest
  stage := none

/-! ### Builders -/

section Builders

variable (layer : GuardLayer W)

def withPenetrationDetection (enabled : Bool) : GuardLayer W :=
  { layer with penetrationDetectionEnabled := enabled }

def withExcludePaths (paths : List String) : GuardLayer W := { layer with excludePaths := paths }

def withBodyCap (cap : Nat) : GuardLayer W := { layer with bodyCap := cap }

def withIpGate (gate : IpGateConfig) : GuardLayer W := { layer with ipGate := some gate }

def withRateLimiting (limiter : RateLimiter) : GuardLayer W :=
  { layer with rateLimiter := some limiter }

/-- The violation counters are new with every installed ban half. -/
def withIpBanning (manager : IpBanManager) (counters : ViolationCounters)
    (config : IpBanConfig) : GuardLayer W :=
  { layer with banState := some { manager, counters, config } }

def withRouteTiers (resolver : RouteRateResolver W) : GuardLayer W :=
  { layer with routeTiers := some resolver }

def withRouteConfigs (resolver : RouteConfigResolver W) : GuardLayer W :=
  { layer with routeConfigs := some resolver }

def withGeoHandler (handler : GeoIpHandler W) : GuardLayer W :=
  { layer with geoHandler := some handler }

def withEventBus (bus : SecurityEventBus W) : GuardLayer W := { layer with events := some bus }

def withObservability (observability : ObservabilityConfig) : GuardLayer W :=
  { layer with observability := some observability }

def withOnBlock (hook : OnBlockHook W) : GuardLayer W := { layer with onBlock := some hook }

def withCustomResponseModifier (modifier : ResponseModifierFn W) : GuardLayer W :=
  { layer with responseModifier := some modifier }

def withOnError (hook : OnErrorHook W) : GuardLayer W := { layer with onError := some hook }

def withCustomErrorResponses (responses : CustomErrorResponses) : GuardLayer W :=
  { layer with customErrorResponses := responses }

def withPassiveMode (passive : Bool) : GuardLayer W := { layer with passiveMode := passive }

def withDistributedStore (store : SlidingWindowStore) (redisPrefix : String) (failOpen : Bool) :
    GuardLayer W :=
  { layer with distributed := some (store, redisPrefix, failOpen) }

def withDistributedBanStore (store : BanStore) : GuardLayer W :=
  { layer with distributedBanStore := some store }

def withDetectionExclusions (exclusions : DetectionExclusionConfig) : GuardLayer W :=
  { layer with detectionExclusions := some exclusions }

def withEmergencyMode (stage : EmergencyModeStage W) : GuardLayer W :=
  { layer with emergencyMode := some stage }

def withHttpsEnforcement (stage : HttpsEnforcementStage W) : GuardLayer W :=
  { layer with httpsEnforcement := some stage }

def withRequestLogging (stage : RequestLoggingStage W) : GuardLayer W :=
  { layer with requestLogging := some stage }

def withHeadersAuth (stage : HeadersAuthStage W) : GuardLayer W :=
  { layer with headersAuth := some stage }

def withReferrerGate (stage : ReferrerStage W) : GuardLayer W :=
  { layer with referrerGate := some stage }

def withCustomChecks (stage : CustomChecksStage W) : GuardLayer W :=
  { layer with customChecks := some stage }

def withTimeWindowGate (stage : TimeWindowStage W) : GuardLayer W :=
  { layer with timeWindowGate := some stage }

def withGeoBlocking (stage : GeoStage W) : GuardLayer W :=
  { layer with geoBlocking := some stage }

def withCloudProvider (stage : CloudProviderStage W) : GuardLayer W :=
  { layer with cloudProvider := some stage }

def withUserAgent (stage : UserAgentStage W) : GuardLayer W :=
  { layer with userAgent := some stage }

def withResponseProcessor (processor : ResponseProcessor W) : GuardLayer W :=
  { layer with responseProcessor := some processor }

end Builders

/-! ### Building the engine stage -/

/-- `build_stage`: an absent limiter or ban half is a disabled one. -/
def buildStage (E : Engine W) (layer : GuardLayer W) : RateLimitStage W :=
  E.rateLimitStage
    { config :=
        { rateLimit := (layer.rateLimiter.map RateLimiter.config).getD
            { E.defaultRateLimitConfig with enableRateLimiting := false }
          ipBan := (layer.banState.map BanState.config).getD
            { E.defaultIpBanConfig with enableIpBanning := false }
          passiveMode := layer.passiveMode
          customErrorResponses := layer.customErrorResponses }
      limiter := layer.rateLimiter
      banManager := layer.banState.map fun state => (state.manager, state.counters)
      routeResolver := layer.routeTiers
      geoHandler := layer.geoHandler
      events := layer.events
      observability := layer.observability
      onBlock := layer.onBlock
      distributedStore := layer.distributed
      distributedBanStore := layer.distributedBanStore }

/-- The clone `layer` hands to the service: the stage is built unless it is there. -/
def layered (E : Engine W) (layer : GuardLayer W) : GuardLayer W :=
  { layer with stage := some (layer.stage.getD (layer.buildStage E)) }

end GuardLayer

variable (W) in
/-- The middleware service. Only `layer` builds one, so the stage is always there. -/
structure GuardService where
  inner : InnerService W
  layer : GuardLayer W
  built : layer.stage.isSome = true

namespace GuardService

/-- The installed engine stage. -/
def stage (service : GuardService W) : RateLimitStage W :=
  service.layer.stage.get service.built

@[simp] theorem layer_stage (service : GuardService W) :
    service.layer.stage = some service.stage := by
  simp [stage]

end GuardService

/-- `Layer::layer`. -/
def GuardLayer.wrap (E : Engine W) (layer : GuardLayer W) (inner : InnerService W) :
    GuardService W where
  inner := inner
  layer := layer.layered E
  built := rfl

theorem GuardLayer.wrap_stage (E : Engine W) (layer : GuardLayer W) (inner : InnerService W)
    (fresh : layer.stage = none) : (layer.wrap E inner).stage = layer.buildStage E := by
  simp [GuardService.stage, wrap, layered, fresh]

end TowerGuard
