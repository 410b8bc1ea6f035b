import TowerGuard.Pass
import TowerGuard.Buffer
import TowerGuard.Scan

/-!
# The arms of `GuardService::call`

One definition for each arm of the request path, in the order of the source. An arm takes
the locals it reads, leaves early where the source returns, and hands back the locals it
writes.
-/

namespace TowerGuard

open Text Traced

variable {W : World} (E : Engine W) (layer : GuardLayer W)

/-- A return out of the pipeline, recorded as the denial of the question `c`. -/
def refuse {α : Type} (c : Consult W) (early : Early W) : Guarded W α := do
  Prog.emit ⟨c, .denied⟩
  Prog.exit early

def Parts.block (parts : Parts W) (status : Nat) (body : String) : Early W :=
  .answered parts (.block status body)

def eqIgnoreAsciiCase (a b : String) : Bool :=
  a.toList.map Char.toLower = b.toList.map Char.toLower

/-- The redacted payload of a block, when observability is installed. -/
def blockPayload (parts : Parts W) (check reason trigger ip : String) (status : Nat) :
    Option BlockPayload :=
  layer.observability.map fun observability =>
    let observation := requestObservation parts
    E.buildBlockPayload
      { checkName := check
        reason := reason
        triggerInfo := trigger
        passiveMode := false
        clientIp := ip
        url := observation.url.getD "/"
        method := observation.method.getD ""
        statusCode := some status }
      observability.sensitive

/-- `fire_block_hook`. -/
def fireBlock {ε : Type} : Option BlockPayload → Prog (Store W) (Event W) ε Unit
  | some payload => notify (.blockHook payload) (E.fireBlockHook layer.onBlock payload)
  | none => pure ()

/-! ### Before the security checks -/

def excludePaths (facts : RequestFacts) (parts : Parts W) : Guarded W Unit :=
  screen (.excludePaths facts.path)
    (Call.returning (if layer.excludePaths.contains facts.path then some () else none))
    fun _ => .excluded parts

/-- `preflight_answer` up to its rendering; a missing CORS config panics (`expect`). -/
def preflightAnswer (cors : Option CorsConfig) (parts : Parts W) :
    Call (Store W) (Option PreflightAnswer) := fun s =>
  -- A value that is no string reads as empty here; the scan drops it instead.
  let headers := parts.headers.map fun (name, value) => (name, value.toStr.getD "")
  let find := fun name => (headers.find? fun entry => eqIgnoreAsciiCase entry.1 name).map Prod.snd
  (cors.map fun cors =>
    if E.isPreflight parts.method headers then
      some (E.buildPreflightResponse cors
        { origin := find "origin"
          requestMethod := find E.allowedPreflightRequestHeader
          requestHeadersRaw := find "access-control-request-headers" })
    else none, s)

@[simp, grind =] theorem preflightAnswer_state (cors : Option CorsConfig) (parts : Parts W)
    (s : Store W) : (preflightAnswer E cors parts s).2 = s := rfl

def corsPreflight (facts : RequestFacts) (parts : Parts W) : Guarded W Unit :=
  if eqIgnoreAsciiCase facts.method "OPTIONS" then
    match layer.responseProcessor with
    | some processor =>
      if processor.corsEnabled then
        screen (.corsPreflight facts.method) (preflightAnswer E processor.cors parts)
          fun answer => .answered parts (.preflight answer)
      else pure ()
    | none => pure ()
  else pure ()

/-- The carrier extension wins over the installed resolver. -/
def routeCarrier (facts : RequestFacts) (parts : Parts W) :
    Guarded W (Option (RouteConfig W)) :=
  match parts.extensions.routeConfig with
  | some route => pure (some route)
  | none =>
    match layer.routeConfigs with
    | some resolver =>
      notify (.routeConfigs facts.method facts.path) (resolver facts.method facts.path)
    | none => pure none

/-- `process_usage_rules` at the current time: a ban action denies. -/
def usageBan (processor : ResponseProcessor W) (endpoint client : String)
    (rules : List BehaviorRule) : Call (Store W) (Option Unit) := fun s =>
  Call.map (fun actions => if actions.any BehaviorAction.isBan then some () else none)
    (onOther (processor.processUsageRules endpoint client rules (E.now s.other))) s

@[simp, grind =] theorem usageBan_limits (processor : ResponseProcessor W)
    (endpoint client : String) (rules : List BehaviorRule) (s : Store W) :
    (usageBan E processor endpoint client rules s).2.limits = s.limits := rfl

def usageRules (facts : RequestFacts) (parts : Parts W) (route : Option (RouteConfig W)) :
    Guarded W Unit :=
  let rules := (route.map RouteConfig.behaviorRules).getD []
  if rules ≠ [] then
    match layer.responseProcessor with
    | some processor =>
      let endpoint := facts.method ++ ":" ++ facts.path
      -- All unattributed clients share the empty identity.
      let client := (facts.ip.map IpAddr.display).getD ""
      screen (.usageRules endpoint client rules) (usageBan E processor endpoint client rules)
        fun _ => parts.block 403 activityBannedMessage
    | none => pure ()
  else pure ()

/-- `should_bypass_check`: the named check, or the `"all"` wildcard. -/
def bypassed (route : Option (RouteConfig W)) (check : String) : Bool :=
  route.any fun route =>
    route.bypassedChecks.contains "all" || route.bypassedChecks.contains check

/-! ### Addresses -/

def routeIpDenial (gate : RouteIpGate) (ip : Option IpAddr) : Option Unit :=
  -- Without an address the lists restrict nothing.
  if (ip.map gate.evaluate).getD .unrestricted = .denied then some () else none

/-- The route's IP lists; hands back `skip_global_ip_lists`. -/
def routeIpLists (facts : RequestFacts) (parts : Parts W) (route : Option (RouteConfig W)) :
    Guarded W Bool :=
  match route with
  | none => pure false
  | some carrier =>
    if !bypassed route "ip" && (carrier.ipWhitelist.isSome || carrier.ipBlacklist.isSome) then
      match E.routeIpGate (carrier.ipWhitelist.getD []) (carrier.ipBlacklist.getD []) with
      | .ok gate => do
        screen (.routeIpLists facts.ip) (Call.returning (routeIpDenial gate facts.ip))
          fun _ => parts.block 403 forbiddenMessage
        -- Whoever passes a configured whitelist is not put to the global lists.
        pure gate.whitelistConfigured
      -- Lists the engine does not parse fail secure.
      | .error _ => refuse (.routeIpLists facts.ip) (.answered parts .failure)
    else pure false

def routeCountryGate (carrier : RouteConfig W) : CountryGate :=
  E.parseCountryLists (carrier.whitelistCountries.getD []) (carrier.blockedCountries.getD [])

/-- The route's country rules; hands back `skip_global_countries`. -/
def routeCountries (facts : RequestFacts) (parts : Parts W) (route : Option (RouteConfig W)) :
    Guarded W Bool :=
  match route with
  | none => pure false
  | some carrier =>
    if !bypassed route "ip" &&
        (carrier.blockedCountries.isSome || carrier.whitelistCountries.isSome) then
      let gate := routeCountryGate E carrier
      match facts.ip, layer.geoHandler with
      | some ip, some handler => do
        screen (.routeCountries ip) (onOther (E.checkCountries ip gate handler false))
          fun _ => parts.block 403 forbiddenMessage
        pure (!gate.whitelistCountries.isEmpty)
      -- Without an address or a handler the rules are not judged, and a whitelist among them
      -- does not switch the global stage off either.
      | _, _ => pure false
    else pure false

/-- `extensions.insert(decision)`. -/
def Parts.withDecision (parts : Parts W) (decision : IpGateDecision) : Parts W :=
  { parts with extensions := { parts.extensions with gateDecision := some decision } }

def gatePayload (parts : Parts W) (ip : IpAddr) (denial : IpGateDenial) : Option BlockPayload :=
  blockPayload E layer parts "ip_security" ("IP address blocked: " ++ ip.display) denial.reason
    ip.display 403

/-- `enforce_ip_gate`: the parts a passed request goes on with. -/
def enforceIpGate (parts : Parts W) : Guarded W (Parts W) :=
  match layer.ipGate, parts.extensions.clientIp with
  | some gate, some ip =>
    match gate.evaluate ip with
    | .allowed decision => do
      Prog.emit ⟨.ipGate ip, .passed⟩
      pure (parts.withDecision decision)
    | .denied denial =>
      -- Passive mode forwards without a decision: the request stays unattributed.
      if layer.passiveMode then do
        Prog.emit ⟨.ipGate ip, .passed⟩
        pure parts
      else do
        Prog.emit ⟨.ipGate ip, .denied⟩
        fireBlock E layer (gatePayload E layer parts ip denial)
        Prog.exit (.answered parts
          (.gate (E.resolveErrorBody layer.customErrorResponses 403 forbiddenMessage)))
  | _, _ => pure parts

def ipGate (parts : Parts W) (route : Option (RouteConfig W)) (skipGlobalIpLists : Bool) :
    Guarded W (Parts W) :=
  if !bypassed route "ip" && !skipGlobalIpLists then enforceIpGate E layer parts else pure parts

/-! ### Emergency, transport, logging, body -/

def emergencyMode (facts : RequestFacts) (parts : Parts W) : Guarded W Unit :=
  match layer.emergencyMode with
  | some stage =>
    screen (.emergencyMode facts.attributed)
      (onOther (stage.decide facts.attributed facts.ipString facts.path facts.method))
      fun answer => parts.block answer.status answer.body
  | none => pure ()

def httpsEnforcement (facts : RequestFacts) (parts : Parts W)
    (route : Option (RouteConfig W)) : Guarded W Unit :=
  let clientHost := facts.host.map hostOfAuthority
  let redirect := fun answer => Early.answered parts (.redirect answer)
  match layer.httpsEnforcement, route with
  | some stage, some carrier =>
    screen (.httpsEnforcement clientHost facts.xForwardedProto (some carrier.requireHttps))
      (onOther (stage.decideRoute facts.path facts.scheme clientHost facts.xForwardedProto
        facts.httpsUrl (some carrier.requireHttps)))
      redirect
  | some stage, none =>
    screen (.httpsEnforcement clientHost facts.xForwardedProto none)
      (onOther (stage.decide facts.path facts.scheme clientHost facts.xForwardedProto
        facts.httpsUrl))
      redirect
  | none, some carrier =>
    -- No stage installed: the route arm composes the redirect itself.
    if carrier.requireHttps then
      screen (.httpsEnforcement clientHost facts.xForwardedProto (some true))
        (Call.returning (if facts.scheme ≠ "https" ∧ layer.passiveMode = false then
          some { status := 301, location := facts.httpsUrl } else none))
        redirect
    else pure ()
  | none, none => pure ()

def requestLogging (facts : RequestFacts) : Guarded W Unit :=
  match layer.requestLogging with
  | some stage => do
    let _line ← notify .requestLogging
      (stage.compose facts.attributed (some facts.method) (some facts.path) none)
    pure ()
  | none => pure ()

def countryLog (facts : RequestFacts) : Guarded W Unit :=
  match layer.observability, layer.geoBlocking with
  | some observability, some stage => do
    let _line ← notify (.countryLog facts.ip)
      (stage.countryCheckLog facts.ip observability.logSuspiciousLevel
        observability.logCountryCheckLevel)
    pure ()
  | _, _ => pure ()

/-- The route's size limit when it fits a `usize`, else the layer's cap. -/
def bodyCap (route : Option (RouteConfig W)) : Nat :=
  -- A limit beyond `usize` is dropped, not clamped (`try_from(..).ok()`).
  ((route.bind RouteConfig.maxRequestSize).filter (· ≤ E.usizeMax)).getD layer.bodyCap

def bodyBuffering (parts : Parts W) (body : Body) (route : Option (RouteConfig W)) :
    Guarded W (Option Bytes) :=
  let cap := bodyCap E layer route
  match bufferBody body cap with
  | (.ok buffered, unread) => do
    Prog.emit ⟨.bodyBuffering cap unread, .passed⟩
    pure buffered
  | (.error .tooLarge, unread) => refuse (.bodyBuffering cap unread) (.answered parts .oversize)
  | (.error .read, unread) => refuse (.bodyBuffering cap unread) (.answered parts .failure)

/-! ### Headers, referrer, validators, time window -/

def RouteConfig.headerAuthRules (carrier : RouteConfig W) : HeaderAuthRules where
  requiredHeaders := carrier.requiredHeaders.map fun (name, expected) => { name, expected }
  authRequired := carrier.authRequired
  apiKeyRequired := carrier.apiKeyRequired
  apiKeyHeader := carrier.apiKeyHeader
  authorizationHeaderRequired := carrier.authorizationHeaderRequired

def RouteConfig.verifiers (carrier : RouteConfig W) : RouteVerifiers W where
  auth := carrier.authVerifier
  apiKey := carrier.apiKeyVerifier

/-- The first header of that name, cases aside. -/
def lookupHeader (parts : Parts W) (name : String) : Option String :=
  -- A value that is no string is not there for the rules.
  ((headerPairs parts.headers).find? fun entry => eqIgnoreAsciiCase entry.1 name).map Prod.snd

def routeHeadersAuth (parts : Parts W) (route : Option (RouteConfig W)) : Guarded W Unit :=
  match route with
  | some carrier =>
    if E.hasRules carrier.headerAuthRules then
      screen (.routeHeadersAuth carrier.headerAuthRules)
        (onOther (E.headersAuthDecide carrier.headerAuthRules carrier.verifiers
          (lookupHeader parts)))
        fun block => parts.block block.status block.body
    else pure ()
  | none => pure ()

def headersAuth (facts : RequestFacts) (parts : Parts W) : Guarded W Unit :=
  match layer.headersAuth with
  | some stage =>
    screen (.headersAuth facts.path)
      (onOther (stage.decide facts.path (headerPairs parts.headers)))
      fun (_, answer) => parts.block answer.status.asU16 answer.body
  | none => pure ()

def referrerDenial (referer : Option String) (domains : List String) : Option GateAnswer :=
  match E.referrerDecide referer domains with
  | .allowed => none
  -- The domain an invalid referrer came from is not part of the answer.
  | .missing => some E.referrerMissing
  | .invalid _ => some E.referrerInvalid

def routeReferrer (facts : RequestFacts) (parts : Parts W) (route : Option (RouteConfig W)) :
    Guarded W Unit :=
  match route.bind RouteConfig.requireReferrer with
  | some domains =>
    screen (.routeReferrer facts.referer domains)
      (Call.returning (referrerDenial E facts.referer domains))
      fun answer => parts.block answer.status answer.body
  | none => pure ()

def referrerGate (facts : RequestFacts) (parts : Parts W) : Guarded W Unit :=
  match layer.referrerGate with
  | some stage =>
    screen (.referrerGate facts.path facts.referer)
      (onOther (stage.decide facts.path facts.referer facts.ipString facts.path facts.method))
      fun answer => parts.block answer.status answer.body
  | none => pure ()

/-- What a validator or the custom request function sees; the body only as valid UTF-8. -/
def customContext (facts : RequestFacts) (buffered : Option Bytes) : CustomRequestContext where
  method := facts.method
  path := facts.path
  clientIp := facts.attributed
  body := buffered.bind fromUtf8

def validatorsDenial : CustomValidatorsVerdict → Option (Option CustomResponse)
  | .passed => none
  | .failed _ block => some block

def routeValidators (facts : RequestFacts) (parts : Parts W) (route : Option (RouteConfig W))
    (buffered : Option Bytes) : Guarded W Unit :=
  let validators := (route.map RouteConfig.customValidators).getD []
  if validators.isEmpty then pure ()
  else
    let named := validators.map fun validator => (E.anonymousName, validator)
    let ctx := customContext facts buffered
    screen (.routeValidators ctx)
      (Call.map validatorsDenial (onOther (E.decideCustomValidators named ctx)))
      -- A failure without a response, or without a status in it, renders the framework's 200;
      -- the validator's own body is not rendered.
      fun block => parts.block ((block.bind CustomResponse.status).getD 200) ""

def customValidators (facts : RequestFacts) (parts : Parts W) (buffered : Option Bytes) :
    Guarded W Unit :=
  match layer.customChecks with
  | some stage =>
    let ctx := customContext facts buffered
    screen (.customValidators ctx)
      (onOther (stage.decideCustomValidators ctx.path ctx.method ctx.clientIp ctx.body))
      fun failure => parts.block (failure.status.getD 200) ""
  | none => pure ()

def timeWindowOf (restrictions : List (String × String)) : TimeWindow where
  start := restrictions.lookup "start"
  end_ := restrictions.lookup "end"
  timezone := restrictions.lookup "timezone"

/-- The time-window rule at the current time. -/
def outsideWindow (window : TimeWindow) : Call (Store W) (Option Unit) := fun s =>
  (some (if E.isWithin window (E.hhmmInZone (E.utcNow s.other) window.timezone) then none
    else some ()), s)

@[simp, grind =] theorem outsideWindow_state (window : TimeWindow) (s : Store W) :
    (outsideWindow E window s).2 = s := rfl

def routeTimeWindow (parts : Parts W) (route : Option (RouteConfig W)) : Guarded W Unit :=
  match route.bind RouteConfig.timeRestrictions with
  | some restrictions =>
    let window := timeWindowOf restrictions
    screen (.routeTimeWindow window) (outsideWindow E window)
      fun _ => parts.block E.timeWindowBlock.status E.timeWindowBlock.body
  | none => pure ()

def timeWindowGate (facts : RequestFacts) (parts : Parts W) : Guarded W Unit :=
  match layer.timeWindowGate with
  | some stage =>
    screen (.timeWindowGate facts.path)
      (onOther (stage.decide facts.path facts.ipString facts.path facts.method))
      fun answer => parts.block answer.status answer.body
  | none => pure ()

/-! ### Detection -/

/-- Whether the detection scan is off for the request. -/
def detectionOff (route : Option (RouteConfig W)) : Bool :=
  bypassed route "penetration" ||
    !E.detectionEnabled layer.penetrationDetectionEnabled
      (route.map RouteConfig.enableSuspiciousDetection)

def scan (parts : Parts W) (route : Option (RouteConfig W)) (buffered : Option Bytes) :
    Guarded W (Option RequestScanVerdict) :=
  if detectionOff E layer route then pure none
  else do
    match ← scanRequest E layer parts buffered with
    -- The scan never denies: a threat goes on as a finding, and only a recovered panic answers.
    | .clean => pure none
    | .failed => Prog.exit (.answered parts .failure)
    | .threat verdict => pure (some verdict)

/-! ### The engine stage and the checks between its halves -/

def bans (stage : RateLimitStage W) (facts : RequestFacts) (parts : Parts W)
    (route : Option (RouteConfig W)) : Guarded W Unit :=
  if bypassed route "ip_ban" then pure ()
  else
    screen (.bans facts.ip)
      (stage.decideBansObserved facts.ip (some (requestObservation parts)))
      fun blocked => .answered parts (.stage blocked)

/-- A geo, cloud or user-agent answer; its body takes no override. -/
def Parts.blockStage (parts : Parts W) (answer : StageResponse) : Early W :=
  parts.block answer.status.asU16 answer.body

def geo (facts : RequestFacts) (parts : Parts W) (route : Option (RouteConfig W))
    (skipGlobalCountries : Bool) : Guarded W Unit :=
  match layer.geoBlocking with
  | some stage =>
    if !bypassed route "ip" && !skipGlobalCountries then
      screen (.geo facts.ip facts.gate) (onOther (stage.decide facts.ip facts.gate))
        parts.blockStage
    else pure ()
  | none => pure ()

/-- The route's provider list, when it is not empty. -/
def routeProviders (route : Option (RouteConfig W)) : Option (List String) :=
  (route.map RouteConfig.blockCloudProviders).filter (!·.isEmpty)

def cloud (facts : RequestFacts) (parts : Parts W) (route : Option (RouteConfig W)) :
    Guarded W Unit :=
  if bypassed route "clouds" then pure ()
  else
    match routeProviders route with
    | some providers =>
      match E.parseCloudSelectors providers, layer.cloudProvider with
      -- The route's list takes the place of the global one.
      | .ok selectors, some stage =>
        screen (.routeCloud facts.ip facts.gate providers)
          (onOther (stage.decideRoute facts.ip facts.gate selectors)) parts.blockStage
      -- A list that parses needs the stage: without it nobody judges the list.
      | .ok _, none => pure ()
      -- A selector the engine does not parse fails secure, with the stage or without it.
      | .error _, _ => refuse (.routeCloudSelectors providers) (.answered parts .failure)
    | none =>
      match layer.cloudProvider with
      | some stage =>
        screen (.cloud facts.ip facts.gate) (onOther (stage.decide facts.ip facts.gate))
          parts.blockStage
      | none => pure ()

/-- The route's blocked user agents, when there are any. -/
def routePatterns (route : Option (RouteConfig W)) : Option (List String) :=
  (route.map RouteConfig.blockedUserAgents).filter (!·.isEmpty)

/-- The patterns a filter is built of: no filter is built for a skipping client. -/
def patternsDue (facts : RequestFacts) (route : Option (RouteConfig W)) :
    Option (List String) :=
  -- This gate is the extension as the request came with it.
  (routePatterns route).filter fun _ => !facts.gate.any IpGateDecision.skips

/-- What the route's patterns deny: a match, and, fail secure, patterns that do not compile. -/
def routePatternsDenial (userAgent : Option String) (patterns : List String) : Option Answer :=
  match E.userAgentFilter patterns with
  | .ok filter =>
    if filter.isBlocked (userAgent.getD "") then some (.block 403 "User-Agent not allowed")
    else none
  | .error _ => some .failure

def routeUserAgents (facts : RequestFacts) (parts : Parts W)
    (route : Option (RouteConfig W)) : Guarded W Unit :=
  match patternsDue facts route with
  | some patterns =>
    screen (.routeUserAgents patterns facts.gate)
      (Call.returning (routePatternsDenial E facts.userAgent patterns))
      fun answer => .answered parts answer
  | none => pure ()

def userAgent (facts : RequestFacts) (parts : Parts W) (finding : Option ThreatFinding) :
    Guarded W Unit :=
  match layer.userAgent with
  | some stage =>
    screen (.userAgent facts.ip facts.gate finding)
      (stage.decide facts.ip facts.gate (some facts.path) facts.userAgent finding)
      parts.blockStage
  | none => pure ()

/-- The carrier's validated tier. -/
def carrierTiers (route : Option (RouteConfig W)) :
    Except EngineError (Option W.RouteRateLimits) :=
  match route with
  | some carrier => carrier.rateLimits
  | none => .ok none

def rateLimit (stage : RateLimitStage W) (facts : RequestFacts) (parts : Parts W)
    (route : Option (RouteConfig W)) (finding : Option ThreatFinding) : Guarded W Unit :=
  match carrierTiers route with
  -- An invalid tier fails secure even where the pass is bypassed.
  | .error _ => refuse .routeRateLimits (.answered parts .failure)
  | .ok tiers =>
    -- The carrier's tier wins over the request's extension.
    let routeTiers := tiers.or parts.extensions.rateLimits
    -- Read off the parts, where the IP gate has put its decision by now.
    let gate := parts.extensions.gateDecision
    if bypassed route "rate_limit" then pure ()
    else
      screen (.rateLimit facts.ip gate finding)
        (stage.decideTiersObserved facts.ip (some facts.path) routeTiers gate finding
          (some (requestObservation parts)))
        fun blocked => .answered parts (.stage blocked)

def detectionPayload (facts : RequestFacts) (parts : Parts W) (verdict : RequestScanVerdict) :
    Option BlockPayload :=
  blockPayload E layer parts "suspicious_activity"
    ("Suspicious activity detected: " ++ facts.ipString) verdict.reason facts.ipString 400

def detection (stage : RateLimitStage W) (facts : RequestFacts) (parts : Parts W)
    (verdict : Option RequestScanVerdict) : Guarded W Unit :=
  match verdict with
  | none => pure ()
  | some verdict =>
    -- The engine stage has counted the finding; in passive mode nothing is rendered.
    if stage.config.passiveMode then Prog.emit ⟨.detection verdict.reason, .passed⟩
    else do
      Prog.emit ⟨.detection verdict.reason, .denied⟩
      fireBlock E layer (detectionPayload E layer facts parts verdict)
      Prog.exit (parts.block 400
        (E.resolveErrorBody layer.customErrorResponses 400 blockedMessage))

def customRequest (facts : RequestFacts) (parts : Parts W) (buffered : Option Bytes) :
    Guarded W Unit :=
  match layer.customChecks with
  | some stage =>
    let ctx := customContext facts buffered
    screen (.customRequest ctx)
      (onOther (stage.decideCustomRequest ctx.method ctx.path ctx.clientIp ctx.body))
      fun answer => parts.block (answer.status.getD 200) ""
  | none => pure ()

end TowerGuard
