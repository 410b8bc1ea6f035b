import TowerGuard.Service
import TowerGuard.Traced.Checklist

/-!
# The ordered check list

The abstract pipeline: a list of checks, each of which, on the locals of the request,
either does not apply or puts one question whose ruling passes or denies. The first denial
is the answer. `screening_eq` says that `GuardService::call` is the run of this list.
-/

namespace TowerGuard

open Text Traced

variable {W : World}

variable (W) in
/-- The local variables of the request path. -/
structure Locals where
  parts : Parts W
  facts : RequestFacts
  body : Body
  route : Option (RouteConfig W)
  skipGlobalIpLists : Bool
  skipGlobalCountries : Bool
  buffered : Option Bytes
  verdict : Option RequestScanVerdict

/-- The locals at the start of `call`. A carrier the request brings along is there already. -/
def Locals.start (request : Request W) : Locals W where
  parts := request.toParts
  facts := RequestFacts.extract request.toParts
  body := request.body
  route := request.extensions.routeConfig
  skipGlobalIpLists := false
  skipGlobalCountries := false
  buffered := none
  verdict := none

variable (W) in
/-- How a check rules: it passes with the next locals, passes with a finding, denies, or
its collaborator panicked and the panic was recovered into a denial. -/
inductive Ruling where
  | pass (next : Locals W)
  | flag (next : Locals W)
  | deny (early : Early W) (payload : Option BlockPayload)
  | recover (early : Early W)

/-- The locals a passing ruling goes on with. -/
def Ruling.next? : Ruling W → Option (Locals W)
  | .pass next | .flag next => some next
  | .deny _ _ | .recover _ => none

def Verdict.ofRuling : Option (Ruling W) → Verdict
  | none => .panicked
  | some (.pass _) => .passed
  | some (.flag _) => .flagged
  | some (.deny _ _) => .denied
  | some (.recover _) => .panicked

def Ruling.ofDenial {α : Type} (χ : Locals W) (early : α → Early W) : Option α → Ruling W
  | none => .pass χ
  | some denial => .deny (early denial) none

variable (W) in
/-- One question of a check, and the ruling its collaborator gives. -/
structure Trial where
  question : Consult W
  ruling : Call (Store W) (Ruling W)

/-- A question that passes to `χ` or returns its denial early. -/
def Trial.screen {α : Type} (χ : Locals W) (question : Consult W)
    (decision : Call (Store W) (Option α)) (early : α → Early W) : Trial W where
  question := question
  ruling := Call.map (Ruling.ofDenial χ early) decision

@[simp, grind =] theorem Trial.screen_question {α : Type} (χ : Locals W) (question : Consult W)
    (decision : Call (Store W) (Option α)) (early : α → Early W) :
    (Trial.screen χ question decision early).question = question := rfl

@[simp, grind =] theorem Trial.screen_ruling {α : Type} (χ : Locals W) (question : Consult W)
    (decision : Call (Store W) (Option α)) (early : α → Early W) (s : Store W) :
    (Trial.screen χ question decision early).ruling s =
      ((decision s).1.map (Ruling.ofDenial χ early), (decision s).2) := rfl

/-- A screen that passes goes on with its own next locals. -/
theorem Trial.screen_next {α : Type} {χ χ' : Locals W} {question : Consult W}
    {decision : Call (Store W) (Option α)} {early : α → Early W} {s s' : Store W}
    {ruling : Ruling W}
    (ruled : (Trial.screen χ question decision early).ruling s = (some ruling, s'))
    (passes : ruling.next? = some χ') : χ' = χ ∧ (decision s).1 = some none := by
  have answered := congrArg Prod.fst ruled
  simp only [Trial.screen_ruling] at answered
  obtain ⟨_ | denial, said, rfl⟩ := Option.map_eq_some_iff.mp answered
  · cases passes
    exact ⟨rfl, said⟩
  · cases passes

theorem Trial.screen_denied_iff {α : Type} {χ : Locals W} {question : Consult W}
    {decision : Call (Store W) (Option α)} {early : α → Early W} {s : Store W} :
    Verdict.ofRuling ((Trial.screen χ question decision early).ruling s).1 = .denied ↔
      ∃ denial, (decision s).1 = some (some denial) := by
  rw [Trial.screen_ruling]
  rcases decision s with ⟨_ | _ | denial, s'⟩ <;> simp [Ruling.ofDenial, Verdict.ofRuling]

/-- A screen whose decision denies nothing here is no denial. -/
theorem Trial.screen_not_denied {α : Type} {χ : Locals W} {question : Consult W}
    {decision : Call (Store W) (Option α)} {early : α → Early W} {s : Store W}
    (h : ∀ denial, (decision s).1 ≠ some (some denial)) :
    Verdict.ofRuling ((Trial.screen χ question decision early).ruling s).1 ≠ .denied := by
  rw [ne_eq, Trial.screen_denied_iff]
  rintro ⟨denial, denied⟩
  exact h denial denied

/-- A question that cannot deny. -/
def Trial.compose {α : Type} (question : Consult W) (call : Call W.Other α)
    (next : α → Locals W) : Trial W where
  question := question
  ruling := Call.map (fun answer => .pass (next answer)) (onOther call)

@[simp, grind =] theorem Trial.compose_question {α : Type} (question : Consult W)
    (call : Call W.Other α) (next : α → Locals W) :
    (Trial.compose question call next).question = question := rfl

@[simp, grind =] theorem Trial.compose_ruling {α : Type} (question : Consult W)
    (call : Call W.Other α) (next : α → Locals W) (s : Store W) :
    (Trial.compose question call next).ruling s =
      ((onOther call s).1.map fun answer => .pass (next answer), (onOther call s).2) := rfl

theorem Trial.compose_not_denied {α : Type} (question : Consult W) (call : Call W.Other α)
    (next : α → Locals W) (s : Store W) :
    Verdict.ofRuling ((Trial.compose question call next).ruling s).1 ≠ .denied := by
  rw [Trial.compose_ruling]
  rcases (onOther call s).1 with _ | answer <;> simp [Verdict.ofRuling]

/-- A ruling the guard reaches by itself. -/
def Trial.settled (question : Consult W) (ruling : Ruling W) : Trial W where
  question := question
  ruling := Call.returning ruling

@[simp, grind =] theorem Trial.settled_question (question : Consult W) (ruling : Ruling W) :
    (Trial.settled question ruling).question = question := rfl

@[simp, grind =] theorem Trial.settled_ruling (question : Consult W) (ruling : Ruling W)
    (s : Store W) : (Trial.settled question ruling).ruling s = (some ruling, s) := rfl

/-- A question behind a guard on what is installed. -/
theorem bind_guard_iff {α β : Type} {installed : Option α} {due : α → Prop}
    [∀ a, Decidable (due a)] {question : α → Option β} {b : β} :
    (installed.bind fun a => if due a then question a else none) = some b ↔
      ∃ a, installed = some a ∧ due a ∧ question a = some b := by
  simp only [Option.bind_eq_some_iff, Option.ite_none_right_eq_some]

namespace Check

/-- The pipeline. -/
def pipeline : List Check :=
  [.excludePaths, .corsPreflight, .routeCarrier, .usageRules, .routeIpLists, .routeCountries,
    .ipGate, .emergencyMode, .httpsEnforcement, .requestLogging, .countryLog, .bodyBuffering,
    .routeHeadersAuth, .headersAuth, .routeReferrer, .referrerGate, .routeValidators,
    .customValidators, .routeTimeWindow, .timeWindowGate, .scan, .bans, .geo, .cloud,
    .routeUserAgents, .userAgent, .rateLimit, .detection, .customRequest]

theorem pipeline_nodup : pipeline.Nodup := by decide

/-- The place of a check in the pipeline. -/
def position (k : Check) : Nat := pipeline.idxOf k

theorem mem_pipeline (k : Check) : k ∈ pipeline := by cases k <;> decide

section Trial

variable (E : Engine W) (service : GuardService W)

/-- The question a check puts on these locals; `none` where it does not apply. -/
def trial : Check → Locals W → Option (Trial W)
  | .excludePaths, χ => some <|
      .screen χ (.excludePaths χ.facts.path)
        (Call.returning
          (if service.layer.excludePaths.contains χ.facts.path then some () else none))
        fun _ => .excluded χ.parts
  | .corsPreflight, χ => do
      let processor ← service.layer.responseProcessor
      if eqIgnoreAsciiCase χ.facts.method "OPTIONS" ∧ processor.corsEnabled then
        some (.screen χ (.corsPreflight χ.facts.method)
          (preflightAnswer E processor.cors χ.parts)
          fun answer => .answered χ.parts (.preflight answer))
      else none
  | .routeCarrier, χ =>
      match χ.parts.extensions.routeConfig with
      | some _ => none
      | none => service.layer.routeConfigs.map fun resolver =>
          .compose (.routeConfigs χ.facts.method χ.facts.path)
            (resolver χ.facts.method χ.facts.path) fun route => { χ with route := route }
  | .usageRules, χ => do
      let rules := (χ.route.map RouteConfig.behaviorRules).getD []
      let processor ← service.layer.responseProcessor
      if rules ≠ [] then
        let endpoint := χ.facts.method ++ ":" ++ χ.facts.path
        let client := (χ.facts.ip.map IpAddr.display).getD ""
        some (.screen χ (.usageRules endpoint client rules)
          (usageBan E processor endpoint client rules)
          fun _ => χ.parts.block 403 activityBannedMessage)
      else none
  | .routeIpLists, χ => do
      let carrier ← χ.route
      if !bypassed χ.route "ip" && (carrier.ipWhitelist.isSome || carrier.ipBlacklist.isSome)
      then
        match E.routeIpGate (carrier.ipWhitelist.getD []) (carrier.ipBlacklist.getD []) with
        -- A pass of the route's lists decides on the global ones.
        | .ok gate => some (.screen { χ with skipGlobalIpLists := gate.whitelistConfigured }
            (.routeIpLists χ.facts.ip) (Call.returning (routeIpDenial gate χ.facts.ip))
            fun _ => χ.parts.block 403 forbiddenMessage)
        | .error _ => some (.settled (.routeIpLists χ.facts.ip)
            (.deny (.answered χ.parts .failure) none))
      else none
  | .routeCountries, χ => do
      let carrier ← χ.route
      let ip ← χ.facts.ip
      let handler ← service.layer.geoHandler
      if !bypassed χ.route "ip" &&
          (carrier.blockedCountries.isSome || carrier.whitelistCountries.isSome) then
        let gate := routeCountryGate E carrier
        some (.screen { χ with skipGlobalCountries := !gate.whitelistCountries.isEmpty }
          (.routeCountries ip) (onOther (E.checkCountries ip gate handler false))
          fun _ => χ.parts.block 403 forbiddenMessage)
      else none
  | .ipGate, χ => do
      let gate ← service.layer.ipGate
      let ip ← χ.parts.extensions.clientIp
      if !bypassed χ.route "ip" && !χ.skipGlobalIpLists then
        some <| .settled (.ipGate ip) <|
          match gate.evaluate ip with
          | .allowed decision => .pass { χ with parts := χ.parts.withDecision decision }
          | .denied denial =>
            -- In passive mode the gate passes without leaving its decision.
            if service.layer.passiveMode then .pass χ
            else .deny (.answered χ.parts
                (.gate (E.resolveErrorBody service.layer.customErrorResponses 403
                  forbiddenMessage)))
              (gatePayload E service.layer χ.parts ip denial)
      else none
  | .emergencyMode, χ => service.layer.emergencyMode.map fun stage =>
      .screen χ (.emergencyMode χ.facts.attributed)
        (onOther (stage.decide χ.facts.attributed χ.facts.ipString χ.facts.path χ.facts.method))
        fun answer => χ.parts.block answer.status answer.body
  | .httpsEnforcement, χ =>
      let clientHost := χ.facts.host.map hostOfAuthority
      let redirect := fun answer => Early.answered χ.parts (.redirect answer)
      match service.layer.httpsEnforcement, χ.route with
      | some stage, some carrier => some <|
          .screen χ (.httpsEnforcement clientHost χ.facts.xForwardedProto
              (some carrier.requireHttps))
            (onOther (stage.decideRoute χ.facts.path χ.facts.scheme clientHost
              χ.facts.xForwardedProto χ.facts.httpsUrl (some carrier.requireHttps)))
            redirect
      | some stage, none => some <|
          .screen χ (.httpsEnforcement clientHost χ.facts.xForwardedProto none)
            (onOther (stage.decide χ.facts.path χ.facts.scheme clientHost
              χ.facts.xForwardedProto χ.facts.httpsUrl))
            redirect
      | none, some carrier =>
          if carrier.requireHttps then some <|
            .screen χ (.httpsEnforcement clientHost χ.facts.xForwardedProto (some true))
              (Call.returning
                (if χ.facts.scheme ≠ "https" ∧ service.layer.passiveMode = false then
                  some { status := 301, location := χ.facts.httpsUrl } else none))
              redirect
          else none
      | none, none => none
  | .requestLogging, χ => service.layer.requestLogging.map fun stage =>
      .compose .requestLogging
        (stage.compose χ.facts.attributed (some χ.facts.method) (some χ.facts.path) none)
        fun _ => χ
  | .countryLog, χ => do
      let observability ← service.layer.observability
      let stage ← service.layer.geoBlocking
      some (.compose (.countryLog χ.facts.ip)
        (stage.countryCheckLog χ.facts.ip observability.logSuspiciousLevel
          observability.logCountryCheckLevel)
        fun _ => χ)
  | .bodyBuffering, χ =>
      let cap := bodyCap E service.layer χ.route
      some <| match bufferBody χ.body cap with
      | (.ok buffered, unread) => .settled (.bodyBuffering cap unread)
          (.pass { χ with buffered := buffered })
      | (.error .tooLarge, unread) => .settled (.bodyBuffering cap unread)
          (.deny (.answered χ.parts .oversize) none)
      | (.error .read, unread) => .settled (.bodyBuffering cap unread)
          (.deny (.answered χ.parts .failure) none)
  | .routeHeadersAuth, χ => do
      let carrier ← χ.route
      if E.hasRules carrier.headerAuthRules then
        some (.screen χ (.routeHeadersAuth carrier.headerAuthRules)
          (onOther (E.headersAuthDecide carrier.headerAuthRules carrier.verifiers
            (lookupHeader χ.parts)))
          fun block => χ.parts.block block.status block.body)
      else none
  | .headersAuth, χ => service.layer.headersAuth.map fun stage =>
      .screen χ (.headersAuth χ.facts.path)
        (onOther (stage.decide χ.facts.path (headerPairs χ.parts.headers)))
        fun (_, answer) => χ.parts.block answer.status.asU16 answer.body
  | .routeReferrer, χ => (χ.route.bind RouteConfig.requireReferrer).map fun domains =>
      .screen χ (.routeReferrer χ.facts.referer domains)
        (Call.returning (referrerDenial E χ.facts.referer domains))
        fun answer => χ.parts.block answer.status answer.body
  | .referrerGate, χ => service.layer.referrerGate.map fun stage =>
      .screen χ (.referrerGate χ.facts.path χ.facts.referer)
        (onOther (stage.decide χ.facts.path χ.facts.referer χ.facts.ipString χ.facts.path
          χ.facts.method))
        fun answer => χ.parts.block answer.status answer.body
  | .routeValidators, χ =>
      let validators := (χ.route.map RouteConfig.customValidators).getD []
      if validators.isEmpty then none
      else
        let named := validators.map fun validator => (E.anonymousName, validator)
        let ctx := customContext χ.facts χ.buffered
        some (.screen χ (.routeValidators ctx)
          (Call.map validatorsDenial (onOther (E.decideCustomValidators named ctx)))
          fun block => χ.parts.block ((block.bind CustomResponse.status).getD 200) "")
  | .customValidators, χ => service.layer.customChecks.map fun stage =>
      let ctx := customContext χ.facts χ.buffered
      .screen χ (.customValidators ctx)
        (onOther (stage.decideCustomValidators ctx.path ctx.method ctx.clientIp ctx.body))
        fun failure => χ.parts.block (failure.status.getD 200) ""
  | .routeTimeWindow, χ => (χ.route.bind RouteConfig.timeRestrictions).map fun restrictions =>
      let window := timeWindowOf restrictions
      .screen χ (.routeTimeWindow window) (outsideWindow E window)
        fun _ => χ.parts.block E.timeWindowBlock.status E.timeWindowBlock.body
  | .timeWindowGate, χ => service.layer.timeWindowGate.map fun stage =>
      .screen χ (.timeWindowGate χ.facts.path)
        (onOther (stage.decide χ.facts.path χ.facts.ipString χ.facts.path χ.facts.method))
        fun answer => χ.parts.block answer.status answer.body
  | .scan, χ =>
      if detectionOff E service.layer χ.route then none
      else
        let surfaces := scanSurfaces χ.parts χ.buffered
        let exclusions := scanExclusions E service.layer χ.parts
        some
          { question := .scan surfaces exclusions
            ruling := fun s =>
              match onOther (service.layer.scanFn surfaces exclusions service.layer.config) s with
              | (some verdict, s') =>
                -- A threat is no denial: it goes on as a finding.
                if verdict.isThreat then (some (.flag { χ with verdict := some verdict }), s')
                else (some (.pass χ), s')
              | (none, s') => (some (.recover (.answered χ.parts .failure)), s') }
  | .bans, χ =>
      if bypassed χ.route "ip_ban" then none
      else some <|
        .screen χ (.bans χ.facts.ip)
          (service.stage.decideBansObserved χ.facts.ip (some (requestObservation χ.parts)))
          fun blocked => .answered χ.parts (.stage blocked)
  | .geo, χ => do
      let stage ← service.layer.geoBlocking
      if !bypassed χ.route "ip" && !χ.skipGlobalCountries then
        some (.screen χ (.geo χ.facts.ip χ.facts.gate)
          (onOther (stage.decide χ.facts.ip χ.facts.gate)) χ.parts.blockStage)
      else none
  | .cloud, χ =>
      if bypassed χ.route "clouds" then none
      else
        match routeProviders χ.route with
        | some providers =>
          match E.parseCloudSelectors providers, service.layer.cloudProvider with
          | .ok selectors, some stage => some <|
              .screen χ (.routeCloud χ.facts.ip χ.facts.gate providers)
                (onOther (stage.decideRoute χ.facts.ip χ.facts.gate selectors))
                χ.parts.blockStage
          | .ok _, none => none
          | .error _, _ => some <|
              .settled (.routeCloudSelectors providers) (.deny (.answered χ.parts .failure) none)
        | none => service.layer.cloudProvider.map fun stage =>
            .screen χ (.cloud χ.facts.ip χ.facts.gate)
              (onOther (stage.decide χ.facts.ip χ.facts.gate)) χ.parts.blockStage
  | .routeUserAgents, χ => (patternsDue χ.facts χ.route).map fun patterns =>
      .screen χ (.routeUserAgents patterns χ.facts.gate)
        (Call.returning (routePatternsDenial E χ.facts.userAgent patterns))
        fun answer => .answered χ.parts answer
  | .userAgent, χ => service.layer.userAgent.map fun stage =>
      let finding := threatFinding χ.verdict
      .screen χ (.userAgent χ.facts.ip χ.facts.gate finding)
        (stage.decide χ.facts.ip χ.facts.gate (some χ.facts.path) χ.facts.userAgent finding)
        χ.parts.blockStage
  | .rateLimit, χ =>
      match carrierTiers χ.route with
      | .error _ => some (.settled .routeRateLimits (.deny (.answered χ.parts .failure) none))
      | .ok tiers =>
        if bypassed χ.route "rate_limit" then none
        else
          let gate := χ.parts.extensions.gateDecision
          let finding := threatFinding χ.verdict
          some (.screen χ (.rateLimit χ.facts.ip gate finding)
            (service.stage.decideTiersObserved χ.facts.ip (some χ.facts.path)
              -- The carrier's tier first, then the extension.
              (tiers.or χ.parts.extensions.rateLimits) gate finding
              (some (requestObservation χ.parts)))
            fun blocked => .answered χ.parts (.stage blocked))
  | .detection, χ => χ.verdict.map fun verdict =>
      .settled (.detection verdict.reason) <|
        if service.stage.config.passiveMode then .pass χ
        else .deny (χ.parts.block 400 (E.resolveErrorBody service.layer.customErrorResponses 400
            blockedMessage))
          (detectionPayload E service.layer χ.facts χ.parts verdict)
  | .customRequest, χ => service.layer.customChecks.map fun stage =>
      let ctx := customContext χ.facts χ.buffered
      .screen χ (.customRequest ctx)
        (onOther (stage.decideCustomRequest ctx.method ctx.path ctx.clientIp ctx.body))
        fun answer => χ.parts.block (answer.status.getD 200) ""

/-- What follows a ruling: the next locals, or the early return behind the block hook. -/
def proceed : Ruling W → Guarded W (Locals W)
  | .pass next | .flag next => pure next
  | .deny early payload => do
    fireBlock E service.layer payload
    Prog.exit early
  | .recover early => Prog.exit early

/-- Put a question and go by its ruling. -/
def run (k : Check) (χ : Locals W) : Guarded W (Locals W) :=
  match k.trial E service χ with
  | none => pure χ
  | some trial => do
    let ruling ← Prog.ask (fun ruling => ⟨trial.question, .ofRuling ruling⟩) trial.ruling
    proceed E service ruling

end Trial

/-- How the list ends: every check passed, one denied, or a collaborator unwound. -/
inductive Ending (W : World) where
  | forward (final : Locals W)
  | denied (by_ : Check) (early : Early W) (payload : Option BlockPayload)
  | panicked (by_ : Check)

/-- The first denial of the list, without a trace: the reference semantics. -/
def ending (E : Engine W) (service : GuardService W) :
    List Check → Locals W → Store W → Ending W × Store W
  | [], χ, s => (.forward χ, s)
  | k :: rest, χ, s =>
    match k.trial E service χ with
    | none => ending E service rest χ s
    | some trial =>
      match trial.ruling s with
      | (some (.pass next), s') | (some (.flag next), s') => ending E service rest next s'
      | (some (.deny early payload), s') => (.denied k early payload, s')
      | (some (.recover early), s') => (.denied k early none, s')
      | (none, s') => (.panicked k, s')

end Check

end TowerGuard
