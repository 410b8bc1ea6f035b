import TowerGuard.Properties.Fidelity

/-!
# No uninspected passthrough

A request that reaches the wrapped service on a path that is not excluded was put to every
check its configuration, its route carrier and its client ask for, and each of them passed.
-/

namespace TowerGuard

open Text Traced

variable {W : World}

/-! ### Which checks are due -/

/-- The route's IP lists take the place of the global gate. -/
def routeReplacesIpGate (E : Engine W) (route : Option (RouteConfig W)) : Bool :=
  match route with
  | none => false
  | some carrier =>
    if !bypassed route "ip" && (carrier.ipWhitelist.isSome || carrier.ipBlacklist.isSome) then
      match E.routeIpGate (carrier.ipWhitelist.getD []) (carrier.ipBlacklist.getD []) with
      | .ok gate => gate.whitelistConfigured
      | .error _ => false
    else false

/-- The route's country rules are evaluated for this client. -/
def routeCountriesDue (layer : GuardLayer W) (facts : RequestFacts)
    (route : Option (RouteConfig W)) : Bool :=
  route.any fun carrier => facts.ip.isSome && layer.geoHandler.isSome && !bypassed route "ip" &&
    (carrier.blockedCountries.isSome || carrier.whitelistCountries.isSome)

/-- The route's country whitelist takes the place of the global geo stage. -/
def routeReplacesGeo (E : Engine W) (layer : GuardLayer W) (facts : RequestFacts)
    (route : Option (RouteConfig W)) : Bool :=
  routeCountriesDue layer facts route &&
    route.any fun carrier => !(routeCountryGate E carrier).whitelistCountries.isEmpty

/-- The checks a request with these facts and this carrier is put to. -/
def Check.Due (E : Engine W) (layer : GuardLayer W) (facts : RequestFacts)
    (route : Option (RouteConfig W)) : Check → Prop
  | .excludePaths | .bodyBuffering => True
  | .corsPreflight => eqIgnoreAsciiCase facts.method "OPTIONS" = true ∧
      ∃ processor, layer.responseProcessor = some processor ∧ processor.corsEnabled = true
  | .usageRules => layer.responseProcessor.isSome = true ∧
      ∃ carrier, route = some carrier ∧ carrier.behaviorRules ≠ []
  | .routeIpLists => bypassed route "ip" = false ∧ ∃ carrier, route = some carrier ∧
      (carrier.ipWhitelist.isSome = true ∨ carrier.ipBlacklist.isSome = true)
  | .routeCountries => routeCountriesDue layer facts route = true
  | .ipGate => layer.ipGate.isSome = true ∧ facts.ip.isSome = true ∧
      bypassed route "ip" = false ∧ routeReplacesIpGate E route = false
  | .emergencyMode => layer.emergencyMode.isSome = true
  | .httpsEnforcement => layer.httpsEnforcement.isSome = true ∨
      ∃ carrier, route = some carrier ∧ carrier.requireHttps = true
  | .routeHeadersAuth => ∃ carrier, route = some carrier ∧ E.hasRules carrier.headerAuthRules = true
  | .headersAuth => layer.headersAuth.isSome = true
  | .routeReferrer => ∃ carrier, route = some carrier ∧ carrier.requireReferrer.isSome = true
  | .referrerGate => layer.referrerGate.isSome = true
  | .routeValidators => ∃ carrier, route = some carrier ∧ carrier.customValidators ≠ []
  | .customValidators | .customRequest => layer.customChecks.isSome = true
  | .routeTimeWindow => ∃ carrier, route = some carrier ∧ carrier.timeRestrictions.isSome = true
  | .timeWindowGate => layer.timeWindowGate.isSome = true
  | .scan => detectionOff E layer route = false
  | .bans => bypassed route "ip_ban" = false
  | .geo => layer.geoBlocking.isSome = true ∧ bypassed route "ip" = false ∧
      routeReplacesGeo E layer facts route = false
  | .cloud => bypassed route "clouds" = false ∧ layer.cloudProvider.isSome = true
  | .routeUserAgents => facts.gate.any IpGateDecision.skips = false ∧
      ∃ carrier, route = some carrier ∧ carrier.blockedUserAgents ≠ []
  | .userAgent => layer.userAgent.isSome = true
  | .rateLimit => bypassed route "rate_limit" = false
  | .routeCarrier | .requestLogging | .countryLog | .detection => False

section Arrivals

variable {E : Engine W} {service : GuardService W} {request : Request W} {s s' : Store W}
  {k : Check} {χ : Locals W}

theorem Check.Arrives.skipGlobalIpLists (arrives : k.Arrives E service request s χ s')
    (behind : Check.routeIpLists.position < k.position) :
    χ.skipGlobalIpLists = routeReplacesIpGate E (service.carrier request s) := by
  obtain ⟨χ₀, s₀, χ₁, s₁, t₁, early, start, here, same⟩ := arrives.written
    (f := Locals.skipGlobalIpLists) (fun k other χ χ' frame => frame.skipGlobalIpLists other) behind
  rw [same, ← early.route (by decide)]
  unfold routeReplacesIpGate
  -- Without the check the flag is still down, and no list of the route is due.
  rcases run_pass_iff.mp here with ⟨absent, rfl, -, -⟩ | ⟨trial, ruling, applies, ruled, passes, -⟩
  · rw [start]
    cases carried : χ₁.route with
    | none => rfl
    | some carrier =>
      simp only [Check.trial, carried, Option.bind_eq_bind, Option.bind_some] at absent
      split at absent
      · split at absent <;> cases absent
      next none_due => simp only [none_due]; rfl
  · obtain ⟨carrier, carried, due, applies⟩ := bind_guard_iff.mp applies
    simp only [carried] at due ⊢
    rw [if_pos due]
    cases lists : E.routeIpGate (carrier.ipWhitelist.getD []) (carrier.ipBlacklist.getD []) with
    | ok gate =>
      simp only [lists] at applies
      cases applies
      obtain ⟨rfl, -⟩ := Trial.screen_next ruled passes
      rfl
    | error error =>
      simp only [lists] at applies
      cases applies
      cases ruled
      cases passes

theorem Check.Arrives.skipGlobalCountries (arrives : k.Arrives E service request s χ s')
    (behind : Check.routeCountries.position < k.position) :
    χ.skipGlobalCountries = routeReplacesGeo E service.layer (.extract request.toParts)
      (service.carrier request s) := by
  obtain ⟨χ₀, s₀, χ₁, s₁, t₁, early, start, here, same⟩ := arrives.written
    (f := Locals.skipGlobalCountries) (fun k other χ χ' frame => frame.skipGlobalCountries other)
    behind
  rw [same, ← early.route (by decide), ← early.of.facts]
  unfold routeReplacesGeo routeCountriesDue
  -- The same way for the countries.
  rcases run_pass_iff.mp here with ⟨absent, rfl, -, -⟩ | ⟨trial, ruling, applies, ruled, passes, -⟩
  · rw [start]
    cases carried : χ₁.route with
    | none => rfl
    | some carrier =>
      cases attributed : χ₁.facts.ip <;> cases handler : service.layer.geoHandler <;>
        simp_all [Check.trial, Locals.start]
  · simp only [Check.trial, Option.bind_eq_bind, Option.bind_eq_some_iff,
      Option.ite_none_right_eq_some] at applies
    obtain ⟨carrier, carried, ip, attributed, handler, installed, due, ⟨⟩⟩ := applies
    obtain ⟨rfl, -⟩ := Trial.screen_next ruled passes
    simp_all

/-- A due check puts its question where the request arrives at it. -/
theorem Check.Arrives.applies (arrives : k.Arrives E service request s χ s')
    (due : k.Due E service.layer (.extract request.toParts) (service.carrier request s)) :
    ∃ trial, k.trial E service χ = some trial := by
  have facts := arrives.of.facts
  -- The gate reads the address off the parts, all others off the facts; they agree.
  have client : χ.parts.extensions.clientIp = χ.facts.ip := by
    rw [facts]
    exact (congrArg (fun parts => parts.extensions.clientIp) arrives.of.carried :)
  rw [← Option.isSome_iff_exists]
  rw [← facts] at due
  cases k with
  | excludePaths | bodyBuffering => rfl
  | corsPreflight =>
    obtain ⟨options, processor, installed, enabled⟩ := due
    simp [Check.trial, options, installed, enabled]
  | ipGate =>
    rw [← arrives.route (by decide)] at due
    -- The route may have taken the gate's place.
    have skip := arrives.skipGlobalIpLists (by decide)
    rw [← arrives.route (by decide)] at skip
    obtain ⟨installed, attributed, open_, kept⟩ := due
    obtain ⟨gate, installed⟩ := Option.isSome_iff_exists.mp installed
    obtain ⟨ip, attributed⟩ := Option.isSome_iff_exists.mp attributed
    simp [Check.trial, installed, client, attributed, open_, skip, kept]
  | geo =>
    -- And the geo stage's.
    have skip := arrives.skipGlobalCountries (by decide)
    rw [← facts, ← arrives.route (by decide)] at skip
    rw [← arrives.route (by decide)] at due
    obtain ⟨installed, open_, kept⟩ := due
    obtain ⟨stage, installed⟩ := Option.isSome_iff_exists.mp installed
    simp [Check.trial, installed, open_, skip, kept]
  | routeCarrier | requestLogging | countryLog | detection => cases due
  | emergencyMode | headersAuth | referrerGate | customValidators | timeWindowGate | userAgent
  | customRequest =>
    exact Option.isSome_map.trans due
  | scan | bans =>
    rw [← arrives.route (by decide)] at due
    simp only [Check.Due] at due
    simp [Check.trial, due]
  | usageRules =>
    rw [← arrives.route (by decide)] at due
    obtain ⟨installed, carrier, carried, rules⟩ := due
    obtain ⟨processor, installed⟩ := Option.isSome_iff_exists.mp installed
    simp [Check.trial, installed, carried, rules]
  | routeIpLists =>
    rw [← arrives.route (by decide)] at due
    obtain ⟨open_, carrier, carried, lists⟩ := due
    simp only [carried] at open_
    cases valid : E.routeIpGate (carrier.ipWhitelist.getD []) (carrier.ipBlacklist.getD []) <;>
      simp [Check.trial, carried, open_, lists, valid]
  | routeCountries =>
    rw [← arrives.route (by decide)] at due
    simp only [Check.Due, routeCountriesDue, Option.any_eq_true] at due
    obtain ⟨carrier, carried, due⟩ := due
    simp only [Bool.and_eq_true, Bool.not_eq_true', Bool.or_eq_true] at due
    obtain ⟨⟨⟨attributed, installed⟩, open_⟩, lists⟩ := due
    obtain ⟨ip, attributed⟩ := Option.isSome_iff_exists.mp attributed
    obtain ⟨handler, installed⟩ := Option.isSome_iff_exists.mp installed
    rw [carried] at open_
    simp [Check.trial, carried, attributed, installed, open_, lists]
  | httpsEnforcement =>
    rw [← arrives.route (by decide)] at due
    simp only [Check.Due] at due
    cases installed : service.layer.httpsEnforcement <;> cases carried : χ.route <;>
      simp_all [Check.trial]
  | routeHeadersAuth =>
    rw [← arrives.route (by decide)] at due
    obtain ⟨carrier, carried, rules⟩ := due
    simp [Check.trial, carried, rules]
  | routeReferrer | routeTimeWindow =>
    rw [← arrives.route (by decide)] at due
    obtain ⟨carrier, carried, rule⟩ := due
    simp [Check.trial, carried, rule]
  | routeValidators =>
    rw [← arrives.route (by decide)] at due
    obtain ⟨carrier, carried, rule⟩ := due
    simp [Check.trial, carried, rule]
  | routeUserAgents =>
    rw [← arrives.route (by decide)] at due
    obtain ⟨unskipped, carrier, carried, rule⟩ := due
    simp [Check.trial, patternsDue, routePatterns, carried, rule, unskipped]
  | cloud =>
    rw [← arrives.route (by decide)] at due
    obtain ⟨open_, installed⟩ := due
    obtain ⟨stage, installed⟩ := Option.isSome_iff_exists.mp installed
    cases listed : routeProviders χ.route with
    | none => simp [Check.trial, open_, installed, listed]
    | some providers =>
      cases selectors : E.parseCloudSelectors providers <;>
        simp [Check.trial, open_, installed, listed, selectors]
  | rateLimit =>
    rw [← arrives.route (by decide)] at due
    simp only [Check.Due] at due
    cases tiers : carrierTiers χ.route <;> simp [Check.trial, tiers, due]

end Arrivals

end TowerGuard
