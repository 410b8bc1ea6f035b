import TowerGuard.Following

/-!
# Route bypasses

One more name among the bypassed checks of a route. The checks under that name stop applying;
every other check puts the question it put before, and passes where it passed.
-/

namespace TowerGuard

open Text Traced

variable {W : World}

/-- The names a route can bypass a check under. -/
inductive Bypass where
  | ip | ipBan | clouds | rateLimit | penetration
  deriving DecidableEq

def Bypass.name : Bypass → String
  | .ip => "ip"
  | .ipBan => "ip_ban"
  | .clouds => "clouds"
  | .rateLimit => "rate_limit"
  | .penetration => "penetration"

theorem Bypass.name_injective {c d : Bypass} (same : c.name = d.name) : c = d := by
  cases c <;> cases d <;> first | rfl | exact absurd same (by decide)

/-- The name a check asks the carrier about. -/
def Check.bypass : Check → Option Bypass
  | .routeIpLists | .routeCountries | .ipGate | .geo => some .ip
  | .scan => some .penetration
  | .bans => some .ipBan
  | .cloud => some .clouds
  | .rateLimit => some .rateLimit
  | _ => none

section Bypassing

variable (c : Bypass)

/-- The carrier with one more bypassed check. -/
def RouteConfig.bypassing (route : RouteConfig W) : RouteConfig W :=
  { route with bypassedChecks := c.name :: route.bypassedChecks }

/-- The resolver with one more bypassed check on every carrier. -/
def GuardLayer.bypassing (layer : GuardLayer W) : GuardLayer W :=
  { layer with
    routeConfigs := layer.routeConfigs.map fun resolver method path =>
      Call.map (Option.map (RouteConfig.bypassing c)) (resolver method path) }

def GuardService.bypassing (service : GuardService W) : GuardService W where
  inner := service.inner
  layer := service.layer.bypassing c
  built := service.built

/-- The request with the carrier it brings along replaced. -/
def Request.bypassing (request : Request W) : Request W :=
  { request with
    extensions := { request.extensions with
      routeConfig := request.extensions.routeConfig.map (RouteConfig.bypassing c) } }

/-- The locals where the checks under the name are skipped, for a request that came with the
decision `own`: what those checks write is as at the start. -/
def Locals.bypassing (own : Option IpGateDecision) (χ : Locals W) : Locals W :=
  { χ with
    parts := { χ.parts with
      extensions := { χ.parts.extensions with
        routeConfig := χ.parts.extensions.routeConfig.map (RouteConfig.bypassing c)
        gateDecision := if c = .ip then own else χ.parts.extensions.gateDecision } }
    route := χ.route.map (RouteConfig.bypassing c)
    skipGlobalIpLists := c ≠ .ip && χ.skipGlobalIpLists
    skipGlobalCountries := c ≠ .ip && χ.skipGlobalCountries
    verdict := if c = .penetration then none else χ.verdict }

@[simp] theorem Locals.bypassing_facts (own : Option IpGateDecision) (χ : Locals W) :
    (χ.bypassing c own).facts = χ.facts := rfl

theorem Locals.start_bypassing (request : Request W) :
    Locals.start (request.bypassing c) =
      (Locals.start request).bypassing c request.extensions.gateDecision := by
  simp only [start, bypassing, Request.bypassing, Bool.and_false, ite_self]
  rfl

end Bypassing

variable {c d : Bypass} {route : RouteConfig W}

theorem Locals.bypassing_route (c : Bypass) (own : Option IpGateDecision) {χ : Locals W}
    (routed : χ.route = some route) : (χ.bypassing c own).route = some (route.bypassing c) := by
  simp only [bypassing, routed, Option.map_some]

/-- The finding is as it is, or there is none where nothing was scanned. -/
theorem Locals.bypassing_finding {own : Option IpGateDecision} {χ : Locals W} :
    threatFinding (χ.bypassing c own).verdict = threatFinding χ.verdict ∨
      threatFinding (χ.bypassing c own).verdict = none := by
  simp only [bypassing]
  split
  · exact .inr rfl
  · exact .inl rfl

variable (c route) in
theorem bypassed_bypassing_same : bypassed (some (route.bypassing c)) c.name = true := by
  simp [bypassed, RouteConfig.bypassing]

variable (route) in
theorem bypassed_bypassing (other : d ≠ c) :
    bypassed (some (route.bypassing c)) d.name = bypassed (some route) d.name := by
  have named : d.name ≠ c.name := fun same => other (Bypass.name_injective same)
  have all : "all" ≠ c.name := by cases c <;> decide
  simp [bypassed, RouteConfig.bypassing, named, all]

/-! ### The checks -/

section Checks

variable {γ κ : Type} {E : Engine W} {service : GuardService W} {f : W.Limits → κ}
  {g : W.Other → γ} {own : Option IpGateDecision} {k : Check} {χ : Locals W}

/-- A check that is skipped under the name does not apply. -/
theorem trial_skipped (skipped : k.bypass = some c) (tiers : k ≠ .rateLimit)
    (routed : χ.route = some route) :
    k.trial E (service.bypassing c) (χ.bypassing c own) = none := by
  have past := Locals.bypassing_route c own routed
  have named := bypassed_bypassing_same c route
  cases k with
  | rateLimit => exact absurd rfl tiers
  | routeIpLists | routeCountries | ipGate | geo | scan | bans | cloud =>
    cases skipped
    simp only [Bypass.name] at named
    simp [Check.trial, past, named, detectionOff]
  | _ => cases skipped

/-- A decision read off the answer of one steady call. -/
theorem PassesToo.read {α β : Type} {call : Call W.Other α} (steady : Steady g call)
    {decision : Call (Store W) (Option β)} (read : Option α → Option (Option β))
    (makes : ∀ s, decision s = (read (call s.other).1, { s with other := (call s.other).2 })) :
    PassesToo (SameView f g) decision decision := by
  refine Call.Agree.passesToo (Call.agree_of_eq fun s s' same => ?_)
  obtain ⟨answers, left⟩ := steady s.other s'.other same.other
  rw [makes s, makes s', answers]
  exact ⟨rfl, same.limits, left⟩

theorem PassesToo.other {α : Type} {call : Call W.Other (Option α)} (steady : Steady g call) :
    PassesToo (SameView f g) (onOther call) (onOther call) :=
  .read steady id fun _ => rfl

/-- Up to the carrier everything is asked as before, and the carrier comes out with the name. -/
theorem early_follows (meets : CollaboratorsMeet E service (fun _ => True) fun _ c => Steady g c)
    (early : k.position ≤ Check.routeCarrier.position) :
    Option.Rel (Trial.Follows (SameView f g) (Locals.bypassing c own)) (k.trial E service χ)
      (k.trial E (service.bypassing c) (χ.bypassing c own)) := by
  cases k with
  | excludePaths => exact .some (Trial.screen_follows .returning rfl)
  | corsPreflight =>
    simp only [Check.trial, GuardService.bypassing, GuardLayer.bypassing]
    cases service.layer.responseProcessor with
    | none => exact .none
    | some processor =>
      refine rel_ite (fun _ => .some (Trial.screen_follows ?_ rfl)) fun _ => .none
      rintro s s' _ same passed
      obtain ⟨said, rfl⟩ := Prod.mk.inj passed
      exact ⟨s', Prod.ext said rfl, same⟩
  | routeCarrier =>
    simp only [Check.trial, Locals.bypassing, GuardService.bypassing, GuardLayer.bypassing]
    cases carried : χ.parts.extensions.routeConfig with
    | some brought => exact .none
    | none =>
      cases installed : service.layer.routeConfigs with
      | none => exact .none
      | some resolver =>
        refine .some (Trial.compose_follows (V := fun a b => b = a.map (RouteConfig.bypassing c))
          (fun s s' same => ?_) ?_)
        · obtain ⟨answers, left⟩ := meets.routeConfigs resolver installed χ.facts.method
            χ.facts.path _ _ same.other
          refine ⟨?_, same.limits, left⟩
          simp only [onOther_answer, Call.map_answer, ← answers]
          cases (resolver χ.facts.method χ.facts.path s.other).1 with
          | none => exact .none
          | some answer => exact .some rfl
        · rintro answer _ rfl
          simp only [Locals.bypassing, carried]
  | _ => exact absurd early (by decide)

/-- A scan that is not skipped finds what it found. -/
private theorem scan_follows {call : Call W.Other RequestScanVerdict} (steady : Steady g call)
    (other : c ≠ .penetration) {question question' : Consult W} {failure failure' : Early W} :
    Trial.Follows (SameView f g) (Locals.bypassing c own)
      { question
        ruling := fun s => match onOther call s with
          | (some verdict, s') =>
            if verdict.isThreat then (some (.flag { χ with verdict := some verdict }), s')
            else (some (.pass χ), s')
          | (none, s') => (some (.recover failure), s') }
      { question := question'
        ruling := fun s => match onOther call s with
          | (some verdict, s') =>
            if verdict.isThreat then
              (some (.flag { χ.bypassing c own with verdict := some verdict }), s')
            else (some (.pass (χ.bypassing c own)), s')
          | (none, s') => (some (.recover failure'), s') } := by
  intro s s' ruling s₁ χ₁ same ruled passed
  obtain ⟨answers, left⟩ := steady s.other s'.other same.other
  rcases said : call s.other with ⟨_ | verdict, o⟩ <;> rw [said] at answers left <;>
    simp only [onOther, said] at ruled
  · cases ruled
    cases passed
  · by_cases threat : verdict.isThreat = true
    · rw [if_pos threat] at ruled
      cases ruled
      cases passed
      have left' : g o = g (call s'.other).2 := left
      refine ⟨.flag { χ.bypassing c own with verdict := some verdict },
        { s' with other := (call s'.other).2 }, ?_, ?_, same.limits, left'⟩
      · simp only [onOther, ← answers, if_pos threat]
      · simp [Ruling.next?, Locals.bypassing, other]
    · rw [if_neg threat] at ruled
      cases ruled
      cases passed
      have left' : g o = g (call s'.other).2 := left
      refine ⟨.pass (χ.bypassing c own), { s' with other := (call s'.other).2 }, ?_, rfl,
        same.limits, left'⟩
      simp only [onOther, ← answers, if_neg threat]

/-- A check under another name, or under none, puts the question it put. -/
theorem trial_unskipped (meets : CollaboratorsMeet E service (fun _ => True) fun _ c => Steady g c)
    (routed : χ.route = some route) (unskipped : k.bypass ≠ some c)
    (late : Check.routeCarrier.position < k.position) (aside : k.counting = false)
    (ahead : k ≠ .detection) :
    Option.Rel (Trial.Follows (SameView f g) (Locals.bypassing c own)) (k.trial E service χ)
      (k.trial E (service.bypassing c) (χ.bypassing c own)) := by
  have past := Locals.bypassing_route c own routed
  have asks : ∀ d : Bypass, k.bypass = some d →
      bypassed (some (route.bypassing c)) d.name = bypassed (some route) d.name :=
    fun d named => bypassed_bypassing _ fun same => unskipped (named.trans (congrArg some same))
  cases k with
  | excludePaths | corsPreflight | routeCarrier => exact absurd late (by decide)
  | usageRules =>
    simp only [Check.trial, routed, past, GuardService.bypassing, GuardLayer.bypassing]
    cases installed : service.layer.responseProcessor with
    | none => exact .none
    | some processor =>
      refine rel_ite (fun _ => .some (Trial.screen_follows ?_ rfl)) fun _ => .none
      exact .read (meets.usageRules processor installed _ _ _ trivial) _ fun _ => rfl
  | routeIpLists =>
    have asked := asks .ip rfl
    have other : c ≠ .ip := fun same => unskipped (same ▸ rfl)
    simp only [Bypass.name] at asked
    simp only [Check.trial, routed, past, Option.bind_eq_bind, Option.bind_some, asked]
    refine rel_ite (fun _ => ?_) fun _ => .none
    have lists : E.routeIpGate ((route.bypassing c).ipWhitelist.getD [])
        ((route.bypassing c).ipBlacklist.getD []) =
      E.routeIpGate (route.ipWhitelist.getD []) (route.ipBlacklist.getD []) := rfl
    rw [lists]
    cases E.routeIpGate (route.ipWhitelist.getD []) (route.ipBlacklist.getD []) with
    | ok gate =>
      refine .some (Trial.screen_follows .returning ?_)
      simp [Locals.bypassing, other]
    | error _ => exact .some Trial.denied_follows
  | routeCountries =>
    have asked := asks .ip rfl
    have other : c ≠ .ip := fun same => unskipped (same ▸ rfl)
    simp only [Bypass.name] at asked
    simp only [Check.trial, routed, past, Option.bind_eq_bind, Option.bind_some, asked,
      GuardService.bypassing, GuardLayer.bypassing, Locals.bypassing_facts]
    cases χ.facts.ip with
    | none => exact .none
    | some ip =>
      cases installed : service.layer.geoHandler with
      | none => exact .none
      | some handler =>
        refine rel_ite (fun _ => .some (Trial.screen_follows
          (.other (meets.routeCountries handler installed _ _)) ?_)) fun _ => .none
        simp [Locals.bypassing, other]
        rfl
  | ipGate =>
    have asked := asks .ip rfl
    have other : c ≠ .ip := fun same => unskipped (same ▸ rfl)
    simp only [Bypass.name] at asked
    have flag : (χ.bypassing c own).skipGlobalIpLists = χ.skipGlobalIpLists := by
      simp [Locals.bypassing, other]
    have client : (χ.bypassing c own).parts.extensions.clientIp = χ.parts.extensions.clientIp := rfl
    simp only [Check.trial, routed, past, asked, flag, client, GuardService.bypassing,
      GuardLayer.bypassing]
    cases service.layer.ipGate with
    | none => exact .none
    | some gate =>
      cases χ.parts.extensions.clientIp with
      | none => exact .none
      | some ip =>
        refine rel_ite (fun _ => .some (Trial.settled_follows ?_)) fun _ => .none
        intro χ₁ passed
        cases said : gate.evaluate ip with
        | allowed decision =>
          simp only [said] at passed ⊢
          cases passed
          simp [Ruling.next?, Locals.bypassing, Parts.withDecision, other]
        | denied denial =>
          simp only [said] at passed ⊢
          -- In passive mode the denial passes on both sides.
          split at passed
          next passive =>
            cases passed
            exact congrArg Ruling.next? (if_pos passive)
          next active => cases passed
  | emergencyMode =>
    exact rel_map fun stage installed =>
      Trial.screen_follows (.other (meets.emergencyMode stage installed _ _ _ _)) rfl
  | httpsEnforcement =>
    simp only [Check.trial, routed, past, GuardService.bypassing, GuardLayer.bypassing]
    cases installed : service.layer.httpsEnforcement with
    | none => exact rel_ite (fun _ => .some (Trial.screen_follows .returning rfl)) fun _ => .none
    | some stage =>
      exact .some (Trial.screen_follows
        (.other (meets.httpsRoute stage installed _ _ _ _ _ _)) rfl)
  | requestLogging =>
    exact rel_map fun stage installed => Trial.compose_follows
      (meets.requestLogging stage installed _ _ _ _).agree fun _ _ _ => rfl
  | countryLog =>
    simp only [Check.trial, GuardService.bypassing, GuardLayer.bypassing]
    cases service.layer.observability with
    | none => exact .none
    | some observability =>
      cases installed : service.layer.geoBlocking with
      | none => exact .none
      | some stage =>
        exact .some (Trial.compose_follows (meets.countryLog stage installed _ _ _).agree
          fun _ _ _ => rfl)
  | bodyBuffering =>
    have cap : bodyCap E (service.bypassing c).layer (χ.bypassing c own).route =
        bodyCap E service.layer χ.route := by
      rw [past, routed]
      rfl
    have body : (χ.bypassing c own).body = χ.body := rfl
    simp only [Check.trial, cap, body]
    rcases bufferBody χ.body (bodyCap E service.layer χ.route) with
      ⟨failure | buffered, unread⟩
    · cases failure <;> exact .some Trial.denied_follows
    · refine .some (Trial.settled_follows ?_)
      rintro _ ⟨⟩
      rfl
  | routeHeadersAuth =>
    simp only [Check.trial, routed, past, Option.bind_eq_bind, Option.bind_some]
    exact rel_ite (fun _ => .some (Trial.screen_follows
      (.other (meets.routeHeadersAuth _ _ _)) rfl)) fun _ => .none
  | headersAuth =>
    exact rel_map fun stage installed =>
      Trial.screen_follows (.other (meets.headersAuth stage installed _ _)) rfl
  | routeReferrer =>
    simp only [Check.trial, routed, past, Option.bind_some]
    exact rel_map fun domains _ => Trial.screen_follows .returning rfl
  | referrerGate =>
    exact rel_map fun stage installed =>
      Trial.screen_follows (.other (meets.referrerGate stage installed _ _ _ _ _)) rfl
  | routeValidators =>
    simp only [Check.trial, routed, past]
    exact rel_ite (fun _ => .none) fun _ => .some (Trial.screen_follows
      (.read (meets.routeValidators _ _) _ fun _ => rfl) rfl)
  | customValidators =>
    exact rel_map fun stage installed =>
      Trial.screen_follows (.other (meets.customValidators stage installed _ _ _ _)) rfl
  | routeTimeWindow =>
    simp only [Check.trial, routed, past, Option.bind_some]
    exact rel_map fun restrictions _ => Trial.screen_follows (.read meets.clock
      (fun now => now.map fun now => if E.isWithin (timeWindowOf restrictions)
        (E.hhmmInZone now (timeWindowOf restrictions).timezone) then none else some ())
      fun _ => rfl) rfl
  | timeWindowGate =>
    exact rel_map fun stage installed =>
      Trial.screen_follows (.other (meets.timeWindowGate stage installed _ _ _ _)) rfl
  | scan =>
    have asked := asks .penetration rfl
    have other : c ≠ .penetration := fun same => unskipped (same ▸ rfl)
    simp only [Bypass.name] at asked
    have off : detectionOff E (service.bypassing c).layer (χ.bypassing c own).route =
        detectionOff E service.layer χ.route := by
      simp only [detectionOff, past, routed, asked]
      rfl
    simp only [Check.trial, off]
    refine rel_ite (fun _ => .none) fun _ => .some ?_
    exact scan_follows (meets.scan (scanSurfaces χ.parts χ.buffered)
      (scanExclusions E service.layer χ.parts)) other
  | bans => cases aside
  | geo =>
    have asked := asks .ip rfl
    have other : c ≠ .ip := fun same => unskipped (same ▸ rfl)
    simp only [Bypass.name] at asked
    have flag : (χ.bypassing c own).skipGlobalCountries = χ.skipGlobalCountries := by
      simp [Locals.bypassing, other]
    simp only [Check.trial, routed, past, asked, flag, GuardService.bypassing,
      GuardLayer.bypassing]
    cases installed : service.layer.geoBlocking with
    | none => exact .none
    | some stage =>
      exact rel_ite (fun _ => .some (Trial.screen_follows
        (.other (meets.geo stage installed _ _)) rfl)) fun _ => .none
  | cloud =>
    have asked := asks .clouds rfl
    simp only [Bypass.name] at asked
    have providers : routeProviders (some (route.bypassing c)) = routeProviders (some route) := rfl
    simp only [Check.trial, routed, past, asked, providers, GuardService.bypassing,
      GuardLayer.bypassing]
    refine rel_ite (fun _ => .none) fun _ => ?_
    cases routeProviders (some route) with
    | none =>
      exact rel_map fun stage installed =>
        Trial.screen_follows (.other (meets.cloud stage installed _ _)) rfl
    | some providers =>
      dsimp only
      cases E.parseCloudSelectors providers with
      | error _ => exact .some Trial.denied_follows
      | ok selectors =>
        cases installed : service.layer.cloudProvider with
        | none => exact .none
        | some stage =>
          exact .some (Trial.screen_follows
            (.other (meets.routeCloud stage installed _ _ _)) rfl)
  | routeUserAgents =>
    simp only [Check.trial, routed, past]
    exact rel_map fun patterns _ => Trial.screen_follows .returning rfl
  | userAgent => cases aside
  | rateLimit => cases aside
  | detection => exact absurd rfl ahead
  | customRequest =>
    exact rel_map fun stage installed =>
      Trial.screen_follows (.other (meets.customRequest stage installed _ _ _ _)) rfl

end Checks

end TowerGuard
