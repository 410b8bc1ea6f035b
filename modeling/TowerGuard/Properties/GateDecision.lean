import TowerGuard.Arrival
import TowerGuard.Engine.Bench

/-!
# One gate decision for the whole request

The IP gate inserts its decision into the request extensions. The rate-limit tiers read it
there; the geo, cloud and user-agent checks read the extension as it was when the facts were
extracted, ahead of the gate.
-/

namespace TowerGuard

open Text Traced

variable {W : World}

/-- The skip state a question hands to its check. -/
def Consult.skipState : Consult W → Option (Option IpGateDecision)
  | .geo _ gate | .cloud _ gate | .routeCloud _ gate _ | .routeUserAgents _ gate
  | .userAgent _ gate _ | .rateLimit _ gate _ => some gate
  | _ => none

/-- Where a check takes the skip state from the facts. -/
def Check.readsFacts (E : Engine W) (layer : GuardLayer W) (χ : Locals W) : Check → Bool
  | .geo => layer.geoBlocking.isSome && !bypassed χ.route "ip" && !χ.skipGlobalCountries
  | .cloud => layer.cloudProvider.isSome && !bypassed χ.route "clouds" &&
      (routeProviders χ.route).all fun providers =>
        (E.parseCloudSelectors providers).toOption.isSome
  | .routeUserAgents => (routePatterns χ.route).isSome
  | .userAgent => layer.userAgent.isSome
  | _ => false

section Arrivals

variable {E : Engine W} {service : GuardService W} {request : Request W} {s s' : Store W}
  {k : Check} {χ : Locals W} {trial : Trial W}

/-- The checks whose questions have a skip state. -/
theorem Consult.check_of_skipState {consult : Consult W} {gate : Option IpGateDecision}
    (takes : consult.skipState = some gate) :
    ∃ k ∈ [Check.geo, .cloud, .routeUserAgents, .userAgent, .rateLimit],
      consult.check = some k := by
  -- Five checks ask with a skip state; the cloud check has two ways to.
  cases consult <;> cases takes <;> refine ⟨_, ?_, rfl⟩ <;> decide

/-- A check with a skip state has it from the facts, or it is the tiers. -/
theorem skipState_of_trial {gate : Option IpGateDecision}
    (applies : k.trial E service χ = some trial) (takes : trial.question.skipState = some gate) :
    k.readsFacts E service.layer χ = true ∧ gate = χ.facts.gate ∨
      k = .rateLimit ∧ gate = χ.parts.extensions.gateDecision := by
  -- Which check it is follows from the question; each takes the gate from where its arm reads it.
  obtain ⟨j, named, own⟩ := Consult.check_of_skipState takes
  obtain rfl : j = k := Option.some.inj (own.symm.trans (trial_question applies))
  simp only [List.mem_cons, List.not_mem_nil, or_false] at named
  rcases named with rfl | rfl | rfl | rfl | rfl
  · obtain ⟨stage, installed, due, ⟨⟩⟩ := bind_guard_iff.mp applies
    cases takes
    exact .inl ⟨by simpa [Check.readsFacts, installed] using due, rfl⟩
  · obtain ⟨open_, applies⟩ := Option.ite_none_left_eq_some.mp applies
    have open_ := Bool.eq_false_iff.mpr open_
    split at applies
    next providers listed =>
      split at applies
      next selectors stage valid installed =>
        cases applies
        cases takes
        exact .inl ⟨by simp [Check.readsFacts, installed, open_, listed, valid,
          Except.toOption], rfl⟩
      · cases applies
      · cases applies
        cases takes
    next unlisted =>
      obtain ⟨stage, installed, rfl⟩ := Option.map_eq_some_iff.mp applies
      cases takes
      exact .inl ⟨by simp [Check.readsFacts, installed, open_, unlisted], rfl⟩
  · obtain ⟨patterns, due, rfl⟩ := Option.map_eq_some_iff.mp applies
    obtain ⟨listed, -⟩ := Option.filter_eq_some_iff.mp due
    cases takes
    exact .inl ⟨by simp [Check.readsFacts, listed], rfl⟩
  · obtain ⟨stage, installed, rfl⟩ := Option.map_eq_some_iff.mp applies
    cases takes
    exact .inl ⟨by simp [Check.readsFacts, installed], rfl⟩
  · simp only [Check.trial] at applies
    split at applies
    · cases applies
      cases takes
    · obtain ⟨-, ⟨⟩⟩ := Option.ite_none_left_eq_some.mp applies
      cases takes
      exact .inr ⟨rfl, rfl⟩

/-- A check that reads the facts has its skip state from there; the route's user agents may be
left alone for what the facts say. -/
theorem trial_of_readsFacts (reads : k.readsFacts E service.layer χ = true)
    (other : k ≠ .routeUserAgents) :
    ∃ trial, k.trial E service χ = some trial ∧
      trial.question.skipState = some χ.facts.gate := by
  cases k with
  | geo =>
    simp only [Check.readsFacts, Bool.and_eq_true, Bool.not_eq_true',
      Option.isSome_iff_exists] at reads
    obtain ⟨⟨⟨stage, installed⟩, open_⟩, kept⟩ := reads
    exact ⟨_, by simp only [Check.trial, installed, open_, kept]; rfl, rfl⟩
  | cloud =>
    simp only [Check.readsFacts, Bool.and_eq_true, Bool.not_eq_true',
      Option.isSome_iff_exists] at reads
    obtain ⟨⟨⟨stage, installed⟩, open_⟩, valid⟩ := reads
    cases listed : routeProviders χ.route with
    | none => exact ⟨_, by simp only [Check.trial, installed, open_, listed]; rfl, rfl⟩
    | some providers =>
      cases selectors : E.parseCloudSelectors providers with
      | ok selectors' =>
        exact ⟨_, by simp only [Check.trial, installed, open_, listed, selectors]; rfl, rfl⟩
      | error error => simp [listed, selectors, Except.toOption] at valid
  | routeUserAgents => exact absurd rfl other
  | userAgent =>
    obtain ⟨stage, installed⟩ := Option.isSome_iff_exists.mp reads
    exact ⟨_, by simp only [Check.trial, installed]; rfl, rfl⟩
  | _ => cases reads

/-- Behind a gate that allowed the client, the extensions carry its decision. -/
theorem Check.Arrives.decision {gate : IpGateConfig} {ip : IpAddr} {decision : IpGateDecision}
    (arrives : k.Arrives E service request s χ s')
    (behind : Check.ipGate.position < k.position)
    (asked : ∃ event ∈ (service.call E request s).trace, event.consult.check = some .ipGate)
    (installed : service.layer.ipGate = some gate)
    (attributed : request.extensions.clientIp = some ip)
    (allowed : gate.evaluate ip = .allowed decision) :
    χ.parts.extensions.gateDecision = some decision := by
  obtain ⟨χ₀, s₀, χ₁, s₁, t₁, early, -, here, same⟩ := arrives.written (f := Locals.parts)
    (fun k other χ χ' frame => frame.parts other) behind
  -- The gate was asked, so that it applied to the locals the request arrived there with.
  obtain ⟨event, member, own⟩ := asked
  obtain ⟨χ₂, s₂, trial, again, applies, -⟩ := (call_asks_iff own).mp member
  obtain ⟨rfl, rfl⟩ := Checklist.Reaches.unique Check.pipeline_nodup early again
  have client := congrArg (fun parts => parts.extensions.clientIp) early.of.carried
  simp only [Parts.withoutDecision, attributed] at client
  simp only [Check.trial, installed, client, Option.bind_eq_bind, Option.bind_some,
    allowed, Option.ite_none_right_eq_some] at applies
  obtain ⟨due, ⟨⟩⟩ := applies
  -- It passed, and with an allowing gate the pass is the one that inserts the decision.
  rcases run_pass_iff.mp here with ⟨absent, -⟩ | ⟨trial, ruling, applies, ruled, passes, -⟩
  · simp [Check.trial, installed, client, due] at absent
  · simp only [Check.trial, installed, client, Option.bind_eq_bind, Option.bind_some,
      allowed, Option.ite_none_right_eq_some] at applies
    obtain ⟨-, ⟨⟩⟩ := applies
    cases ruled
    cases passes
    rw [same]
    rfl

end Arrivals

/-- The installed geo, cloud and user-agent stages let a skipping client through. -/
structure GuardService.StagesSkip (service : GuardService W) : Prop where
  geo : ∀ stage, service.layer.geoBlocking = some stage → ∀ ip gate s answer,
    gate.skips = true → (stage.decide ip (some gate) s).1 ≠ some (some answer)
  cloud : ∀ stage, service.layer.cloudProvider = some stage → ∀ ip gate s answer,
    gate.skips = true → (stage.decide ip (some gate) s).1 ≠ some (some answer)
  routeCloud : ∀ stage, service.layer.cloudProvider = some stage → ∀ ip gate selectors s answer,
    gate.skips = true → (stage.decideRoute ip (some gate) selectors s).1 ≠ some (some answer)
  userAgent : ∀ stage, service.layer.userAgent = some stage →
    ∀ ip gate path userAgent finding s answer, gate.skips = true →
    (stage.decide ip (some gate) path userAgent finding s).1 ≠ some (some answer)

/-- Then no check that reads the facts denies a client the facts know to skip. -/
theorem GuardService.StagesSkip.not_denied {E : Engine W} {service : GuardService W}
    {k : Check} {χ : Locals W} {s : Store W} {trial : Trial W} {decision : IpGateDecision}
    (h : service.StagesSkip) (applies : k.trial E service χ = some trial)
    (takes : trial.question.skipState = some (some decision)) (skips : decision.skips = true)
    (other : k ≠ .rateLimit) : Verdict.ofRuling (trial.ruling s).1 ≠ .denied := by
  have same : χ.facts.gate = some decision := by
    rcases skipState_of_trial applies takes with ⟨-, same⟩ | ⟨tiers, -⟩
    · exact same.symm
    · exact absurd tiers other
  obtain ⟨j, named, own⟩ := Consult.check_of_skipState takes
  obtain rfl : j = k := Option.some.inj (own.symm.trans (trial_question applies))
  simp only [List.mem_cons, List.not_mem_nil, or_false] at named
  rcases named with rfl | rfl | rfl | rfl | rfl
  · obtain ⟨stage, installed, -, ⟨⟩⟩ := bind_guard_iff.mp applies
    rw [same]
    exact Trial.screen_not_denied fun answer =>
      h.geo stage installed _ _ s.other answer skips
  · obtain ⟨-, applies⟩ := Option.ite_none_left_eq_some.mp applies
    split at applies
    · split at applies
      next stage valid installed =>
        cases applies
        rw [same]
        exact Trial.screen_not_denied fun answer =>
          h.routeCloud stage installed _ _ _ s.other answer skips
      · cases applies
      · -- A list that does not parse is refused without a skip state.
        cases applies
        cases takes
    · obtain ⟨stage, installed, rfl⟩ := Option.map_eq_some_iff.mp applies
      rw [same]
      exact Trial.screen_not_denied fun answer =>
        h.cloud stage installed _ _ s.other answer skips
  · -- The route's patterns are the guard's own arm, and look at the gate themselves.
    obtain ⟨patterns, due, -⟩ := Option.map_eq_some_iff.mp applies
    obtain ⟨-, unskipped⟩ := Option.filter_eq_some_iff.mp due
    simp [same, skips] at unskipped
  · obtain ⟨stage, installed, rfl⟩ := Option.map_eq_some_iff.mp applies
    rw [same]
    exact Trial.screen_not_denied fun answer =>
      h.userAgent stage installed _ _ _ _ _ s answer skips
  · exact absurd rfl other

/-- The gate's decision governs all later checks exactly when the request brought it along or
meets no check that reads the facts; a skipping client is then blocked by none of those. -/
theorem later_checks_gate_iff (E : Engine W) (service : GuardService W) (request : Request W)
    (s : Store W) (gate : IpGateConfig) (ip : IpAddr) (decision : IpGateDecision)
    (installed : service.layer.ipGate = some gate)
    (attributed : request.extensions.clientIp = some ip)
    (allowed : gate.evaluate ip = .allowed decision)
    (asked : ∃ event ∈ (service.call E request s).trace,
      event.consult.check = some .ipGate) :
    let trace := (service.call E request s).trace
    let governed := request.extensions.gateDecision = some decision ∨
      ∀ (k : Check) χ s', k.Arrives E service request s χ s' →
        k.readsFacts E service.layer χ = false
    ((∀ event ∈ trace, ∀ state, event.consult.skipState = some state →
        state = some decision) ∧
      -- The route's user agents go by the facts also where these say to ask nothing.
      (∀ χ s', Check.routeUserAgents.Arrives E service request s χ s' →
        (routePatterns χ.route).isSome → χ.facts.gate = some decision) ↔ governed) ∧
    (governed → service.StagesSkip → decision.skips = true → ∀ event ∈ trace, ∀ state,
      event.consult.skipState = some state → event.consult.check ≠ some .rateLimit →
      event.verdict ≠ .denied) := by
  intro trace governed
  have states : governed → ∀ event ∈ trace, ∀ state,
      event.consult.skipState = some state → state = some decision := by
    intro holds event member state takes
    obtain ⟨k, -, own⟩ := Consult.check_of_skipState takes
    obtain ⟨χ, s', trial, arrives, applies, rfl⟩ := (call_asks_iff own).mp member
    -- A check that reads the facts sees what the request brought along; the tiers see what the
    -- gate inserted.
    rcases skipState_of_trial applies takes with ⟨reads, rfl⟩ | ⟨rfl, rfl⟩
    · rcases holds with carried | absent
      · rw [arrives.of.facts]
        exact carried
      · rw [absent k χ s' arrives] at reads
        cases reads
    · exact arrives.decision (by decide) asked installed attributed allowed
  refine ⟨⟨?_, fun holds => ⟨states holds, ?_⟩⟩, ?_⟩
  · rintro ⟨holds, agents⟩
    -- Brought along or not: if not, a check that reads the facts would show the stale state.
    by_cases carried : request.extensions.gateDecision = some decision
    · exact .inl carried
    · right
      intro k χ s' arrives
      apply Bool.eq_false_iff.mpr
      intro reads
      have same : χ.facts.gate = some decision := by
        by_cases own : k = .routeUserAgents
        · subst own
          exact agents χ s' arrives reads
        · obtain ⟨trial, applies, takes⟩ := trial_of_readsFacts reads own
          exact holds _ (arrives.asks applies) _ takes
      rw [arrives.of.facts] at same
      exact carried same
  · intro χ s' arrives listed
    rcases holds with carried | absent
    · rw [arrives.of.facts]
      exact carried
    · have reads : Check.routeUserAgents.readsFacts E service.layer χ = true := listed
      rw [absent _ χ s' arrives] at reads
      cases reads
  · intro holds stagesSkip skips event member state takes other
    obtain rfl := states holds event member state takes
    obtain ⟨k, -, own⟩ := Consult.check_of_skipState takes
    obtain ⟨χ, s', trial, arrives, applies, rfl⟩ := (call_asks_iff own).mp member
    exact stagesSkip.not_denied applies takes skips fun tiers => other (by rw [own, tiers])

/-- A layer whose gate whitelists the client. -/
def whitelistLayer : GuardLayer Bench.world :=
  Bench.layer.withIpGate (Bench.ipGate [Bench.client.display] [] [])

def whitelisted : IpGateDecision := ⟨true, false⟩

/-- A request of the whitelisted client that brings the gate's decision along. -/
def decidedRequest : Request Bench.world :=
  let request := Bench.request "GET" "/items" none []
  { request with extensions := { request.extensions with gateDecision := some whitelisted } }

/-- The decision it brings along is the one all checks see. -/
theorem decided_request_governed :
    let trace := ((whitelistLayer.wrap Bench.engine Bench.ok).call Bench.engine decidedRequest
      Bench.start).trace
    (∃ event ∈ trace, event.consult.skipState = some (some whitelisted)) ∧
      ∀ event ∈ trace, ∀ state, event.consult.skipState = some state →
        state = some whitelisted :=
  ⟨by decide +kernel,
    (later_checks_gate_iff Bench.engine (whitelistLayer.wrap Bench.engine Bench.ok)
      decidedRequest Bench.start (Bench.ipGate [Bench.client.display] [] []) Bench.client
      whitelisted rfl rfl (by decide +kernel) (by decide +kernel)).1.mpr (.inl rfl) |>.1⟩

/-- A carrier that blocks a user agent, and a request of the client with that agent. -/
def agentRequest : Request Bench.world :=
  { Bench.request "GET" "/items" (some { Bench.openRoute with blockedUserAgents := ["crawler"] })
      [] with
    headers := [("user-agent", ⟨bytesOf "crawler", by decide +kernel⟩)] }

/-- The gate whitelists the client, and the route's user agents are then judged without its
decision and block it. -/
theorem whitelisted_client_blocked :
    let trace := ((whitelistLayer.wrap Bench.engine Bench.ok).call Bench.engine agentRequest
      Bench.start).trace
    (Bench.ipGate [Bench.client.display] [] []).evaluate Bench.client = .allowed whitelisted ∧
      (∃ event ∈ trace, event.consult.check = some .ipGate ∧ event.verdict = .passed) ∧
      ∃ event ∈ trace, event.consult.check = some .routeUserAgents ∧
        event.consult.skipState = some none ∧ event.verdict = .denied := by
  decide +kernel

end TowerGuard
