import TowerGuard.Properties.Fidelity

/-!
# Passive mode

Under passive mode the installed stages and the guard's own global arms let every request
through. The arms of the route carrier do not ask for the mode.
-/

namespace TowerGuard

open Text Traced

variable {W : World}

/-- A call whose answer is never a denial. -/
def NeverDenies {σ α : Type} (call : Call σ (Option α)) : Prop :=
  ∀ s denial, (call s).1 ≠ some (some denial)

theorem NeverDenies.onOther {α : Type} {call : Call W.Other (Option α)} (h : NeverDenies call) :
    NeverDenies (onOther call) := fun s denial => h s.other denial

/-- A screen of such a call is no denial. -/
theorem NeverDenies.screen {α : Type} {χ : Locals W} {question : Consult W}
    {decision : Call (Store W) (Option α)} {early : α → Early W} {s : Store W}
    (h : NeverDenies decision) :
    Verdict.ofRuling ((Trial.screen χ question decision early).ruling s).1 ≠ .denied :=
  Trial.screen_not_denied (h s)

/-- A layer in passive mode whose installed stages were built passive. -/
structure GuardService.Passive (service : GuardService W) : Prop where
  layer : service.layer.passiveMode = true
  stage : service.stage.config.passiveMode = true
  bans : ∀ ip observation, NeverDenies (service.stage.decideBansObserved ip observation)
  tiers : ∀ ip path tiers gate finding observation,
    NeverDenies (service.stage.decideTiersObserved ip path tiers gate finding observation)
  processor : ∀ processor, service.layer.responseProcessor = some processor →
    ∀ endpoint client rules now s actions,
      (processor.processUsageRules endpoint client rules now s).1 = some actions →
      actions.any BehaviorAction.isBan = false
  emergencyMode : ∀ stage, service.layer.emergencyMode = some stage →
    ∀ ip ipString path method, NeverDenies (stage.decide ip ipString path method)
  httpsEnforcement : ∀ stage, service.layer.httpsEnforcement = some stage →
    ∀ path scheme host proto url, NeverDenies (stage.decide path scheme host proto url) ∧
      ∀ route, NeverDenies (stage.decideRoute path scheme host proto url route)
  headersAuth : ∀ stage, service.layer.headersAuth = some stage →
    ∀ path headers, NeverDenies (stage.decide path headers)
  referrerGate : ∀ stage, service.layer.referrerGate = some stage →
    ∀ path referer ip url method, NeverDenies (stage.decide path referer ip url method)
  timeWindowGate : ∀ stage, service.layer.timeWindowGate = some stage →
    ∀ path ip url method, NeverDenies (stage.decide path ip url method)
  geoBlocking : ∀ stage, service.layer.geoBlocking = some stage →
    ∀ ip gate, NeverDenies (stage.decide ip gate)
  cloudProvider : ∀ stage, service.layer.cloudProvider = some stage →
    ∀ ip gate, NeverDenies (stage.decide ip gate) ∧
      ∀ selectors, NeverDenies (stage.decideRoute ip gate selectors)
  userAgent : ∀ stage, service.layer.userAgent = some stage →
    ∀ ip gate path userAgent finding, NeverDenies (stage.decide ip gate path userAgent finding)

/-- A carrier all of whose entries the engine accepts. -/
structure RouteConfig.Valid (E : Engine W) (carrier : RouteConfig W) : Prop where
  lists : (E.routeIpGate (carrier.ipWhitelist.getD []) (carrier.ipBlacklist.getD [])).isOk = true
  providers : (E.parseCloudSelectors carrier.blockCloudProviders).isOk = true
  patterns : (E.userAgentFilter carrier.blockedUserAgents).isOk = true
  tiers : carrier.rateLimits.isOk = true

/-- The arms that judge by the carrier alone. -/
def Check.carrierArm : Check → Bool
  | .routeIpLists | .routeCountries | .routeHeadersAuth | .routeReferrer | .routeTimeWindow
  | .routeUserAgents => true
  | _ => false

/-- The arms that answer for themselves: preflight answers and the custom checks. -/
def Check.ownAnswer : Check → Bool
  | .corsPreflight | .routeValidators | .customValidators | .customRequest => true
  | _ => false

section Arrivals

variable {E : Engine W} {service : GuardService W} {request : Request W} {s s' s'' : Store W}
  {k : Check} {χ : Locals W} {trial : Trial W} {early : Early W} {payload : Option BlockPayload}

/-- In passive mode only these arms are left to deny. -/
theorem denier_of_passive (passive : service.Passive)
    (valid : ∀ carrier, service.carrier request s = some carrier → carrier.Valid E)
    (fits : (bufferBody request.body
      (bodyCap E service.layer (service.carrier request s))).1.isOk = true)
    (arrives : k.Arrives E service request s χ s') (applies : k.trial E service χ = some trial)
    (denied : Verdict.ofRuling (trial.ruling s').1 = .denied) :
    k = .excludePaths ∨ k.ownAnswer = true ∨ k.carrierArm = true := by
  -- One by one: an installed stage never denies, and the guard's global arms ask the mode.
  cases k with
  | excludePaths => exact .inl rfl
  | corsPreflight | routeValidators | customValidators | customRequest => exact .inr (.inl rfl)
  | routeIpLists | routeCountries | routeHeadersAuth | routeReferrer | routeTimeWindow
  | routeUserAgents => exact .inr (.inr rfl)
  | routeCarrier =>
    simp only [Check.trial] at applies
    split at applies
    · cases applies
    · obtain ⟨resolver, -, rfl⟩ := Option.map_eq_some_iff.mp applies
      exact absurd denied (Trial.compose_not_denied _ _ _ _)
  | requestLogging =>
    obtain ⟨stage, -, rfl⟩ := Option.map_eq_some_iff.mp applies
    exact absurd denied (Trial.compose_not_denied _ _ _ _)
  | countryLog =>
    simp only [Check.trial, Option.bind_eq_bind, Option.bind_eq_some_iff] at applies
    obtain ⟨observability, -, stage, -, ⟨⟩⟩ := applies
    exact absurd denied (Trial.compose_not_denied _ _ _ _)
  | usageRules =>
    obtain ⟨processor, installed, -, ⟨⟩⟩ := bind_guard_iff.mp applies
    obtain ⟨denial, banned⟩ := Trial.screen_denied_iff.mp denied
    obtain ⟨actions, answered, bans⟩ := Option.map_eq_some_iff.mp banned
    rw [passive.processor processor installed _ _ _ _ _ actions answered] at bans
    cases bans
  | ipGate =>
    simp only [Check.trial, Option.bind_eq_bind, Option.bind_eq_some_iff,
      Option.ite_none_right_eq_some, passive.layer, if_true] at applies
    obtain ⟨gate, -, ip, -, -, ⟨⟩⟩ := applies
    -- In passive mode the gate passes either way.
    dsimp only [Trial.settled_ruling] at denied
    split at denied <;> cases denied
  | httpsEnforcement =>
    simp only [Check.trial] at applies
    split at applies
    next stage carrier installed _ =>
      cases applies
      exact absurd denied (NeverDenies.screen
        ((passive.httpsEnforcement stage installed _ _ _ _ _).2 _).onOther)
    next stage installed _ =>
      cases applies
      exact absurd denied (NeverDenies.screen
        (passive.httpsEnforcement stage installed _ _ _ _ _).1.onOther)
    · obtain ⟨-, ⟨⟩⟩ := Option.ite_none_right_eq_some.mp applies
      obtain ⟨denial, redirected⟩ := Trial.screen_denied_iff.mp denied
      simp [passive.layer] at redirected
    · cases applies
  | bodyBuffering =>
    -- The body fits under the cap of this very carrier.
    rw [← arrives.route (by decide), ← arrives.of.body] at fits
    simp only [Check.trial, Option.some.injEq] at applies
    split at applies
    · subst applies; cases denied
    next failed => rw [failed] at fits; cases fits
    next failed => rw [failed] at fits; cases fits
  | emergencyMode =>
    obtain ⟨stage, installed, rfl⟩ := Option.map_eq_some_iff.mp applies
    exact absurd denied (NeverDenies.screen (passive.emergencyMode stage installed _ _ _ _).onOther)
  | headersAuth =>
    obtain ⟨stage, installed, rfl⟩ := Option.map_eq_some_iff.mp applies
    exact absurd denied (NeverDenies.screen (passive.headersAuth stage installed _ _).onOther)
  | referrerGate =>
    obtain ⟨stage, installed, rfl⟩ := Option.map_eq_some_iff.mp applies
    exact absurd denied (NeverDenies.screen
      (passive.referrerGate stage installed _ _ _ _ _).onOther)
  | timeWindowGate =>
    obtain ⟨stage, installed, rfl⟩ := Option.map_eq_some_iff.mp applies
    exact absurd denied (NeverDenies.screen
      (passive.timeWindowGate stage installed _ _ _ _).onOther)
  | scan =>
    simp only [Check.trial, Option.ite_none_left_eq_some] at applies
    obtain ⟨-, ⟨⟩⟩ := applies
    dsimp only at denied
    split at denied
    · split at denied <;> cases denied
    · cases denied
  | bans =>
    obtain ⟨-, ⟨⟩⟩ := Option.ite_none_left_eq_some.mp applies
    exact absurd denied (NeverDenies.screen (passive.bans _ _))
  | geo =>
    obtain ⟨stage, installed, -, ⟨⟩⟩ := bind_guard_iff.mp applies
    exact absurd denied (NeverDenies.screen (passive.geoBlocking stage installed _ _).onOther)
  | cloud =>
    obtain ⟨-, applies⟩ := Option.ite_none_left_eq_some.mp applies
    split at applies
    next providers listed =>
      split at applies
      next selectors stage _ installed =>
        cases applies
        exact absurd denied (NeverDenies.screen
          ((passive.cloudProvider stage installed _ _).2 _).onOther)
      · cases applies
      next error invalid =>
        -- A list that does not parse is ruled out by the carrier's validity.
        rw [arrives.route (by decide), routeProviders, Option.filter_eq_some_iff,
          Option.map_eq_some_iff] at listed
        obtain ⟨⟨carrier, carried, rfl⟩, -⟩ := listed
        have accepted := (valid carrier carried).providers
        rw [invalid] at accepted
        cases accepted
    · obtain ⟨stage, installed, rfl⟩ := Option.map_eq_some_iff.mp applies
      exact absurd denied (NeverDenies.screen (passive.cloudProvider stage installed _ _).1.onOther)
  | userAgent =>
    obtain ⟨stage, installed, rfl⟩ := Option.map_eq_some_iff.mp applies
    exact absurd denied (NeverDenies.screen (passive.userAgent stage installed _ _ _ _ _))
  | rateLimit =>
    simp only [Check.trial] at applies
    split at applies
    next error invalid =>
      rw [arrives.route (by decide)] at invalid
      cases carried : service.carrier request s with
      | none => rw [carried] at invalid; cases invalid
      | some carrier =>
        have accepted := (valid carrier carried).tiers
        rw [carried, carrierTiers] at invalid
        rw [invalid] at accepted
        cases accepted
    · obtain ⟨-, ⟨⟩⟩ := Option.ite_none_left_eq_some.mp applies
      exact absurd denied (NeverDenies.screen (passive.tiers _ _ _ _ _ _))
  | detection =>
    obtain ⟨verdict, -, rfl⟩ := Option.map_eq_some_iff.mp applies
    -- The finding was counted, and the check lets it pass.
    rw [if_pos passive.stage] at denied
    cases denied

theorem position_of_arm (arm : k.carrierArm = true) :
    Check.routeCarrier.position < k.position := by
  cases k <;> first | decide | cases arm

/-- The arms need a carrier. -/
theorem arm_absent (arm : k.carrierArm = true) (route : χ.route = none) :
    k.trial E service χ = none := by
  cases k with
  | routeIpLists | routeCountries | routeHeadersAuth | routeReferrer | routeTimeWindow =>
    simp [Check.trial, route]
  | routeUserAgents => simp [Check.trial, route, patternsDue, routePatterns]
  | _ => cases arm

/-- The check whose denial a run meets ends the run. -/
theorem Check.Arrives.ending_of_denied (arrives : k.Arrives E service request s χ s')
    (applies : k.trial E service χ = some trial)
    (denied : Verdict.ofRuling (trial.ruling s').1 = .denied) :
    ∃ early payload s'', trial.ruling s' = (some (.deny early payload), s'') ∧
      Check.ending E service Check.pipeline (.start request) s =
        (.denied k early payload, s'') := by
  obtain ⟨back, ended⟩ := ending_of_reaches arrives
  rw [ended]
  rcases ruled : trial.ruling s' with ⟨_ | ruling, s₁⟩ <;> rw [ruled] at denied
  · cases denied
  · cases ruling with
    | deny early payload =>
      exact ⟨early, payload, s₁, rfl, by simp only [Check.ending, applies, ruled]⟩
    | _ => cases denied

end Arrivals

/-- A request in passive mode reaches the wrapped service, or an arm that answers for itself
denies it, exactly when no arm of the carrier that it arrives at denies it. -/
theorem passive_mode_forwards_iff (E : Engine W) (service : GuardService W)
    (request : Request W) (s : Store W) (passive : service.Passive)
    (valid : ∀ carrier, service.carrier request s = some carrier → carrier.Valid E)
    (fits : (bufferBody request.body
      (bodyCap E service.layer (service.carrier request s))).1.isOk = true)
    (calm : ∀ event ∈ (service.call E request s).trace, event.consult.check.isSome = true →
      event.verdict ≠ .panicked) :
    (handedOver (service.call E request s).trace ≠ [] ∨
      ∃ event ∈ (service.call E request s).trace, event.verdict = .denied ∧
        event.consult.check.any Check.ownAnswer = true) ↔
    ∀ k χ s' trial, Check.carrierArm k = true → k.Arrives E service request s χ s' →
      k.trial E service χ = some trial → Verdict.ofRuling (trial.ruling s').1 ≠ .denied := by
  constructor
  · intro through k χ s' trial arm arrives applies denied
    -- A denying arm ends the run with its own answer: nothing is handed over,
    obtain ⟨early, payload, s'', ruled, ended⟩ := arrives.ending_of_denied applies denied
    rcases through with handed | ⟨event, member, refused, own⟩
    · rw [call_handedOver, ended] at handed
      cases early with
      | excluded parts =>
        obtain ⟨rfl, -⟩ := ending_excluded ended
        cases arm
      | answered parts answer => exact handed rfl
    · -- and no other check denied, so that none of the arms that answer for themselves did.
      obtain ⟨j, asked, own⟩ := (Option.any_eq_true _ _).mp own
      obtain ⟨χ₁, s₁, trial₁, arrives₁, applies₁, rfl⟩ := (call_asks_iff asked).mp member
      obtain ⟨early₁, payload₁, s₂, -, ended₁⟩ := arrives₁.ending_of_denied applies₁ refused
      rw [ended] at ended₁
      cases ended₁
      exact absurd own (by cases k <;> first | decide | cases arm)
  · intro spared
    have ends := ending_ends E service Check.pipeline (.start request) s
    rcases ended : Check.ending E service Check.pipeline (.start request) s with ⟨ending, s'⟩
    rw [ended] at ends
    cases ends with
    | forward passed =>
      left
      rw [call_handedOver, ended]
      exact List.cons_ne_nil _ _
    | @denied k χ s₁ s' trial early payload arrives applies ruled =>
      have denied : Verdict.ofRuling (trial.ruling s₁).1 = .denied := by rw [ruled]; rfl
      -- Left to deny are the excluded path, which forwards, the arms with an answer of their
      -- own, and those of the carrier.
      rcases denier_of_passive passive valid fits arrives applies denied with rfl | own | arm
      · left
        rw [call_handedOver, ended]
        cases applies
        simp only [Trial.screen_ruling, Call.returning_run] at ruled
        split at ruled <;> cases ruled
        exact List.cons_ne_nil _ _
      · right
        refine ⟨_, Check.Arrives.asks arrives applies, denied, ?_⟩
        rw [trial_question applies]
        exact own
      · exact absurd denied (spared k χ s₁ trial arm arrives applies)
    -- A recovered panic, like any other, is excluded by hypothesis.
    | @recovered k χ s₁ s' trial early arrives applies ruled =>
      exact absurd (by rw [ruled]; rfl) (calm _ (Check.Arrives.asks arrives applies)
        (by rw [trial_question applies]; rfl))
    | @panicked k χ s₁ s' trial arrives applies ruled =>
      exact absurd (by rw [ruled]; rfl) (calm _ (Check.Arrives.asks arrives applies)
        (by rw [trial_question applies]; rfl))

def passiveService : GuardService Bench.world :=
  (Bench.layer.withPassiveMode true).wrap Bench.engine Bench.ok

theorem passiveService_passive : passiveService.Passive where
  layer := rfl
  stage := rfl
  bans := fun _ _ _ _ denied => nomatch denied
  tiers := fun _ _ _ _ _ _ _ _ denied => nomatch denied
  processor := fun _ installed => nomatch installed
  emergencyMode := fun _ installed => nomatch installed
  httpsEnforcement := fun _ installed => nomatch installed
  headersAuth := fun _ installed => nomatch installed
  referrerGate := fun _ installed => nomatch installed
  timeWindowGate := fun _ installed => nomatch installed
  geoBlocking := fun _ installed => nomatch installed
  cloudProvider := fun _ installed => nomatch installed
  userAgent := fun _ installed => nomatch installed

/-- Without a carrier a flagged request goes through. -/
theorem passive_mode_forwards_flagged :
    handedOver (passiveService.call Bench.engine
        (Bench.request "POST" "/items" none [.data (bytesOf "<script>")]) Bench.start).trace ≠ [] ∨
      ∃ event ∈ (passiveService.call Bench.engine
        (Bench.request "POST" "/items" none [.data (bytesOf "<script>")]) Bench.start).trace,
        event.verdict = .denied ∧ event.consult.check.any Check.ownAnswer = true :=
  (passive_mode_forwards_iff Bench.engine passiveService
    (Bench.request "POST" "/items" none [.data (bytesOf "<script>")]) Bench.start
    passiveService_passive (fun _ carried => nomatch carried) (by decide +kernel)
    (by decide +kernel)).mpr fun k χ s' trial arm arrives applies =>
      nomatch (arm_absent arm (arrives.route (position_of_arm arm))).symm.trans applies

/-- A carrier that blacklists the client. -/
def blacklistRoute : RouteConfig Bench.world :=
  { Bench.openRoute with ipBlacklist := some [Bench.client.display] }

/-- In passive mode the carrier's blacklist answers for the wrapped service all the same. -/
theorem passive_mode_blocks :
    let trace := (passiveService.call Bench.engine
      (Bench.request "GET" "/items" (some blacklistRoute) []) Bench.start).trace
    passiveService.Passive ∧ handedOver trace = [] ∧
      ¬∃ event ∈ trace, event.verdict = .denied ∧
        event.consult.check.any Check.ownAnswer = true := by
  exact ⟨passiveService_passive, List.length_eq_zero_iff.mp (by decide +kernel), by decide +kernel⟩

end TowerGuard
