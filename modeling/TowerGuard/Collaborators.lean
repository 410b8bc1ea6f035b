import TowerGuard.Rules

/-!
# The collaborators of the checks

Every check outside the engine stage asks one collaborator. What all collaborators have in
common, the checks have: `trial_call` gives for each trial the one call it makes, so that a
property of calls carries over to the pipeline without another look at the arms.
-/

namespace TowerGuard

open Text Traced

variable {W : World}

/-- Every call the checks make on the state outside the engine stage satisfies `P`, the usage
rules for the clients in question only. -/
structure CollaboratorsMeet (E : Engine W) (service : GuardService W) (clients : String → Prop)
    (P : ∀ α : Type, Call W.Other α → Prop) : Prop where
  returning : ∀ {α : Type} (a : α), P α (Call.returning a)
  clock : P SystemTime fun o => (some (E.utcNow o), o)
  routeConfigs : ∀ resolver, service.layer.routeConfigs = some resolver →
    ∀ method path, P _ (resolver method path)
  usageRules : ∀ processor, service.layer.responseProcessor = some processor →
    ∀ endpoint client rules, clients client → P _ fun o =>
      processor.processUsageRules endpoint client rules (E.now o) o
  routeCountries : ∀ handler, service.layer.geoHandler = some handler →
    ∀ ip gate, P _ (E.checkCountries ip gate handler false)
  emergencyMode : ∀ stage, service.layer.emergencyMode = some stage →
    ∀ ip ipString path method, P _ (stage.decide ip ipString path method)
  https : ∀ stage, service.layer.httpsEnforcement = some stage →
    ∀ path scheme host forwarded url, P _ (stage.decide path scheme host forwarded url)
  httpsRoute : ∀ stage, service.layer.httpsEnforcement = some stage →
    ∀ path scheme host forwarded url required,
      P _ (stage.decideRoute path scheme host forwarded url required)
  requestLogging : ∀ stage, service.layer.requestLogging = some stage →
    ∀ ip method path query, P _ (stage.compose ip method path query)
  countryLog : ∀ stage, service.layer.geoBlocking = some stage →
    ∀ ip suspicious country, P _ (stage.countryCheckLog ip suspicious country)
  routeHeadersAuth : ∀ rules verifiers lookup, P _ (E.headersAuthDecide rules verifiers lookup)
  headersAuth : ∀ stage, service.layer.headersAuth = some stage →
    ∀ path headers, P _ (stage.decide path headers)
  referrerGate : ∀ stage, service.layer.referrerGate = some stage →
    ∀ path referer ip url method, P _ (stage.decide path referer ip url method)
  routeValidators : ∀ named ctx, P _ (E.decideCustomValidators named ctx)
  customValidators : ∀ stage, service.layer.customChecks = some stage →
    ∀ path method ip body, P _ (stage.decideCustomValidators path method ip body)
  timeWindowGate : ∀ stage, service.layer.timeWindowGate = some stage →
    ∀ path ip url method, P _ (stage.decide path ip url method)
  scan : ∀ surfaces exclusions,
    P _ (service.layer.scanFn surfaces exclusions service.layer.config)
  geo : ∀ stage, service.layer.geoBlocking = some stage → ∀ ip gate, P _ (stage.decide ip gate)
  cloud : ∀ stage, service.layer.cloudProvider = some stage →
    ∀ ip gate, P _ (stage.decide ip gate)
  routeCloud : ∀ stage, service.layer.cloudProvider = some stage →
    ∀ ip gate selectors, P _ (stage.decideRoute ip gate selectors)
  customRequest : ∀ stage, service.layer.customChecks = some stage →
    ∀ method path ip body, P _ (stage.decideCustomRequest method path ip body)

/-- What holds of every call holds of the collaborators'. -/
theorem CollaboratorsMeet.of_all {E : Engine W} {service : GuardService W}
    {clients : String → Prop} {P : ∀ α : Type, Call W.Other α → Prop}
    (all : ∀ α c, P α c) : CollaboratorsMeet E service clients P := by
  constructor
  all_goals intros; exact all _ _

theorem CollaboratorsMeet.mono {E : Engine W} {service : GuardService W}
    {clients clients' : String → Prop} {P Q : ∀ α : Type, Call W.Other α → Prop}
    (fewer : ∀ client, clients' client → clients client) (weaker : ∀ α c, P α c → Q α c)
    (meets : CollaboratorsMeet E service clients P) : CollaboratorsMeet E service clients' Q := by
  obtain ⟨⟩ := meets
  constructor
  all_goals intros; apply weaker; solve_by_elim

/-- A trial reads its ruling off the answer of this call. -/
def Trial.Makes {α : Type} (trial : Trial W) (c : Call W.Other α)
    (read : Option α → Option (Ruling W)) : Prop :=
  ∀ s, trial.ruling s = (read (c s.other).1, { s with other := (c s.other).2 })

/-- A trial makes one call, which satisfies `P`. -/
def Trial.MakesOne (P : ∀ α : Type, Call W.Other α → Prop) (trial : Trial W) : Prop :=
  ∃ (α : Type) (c : Call W.Other α) (read : Option α → Option (Ruling W)),
    P α c ∧ trial.Makes c read

variable {E : Engine W} {service : GuardService W} {clients : String → Prop}
  {P : ∀ α : Type, Call W.Other α → Prop} {k : Check} {χ : Locals W} {trial : Trial W}

private theorem makes_screen {α : Type} {next : Locals W} {question : Consult W}
    {c : Call W.Other (Option α)} {early : α → Early W} (meets : P _ c) :
    (Trial.screen next question (onOther c) early).MakesOne P :=
  ⟨_, c, Option.map (Ruling.ofDenial next early), meets, fun _ => rfl⟩

private theorem makes_compose {α : Type} {question : Consult W} {c : Call W.Other α}
    {next : α → Locals W} (meets : P _ c) : (Trial.compose question c next).MakesOne P :=
  ⟨_, c, Option.map fun answer => .pass (next answer), meets, fun _ => rfl⟩

/-- A ruling the guard reaches by itself is read off no answer at all. -/
private theorem makes_nothing (meets : CollaboratorsMeet E service clients P)
    {ruling : Option (Ruling W)} (rules : ∀ s, trial.ruling s = (ruling, s)) :
    trial.MakesOne P :=
  ⟨_, Call.returning (), fun _ => ruling, meets.returning (), rules⟩

/-- Outside the engine stage a check makes one call, on one of its collaborators. -/
theorem trial_call (meets : CollaboratorsMeet E service clients P)
    (applies : k.trial E service χ = some trial) (aside : k.counting = false)
    (told : k = .usageRules → clients ((χ.facts.ip.map IpAddr.display).getD "")) :
    trial.MakesOne P := by
  cases k with
  | excludePaths => cases applies; exact makes_nothing meets fun _ => rfl
  | corsPreflight =>
    obtain ⟨processor, -, -, ⟨⟩⟩ := bind_guard_iff.mp applies
    exact makes_nothing meets fun s => by
      simp only [Trial.screen_ruling, preflightAnswer]
      rfl
  | routeCarrier =>
    simp only [Check.trial] at applies
    split at applies
    · cases applies
    · obtain ⟨resolver, installed, rfl⟩ := Option.map_eq_some_iff.mp applies
      exact makes_compose (meets.routeConfigs resolver installed _ _)
  | usageRules =>
    obtain ⟨processor, installed, -, ⟨⟩⟩ := bind_guard_iff.mp applies
    -- A crossed rule that bans is the denial.
    exact ⟨_, _, fun answer => (answer.map fun actions =>
        if actions.any BehaviorAction.isBan then some () else none).map (Ruling.ofDenial χ _),
      meets.usageRules processor installed _ _ _ (told rfl), fun _ => rfl⟩
  | routeIpLists =>
    obtain ⟨carrier, -, -, applies⟩ := bind_guard_iff.mp applies
    split at applies <;> cases applies <;> exact makes_nothing meets fun _ => rfl
  | routeCountries =>
    simp only [Check.trial, Option.bind_eq_bind, Option.bind_eq_some_iff,
      Option.ite_none_right_eq_some] at applies
    obtain ⟨carrier, -, ip, -, handler, installed, -, ⟨⟩⟩ := applies
    exact makes_screen (meets.routeCountries handler installed _ _)
  | ipGate =>
    simp only [Check.trial, Option.bind_eq_bind, Option.bind_eq_some_iff,
      Option.ite_none_right_eq_some] at applies
    obtain ⟨gate, -, ip, -, -, ⟨⟩⟩ := applies
    exact makes_nothing meets fun _ => rfl
  | emergencyMode =>
    obtain ⟨stage, installed, rfl⟩ := Option.map_eq_some_iff.mp applies
    exact makes_screen (meets.emergencyMode stage installed _ _ _ _)
  | httpsEnforcement =>
    simp only [Check.trial] at applies
    split at applies
    next stage carrier installed _ =>
      cases applies
      exact makes_screen (meets.httpsRoute stage installed _ _ _ _ _ _)
    next stage installed _ =>
      cases applies
      exact makes_screen (meets.https stage installed _ _ _ _ _)
    · obtain ⟨-, ⟨⟩⟩ := Option.ite_none_right_eq_some.mp applies
      exact makes_nothing meets fun _ => rfl
    · cases applies
  | requestLogging =>
    obtain ⟨stage, installed, rfl⟩ := Option.map_eq_some_iff.mp applies
    exact makes_compose (meets.requestLogging stage installed _ _ _ _)
  | countryLog =>
    simp only [Check.trial, Option.bind_eq_bind, Option.bind_eq_some_iff] at applies
    obtain ⟨observability, -, stage, installed, ⟨⟩⟩ := applies
    exact makes_compose (meets.countryLog stage installed _ _ _)
  | bodyBuffering =>
    simp only [Check.trial, Option.some.injEq] at applies
    split at applies <;> subst applies <;> exact makes_nothing meets fun _ => rfl
  | routeHeadersAuth =>
    obtain ⟨carrier, -, -, ⟨⟩⟩ := bind_guard_iff.mp applies
    exact makes_screen (meets.routeHeadersAuth _ _ _)
  | headersAuth =>
    obtain ⟨stage, installed, rfl⟩ := Option.map_eq_some_iff.mp applies
    exact makes_screen (meets.headersAuth stage installed _ _)
  | routeReferrer =>
    obtain ⟨domains, -, rfl⟩ := Option.map_eq_some_iff.mp applies
    exact makes_nothing meets fun _ => rfl
  | referrerGate =>
    obtain ⟨stage, installed, rfl⟩ := Option.map_eq_some_iff.mp applies
    exact makes_screen (meets.referrerGate stage installed _ _ _ _ _)
  | routeValidators =>
    simp only [Check.trial, Option.ite_none_left_eq_some] at applies
    obtain ⟨-, ⟨⟩⟩ := applies
    exact ⟨_, _, fun answer => (answer.map validatorsDenial).map (Ruling.ofDenial χ _),
      meets.routeValidators _ _, fun _ => rfl⟩
  | customValidators =>
    obtain ⟨stage, installed, rfl⟩ := Option.map_eq_some_iff.mp applies
    exact makes_screen (meets.customValidators stage installed _ _ _ _)
  | routeTimeWindow =>
    obtain ⟨restrictions, -, rfl⟩ := Option.map_eq_some_iff.mp applies
    -- The window is judged against the time, which is all it reads.
    exact ⟨_, _, fun now => now.map fun now => Ruling.ofDenial χ _ (if E.isWithin
      (timeWindowOf restrictions) (E.hhmmInZone now (timeWindowOf restrictions).timezone)
      then none else some ()), meets.clock, fun _ => rfl⟩
  | timeWindowGate =>
    obtain ⟨stage, installed, rfl⟩ := Option.map_eq_some_iff.mp applies
    exact makes_screen (meets.timeWindowGate stage installed _ _ _ _)
  | scan =>
    simp only [Check.trial, Option.ite_none_left_eq_some] at applies
    obtain ⟨-, ⟨⟩⟩ := applies
    let surfaces := scanSurfaces χ.parts χ.buffered
    let exclusions := scanExclusions E service.layer χ.parts
    refine ⟨_, service.layer.scanFn surfaces exclusions service.layer.config, fun answer =>
      some (answer.elim (.recover (.answered χ.parts .failure)) fun verdict =>
        if verdict.isThreat then .flag { χ with verdict := some verdict } else .pass χ),
      meets.scan surfaces exclusions, fun s => ?_⟩
    dsimp only [onOther]
    rcases service.layer.scanFn surfaces exclusions service.layer.config s.other with
      ⟨_ | verdict, o⟩
    · rfl
    · dsimp only [Option.elim]
      split <;> rfl
  | bans => cases aside
  | geo =>
    obtain ⟨stage, installed, -, ⟨⟩⟩ := bind_guard_iff.mp applies
    exact makes_screen (meets.geo stage installed _ _)
  | cloud =>
    obtain ⟨-, applies⟩ := Option.ite_none_left_eq_some.mp applies
    split at applies
    · split at applies
      next stage _ installed =>
        cases applies
        exact makes_screen (meets.routeCloud stage installed _ _ _)
      · cases applies
      · cases applies
        exact makes_nothing meets fun _ => rfl
    · obtain ⟨stage, installed, rfl⟩ := Option.map_eq_some_iff.mp applies
      exact makes_screen (meets.cloud stage installed _ _)
  | routeUserAgents =>
    obtain ⟨patterns, -, rfl⟩ := Option.map_eq_some_iff.mp applies
    exact makes_nothing meets fun _ => rfl
  | userAgent => cases aside
  | rateLimit => cases aside
  | detection =>
    obtain ⟨verdict, -, rfl⟩ := Option.map_eq_some_iff.mp applies
    exact makes_nothing meets fun _ => rfl
  | customRequest =>
    obtain ⟨stage, installed, rfl⟩ := Option.map_eq_some_iff.mp applies
    exact makes_screen (meets.customRequest stage installed _ _ _ _)

end TowerGuard
