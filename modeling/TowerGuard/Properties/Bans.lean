import TowerGuard.Collaborators
import TowerGuard.Runs
import TowerGuard.Engine.Bench

/-!
# Where bans are enforced

The behaviour rules of a configured layer write their bans into the processor's manager,
the ban arm reads the manager of the ban half, and the two are different stores. A run
enforces the issued bans exactly when every banned client that comes back before its ban is over
finds itself banned in the ban half's manager as well.
-/

namespace TowerGuard

open Text Traced

variable {W : World}

/-- Usage rules of the processor's that report no ban have banned nobody. -/
def ReportsBans (live : W.Other → (store : Nat) → (client : String) → Prop)
    (processor : ResponseProcessor W) : Prop :=
  ∀ endpoint client rules now other actions other',
    processor.processUsageRules endpoint client rules now other = (some actions, other') →
    actions.any BehaviorAction.isBan = false →
    ∀ store banned, live other' store banned ↔ live other store banned

/-- What the engine does with its ban stores. `live` says that a store holds a ban of the
client that has not expired. -/
structure BanKeeping (E : Engine W) (C : Constructors W)
    (live : W.Other → (store : Nat) → (client : String) → Prop) : Prop where
  /-- The ban arm of an enabled stage denies exactly the clients banned in its manager. -/
  arm : ∀ parts manager counters, parts.banManager = some (manager, counters) →
    parts.config.ipBan.enableIpBanning = true → parts.config.passiveMode = false →
    ∀ ip observation s, ∃ answer,
      ((E.rateLimitStage parts).decideBansObserved (some ip) observation s).1 = some answer ∧
        (answer.isSome = true ↔ live s.other manager.store ip.display)
  /-- A processor writes bans into the manager it was given, and into no other. -/
  process : ∀ parts request bits now other store client, store ≠ parts.banManager.store →
    (live ((C.responseProcessor parts).process request bits now other).2 store client ↔
      live other store client)
  usageRules : ∀ parts endpoint client rules now other store banned,
    store ≠ parts.banManager.store →
    (live ((C.responseProcessor parts).processUsageRules endpoint client rules now other).2 store
      banned ↔ live other store banned)
  reports : ∀ parts, ReportsBans live (C.responseProcessor parts)

/-! ### Wiring -/

/-- The layer of a configuration, with or without a route-config resolver, in front of a
service. -/
def configured (E : Engine W) (layer : GuardLayer W) (resolver : Option (RouteConfigResolver W))
    (inner : InnerService W) : GuardService W :=
  match resolver with
  | some resolver => (layer.withRouteConfigs resolver).wrap E inner
  | none => layer.wrap E inner

section Wiring

variable {E : Engine W} {C : Constructors W} {stores : Allocation} {config : SecurityConfig W}
  {layer : GuardLayer W} (resolver : Option (RouteConfigResolver W)) (inner : InnerService W)

/-- The ban arm reads the ban half's manager. -/
theorem configured_stage (banning : config.enableIpBanning = true)
    (built : fromSecurityConfig E C stores config = .ok layer) :
    ∃ parts, (configured E layer resolver inner).stage = E.rateLimitStage parts ∧
      parts.banManager = some (⟨stores.bans⟩, ⟨stores.counters⟩) ∧
      parts.config.ipBan = config.ipBanConfig ∧ parts.config.passiveMode = config.passiveMode := by
  have wiring := fromSecurityConfig_banWiring banning built
  -- The stage is built from the ban half when the layer wraps the service.
  have half : layer.banState = _ := congrArg BanWiring.banState wiring
  have fresh : layer.stage = none := congrArg BanWiring.stage wiring
  have passive : layer.passiveMode = config.passiveMode := congrArg BanWiring.passiveMode wiring
  cases resolver with
  | none =>
    refine ⟨_, layer.wrap_stage E inner fresh, ?_, ?_, passive⟩ <;> simp only [half] <;> rfl
  | some resolver =>
    refine ⟨_, (layer.withRouteConfigs resolver).wrap_stage E inner fresh, ?_, ?_, passive⟩ <;>
      simp only [GuardLayer.withRouteConfigs, half] <;> rfl

/-- The processor writes a manager of its own. -/
theorem configured_processor (banning : config.enableIpBanning = true)
    (built : fromSecurityConfig E C stores config = .ok layer) {processor : ResponseProcessor W}
    (installed : (configured E layer resolver inner).layer.responseProcessor = some processor) :
    processor = C.responseProcessor (config.processorParts stores) := by
  have wired : layer.responseProcessor = _ :=
    congrArg BanWiring.responseProcessor (fromSecurityConfig_banWiring banning built)
  -- Neither the resolver nor the wrapping replaces the processor.
  have same : (configured E layer resolver inner).layer.responseProcessor =
      layer.responseProcessor := by
    cases resolver <;> rfl
  rw [same, wired] at installed
  split at installed <;> cases installed
  rfl

end Wiring

/-! ### The way to the arm -/

section Way

variable {E : Engine W} {C : Constructors W} {service : GuardService W}
  {live : W.Other → (store : Nat) → (client : String) → Prop}

variable (E service live) in
/-- Nobody the checks ask issues or lifts a ban, the usage rules apart, and none runs out
meanwhile. -/
def SparesBans : Prop :=
  CollaboratorsMeet E service (fun _ => False) fun _ c => ∀ other store client,
    live (c other).2 store client ↔ live other store client

/-- Usage rules that let the request pass have banned nobody. -/
theorem usageRules_spare {processor : ResponseProcessor W} {endpoint client : String}
    {rules : List BehaviorRule} (reports : ReportsBans live processor) {s : Store W}
    (passed : (usageBan E processor endpoint client rules s).1 = some none) (store : Nat)
    (banned : String) :
    live (usageBan E processor endpoint client rules s).2.other store banned ↔
      live s.other store banned := by
  change live (processor.processUsageRules endpoint client rules (E.now s.other) s.other).2 store
    banned ↔ _
  change (processor.processUsageRules endpoint client rules (E.now s.other) s.other).1.map
    (fun actions => if actions.any BehaviorAction.isBan then some () else none) = _ at passed
  rcases said : processor.processUsageRules endpoint client rules (E.now s.other) s.other with
    ⟨_ | actions, other'⟩
  · rw [said] at passed
    cases passed
  · refine reports _ _ _ _ _ _ _ said ?_ store banned
    rw [said] at passed
    cases bans : actions.any BehaviorAction.isBan with
    | false => rfl
    | true =>
      rw [Option.map_some, bans] at passed
      cases passed

/-- At the ban arm the bans are those the request came in with. -/
theorem SparesBans.stand (spared : SparesBans E service live)
    (reports : ∀ processor, service.layer.responseProcessor = some processor →
      ReportsBans live processor) {request : Request W} {s s' : Store W} {χ : Locals W}
    (arrives : Check.bans.Arrives E service request s χ s') (store : Nat) (client : String) :
    live s'.other store client ↔ live s.other store client := by
  refine arrives.invariant (I := fun s' => live s'.other store client ↔ live s.other store client)
    ?_ Iff.rfl
  intro k ahead χ χ' trial applies s₁ s₂ ruling ruled passes held
  refine Iff.trans ?_ held
  by_cases asks : k = .usageRules
  · subst asks
    obtain ⟨processor, installed, -, ⟨⟩⟩ := bind_guard_iff.mp applies
    have spares := usageRules_spare (reports processor installed)
      (Trial.screen_next ruled passes).2 store client
    rwa [← show (usageBan E processor _ _ _ s₁).2 = s₂ from congrArg Prod.snd ruled]
  · obtain ⟨α, c, read, spares, makes⟩ := trial_call spared applies
      (by revert ahead; cases k <;> decide) fun usage => absurd usage asks
    obtain rfl : { s₁ with other := (c s₁.other).2 } = s₂ :=
      congrArg Prod.snd ((makes s₁).symm.trans ruled)
    exact spares s₁.other store client

end Way

/-! ### Enforcement -/

section Enforcement

variable (E : Engine W) (service : GuardService W)
  (live : W.Other → (store : Nat) → (client : String) → Prop)

/-- A client the behaviour rules have banned meets the ban arm while its ban lasts in
`store`. -/
structure BannedReturns (store : Nat) (past : List (Event W)) (s : Store W)
    (request : Request W) (ip : IpAddr) (s' : Store W) : Prop where
  client : request.extensions.clientIp = some ip
  banned : issued past ip.display
  meets : service.MeetsBanArm E request s s'
  lasts : live s'.other store ip.display

/-- The client is blocked at the arm. -/
def Enforces (store : Nat) : Store W × List (Event W) → Turn W → Prop
  | (s, past), .request request => ∀ ip s',
      BannedReturns E service live store past s request ip s' →
        ⟨.bans (some ip), .denied⟩ ∈ (service.call E request s).trace
  | _, .elsewhere _ => True

/-- Before the step the store the arm reads holds a live ban of the client too, if the behaviour
rules have banned it, that ban is not over, and the request comes as far as the arm. -/
def Backs (store armStore : Nat) : Store W × List (Event W) → Turn W → Prop
  | (s, past), .request request => ∀ ip, request.extensions.clientIp = some ip →
      issued past ip.display → live s.other store ip.display →
      (∃ s', service.MeetsBanArm E request s s') → live s.other armStore ip.display
  | _, .elsewhere _ => True

variable {E service live}

theorem enforces_iff_backs {store armStore : Nat}
    (arm : ∀ ip observation s, ∃ answer,
      (service.stage.decideBansObserved (some ip) observation s).1 = some answer ∧
        (answer.isSome = true ↔ live s.other armStore ip.display))
    (stand : ∀ {request : Request W} {s s' : Store W} {χ : Locals W},
      Check.bans.Arrives E service request s χ s' → ∀ store client,
        live s'.other store client ↔ live s.other store client)
    (seen : Store W × List (Event W)) (turn : Turn W) :
    Enforces E service live store seen turn ↔ Backs E service live store armStore seen turn := by
  cases turn with
  | elsewhere s => exact Iff.rfl
  | request request =>
    obtain ⟨s, past⟩ := seen
    -- At the arm the client is denied exactly when it came in banned in the arm's own store.
    have denied {ip : IpAddr} {s' : Store W} (client : request.extensions.clientIp = some ip)
        (meets : service.MeetsBanArm E request s s') :
        ⟨.bans (some ip), .denied⟩ ∈ (service.call E request s).trace ↔
          live s.other armStore ip.display := by
      obtain ⟨χ, arrives⟩ := meets.2
      obtain ⟨observation, denied⟩ := meets.denied_iff
      rw [client] at denied
      obtain ⟨answer, said, blocks⟩ := arm ip observation s'
      rw [denied, said, ← stand arrives, ← blocks]
      cases answer <;> simp
    constructor
    · rintro enforced ip client banned lasts ⟨s', meets⟩
      obtain ⟨χ, arrives⟩ := meets.2
      exact (denied client meets).mp
        (enforced ip s' ⟨client, banned, meets, (stand arrives _ _).mpr lasts⟩)
    · rintro backed ip s' ⟨client, banned, meets, lasts⟩
      obtain ⟨χ, arrives⟩ := meets.2
      exact (denied client meets).mpr
        (backed ip client banned ((stand arrives _ _).mp lasts) ⟨s', meets⟩)

end Enforcement

/-- A configured layer enforces the bans of its behaviour rules in a run exactly when every
client they have banned that comes back to the arm has a live ban in the ban half's store as well
by then, which is not the store those rules write. -/
theorem issued_bans_enforced_iff {E : Engine W} {C : Constructors W}
    {live : W.Other → (store : Nat) → (client : String) → Prop} (keeping : BanKeeping E C live)
    {stores : Allocation} {config : SecurityConfig W} {layer : GuardLayer W}
    (banning : config.enableIpBanning = true)
    (knobs : config.ipBanConfig.enableIpBanning = config.enableIpBanning)
    (active : config.passiveMode = false)
    (built : fromSecurityConfig E C stores config = .ok layer)
    (resolver : Option (RouteConfigResolver W)) (inner : InnerService W)
    (spared : SparesBans E (configured E layer resolver inner) live) (s : Store W)
    (turns : List (Turn W)) :
    let service := configured E layer resolver inner
    let run := Machine.remembering (service.turn E)
    (Machine.Along run (Enforces E service live stores.processorBans) (s, []) turns ↔
      Machine.Along run (Backs E service live stores.processorBans stores.bans) (s, []) turns) ∧
    ∀ processor, service.layer.responseProcessor = some processor →
      (∀ request bits now other client,
        live (processor.process request bits now other).2 stores.bans client ↔
          live other stores.bans client) ∧
      ∀ endpoint client rules now other banned,
        live (processor.processUsageRules endpoint client rules now other).2 stores.bans banned ↔
          live other stores.bans banned := by
  intro service run
  obtain ⟨parts, stage, manager, ipBan, passive⟩ := configured_stage resolver inner banning built
  constructor
  · have arm := keeping.arm parts _ _ manager (by rw [ipBan, knobs, banning])
      (by rw [passive, active])
    rw [← stage] at arm
    have reports (processor : ResponseProcessor W)
        (installed : service.layer.responseProcessor = some processor) :
        ReportsBans live processor := by
      obtain rfl := configured_processor resolver inner banning built installed
      exact keeping.reports _
    exact Machine.along_congr (I := fun _ => True) (fun _ _ _ _ _ _ => trivial)
      (fun seen turn _ => enforces_iff_backs arm (spared.stand reports) seen turn) trivial
  · intro processor installed
    obtain rfl := configured_processor resolver inner banning built installed
    exact ⟨fun request bits now other client =>
        keeping.process _ request bits now other _ client stores.distinct,
      fun endpoint client rules now other banned =>
        keeping.usageRules _ endpoint client rules now other _ banned stores.distinct⟩

/-! ### A crossed return rule -/

abbrev benchLive (ledger : Bench.Ledger) (store : Nat) (client : String) : Prop :=
  ledger.banned store client = true

theorem bench_keeping : BanKeeping Bench.engine Bench.constructors benchLive where
  arm := by
    intro parts manager counters installed banning active ip observation s
    refine ⟨_, rfl, ?_⟩
    rw [installed, banning, active]
    change _ ↔ s.other.banned manager.store ip.display = true
    cases held : s.other.banned manager.store ip.display <;> simp [held]
  process := by
    intro parts request bits now ledger store client other
    simp only [Bench.constructors, Bench.responseProcessor]
    split
    · simp [Bench.Ledger.ban, Bench.Ledger.banned, Ne.symm other]
    · rfl
  usageRules := fun _ _ _ _ _ _ _ _ _ => Iff.rfl
  reports := by
    rintro parts endpoint client rules now other actions other' ⟨⟩ -
    exact fun _ _ => Iff.rfl

/-- Three missing pages ban the client. -/
def missingRule : BehaviorRule where
  ruleType := "return_pattern"
  threshold := 2
  window := 3600
  pattern := "status:404"
  action := "ban"
  banDuration := some 900
  correlateWithDetection := false

def missingLayer : GuardLayer Bench.world :=
  (fromSecurityConfig Bench.engine Bench.constructors Bench.stores
    (Bench.banning [missingRule])).toOption.getD Bench.layer

def missingService : GuardService Bench.world :=
  configured Bench.engine missingLayer none (Bench.answering ⟨404, by decide⟩)

def missingRequest : Request Bench.world := Bench.request "GET" "/missing" none []

/-- Nobody is asked who would change the ledger. -/
theorem missingService_spares : SparesBans Bench.engine missingService benchLive where
  returning := fun _ _ _ _ => Iff.rfl
  clock := fun _ _ _ => Iff.rfl
  routeConfigs := fun _ installed => nomatch installed
  usageRules := fun _ _ _ _ _ asked => nomatch asked
  routeCountries := fun _ installed => nomatch installed
  emergencyMode := fun _ installed => nomatch installed
  https := by rintro stage ⟨⟩ path scheme host forwarded url; exact fun _ _ _ => Iff.rfl
  httpsRoute := by
    rintro stage ⟨⟩ path scheme host forwarded url required
    exact fun _ _ _ => Iff.rfl
  requestLogging := fun _ installed => nomatch installed
  countryLog := fun _ installed => nomatch installed
  routeHeadersAuth := fun _ _ _ _ _ _ => Iff.rfl
  headersAuth := fun _ installed => nomatch installed
  referrerGate := fun _ installed => nomatch installed
  routeValidators := fun _ _ _ _ _ => Iff.rfl
  customValidators := fun _ installed => nomatch installed
  timeWindowGate := fun _ installed => nomatch installed
  scan := fun _ _ _ _ _ => Iff.rfl
  geo := fun _ installed => nomatch installed
  cloud := fun _ installed => nomatch installed
  routeCloud := fun _ installed => nomatch installed
  customRequest := fun _ installed => nomatch installed

/-- The store, and all that was observed, when the client has asked for the page this often. -/
def missingAfter : Nat → Store Bench.world × List (Event Bench.world)
  | 0 => (Bench.start, [])
  | n + 1 =>
    let run := missingService.call Bench.engine missingRequest (missingAfter n).1
    (run.state, (missingAfter n).2 ++ run.trace)

theorem missing_turn (n : Nat) :
    Machine.remembering (missingService.turn Bench.engine) (missingAfter n)
      (.request missingRequest) = some (missingAfter (n + 1),
        (missingService.call Bench.engine missingRequest (missingAfter n).1).trace) :=
  rfl

/-- The client has asked three times, and is banned in the ban half's store meanwhile. -/
def bannedTwice : Store Bench.world :=
  { (missingAfter 3).1 with
    other := (missingAfter 3).1.other.ban Bench.stores.bans Bench.client.display 900 }

theorem missing_meets {s : Store Bench.world}
    (passes : (Checklist.run (Check.step Bench.engine missingService) (Check.pipeline.take 21)
      (.start missingRequest) s).flow.passes = true) :
    missingService.MeetsBanArm Bench.engine missingRequest s
      (Checklist.run (Check.step Bench.engine missingService) (Check.pipeline.take 21)
        (.start missingRequest) s).state :=
  ⟨rfl, Check.arrives_of_passes Bench.engine missingService missingRequest s
    (by decide : Check.pipeline = Check.pipeline.take 21 ++ .bans :: Check.pipeline.drop 22) passes⟩

/-- Before its third missing page the client was not banned. -/
theorem unbanned_backs (n : Nat) (before : ¬issued (missingAfter n).2 Bench.client.display) :
    Backs Bench.engine missingService benchLive Bench.stores.processorBans Bench.stores.bans
      (missingAfter n) (.request missingRequest) := by
  rintro ip ⟨⟩ banned
  exact absurd banned before

/-- Banned by the response to its third missing page, and in the ban half's store by then, the
client is denied at the arm. -/
theorem banned_twice_enforced :
    Machine.Along (Machine.remembering (missingService.turn Bench.engine))
      (Enforces Bench.engine missingService benchLive Bench.stores.processorBans)
      (Bench.start, [])
      [.request missingRequest, .request missingRequest, .request missingRequest,
        .elsewhere bannedTwice, .request missingRequest] ∧
    issued (missingAfter 3).2 Bench.client.display ∧
      ⟨.bans (some Bench.client), .denied⟩ ∈
        (missingService.call Bench.engine missingRequest bannedTwice).trace := by
  have backed : Machine.Along (Machine.remembering (missingService.turn Bench.engine))
      (Backs Bench.engine missingService benchLive Bench.stores.processorBans Bench.stores.bans)
      (missingAfter 0)
      [.request missingRequest, .request missingRequest, .request missingRequest,
        .elsewhere bannedTwice, .request missingRequest] := by
    refine (Machine.along_cons_iff (missing_turn 0)).mpr
      ⟨unbanned_backs 0 (by decide +kernel), ?_⟩
    refine (Machine.along_cons_iff (missing_turn 1)).mpr
      ⟨unbanned_backs 1 (by decide +kernel), ?_⟩
    refine (Machine.along_cons_iff (missing_turn 2)).mpr
      ⟨unbanned_backs 2 (by decide +kernel), ?_⟩
    refine (Machine.along_cons_iff rfl).mpr ⟨trivial, ?_⟩
    refine (Machine.along_cons_iff rfl).mpr ⟨?_, trivial⟩
    rintro ip ⟨⟩ - - -
    exact (by decide +kernel : benchLive bannedTwice.other Bench.stores.bans Bench.client.display)
  have enforced := (issued_bans_enforced_iff bench_keeping rfl rfl rfl
    (rfl : fromSecurityConfig Bench.engine Bench.constructors Bench.stores
      (Bench.banning [missingRule]) = .ok missingLayer) none
    (Bench.answering ⟨404, by decide⟩) missingService_spares Bench.start _).1.mpr backed
  have banned : issued (missingAfter 3).2 Bench.client.display := by decide +kernel
  refine ⟨enforced, banned, ?_⟩
  have last := ((((enforced.2 _ _ rfl).2 _ _ rfl).2 _ _ rfl).2 _ _ rfl).1
  exact last Bench.client _ ⟨rfl, (List.append_nil (missingAfter 3).2).symm ▸ banned,
    missing_meets (by decide +kernel), by decide +kernel⟩

/-- The response to the third missing page bans the client, and its next request passes the
arm. -/
theorem returning_client_passes :
    ¬Machine.Along (Machine.remembering (missingService.turn Bench.engine))
      (Enforces Bench.engine missingService benchLive Bench.stores.processorBans)
      (Bench.start, [])
      [.request missingRequest, .request missingRequest, .request missingRequest,
        .request missingRequest] := by
  intro enforced
  -- The response to the third request has crossed the rule,
  have banned : issued (missingAfter 3).2 Bench.client.display := by decide +kernel
  -- so that the fourth would have to be denied at the arm,
  have last : Enforces Bench.engine missingService benchLive Bench.stores.processorBans
      (missingAfter 3) (.request missingRequest) :=
    (((enforced.2 _ _ rfl).2 _ _ rfl).2 _ _ rfl).1
  have denied := last Bench.client _
    ⟨rfl, banned, missing_meets (by decide +kernel), by decide +kernel⟩
  have blocked : ∃ event ∈ (missingService.call Bench.engine missingRequest
      (missingAfter 3).1).trace,
      event.consult.check = some .bans ∧ event.verdict = .denied := ⟨_, denied, rfl, rfl⟩
  -- which it is not: the arm's store has no ban.
  revert blocked
  decide +kernel

end TowerGuard
