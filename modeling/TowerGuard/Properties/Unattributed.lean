import TowerGuard.Agreement
import TowerGuard.Untouched
import TowerGuard.Traced.Machine
import TowerGuard.Engine.Metered

/-!
# Requests without a client

The engine stage ignores a request that is not attributed. The usage rules are told the client
as a string, so that to them all unattributed requests come from one client.
-/

namespace TowerGuard

open Text Traced

variable {W : World} {γ : Type} {g : W.Other → γ}

/-! ### Inserted requests -/

/-- What is kept for attributed clients: the state of the engine stage, and `g` of the rest. -/
def attributedView (g : W.Other → γ) (s : Store W) : W.Limits × γ := (s.limits, g s.other)

/-- What happens to a service that takes requests, some of them inserted into its run. -/
inductive Visit (g : W.Other → γ) where
  | call (request : Request W)
  | inserted (request : Request W) (unattributed : request.extensions.clientIp = none)
  /-- The clock, and whatever else moves outside the guard. -/
  | elsewhere (move : W.Other → W.Other) (respects : ∀ o o', g o = g o' → g (move o) = g (move o'))

/-- The run without what was inserted. -/
def Visit.kept : Visit g → List (Visit g)
  | .inserted _ _ => []
  | visit => [visit]

/-- The unattributed request of a visit, inserted or not. -/
def Visit.unattributed : Visit g → Option (Request W)
  | .call request => if request.extensions.clientIp = none then some request else none
  | .inserted request _ => some request
  | .elsewhere _ _ => none

theorem Visit.of_unattributed {visit : Visit g} {request : Request W}
    (unattributed : visit.unattributed = some request) : request.extensions.clientIp = none := by
  cases visit with
  | call called =>
    obtain ⟨nobody, ⟨⟩⟩ := Option.ite_none_right_eq_some.mp unattributed
    exact nobody
  | inserted added nobody =>
    cases unattributed
    exact nobody
  | elsewhere move respects => cases unattributed

/-- One visit, with the answer of a request that is not an inserted one. -/
def GuardService.visit (E : Engine W) (service : GuardService W) (g : W.Other → γ) :
    Machine (Store W) (Visit g) (Flow Empty (Except W.InnerError (Response W)))
  | s, .call request =>
    let run := service.call E request s
    some (run.state, [run.flow])
  | s, .inserted request _ => some ((service.call E request s).state, [])
  | s, .elsewhere move _ => some ({ s with other := move s.other }, [])

/-! ### What the engine is relied on for -/

/-- The engine's stages ignore a request without a client. -/
structure IgnoresUnattributed (g : W.Other → γ) (service : GuardService W) : Prop where
  bans : ∀ observation s, (service.stage.decideBansObserved none observation s).1 = some none ∧
    attributedView g (service.stage.decideBansObserved none observation s).2 = attributedView g s
  tiers : ∀ path routeTiers gate finding observation s,
    (service.stage.decideTiersObserved none path routeTiers gate finding observation s).1 =
        some none ∧
      attributedView g (service.stage.decideTiersObserved none path routeTiers gate finding
        observation s).2 = attributedView g s
  agents : ∀ stage, service.layer.userAgent = some stage → ∀ gate path userAgent finding s,
    attributedView g (stage.decide none gate path userAgent finding s).2 = attributedView g s

/-- The processor tracks what it is told under each client string apart. What it keeps for the
empty string is none of `g`, and `g` is all the answers depend on. -/
structure TracksByClient (g : W.Other → γ) (E : Engine W) (service : GuardService W) : Prop where
  steady : CollaboratorsMeet E service (· ≠ "") fun _ c => Steady g c
  answers : AnswersAlike (SameView id g) E service
  stages : StagesAgree (SameView id g) service.stage service.stage
  agents : ∀ stage, service.layer.userAgent = some stage → ∀ ip gate path userAgent finding,
    Call.Agree (SameView id g) Eq (stage.decide ip gate path userAgent finding)
      (stage.decide ip gate path userAgent finding)
  keeps : CollaboratorsMeet E service (fun _ => False) fun _ c => ∀ o, g (c o).2 = g o
  hook : ∀ payload o, g (E.fireBlockHook service.layer.onBlock payload o).2 = g o
  responseSide : ResponseSideKeeps service.layer (· = "") (attributedView g)
  inner : ∀ request, request.extensions.clientIp = none → ∀ s,
    attributedView g (service.inner.call request s).2 = attributedView g s

/-! ### The usage rules -/

variable {ε : Type} {E : Engine W} {service : GuardService W} {request : Request W} {k : Check}
  {χ χ' : Locals W} {trial : Trial W} {s s₁ s' final : Store W} {t : List (Event W)}

/-- Usage rules are only put where the carrier has some and a processor is there to track them. -/
theorem GuardService.PutsUsageRules.tracked (puts : service.PutsUsageRules E request s) :
    service.layer.responseProcessor.isSome = true ∧
      ((service.carrier request s).map RouteConfig.behaviorRules).getD [] ≠ [] := by
  obtain ⟨χ, s', arrives, applies⟩ := puts
  obtain ⟨trial, applies⟩ := Option.isSome_iff_exists.mp applies
  obtain ⟨processor, installed, rules, -⟩ := bind_guard_iff.mp applies
  rw [arrives.route (by decide)] at rules
  exact ⟨by rw [installed]; rfl, rules⟩

/-- A ban or a throttling: the usage rules' denial, and the engine stage's. -/
def Check.BansOrThrottles (k : Check) (answer : Answer) : Prop :=
  k = .usageRules ∨ ∃ response, answer = .stage response

/-- Nothing asked on behalf of a request without a client leaves a mark. -/
theorem unattributed_untouched (ignores : IgnoresUnattributed g service)
    (tracks : TracksByClient g E service) (unattributed : request.extensions.clientIp = none) :
    Untouched (attributedView g) (fun _ => False) E service request where
  asked := by
    refine tracks.keeps.mono (fun _ => id) ?_
    intro α c kept s
    exact congrArg (Prod.mk s.limits) (kept s.other)
  bans := by
    intro observation s
    rw [unattributed]
    exact (ignores.bans observation s).2
  tiers := by
    intro path routeTiers gate finding observation s
    rw [unattributed]
    exact (ignores.tiers path routeTiers gate finding observation s).2
  agents := by
    rw [unattributed]
    exact ignores.agents
  hook := fun payload s => congrArg (Prod.mk s.limits) (tracks.hook payload s.other)
  responseSide := by
    have nobody : request.client = "" := by rw [Request.client, unattributed]; rfl
    rw [nobody]
    exact tracks.responseSide
  inner := fun rebuilt carried => tracks.inner rebuilt (carried.trans unattributed)

/-- No ban and no throttling denies it. -/
theorem unattributed_not_banned {answer : Answer} (ignores : IgnoresUnattributed g service)
    (unattributed : request.extensions.clientIp = none)
    (untracked : ¬service.PutsUsageRules E request s)
    (denied : service.Denies E request s k answer) : ¬k.BansOrThrottles answer := by
  intro kind
  have other : k ≠ .scan ∨ answer ≠ .failure := by
    rcases kind with rfl | ⟨response, rfl⟩
    · exact .inl (by decide)
    · exact .inr (by simp)
  obtain ⟨χ, s₁, trial, payload, s', arrives, applies, ruled, -⟩ := denies_ruled denied other
  have nobody := arrives.of.client.1.trans unattributed
  rcases kind with rfl | ⟨response, rfl⟩
  · exact untracked ⟨_, _, arrives, by rw [applies]; rfl⟩
  · cases trial_exit applies ruled with
    | bans said =>
      rw [nobody, (ignores.bans _ _).1] at said
      cases said
    | tiers said =>
      rw [nobody, (ignores.tiers _ _ _ _ _ _).1] at said
      cases said

/-! ### Runs -/

variable (request) in
/-- Two runs apart by what is kept for the empty client take a request alike. -/
theorem call_alike_of_tracks (tracks : TracksByClient g E service)
    (untracked : request.extensions.clientIp = none → ¬service.PutsUsageRules E request s)
    (same : SameView id g s s') : Run.Alike (SameView id g) Eq (service.call E request s)
      (service.call E request s') := by
  have alike : Run.Alike (SameView id g) Eq (service.call E request s)
      ((service.withStage service.stage).call E request s') :=
    call_alike tracks.answers (fun k χ s₁ s₁' arrives same =>
      rulesAlike_of_steady tracks.steady tracks.stages tracks.agents
        (fun asks applies => ?_) same) same
  · rw [service.withStage_stage] at alike
    exact alike
  · subst asks
    rw [arrives.of.client.1]
    cases attributed : request.extensions.clientIp with
    | none => exact absurd ⟨χ, s₁, arrives, applies⟩ (untracked attributed)
    | some ip => exact ip.display_ne_empty

/-- An inserted request is matched by nothing at all. -/
theorem visit_simulates (ignores : IgnoresUnattributed g service)
    (tracks : TracksByClient g E service) {visit : Visit g}
    {shown : List (Flow Empty (Except W.InnerError (Response W)))} (same : SameView id g s s')
    (untracked : ∀ request, visit.unattributed = some request →
      ¬service.PutsUsageRules E request s)
    (taken : service.visit E g s visit = some (s₁, shown)) :
    ∃ s₁', (service.visit E g).run s' visit.kept = some (s₁', shown) ∧ SameView id g s₁ s₁' := by
  cases visit with
  | call request =>
    cases taken
    obtain ⟨flows, left⟩ := call_alike_of_tracks request tracks
      (fun nobody => untracked request (by simp [Visit.unattributed, nobody])) same
    refine ⟨_, Machine.run_singleton ?_, left⟩
    rw [flows.eq]
    rfl
  | inserted request nobody =>
    cases taken
    have kept := (unattributed_untouched ignores tracks nobody).call (untracked request rfl)
    exact ⟨s', rfl, (congrArg Prod.fst kept).trans same.limits,
      (congrArg Prod.snd kept).trans same.other⟩
  | elsewhere move respects =>
    cases taken
    exact ⟨_, rfl, same.limits, respects _ _ same.other⟩

/-- Where the usage rules are put to no unattributed request, requests inserted without a client
change no other answer, and none of them is banned. -/
theorem unattributed_apart (ignores : IgnoresUnattributed g service)
    (tracks : TracksByClient g E service) {visits : List (Visit g)}
    {shown : List (Flow Empty (Except W.InnerError (Response W)))}
    (ran : (service.visit E g).run s visits = some (final, shown))
    (untracked : (service.visit E g).Along (fun s visit => ∀ request,
      visit.unattributed = some request → ¬service.PutsUsageRules E request s) s visits) :
    (∃ final', (service.visit E g).run s (visits.flatMap Visit.kept) = some (final', shown)) ∧
      (service.visit E g).Along (fun s visit => ∀ request, visit.unattributed = some request →
        ∀ k answer, service.Denies E request s k answer → ¬k.BansOrThrottles answer) s visits := by
  constructor
  · obtain ⟨final', matched, -⟩ := Machine.run_simulated (R := SameView id g)
      (fun _ _ _ _ _ same aside taken => visit_simulates ignores tracks same aside taken)
      ⟨rfl, rfl⟩ untracked ran
    exact ⟨final', matched⟩
  · refine untracked.mono ?_
    intro s visit aside request unattributed k answer denied
    exact unattributed_not_banned ignores (visit.of_unattributed unattributed)
      (aside request unattributed) denied

/-! ### A usage rule -/

/-- What the metering engine keeps for attributed clients. -/
def attributedUses (journal : Metered.world.Other) : Metered.world.Other :=
  { journal with uses := journal.uses.filter fun use => use.2 ≠ "" }

def trackingProcessor : ResponseProcessor Metered.world :=
  Metered.responseProcessor Bench.plainProcessor

/-- A layer with a processor and nothing else. -/
def trackingService : GuardService Metered.world :=
  (Metered.layer.withResponseProcessor trackingProcessor).wrap Metered.engine Metered.ok

/-- The uses of an attributed client are all kept. -/
theorem countP_attributedUses {endpoint client : String} (attributed : client ≠ "")
    (journal : Metered.Journal) :
    (attributedUses journal).uses.countP (fun use => use.1 = endpoint && use.2 = client) =
      journal.uses.countP fun use => use.1 = endpoint && use.2 = client := by
  simp only [attributedUses, List.countP_filter]
  refine List.countP_congr fun use _ => ?_
  by_cases same : use.2 = client <;> simp [same, attributed]

theorem attributedUses_cons {endpoint client : String} (attributed : client ≠ "")
    (journal : Metered.Journal) :
    attributedUses { journal with uses := (endpoint, client) :: journal.uses } =
      { attributedUses journal with
        uses := (endpoint, client) :: (attributedUses journal).uses } := by
  simp [attributedUses, attributed]

theorem steady_usageRules {endpoint client : String} (rules : List BehaviorRule)
    (attributed : client ≠ "") : Steady attributedUses fun journal =>
      trackingProcessor.processUsageRules endpoint client rules (Metered.engine.now journal)
        journal := by
  intro o o' same
  have used : o.uses.countP (fun use => use.1 = endpoint && use.2 = client) =
      o'.uses.countP fun use => use.1 = endpoint && use.2 = client := by
    rw [← countP_attributedUses attributed o, ← countP_attributedUses attributed o', same]
  constructor
  · simp only [trackingProcessor, Metered.responseProcessor, used]
  · change attributedUses { o with uses := (endpoint, client) :: o.uses } =
      attributedUses { o' with uses := (endpoint, client) :: o'.uses }
    rw [attributedUses_cons attributed, attributedUses_cons attributed, same]

/-- Without a limiter the tiers pass everyone. -/
theorem tracking_tiers (ip : Option IpAddr) (path : Option String) (routeTiers : Option Nat)
    (gate : Option IpGateDecision) (finding : Option ThreatFinding)
    (observation : Option RequestObservation) :
    trackingService.stage.decideTiersObserved ip path routeTiers gate finding observation =
      Call.returning none := by
  cases ip with
  | none => rfl
  | some ip =>
    change (if gate.any IpGateDecision.skips || true then Call.returning none else _) = _
    rw [Bool.or_true]
    rfl

theorem tracking_bans (ip : Option IpAddr) (observation : Option RequestObservation) :
    trackingService.stage.decideBansObserved ip observation = Call.returning none := by
  cases ip <;> rfl

theorem tracking_ignores : IgnoresUnattributed attributedUses trackingService where
  bans := by
    intro observation s
    rw [tracking_bans]
    exact ⟨rfl, rfl⟩
  tiers := by
    intro path routeTiers gate finding observation s
    rw [tracking_tiers]
    exact ⟨rfl, rfl⟩
  agents := by
    intro stage installed
    cases installed

theorem tracking_tracks : TracksByClient attributedUses Metered.engine trackingService where
  steady := by
    constructor
    case usageRules =>
      rintro _ ⟨⟩ endpoint client rules attributed
      exact steady_usageRules rules attributed
    case clock =>
      intro o o' same
      exact ⟨congrArg (fun journal => some journal.now) same, same⟩
    all_goals first | (intros; exact .returning _) | (intro _ installed; cases installed)
  answers :=
    { hook := fun _ => .returning rfl
      clock := by
        intro s s' same
        have moment := congrArg Metered.Journal.now same.other
        exact moment
      process := by
        rintro _ ⟨⟩ request bits now
        exact .returning rfl
      event := nofun
      modifier := nofun
      onError := nofun
      inner := fun _ => .returning rfl }
  stages := by
    refine ⟨rfl, fun ip observation => ?_, fun ip path routeTiers gate finding observation => ?_⟩
    · rw [tracking_bans]
      exact .returning rfl
    · rw [tracking_tiers]
      exact .returning rfl
  agents := by
    intro stage installed
    cases installed
  keeps := by
    constructor
    case usageRules => exact fun _ _ _ _ _ nobody => nobody.elim
    case clock => exact fun _ => rfl
    all_goals first | (intros; rfl) | (intro _ installed; cases installed)
  hook := fun _ _ => rfl
  responseSide :=
    { process := by
        rintro _ ⟨⟩ request bits now s -
        rfl
      event := nofun
      modifier := nofun
      onError := nofun }
  inner := fun _ _ _ => rfl

/-- The second use bans. -/
def usageBanRule : BehaviorRule where
  ruleType := "usage"
  threshold := 1
  window := 3600
  pattern := ""
  action := "ban"
  banDuration := none
  correlateWithDetection := false

/-- A request to the route with the rule. -/
def ruledRequest (client : Option IpAddr) : Request Metered.world :=
  Metered.request client "GET" "/items"
    (some { Bench.openRoute with behaviorRules := [usageBanRule] }) []

/-- A client uses the route up, with a request to another route in between. -/
def attributedVisits : List (Visit attributedUses) :=
  [.call (ruledRequest (some Bench.client)),
    .inserted (Metered.request none "GET" "/health" none []) rfl,
    .call (ruledRequest (some Bench.client))]

/-- With the usage rules on the attributed requests only, the inserted one changes nothing. -/
theorem attributed_client_unmoved :
    ∃ final shown final', (trackingService.visit Metered.engine attributedUses).run Metered.start
        attributedVisits = some (final, shown) ∧
      shown.map Bench.statusOf = [some 200, some 403] ∧
      (trackingService.visit Metered.engine attributedUses).run Metered.start
        (attributedVisits.flatMap Visit.kept) = some (final', shown) := by
  have statuses : ((trackingService.visit Metered.engine attributedUses).run Metered.start
      attributedVisits).map (fun ended => ended.2.map Bench.statusOf) =
        some [some 200, some 403] := by
    decide +kernel
  obtain ⟨⟨final, shown⟩, ran, answers⟩ := Option.map_eq_some_iff.mp statuses
  have untracked : (trackingService.visit Metered.engine attributedUses).Along
      (fun s visit => ∀ request, visit.unattributed = some request →
        ¬trackingService.PutsUsageRules Metered.engine request s) Metered.start
      attributedVisits := by
    -- The inserted request has no carrier, and the others have a client.
    refine ⟨?_, fun _ _ _ => ⟨?_, fun _ _ _ => ⟨?_, fun _ _ _ => trivial⟩⟩⟩
    · intro request unattributed
      cases unattributed
    · intro request unattributed puts
      cases unattributed
      exact puts.tracked.2 rfl
    · intro request unattributed
      cases unattributed
  obtain ⟨⟨final', matched⟩, -⟩ := unattributed_apart tracking_ignores tracking_tracks ran untracked
  exact ⟨final, shown, final', ran, answers, matched⟩

/-- Two unattributed requests of the route, of which the first is inserted. -/
def unattributedVisits : List (Visit attributedUses) :=
  [.inserted (ruledRequest none) rfl, .call (ruledRequest none)]

/-- Unattributed requests use the route up for one another: inserted ahead, one of them has the
other answered with the banned `403`. -/
theorem unattributed_share_a_ban :
    IgnoresUnattributed attributedUses trackingService ∧
      TracksByClient attributedUses Metered.engine trackingService ∧
      ((trackingService.visit Metered.engine attributedUses).run Metered.start
        unattributedVisits).map (fun ended => ended.2.map Bench.statusOf) = some [some 403] ∧
      ((trackingService.visit Metered.engine attributedUses).run Metered.start
        (unattributedVisits.flatMap Visit.kept)).map (fun ended => ended.2.map Bench.statusOf) =
          some [some 200] ∧
      trackingService.Denies Metered.engine (ruledRequest none)
        (trackingService.call Metered.engine (ruledRequest none) Metered.start).state .usageRules
        (.block 403 activityBannedMessage) := by
  refine ⟨tracking_ignores, tracking_tracks, by decide +kernel, by decide +kernel, ?_⟩
  unfold GuardService.Denies
  decide +kernel

end TowerGuard
