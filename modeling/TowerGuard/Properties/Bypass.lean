import TowerGuard.Bypassing
import TowerGuard.Properties.Fidelity
import TowerGuard.Properties.Reset

/-!
# What a bypass removes

One request, from one state, under a carrier and under the carrier with one more bypassed check.
-/

namespace TowerGuard

open Text Traced

variable {W : World}

/-! ### The feed -/

/-- What a question hands to the violation counters: the client, its skip state, the finding. -/
def Event.fed : Event W → Option (Option IpAddr × Option IpGateDecision × ThreatFinding)
  | ⟨.rateLimit ip gate (some finding), _⟩ => some (ip, gate, finding)
  | _ => none

def fed (trace : List (Event W)) : List (Option IpAddr × Option IpGateDecision × ThreatFinding) :=
  trace.filterMap Event.fed

theorem mem_fed_iff {trace : List (Event W)} {ip : Option IpAddr} {gate : Option IpGateDecision}
    {finding : ThreatFinding} : (ip, gate, finding) ∈ fed trace ↔
      ∃ verdict, ⟨.rateLimit ip gate (some finding), verdict⟩ ∈ trace := by
  constructor
  · intro member
    obtain ⟨event, asked, feeds⟩ := List.mem_filterMap.mp member
    unfold Event.fed at feeds
    split at feeds <;> cases feeds
    exact ⟨_, asked⟩
  · rintro ⟨verdict, member⟩
    exact List.mem_filterMap.mpr ⟨_, member, rfl⟩

/-! ### What is assumed -/

/-- The second decision spares a client wherever the first one does. -/
def IpGateDecision.Lenient (gate gate' : Option IpGateDecision) : Prop :=
  (gate.any IpGateDecision.isWhitelisted = true → gate'.any IpGateDecision.isWhitelisted = true) ∧
    (gate.any IpGateDecision.isExempt = true → gate'.any IpGateDecision.isExempt = true)

theorem IpGateDecision.Lenient.refl (gate : Option IpGateDecision) : Lenient gate gate := ⟨id, id⟩

section Assumed

variable {κ γ η : Type}

/-- What the checks decide on, by their collaborators: `f` of the counters and `g` of the rest up
to the tiers, and behind them `h` of the rest. A bypassable check that passes leaves what the
checks behind it decide on. The tiers pass a request that they passed with a stricter decision of
the gate, or with a finding to count. -/
structure BypassWired (f : W.Limits → κ) (g : W.Other → γ) (h : W.Other → η) (E : Engine W)
    (service : GuardService W) : Prop where
  meets : CollaboratorsMeet E service (fun _ => True) fun _ c => Steady g c
  coarser : ∀ o o', g o = g o' → h o = h o'
  customRequest : ∀ stage, service.layer.customChecks = some stage →
    ∀ method path ip body, Steady h (stage.decideCustomRequest method path ip body)
  routeCountries : ∀ handler, service.layer.geoHandler = some handler →
    ∀ ip gate, Leaves g (E.checkCountries ip gate handler false)
  scan : ∀ surfaces exclusions,
    Leaves g (service.layer.scanFn surfaces exclusions service.layer.config)
  geo : ∀ stage, service.layer.geoBlocking = some stage →
    ∀ ip gate, Leaves g (stage.decide ip gate)
  cloud : ∀ stage, service.layer.cloudProvider = some stage →
    ∀ ip gate, Leaves g (stage.decide ip gate)
  routeCloud : ∀ stage, service.layer.cloudProvider = some stage →
    ∀ ip gate selectors, Leaves g (stage.decideRoute ip gate selectors)
  bans : ∀ ip observation, PassesToo (SameView f g)
    (service.stage.decideBansObserved ip observation)
    (service.stage.decideBansObserved ip observation)
  bansLeave : ∀ ip observation s s₁,
    service.stage.decideBansObserved ip observation s = (some none, s₁) → SameView f g s s₁
  userAgent : ∀ stage, service.layer.userAgent = some stage →
    ∀ ip gate path userAgent finding finding', finding' = finding ∨ finding' = none →
      PassesToo (SameView f g) (stage.decide ip gate path userAgent finding)
        (stage.decide ip gate path userAgent finding')
  tiers : ∀ ip path routeTiers gate gate' finding finding' observation s s' s₁,
    IpGateDecision.Lenient gate gate' → finding' = finding ∨ finding' = none → SameView f g s s' →
    service.stage.decideTiersObserved ip path routeTiers gate finding observation s =
      (some none, s₁) →
    ∃ s₁', service.stage.decideTiersObserved ip path routeTiers gate' finding' observation s' =
      (some none, s₁') ∧ h s₁.other = h s₁'.other
  tiersLeave : ∀ ip path routeTiers gate finding observation s s₁,
    service.stage.decideTiersObserved ip path routeTiers gate finding observation s =
      (some none, s₁) → h s₁.other = h s.other

end Assumed

/-! ### One check -/

section Check

variable {κ γ η : Type} {f : W.Limits → κ} {g : W.Other → γ} {h : W.Other → η} {E : Engine W}
  {service : GuardService W} {c : Bypass} {route : RouteConfig W} {own : Option IpGateDecision}
  {k : Check} {χ χ₁ : Locals W} {s s₁ s' : Store W} {t : List (Event W)}

theorem SameView.of_leaves {α : Type} {call : Call W.Other α} (leaves : Leaves g call)
    (left : { s with other := (call s.other).2 } = s₁) : SameView f g s s₁ := by
  subst left
  exact ⟨rfl, (leaves s.other).symm⟩

/-- A bypassable check ahead of the tiers that passes leaves the view. -/
theorem passed_leaves (wired : BypassWired f g h E service) (named : k.bypass = some c)
    (tiers : k ≠ .rateLimit) {trial : Trial W} (applies : k.trial E service χ = some trial)
    {ruling : Ruling W} (ruled : trial.ruling s = (some ruling, s₁))
    (passed : ruling.next? = some χ₁) : SameView f g s s₁ := by
  have left : (trial.ruling s).2 = s₁ := congrArg Prod.snd ruled
  cases k with
  | rateLimit => exact absurd rfl tiers
  | routeIpLists =>
    obtain ⟨carrier, -, -, applies⟩ := bind_guard_iff.mp applies
    split at applies <;> cases applies <;> subst left <;> exact ⟨rfl, rfl⟩
  | routeCountries =>
    simp only [Check.trial, Option.bind_eq_bind, Option.bind_eq_some_iff,
      Option.ite_none_right_eq_some] at applies
    obtain ⟨carrier, -, ip, -, handler, installed, -, ⟨⟩⟩ := applies
    exact .of_leaves (wired.routeCountries handler installed _ _) left
  | ipGate =>
    simp only [Check.trial, Option.bind_eq_bind, Option.bind_eq_some_iff,
      Option.ite_none_right_eq_some] at applies
    obtain ⟨gate, -, ip, -, -, ⟨⟩⟩ := applies
    subst left
    exact ⟨rfl, rfl⟩
  | geo =>
    obtain ⟨stage, installed, -, ⟨⟩⟩ := bind_guard_iff.mp applies
    exact .of_leaves (wired.geo stage installed _ _) left
  | scan =>
    obtain ⟨-, ⟨⟩⟩ := Option.ite_none_left_eq_some.mp applies
    have leaves := wired.scan (scanSurfaces χ.parts χ.buffered)
      (scanExclusions E service.layer χ.parts)
    refine .of_leaves leaves ?_
    rw [← left]
    dsimp only [onOther]
    -- Whatever the scan finds, it leaves the state it answered in.
    rcases service.layer.scanFn _ _ _ s.other with ⟨_ | verdict, o⟩
    · rfl
    · dsimp only
      split <;> rfl
  | bans =>
    obtain ⟨-, ⟨⟩⟩ := Option.ite_none_left_eq_some.mp applies
    obtain ⟨-, said⟩ := Trial.screen_next ruled passed
    exact wired.bansLeave _ _ s s₁ (Prod.ext said left)
  | cloud =>
    obtain ⟨-, applies⟩ := Option.ite_none_left_eq_some.mp applies
    split at applies
    · split at applies
      next stage _ installed =>
        cases applies
        exact .of_leaves (wired.routeCloud stage installed _ _ _) left
      · cases applies
      · cases applies
        subst left
        exact ⟨rfl, rfl⟩
    · obtain ⟨stage, installed, rfl⟩ := Option.map_eq_some_iff.mp applies
      exact .of_leaves (wired.cloud stage installed _ _) left
  | _ => cases named

/-- What a check with a name of its own writes, its bypass keeps out of the comparison. -/
theorem Frame.bypassing (frame : Frame k χ χ₁) (named : k.bypass = some c) :
    χ₁.bypassing c own = χ.bypassing c own := by
  have carrier : k ≠ .routeCarrier := by rintro rfl; cases named
  have buffering : k ≠ .bodyBuffering := by rintro rfl; cases named
  have name : ∀ {j : Check} {d : Bypass}, j.bypass = some d → c ≠ d → k ≠ j := by
    rintro j d own other rfl
    exact other (Option.some.inj (named.symm.trans own))
  have parts : (χ₁.bypassing c own).parts = (χ.bypassing c own).parts := by
    by_cases ip : c = .ip
    · -- The gate's decision is replaced on both sides.
      have replaced := congrArg (fun parts : Parts W => { parts with
        extensions := { parts.extensions with
          routeConfig := parts.extensions.routeConfig.map (RouteConfig.bypassing c)
          gateDecision := own } }) frame.carried
      simp only [Locals.bypassing, if_pos ip]
      exact replaced
    · simp only [Locals.bypassing, frame.parts (name rfl ip)]
  have lists : (χ₁.bypassing c own).skipGlobalIpLists = (χ.bypassing c own).skipGlobalIpLists := by
    by_cases ip : c = .ip
    · simp [Locals.bypassing, ip]
    · simp only [Locals.bypassing, frame.skipGlobalIpLists (name rfl ip)]
  have countries :
      (χ₁.bypassing c own).skipGlobalCountries = (χ.bypassing c own).skipGlobalCountries := by
    by_cases ip : c = .ip
    · simp [Locals.bypassing, ip]
    · simp only [Locals.bypassing, frame.skipGlobalCountries (name rfl ip)]
  have verdict : (χ₁.bypassing c own).verdict = (χ.bypassing c own).verdict := by
    by_cases scans : c = .penetration
    · simp [Locals.bypassing, scans]
    · simp only [Locals.bypassing, frame.verdict (name rfl scans)]
  simp only [Locals.bypassing, Locals.mk.injEq] at parts lists countries verdict ⊢
  exact ⟨parts, frame.facts, frame.body, congrArg _ (frame.route carrier), lists, countries,
    frame.buffered buffering, verdict⟩

/-- A check whose question is passed passes. -/
theorem run_of_passed {trial : Trial W} (applies : k.trial E service χ = some trial)
    (passed : Verdict.ofRuling (trial.ruling s).1 = .passed) :
    ∃ χ₁ s₁ t, k.run E service χ s = ⟨.pass χ₁, s₁, t⟩ := by
  rcases ruled : trial.ruling s with ⟨_ | next | next | _ | _, s₁⟩ <;> rw [ruled] at passed
  case some.pass =>
    exact ⟨next, s₁, _, run_pass_iff.mpr (.inr ⟨trial, _, applies, ruled, rfl, rfl⟩)⟩
  all_goals cases passed

/-- A check that passes under the carrier passes under the bypassing one: it is skipped, or it
is put the question it was put. -/
theorem run_follows (wired : BypassWired f g h E service) (tiers : k ≠ .rateLimit)
    (skipped : k.bypass = some c → k.trial E (service.bypassing c) (χ.bypassing c own) = none)
    (asked : k.bypass ≠ some c → Option.Rel
      (Trial.Follows (SameView f g) (Locals.bypassing c own)) (k.trial E service χ)
      (k.trial E (service.bypassing c) (χ.bypassing c own)))
    (same : SameView f g s s') (passed : k.run E service χ s = ⟨.pass χ₁, s₁, t⟩) :
    ∃ s₁' t', k.run E (service.bypassing c) (χ.bypassing c own) s' =
      ⟨.pass (χ₁.bypassing c own), s₁', t'⟩ ∧ SameView f g s₁ s₁' := by
  by_cases named : k.bypass = some c
  · have absent := skipped named
    refine ⟨s', [], ?_, ?_⟩
    · rw [(run_frame passed).bypassing named]
      exact run_pass_iff.mpr (.inl ⟨absent, rfl, rfl, rfl⟩)
    · rcases run_pass_iff.mp passed with ⟨-, -, rfl, -⟩ |
        ⟨trial, ruling, applies, ruled, onward, -⟩
      · exact same
      · have left := passed_leaves wired named tiers applies ruled onward
        exact ⟨left.limits.symm.trans same.limits, left.other.symm.trans same.other⟩
  · exact run_of_follows (asked named) same passed

theorem bans_follows (wired : BypassWired f g h E service) (routed : χ.route = some route)
    (unskipped : c ≠ .ipBan) :
    Option.Rel (Trial.Follows (SameView f g) (Locals.bypassing c own))
      (Check.bans.trial E service χ)
      (Check.bans.trial E (service.bypassing c) (χ.bypassing c own)) := by
  have past := Locals.bypassing_route c own routed
  have asked := bypassed_bypassing route (Ne.symm unskipped)
  simp only [Bypass.name] at asked
  simp only [Check.trial, routed, past, asked]
  split
  · exact .none
  · exact .some (Trial.screen_follows (wired.bans _ _) rfl)

theorem userAgent_follows (wired : BypassWired f g h E service) :
    Option.Rel (Trial.Follows (SameView f g) (Locals.bypassing c own))
      (Check.userAgent.trial E service χ)
      (Check.userAgent.trial E (service.bypassing c) (χ.bypassing c own)) := by
  simp only [Check.trial, GuardService.bypassing, GuardLayer.bypassing]
  cases installed : service.layer.userAgent with
  | none => exact .none
  | some stage =>
    exact .some (Trial.screen_follows (wired.userAgent stage installed _ _ _ _ _ _
      Locals.bypassing_finding) rfl)

/-- Ahead of the tiers every check that passes is followed. -/
theorem run_follows_ahead (wired : BypassWired f g h E service)
    (routed : Check.routeCarrier.position < k.position → χ.route = some route)
    (ahead : k.position < Check.rateLimit.position) (same : SameView f g s s')
    (passed : k.run E service χ s = ⟨.pass χ₁, s₁, t⟩) :
    ∃ s₁' t', k.run E (service.bypassing c) (χ.bypassing c own) s' =
      ⟨.pass (χ₁.bypassing c own), s₁', t'⟩ ∧ SameView f g s₁ s₁' := by
  have tiers : k ≠ .rateLimit := by rintro rfl; exact absurd ahead (Nat.lt_irrefl _)
  by_cases early : k.position ≤ Check.routeCarrier.position
  · refine run_follows wired tiers (fun named => ?_) (fun _ => early_follows wired.meets early)
      same passed
    -- Up to the carrier no check has a name.
    cases k <;> first | exact absurd early (by decide) | cases named
  · have late := Nat.lt_of_not_le early
    refine run_follows wired tiers (fun named => trial_skipped named tiers (routed late))
      (fun unskipped => ?_) same passed
    by_cases counts : k.counting = true
    · cases k with
      | bans => exact bans_follows wired (routed late) fun same => unskipped (same ▸ rfl)
      | userAgent => exact userAgent_follows wired
      | rateLimit => exact absurd rfl tiers
      | _ => cases counts
    · exact trial_unskipped wired.meets (routed late) unskipped late
        (Bool.not_eq_true _ ▸ counts) (by rintro rfl; exact absurd ahead (by decide))

/-- The tiers pass where the carrier's tier is valid, and the pass is bypassed or throttles
nobody. -/
theorem tiers_pass_iff : (∃ t, Check.rateLimit.run E service χ s = ⟨.pass χ₁, s₁, t⟩) ↔
    ∃ tiers, carrierTiers χ.route = .ok tiers ∧ χ₁ = χ ∧
      (bypassed χ.route "rate_limit" = true ∧ s₁ = s ∨
        bypassed χ.route "rate_limit" = false ∧
        service.stage.decideTiersObserved χ.facts.ip (some χ.facts.path)
          (tiers.or χ.parts.extensions.rateLimits) χ.parts.extensions.gateDecision
          (threatFinding χ.verdict) (some (requestObservation χ.parts)) s = (some none, s₁)) := by
  simp only [run_pass_iff, Check.trial]
  cases carrierTiers χ.route with
  | error error =>
    constructor
    · rintro ⟨t, ⟨⟨⟩, -⟩ | ⟨trial, ruling, ⟨⟩, ⟨⟩, ⟨⟩, -⟩⟩
    · rintro ⟨tiers, ⟨⟩, -⟩
  | ok tiers =>
    cases skips : bypassed χ.route "rate_limit" with
    | true =>
      constructor
      · rintro ⟨t, ⟨-, rfl, rfl, -⟩ | ⟨trial, ruling, ⟨⟩, -⟩⟩
        exact ⟨tiers, rfl, rfl, .inl ⟨rfl, rfl⟩⟩
      · rintro ⟨-, -, rfl, ⟨-, rfl⟩ | ⟨⟨⟩, -⟩⟩
        exact ⟨[], .inl ⟨rfl, rfl, rfl, rfl⟩⟩
    | false =>
      constructor
      · rintro ⟨t, ⟨⟨⟩, -⟩ | ⟨trial, ruling, ⟨⟩, ruled, onward, -⟩⟩
        obtain ⟨rfl, said⟩ := Trial.screen_next ruled onward
        have left := congrArg Prod.snd ruled
        exact ⟨tiers, rfl, rfl, .inr ⟨rfl, Prod.ext said left⟩⟩
      · rintro ⟨tiers, ⟨⟩, rfl, ⟨⟨⟩, -⟩ | ⟨-, said⟩⟩
        refine ⟨_, .inr ⟨_, .pass χ₁, rfl, ?_, rfl, rfl⟩⟩
        rw [Trial.screen_ruling, said]
        rfl

variable (E service χ) in
/-- The question the tiers are put, where they are put one. -/
theorem tiers_question_iff {ip : Option IpAddr} {gate : Option IpGateDecision}
    {finding : Option ThreatFinding} :
    (∃ trial, Check.rateLimit.trial E service χ = some trial ∧
        trial.question = .rateLimit ip gate finding) ↔
      (∃ tiers, carrierTiers χ.route = .ok tiers) ∧ bypassed χ.route "rate_limit" = false ∧
        ip = χ.facts.ip ∧ gate = χ.parts.extensions.gateDecision ∧
        finding = threatFinding χ.verdict := by
  simp only [Check.trial]
  cases carrierTiers χ.route with
  | error error =>
    constructor
    · rintro ⟨trial, ⟨⟩, ⟨⟩⟩
    · rintro ⟨⟨tiers, ⟨⟩⟩, -⟩
  | ok tiers =>
    cases bypassed χ.route "rate_limit" with
    | true =>
      constructor
      · rintro ⟨trial, ⟨⟩, -⟩
      · rintro ⟨-, ⟨⟩, -⟩
    | false =>
      constructor
      · rintro ⟨trial, ⟨⟩, ⟨⟩⟩
        exact ⟨⟨tiers, rfl⟩, rfl, rfl, rfl, rfl⟩
      · rintro ⟨-, -, rfl, rfl, rfl⟩
        exact ⟨_, rfl, rfl⟩

variable (service) in
/-- Tiers that pass leave what the custom request function decides on. -/
theorem tiers_leave (leaves : ∀ ip path routeTiers gate finding observation s s₁,
      service.stage.decideTiersObserved ip path routeTiers gate finding observation s =
        (some none, s₁) → h s₁.other = h s.other)
    (passed : Check.rateLimit.run E service χ s = ⟨.pass χ₁, s₁, t⟩) :
    χ₁ = χ ∧ h s₁.other = h s.other := by
  obtain ⟨tiers, -, same, ⟨-, rfl⟩ | ⟨-, said⟩⟩ := tiers_pass_iff.mp ⟨t, passed⟩
  · exact ⟨same, rfl⟩
  · exact ⟨same, leaves _ _ _ _ _ _ _ _ said⟩

variable (own) in
/-- The tiers are put their question under the bypassing carrier too, where it is not theirs. -/
theorem tiers_asked (other : c ≠ .rateLimit) (routed : χ.route = some route)
    {tiers : Option W.RouteRateLimits} (valid : carrierTiers χ.route = .ok tiers)
    (open_ : bypassed χ.route "rate_limit" = false) :
    ∃ trial, Check.rateLimit.trial E (service.bypassing c) (χ.bypassing c own) = some trial ∧
      trial.question = .rateLimit χ.facts.ip (χ.bypassing c own).parts.extensions.gateDecision
        (threatFinding (χ.bypassing c own).verdict) := by
  have past := Locals.bypassing_route c own routed
  have asks := bypassed_bypassing route (Ne.symm other)
  simp only [Bypass.name] at asks
  exact (tiers_question_iff E (service.bypassing c) (χ.bypassing c own)).mpr
    ⟨⟨tiers, by rw [past, ← valid, routed]; rfl⟩, by rw [past, asks, ← routed]; exact open_,
      rfl, rfl, rfl⟩

/-- Tiers that pass under the carrier pass under the bypassing one, or are skipped there. -/
theorem tiers_follow (wired : BypassWired f g h E service) (routed : χ.route = some route)
    (lenient : ∀ tiers, carrierTiers χ.route = .ok tiers →
      bypassed χ.route "rate_limit" = false →
      IpGateDecision.Lenient χ.parts.extensions.gateDecision
        (χ.bypassing c own).parts.extensions.gateDecision)
    (same : SameView f g s s')
    (passed : Check.rateLimit.run E service χ s = ⟨.pass χ₁, s₁, t⟩) :
    ∃ s₁' t', Check.rateLimit.run E (service.bypassing c) (χ.bypassing c own) s' =
      ⟨.pass (χ₁.bypassing c own), s₁', t'⟩ ∧ h s₁.other = h s₁'.other := by
  have past := Locals.bypassing_route c own routed
  obtain ⟨tiers, valid, rfl, passes⟩ := tiers_pass_iff.mp ⟨t, passed⟩
  have valid' : carrierTiers (χ₁.bypassing c own).route = .ok tiers := by
    rw [← valid, past, routed]
    rfl
  cases skipped : bypassed (χ₁.bypassing c own).route "rate_limit" with
  | true =>
    obtain ⟨t', passed'⟩ := tiers_pass_iff.mpr ⟨tiers, valid', rfl, .inl ⟨skipped, rfl⟩⟩
    exact ⟨s', t', passed', (tiers_leave service wired.tiersLeave passed).2.trans
      (wired.coarser _ _ same.other)⟩
  | false =>
    rcases passes with ⟨skips, -⟩ | ⟨open_, said⟩
    · -- What is bypassed without the name is bypassed with it.
      rw [past] at skipped
      rw [routed] at skips
      simp only [bypassed, RouteConfig.bypassing, Option.any_some, List.contains_cons]
        at skipped skips
      grind
    · obtain ⟨s₁', said', left⟩ :=
        wired.tiers _ _ _ _ _ _ _ _ _ _ _ (lenient tiers valid open_) Locals.bypassing_finding
          same said
      obtain ⟨t', passed'⟩ := tiers_pass_iff.mpr ⟨tiers, valid', rfl, .inr ⟨skipped, said'⟩⟩
      exact ⟨s₁', t', passed', left⟩

end Check

/-! ### One call -/

section Call

variable {κ γ η : Type} {f : W.Limits → κ} {g : W.Other → γ} {h : W.Other → η} {E : Engine W}
  {service : GuardService W} {c : Bypass} {route : RouteConfig W} {request : Request W}
  {k : Check} {χ : Locals W} {s s₁ : Store W}

theorem carrier_bypassing (routed : service.carrier request s = some route) :
    (service.bypassing c).carrier (request.bypassing c) s = some (route.bypassing c) := by
  simp only [GuardService.carrier, GuardService.bypassing, GuardLayer.bypassing,
    Request.bypassing] at routed ⊢
  cases carried : request.extensions.routeConfig with
  | some brought =>
    rw [carried] at routed
    cases routed
    rfl
  | none =>
    rw [carried] at routed
    cases installed : service.layer.routeConfigs with
    | none => rw [installed] at routed; cases routed
    | some resolver =>
      simp only [installed, Option.bind_some, Option.map_some, Option.map_none, Call.map_answer]
        at routed ⊢
      rw [Option.join_eq_some_iff.mp routed]
      rfl

/-- Up to the tiers a passing run passes under the bypassing carrier too, in the same view. -/
theorem run_bypassing (wired : BypassWired f g h E service)
    (routed : service.carrier request s = some route) {front back : List Check}
    (split : Check.pipeline = front ++ k :: back) (ahead : k.position ≤ Check.rateLimit.position)
    {t : List (Event W)}
    (passed : Checklist.run (Check.step E service) front (.start request) s = ⟨.pass χ, s₁, t⟩) :
    ∃ s₁' t', Checklist.run (Check.step E (service.bypassing c)) front
        (.start (request.bypassing c)) s =
      ⟨.pass (χ.bypassing c request.extensions.gateDecision), s₁', t'⟩ ∧ SameView f g s₁ s₁' := by
  rw [Locals.start_bypassing]
  refine Checklist.run_followed ?_ ⟨rfl, rfl⟩ passed
  intro j y s₂ y' s₃ t s₂' reached same here
  have there : j.Arrives E service request s y s₂ := by
    rw [Check.Arrives, split]
    exact reached.append
  have before := Nat.lt_of_lt_of_le ((Check.position_lt_iff split).mpr reached.mem) ahead
  exact run_follows_ahead wired (fun late => (there.route late).trans routed) before same here

/-- So the request arrives there under either. -/
theorem Check.Arrives.bypassing (wired : BypassWired f g h E service)
    (routed : service.carrier request s = some route)
    (arrives : k.Arrives E service request s χ s₁)
    (ahead : k.position ≤ Check.rateLimit.position) :
    ∃ s₁', k.Arrives E (service.bypassing c) (request.bypassing c) s
      (χ.bypassing c request.extensions.gateDecision) s₁' := by
  obtain ⟨front, back, t, split, passed⟩ := arrives
  obtain ⟨s₁', t', passed', -⟩ := run_bypassing wired routed split ahead passed
  exact ⟨s₁', front, back, t', split, passed'⟩

/-- A detection that passes, because nothing was found or nothing is rendered, passes. -/
theorem detection_follows (c : Bypass) (own : Option IpGateDecision) (s' : Store W)
    {χ₁ : Locals W} {t : List (Event W)}
    (passed : Check.detection.run E service χ s = ⟨.pass χ₁, s₁, t⟩) :
    χ₁ = χ ∧ s₁ = s ∧ ∃ t', Check.detection.run E (service.bypassing c) (χ.bypassing c own) s' =
      ⟨.pass (χ.bypassing c own), s', t'⟩ := by
  have skips : (χ.bypassing c own).verdict = none → ∃ t',
      Check.detection.run E (service.bypassing c) (χ.bypassing c own) s' =
        ⟨.pass (χ.bypassing c own), s', t'⟩ := fun clean =>
    ⟨[], run_pass_iff.mpr (.inl ⟨by rw [Check.trial, clean]; rfl, rfl, rfl, rfl⟩)⟩
  rcases run_pass_iff.mp passed with ⟨absent, rfl, rfl, -⟩ |
    ⟨trial, ruling, applies, ruled, onward, -⟩
  · refine ⟨rfl, rfl, skips ?_⟩
    simp only [Locals.bypassing, Option.map_eq_none_iff.mp absent, ite_self]
  · obtain ⟨verdict, found, rfl⟩ := Option.map_eq_some_iff.mp applies
    cases ruled
    split at onward
    next passive =>
      cases onward
      refine ⟨rfl, rfl, ?_⟩
      by_cases scans : c = .penetration
      · exact skips (if_pos scans)
      · have found' : (χ.bypassing c own).verdict = some verdict := (if_neg scans).trans found
        refine ⟨_, run_pass_iff.mpr (.inr ⟨.settled (.detection verdict.reason)
          (.pass (χ.bypassing c own)), _, ?_, rfl, rfl, rfl⟩)⟩
        rw [Check.trial, found']
        exact congrArg (fun ruling => some (Trial.settled _ ruling)) (if_pos passive)
    next active => cases onward

/-- Behind the tiers. -/
theorem behind_follows {own : Option IpGateDecision} {χ₁ : Locals W} {s' : Store W}
    {t : List (Event W)} (wired : BypassWired f g h E service) (left : h s.other = h s'.other)
    (passed : Checklist.run (Check.step E service) [.detection, .customRequest] χ s =
      ⟨.pass χ₁, s₁, t⟩) :
    ∃ s₁' t', Checklist.run (Check.step E (service.bypassing c))
      [.detection, .customRequest] (χ.bypassing c own) s' =
        ⟨.pass (χ₁.bypassing c own), s₁', t'⟩ := by
  obtain ⟨χ₃, s₃, t₂, _, detects, last, -⟩ := Prog.bind_pass_iff.mp passed
  obtain ⟨rfl, rfl, t₂', detects'⟩ := detection_follows c own s' detects
  -- The custom request function is asked the same question, and of the rest sees the same.
  have asked : Option.Rel (Trial.Follows (SameView (fun _ => ()) h) (Locals.bypassing c own))
      (Check.customRequest.trial E service χ₃)
      (Check.customRequest.trial E (service.bypassing c) (χ₃.bypassing c own)) := by
    simp only [Check.trial, GuardService.bypassing, GuardLayer.bypassing]
    cases installed : service.layer.customChecks with
    | none => exact .none
    | some stage =>
      exact .some (Trial.screen_follows (.other (wired.customRequest stage installed _ _ _ _)) rfl)
  obtain ⟨χ₄, s₄, t₃, _, here, nothing, -⟩ := Prog.bind_pass_iff.mp last
  obtain ⟨s₄', t₃', here', -⟩ := run_of_follows asked ⟨rfl, left⟩ here
  obtain ⟨rfl, -, -⟩ := Prog.pure_pass_iff.mp nothing
  exact ⟨s₄', _, Prog.bind_pass_iff.mpr ⟨_, s', t₂', _, detects', Prog.bind_pass_iff.mpr
    ⟨_, s₄', t₃', [], here', rfl, rfl⟩, rfl⟩⟩

/-- The tiers saw a decision of the gate that spares the client more than its own, and where they
see its own they do not let it pass. -/
def Unspared (own : Option IpGateDecision) (trace trace' : List (Event W)) : Prop :=
  ∃ ip gate finding verdict verdict', ⟨.rateLimit ip gate finding, verdict⟩ ∈ trace ∧
    ¬IpGateDecision.Lenient gate own ∧
    ⟨.rateLimit ip own finding, verdict'⟩ ∈ trace' ∧ verdict' ≠ .passed

/-- A run of the whole pipeline that passes passes under the bypassing carrier, where the tiers do
not miss the gate's decision. -/
theorem pipeline_bypassing (wired : BypassWired f g h E service)
    (routed : service.carrier request s = some route) {t : List (Event W)}
    (passed : Checklist.run (Check.step E service) Check.pipeline (.start request) s =
      ⟨.pass χ, s₁, t⟩) :
    (∃ s₁' t', Checklist.run (Check.step E (service.bypassing c)) Check.pipeline
      (.start (request.bypassing c)) s =
        ⟨.pass (χ.bypassing c request.extensions.gateDecision), s₁', t'⟩) ∨
      c = .ip ∧ Unspared request.extensions.gateDecision (service.call E request s).trace
        ((service.bypassing c).call E (request.bypassing c) s).trace := by
  have split : Check.pipeline =
    Check.pipeline.take 26 ++ .rateLimit :: [.detection, .customRequest] := by decide
  rw [split, Checklist.run_append] at passed
  obtain ⟨χ₁, s₂, t₁, _, front, back, -⟩ := Prog.bind_pass_iff.mp passed
  obtain ⟨χ₂, s₃, t₂, t₃, tiers, behind, -⟩ := Prog.bind_pass_iff.mp back
  obtain ⟨s₂', t₁', front', same⟩ := run_bypassing (c := c) wired routed split (Nat.le_refl _) front
  have arrives : Check.rateLimit.Arrives E service request s χ₁ s₂ := ⟨_, _, t₁, split, front⟩
  have arrives' : Check.rateLimit.Arrives E (service.bypassing c) (request.bypassing c) s
    (χ₁.bypassing c request.extensions.gateDecision) s₂' := ⟨_, _, t₁', split, front'⟩
  have carried := (arrives.route (by decide)).trans routed
  obtain ⟨rfl, left⟩ := tiers_leave service wired.tiersLeave tiers
  -- Once the tiers pass, the rest passes.
  have onward {s₃' : Store W} {t₂' : List (Event W)}
      (tiers' : Check.rateLimit.run E (service.bypassing c)
        (χ₂.bypassing c request.extensions.gateDecision) s₂' =
          ⟨.pass (χ₂.bypassing c request.extensions.gateDecision), s₃', t₂'⟩) :
      ∃ s₁' t', Checklist.run (Check.step E (service.bypassing c)) Check.pipeline
        (.start (request.bypassing c)) s =
          ⟨.pass (χ.bypassing c request.extensions.gateDecision), s₁', t'⟩ := by
    have left' := (tiers_leave (service.bypassing c) wired.tiersLeave tiers').2
    obtain ⟨s₁', t₃', behind'⟩ := behind_follows wired
      ((left.trans (wired.coarser _ _ same.other)).trans left'.symm) behind
    rw [split, Checklist.run_append]
    exact ⟨s₁', _, Prog.bind_pass_iff.mpr ⟨_, s₂', t₁', _, front', Prog.bind_pass_iff.mpr
      ⟨_, s₃', t₂', t₃', tiers', behind', rfl⟩, rfl⟩⟩
  by_cases lenient : ∀ tiers, carrierTiers χ₂.route = .ok tiers →
    bypassed χ₂.route "rate_limit" = false → IpGateDecision.Lenient
      χ₂.parts.extensions.gateDecision
      (χ₂.bypassing c request.extensions.gateDecision).parts.extensions.gateDecision
  · obtain ⟨s₃', t₂', tiers', -⟩ := tiers_follow wired carried lenient same tiers
    exact .inl (onward tiers')
  · simp only [not_forall] at lenient
    obtain ⟨tier, valid, open_, stricter⟩ := lenient
    obtain rfl : c = .ip := by
      by_contra other
      refine stricter ?_
      simp only [Locals.bypassing, if_neg other]
      exact .refl _
    obtain ⟨trial, applies, asked⟩ := (tiers_question_iff E service χ₂).mpr
      ⟨⟨tier, valid⟩, open_, rfl, rfl, rfl⟩
    obtain ⟨trial', applies', asked'⟩ := tiers_asked request.extensions.gateDecision
      (c := .ip) (by decide) carried valid open_
    by_cases passes : Verdict.ofRuling (trial'.ruling s₂').1 = .passed
    · obtain ⟨χ₃, s₃', t₂', tiers'⟩ := run_of_passed applies' passes
      obtain ⟨rfl, -⟩ := tiers_leave (service.bypassing .ip) wired.tiersLeave tiers'
      exact .inl (onward tiers')
    · have event := arrives.asks applies
      have event' := arrives'.asks applies'
      rw [asked] at event
      rw [asked'] at event'
      exact .inr ⟨rfl, _, _, _, _, _, event, stricter, event', passes⟩

/-- One more bypassed check blocks no request and keeps no finding from the violation counters,
two bypasses aside. Without the IP gate the tiers see the decision the request came with, and may
throttle a client the gate's decision spared; and the finding is counted by the tiers, which the
rate-limit bypass skips. -/
theorem bypass_removes_only_its_check (wired : BypassWired f g h E service)
    (routed : service.carrier request s = some route) :
    (service.bypassing c).carrier (request.bypassing c) s = some (route.bypassing c) ∧
    (handedOver (service.call E request s).trace ≠ [] →
      handedOver ((service.bypassing c).call E (request.bypassing c) s).trace ≠ [] ∨
        c = .ip ∧ Unspared request.extensions.gateDecision (service.call E request s).trace
          ((service.bypassing c).call E (request.bypassing c) s).trace) ∧
    (c ≠ .penetration → c ≠ .rateLimit → ∀ ip gate finding,
      (ip, gate, finding) ∈ fed (service.call E request s).trace →
      (ip, if c = .ip then request.extensions.gateDecision else gate, finding) ∈
        fed ((service.bypassing c).call E (request.bypassing c) s).trace) := by
  refine ⟨carrier_bypassing routed, ?_, ?_⟩
  · intro forwarded
    rw [call_handedOver] at forwarded
    rw [call_handedOver]
    rcases ended : Check.ending E service Check.pipeline (.start request) s with
      ⟨final | ⟨k, parts | ⟨parts, answer⟩, payload⟩ | k, s₁⟩
    · obtain ⟨t, passed⟩ := ending_forward_iff.mp ended
      refine (pipeline_bypassing wired routed passed).imp_left ?_
      rintro ⟨s₁', t', passed'⟩
      rw [ending_forward_iff.mpr ⟨t', passed'⟩]
      exact List.cons_ne_nil _ _
    · -- An excluded path is past all checks under either carrier.
      have excluded := excluded_of_ending ended
      have excluded' : (request.bypassing c).uri.path ∈ (service.bypassing c).layer.excludePaths :=
        excluded
      rw [ending_of_excluded excluded']
      exact .inl (List.cons_ne_nil _ _)
    · rw [ended] at forwarded
      exact absurd rfl forwarded
    · rw [ended] at forwarded
      exact absurd rfl forwarded
  · intro scans tiers ip gate finding member
    obtain ⟨verdict, asked⟩ := mem_fed_iff.mp member
    obtain ⟨χ, s₁, trial, arrives, applies, same⟩ := (call_asks_iff rfl).mp asked
    obtain ⟨⟨tier, valid⟩, open_, rfl, rfl, found⟩ := (tiers_question_iff E service χ).mp
      ⟨trial, applies, (congrArg Event.consult same).symm⟩
    obtain ⟨s₁', arrives'⟩ := arrives.bypassing (c := c) wired routed (Nat.le_refl _)
    obtain ⟨trial', applies', asked'⟩ := tiers_asked request.extensions.gateDecision tiers
      ((arrives.route (by decide)).trans routed) valid open_
    have event := arrives'.asks applies'
    rw [asked'] at event
    simp only [Locals.bypassing, if_neg scans, ← found] at event
    exact mem_fed_iff.mpr ⟨_, event⟩

end Call

/-! ### An exempt client -/

/-- A layer that limits, bans, and exempts the client from the limit. -/
def exemptingService : GuardService Metered.world :=
  (((limitingLayer none).withIpBanning ⟨1⟩ ⟨3⟩ Bench.engine.defaultIpBanConfig).withIpGate
    (Bench.ipGate [] [] [Bench.client.display])).wrap Metered.engine Metered.ok

theorem IpGateDecision.Lenient.skips {gate gate' : Option IpGateDecision}
    (lenient : Lenient gate gate') (skipped : gate.any IpGateDecision.skips = true) :
    gate'.any IpGateDecision.skips = true := by
  obtain ⟨whitelisted, exempt⟩ := lenient
  cases gate with
  | none => cases skipped
  | some decision =>
    cases gate' with
    | none =>
      simp only [Option.any_some, IpGateDecision.skips, Bool.or_eq_true] at skipped
      exact skipped.elim whitelisted exempt
    | some decision' =>
      simp only [Option.any_some, IpGateDecision.skips, Bool.or_eq_true] at skipped ⊢
      exact skipped.imp whitelisted exempt

theorem metered_throttle_pass {parts : RateLimitStageParts Metered.world}
    (memory : parts.distributedStore = none) {tier : Option String} {limit : Nat} {ip : IpAddr}
    {s s₁ : Store Metered.world}
    (passed : Metered.throttle parts tier limit ip s = (some none, s₁)) : s₁.other = s.other := by
  unfold Metered.throttle at passed
  rw [memory] at passed
  split at passed
  next installed => cases installed
  · split at passed <;> cases passed
    rfl
  · cases passed
    rfl

theorem metered_throttleTiers_pass {parts : RateLimitStageParts Metered.world}
    (memory : parts.distributedStore = none) {path : Option String} {routeTiers : Option Nat}
    {ip : IpAddr} {s s₁ : Store Metered.world}
    (passed : Metered.throttleTiers parts path routeTiers ip s = (some none, s₁)) :
    s₁.other = s.other := by
  obtain ⟨tier, limit, s', last, came, -⟩ := Metered.throttleTiers_last parts path routeTiers ip s
  have left := metered_throttle_pass memory (last.symm.trans passed)
  rcases came with rfl | ⟨first, limit₁, before⟩
  · exact left
  · exact left.trans (metered_throttle_pass memory before)

/-- Tiers over a memory limiter that pass change no more than the counters, and pass whoever is
spared besides. -/
theorem metered_tiers_pass (finding' : Option ThreatFinding)
    {parts : RateLimitStageParts Metered.world} (memory : parts.distributedStore = none)
    {ip : Option IpAddr} {path : Option String} {routeTiers : Option Nat}
    {gate gate' : Option IpGateDecision} {finding : Option ThreatFinding}
    {observation : Option RequestObservation} {s s₁ : Store Metered.world}
    (lenient : IpGateDecision.Lenient gate gate')
    (passed : (Metered.rateLimitStage parts).decideTiersObserved ip path routeTiers gate finding
      observation s = (some none, s₁)) :
    s₁.other = s.other ∧ ∃ s₁', (Metered.rateLimitStage parts).decideTiersObserved ip path
      routeTiers gate' finding' observation s = (some none, s₁') ∧ s₁'.other = s.other := by
  simp only [Metered.rateLimitStage] at passed ⊢
  cases ip with
  | none =>
    cases passed
    exact ⟨rfl, s, rfl, rfl⟩
  | some ip =>
    dsimp only at passed ⊢
    have left : s₁.other = s.other := by
      split at passed
      · cases passed
        rfl
      · exact metered_throttleTiers_pass memory passed
    refine ⟨left, ?_⟩
    by_cases spared : (gate'.any IpGateDecision.skips ||
        !parts.config.rateLimit.enableRateLimiting) = true
    · exact ⟨s, by rw [if_pos spared]; rfl, rfl⟩
    · have limited : ¬(gate.any IpGateDecision.skips ||
          !parts.config.rateLimit.enableRateLimiting) = true := by
        intro skipped
        simp only [Bool.or_eq_true] at skipped spared
        exact spared (skipped.imp_left lenient.skips)
      rw [if_neg limited] at passed
      exact ⟨s₁, by rw [if_neg spared]; exact passed, left⟩

theorem exempting_wired : BypassWired id id id Metered.engine exemptingService where
  meets := .of_all fun _ c o _ same => by
    cases same
    exact ⟨rfl, rfl⟩
  coarser := fun _ _ same => same
  customRequest := fun _ installed => nomatch installed
  routeCountries := fun _ installed => nomatch installed
  scan := fun _ _ _ => rfl
  geo := fun _ installed => nomatch installed
  cloud := fun _ installed => nomatch installed
  routeCloud := fun _ installed => nomatch installed
  bans := by
    intro ip observation s s' s₁ same passed
    cases same.eq
    exact ⟨s₁, passed, rfl, rfl⟩
  bansLeave := by
    intro ip observation s s₁ passed
    change (Metered.rateLimitStage _).decideBansObserved _ _ s = _ at passed
    simp only [Metered.rateLimitStage] at passed
    split at passed
    · split at passed <;> cases passed
      exact ⟨rfl, rfl⟩
    · cases passed
      exact ⟨rfl, rfl⟩
  userAgent := fun _ installed => nomatch installed
  tiers := by
    intro ip path routeTiers gate gate' finding finding' observation s s' s₁ lenient _ same passed
    cases same.eq
    obtain ⟨left, s₁', passed', left'⟩ := metered_tiers_pass finding' rfl lenient passed
    exact ⟨s₁', passed', left.trans left'.symm⟩
  tiersLeave := by
    intro ip path routeTiers gate finding observation s s₁ passed
    exact (metered_tiers_pass finding rfl (.refl gate) passed).1

/-- The client's limit is used up. -/
def usedUp : Store Metered.world :=
  { Metered.start with limits := [⟨0, none, Bench.client.display⟩] }

theorem ban_bypass_forwards :
    handedOver ((exemptingService.bypassing .ipBan).call Metered.engine
      ((Metered.request (some Bench.client) "GET" "/items" (some Bench.openRoute) []).bypassing
        .ipBan) usedUp).trace ≠ [] :=
  have routed : exemptingService.carrier
      (Metered.request (some Bench.client) "GET" "/items" (some Bench.openRoute) []) usedUp =
        some Bench.openRoute := rfl
  ((bypass_removes_only_its_check exempting_wired routed).2.1 (by decide +kernel)).resolve_right
    fun missed => nomatch missed.1

/-- Without the gate the exemption is gone, and the client is throttled; and without the tiers
nobody counts what the scan found. -/
theorem ip_bypass_throttles :
    let request := Metered.request (some Bench.client) "GET" "/items" (some Bench.openRoute) []
    let attack := Metered.request (some Bench.client) "POST" "/items" (some Bench.openRoute)
      [.data (bytesOf "<script>")]
    (handedOver (exemptingService.call Metered.engine request usedUp).trace ≠ [] ∧
      handedOver ((exemptingService.bypassing .ip).call Metered.engine (request.bypassing .ip)
        usedUp).trace = []) ∧
    fed (exemptingService.call Metered.engine attack Metered.start).trace ≠ [] ∧
      fed ((exemptingService.bypassing .rateLimit).call Metered.engine
        (attack.bypassing .rateLimit) Metered.start).trace = [] := by
  intro request attack
  exact ⟨⟨by decide +kernel, List.length_eq_zero_iff.mp (by decide +kernel)⟩, by decide +kernel,
    by decide +kernel⟩

end TowerGuard
