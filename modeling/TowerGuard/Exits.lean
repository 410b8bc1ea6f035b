import TowerGuard.Arrival

/-!
# The exits of a call

`Check.Exit` says of each check what a denial of its answers and what it reports to the block
hook. What the properties need of the exits follows from it by cases, without another look at
the arms.
-/

namespace TowerGuard

open Text Traced

variable {W : World}

/-- The checks whose denial comes with a status and a body of its own. -/
def Check.rendersOwn : Check → Bool
  | .usageRules | .routeIpLists | .routeCountries | .emergencyMode | .routeHeadersAuth
  | .headersAuth | .routeReferrer | .referrerGate | .routeValidators | .customValidators
  | .routeTimeWindow | .timeWindowGate | .geo | .cloud | .routeUserAgents | .userAgent
  | .customRequest => true
  | _ => false

/-- The checks that answer with the guard's 500 where they cannot judge. -/
def Check.failsSecure : Check → Bool
  | .routeIpLists | .bodyBuffering | .scan | .cloud | .routeUserAgents | .rateLimit => true
  | _ => false

/-- On these locals the IP gate is put to the client, and denies it. -/
structure GateDenies (service : GuardService W) (χ : Locals W) (ip : IpAddr)
    (denial : IpGateDenial) : Prop where
  judged : bypassed χ.route "ip" = false ∧ χ.skipGlobalIpLists = false
  client : χ.parts.extensions.clientIp = some ip
  verdict : ∃ gate, service.layer.ipGate = some gate ∧ gate.evaluate ip = .denied denial
  active : service.layer.passiveMode = false

section Exit

variable (E : Engine W) (service : GuardService W) (χ : Locals W) (s : Store W)

/-- What a denial of check `k` in state `s` returns, and its payload for the block hook. -/
inductive Check.Exit : Check → Early W → Option BlockPayload → Prop
  | excluded : Check.Exit .excludePaths (.excluded χ.parts) none
  | preflight (answer : PreflightAnswer) :
      Check.Exit .corsPreflight (.answered χ.parts (.preflight answer)) none
  | gate {ip : IpAddr} {denial : IpGateDenial} : GateDenies service χ ip denial →
      Check.Exit .ipGate
        (.answered χ.parts
          (.gate (E.resolveErrorBody service.layer.customErrorResponses 403 forbiddenMessage)))
        (gatePayload E service.layer χ.parts ip denial)
  | redirect (answer : HttpsRedirectAnswer) :
      Check.Exit .httpsEnforcement (.answered χ.parts (.redirect answer)) none
  | oversize : Check.Exit .bodyBuffering (.answered χ.parts .oversize) none
  | failure {k : Check} : k.failsSecure = true →
      Check.Exit k (.answered χ.parts .failure) none
  | own {k : Check} (status : Nat) (body : String) : k.rendersOwn = true →
      Check.Exit k (χ.parts.block status body) none
  | bans {response : StageResponse} :
      (service.stage.decideBansObserved χ.facts.ip (some (requestObservation χ.parts)) s).1 =
        some (some response) →
      Check.Exit .bans (.answered χ.parts (.stage response)) none
  | tiers {response : StageResponse} {routeTiers : Option W.RouteRateLimits} :
      (service.stage.decideTiersObserved χ.facts.ip (some χ.facts.path) routeTiers
        χ.parts.extensions.gateDecision (threatFinding χ.verdict)
        (some (requestObservation χ.parts)) s).1 = some (some response) →
      Check.Exit .rateLimit (.answered χ.parts (.stage response)) none
  | detection {verdict : RequestScanVerdict} : χ.verdict = some verdict →
      service.stage.config.passiveMode = false →
      Check.Exit .detection
        (χ.parts.block 400
          (E.resolveErrorBody service.layer.customErrorResponses 400 blockedMessage))
        (detectionPayload E service.layer χ.facts χ.parts verdict)

end Exit

variable {E : Engine W} {service : GuardService W} {k : Check} {χ : Locals W} {trial : Trial W}
  {s s' : Store W} {early : Early W} {payload : Option BlockPayload}

/-- A screen denies with the answer its decision gives. -/
theorem Trial.screen_denies {α : Type} {next : Locals W} {question : Consult W}
    {decision : Call (Store W) (Option α)} {denies : α → Early W}
    (ruled : (Trial.screen next question decision denies).ruling s =
      (some (.deny early payload), s')) :
    ∃ denial, (decision s).1 = some (some denial) ∧ early = denies denial ∧ payload = none := by
  have answered := congrArg Prod.fst ruled
  simp only [Trial.screen_ruling] at answered
  obtain ⟨_ | denial, said, same⟩ := Option.map_eq_some_iff.mp answered
  · cases same
  · cases same
    exact ⟨denial, said, rfl, rfl⟩

/-- What a denial of a check returns is one of its exits. -/
theorem trial_exit (applies : k.trial E service χ = some trial)
    (ruled : trial.ruling s = (some (.deny early payload), s')) :
    k.Exit E service χ s early payload := by
  cases k with
  | excludePaths =>
    cases applies
    obtain ⟨-, -, rfl, rfl⟩ := Trial.screen_denies ruled
    exact .excluded
  | corsPreflight =>
    obtain ⟨processor, -, -, ⟨⟩⟩ := bind_guard_iff.mp applies
    obtain ⟨answer, -, rfl, rfl⟩ := Trial.screen_denies ruled
    exact .preflight answer
  | routeCarrier =>
    simp only [Check.trial] at applies
    split at applies
    · cases applies
    · -- The resolver answers no yes-or-no question.
      obtain ⟨resolver, -, rfl⟩ := Option.map_eq_some_iff.mp applies
      have answered := congrArg Prod.fst ruled
      obtain ⟨_, -, ⟨⟩⟩ := Option.map_eq_some_iff.mp answered
  | usageRules =>
    obtain ⟨processor, -, -, ⟨⟩⟩ := bind_guard_iff.mp applies
    obtain ⟨-, -, rfl, rfl⟩ := Trial.screen_denies ruled
    exact .own 403 activityBannedMessage rfl
  | routeIpLists =>
    obtain ⟨carrier, -, -, applies⟩ := bind_guard_iff.mp applies
    split at applies
    · cases applies
      obtain ⟨-, -, rfl, rfl⟩ := Trial.screen_denies ruled
      exact .own 403 forbiddenMessage rfl
    · cases applies
      cases ruled
      exact .failure rfl
  | routeCountries =>
    simp only [Check.trial, Option.bind_eq_bind, Option.bind_eq_some_iff,
      Option.ite_none_right_eq_some] at applies
    obtain ⟨carrier, -, ip, -, handler, -, -, ⟨⟩⟩ := applies
    obtain ⟨-, -, rfl, rfl⟩ := Trial.screen_denies ruled
    exact .own 403 forbiddenMessage rfl
  | ipGate =>
    simp only [Check.trial, Option.bind_eq_bind, Option.bind_eq_some_iff,
      Option.ite_none_right_eq_some, Bool.and_eq_true, Bool.not_eq_true'] at applies
    obtain ⟨gate, installed, ip, client, judged, ⟨⟩⟩ := applies
    simp only [Trial.settled_ruling, Prod.mk.injEq, Option.some.injEq] at ruled
    -- Of the gate's three rulings only the active denial stops.
    cases said : gate.evaluate ip with
    | allowed decision => simp [said] at ruled
    | denied denial =>
      cases passive : service.layer.passiveMode with
      | true => simp [said, passive] at ruled
      | false =>
        simp only [said, passive, Bool.false_eq_true, if_false] at ruled
        obtain ⟨⟨⟩, -⟩ := ruled
        exact .gate ⟨judged, client, ⟨gate, installed, said⟩, passive⟩
  | emergencyMode =>
    obtain ⟨stage, -, rfl⟩ := Option.map_eq_some_iff.mp applies
    obtain ⟨answer, -, rfl, rfl⟩ := Trial.screen_denies ruled
    exact .own _ _ rfl
  | httpsEnforcement =>
    simp only [Check.trial] at applies
    split at applies
    · cases applies
      obtain ⟨answer, -, rfl, rfl⟩ := Trial.screen_denies ruled
      exact .redirect answer
    · cases applies
      obtain ⟨answer, -, rfl, rfl⟩ := Trial.screen_denies ruled
      exact .redirect answer
    · obtain ⟨-, ⟨⟩⟩ := Option.ite_none_right_eq_some.mp applies
      obtain ⟨answer, -, rfl, rfl⟩ := Trial.screen_denies ruled
      exact .redirect answer
    · cases applies
  | requestLogging =>
    obtain ⟨stage, -, rfl⟩ := Option.map_eq_some_iff.mp applies
    obtain ⟨_, -, ⟨⟩⟩ := Option.map_eq_some_iff.mp (congrArg Prod.fst ruled)
  | countryLog =>
    simp only [Check.trial, Option.bind_eq_bind, Option.bind_eq_some_iff] at applies
    obtain ⟨observability, -, stage, -, ⟨⟩⟩ := applies
    obtain ⟨_, -, ⟨⟩⟩ := Option.map_eq_some_iff.mp (congrArg Prod.fst ruled)
  | bodyBuffering =>
    simp only [Check.trial, Option.some.injEq] at applies
    split at applies
    · subst applies; cases ruled
    · subst applies; cases ruled; exact .oversize
    · subst applies; cases ruled; exact .failure rfl
  | routeHeadersAuth =>
    obtain ⟨carrier, -, -, ⟨⟩⟩ := bind_guard_iff.mp applies
    obtain ⟨block, -, rfl, rfl⟩ := Trial.screen_denies ruled
    exact .own _ _ rfl
  | headersAuth =>
    obtain ⟨stage, -, rfl⟩ := Option.map_eq_some_iff.mp applies
    obtain ⟨⟨name, answer⟩, -, rfl, rfl⟩ := Trial.screen_denies ruled
    exact .own _ _ rfl
  | routeReferrer =>
    obtain ⟨domains, -, rfl⟩ := Option.map_eq_some_iff.mp applies
    obtain ⟨answer, -, rfl, rfl⟩ := Trial.screen_denies ruled
    exact .own _ _ rfl
  | referrerGate =>
    obtain ⟨stage, -, rfl⟩ := Option.map_eq_some_iff.mp applies
    obtain ⟨answer, -, rfl, rfl⟩ := Trial.screen_denies ruled
    exact .own _ _ rfl
  | routeValidators =>
    simp only [Check.trial, Option.ite_none_left_eq_some] at applies
    obtain ⟨-, ⟨⟩⟩ := applies
    obtain ⟨block, -, rfl, rfl⟩ := Trial.screen_denies ruled
    exact .own _ _ rfl
  | customValidators =>
    obtain ⟨stage, -, rfl⟩ := Option.map_eq_some_iff.mp applies
    obtain ⟨failure, -, rfl, rfl⟩ := Trial.screen_denies ruled
    exact .own _ _ rfl
  | routeTimeWindow =>
    obtain ⟨restrictions, -, rfl⟩ := Option.map_eq_some_iff.mp applies
    obtain ⟨-, -, rfl, rfl⟩ := Trial.screen_denies ruled
    exact .own _ _ rfl
  | timeWindowGate =>
    obtain ⟨stage, -, rfl⟩ := Option.map_eq_some_iff.mp applies
    obtain ⟨answer, -, rfl, rfl⟩ := Trial.screen_denies ruled
    exact .own _ _ rfl
  | scan =>
    simp only [Check.trial, Option.ite_none_left_eq_some] at applies
    obtain ⟨-, ⟨⟩⟩ := applies
    -- The scan recovers or passes.
    dsimp only at ruled
    split at ruled
    · split at ruled <;> cases ruled
    · cases ruled
  | bans =>
    obtain ⟨-, ⟨⟩⟩ := Option.ite_none_left_eq_some.mp applies
    obtain ⟨response, said, rfl, rfl⟩ := Trial.screen_denies ruled
    exact .bans said
  | geo =>
    obtain ⟨stage, -, -, ⟨⟩⟩ := bind_guard_iff.mp applies
    obtain ⟨answer, -, rfl, rfl⟩ := Trial.screen_denies ruled
    exact .own _ _ rfl
  | cloud =>
    obtain ⟨-, applies⟩ := Option.ite_none_left_eq_some.mp applies
    split at applies
    · split at applies
      · cases applies
        obtain ⟨answer, -, rfl, rfl⟩ := Trial.screen_denies ruled
        exact .own _ _ rfl
      · cases applies
      · cases applies; cases ruled; exact .failure rfl
    · obtain ⟨stage, -, rfl⟩ := Option.map_eq_some_iff.mp applies
      obtain ⟨answer, -, rfl, rfl⟩ := Trial.screen_denies ruled
      exact .own _ _ rfl
  | routeUserAgents =>
    obtain ⟨patterns, -, rfl⟩ := Option.map_eq_some_iff.mp applies
    obtain ⟨answer, said, rfl, rfl⟩ := Trial.screen_denies ruled
    -- The patterns deny by a match, or because they do not compile.
    simp only [Call.returning_run, routePatternsDenial, Option.some.injEq] at said
    split at said
    · obtain ⟨-, ⟨⟩⟩ := Option.ite_none_right_eq_some.mp said
      exact .own _ _ rfl
    · cases said; exact .failure rfl
  | userAgent =>
    obtain ⟨stage, -, rfl⟩ := Option.map_eq_some_iff.mp applies
    obtain ⟨answer, -, rfl, rfl⟩ := Trial.screen_denies ruled
    exact .own _ _ rfl
  | rateLimit =>
    simp only [Check.trial] at applies
    split at applies
    · cases applies; cases ruled; exact .failure rfl
    · obtain ⟨-, ⟨⟩⟩ := Option.ite_none_left_eq_some.mp applies
      obtain ⟨response, said, rfl, rfl⟩ := Trial.screen_denies ruled
      exact .tiers said
  | detection =>
    obtain ⟨verdict, flagged, rfl⟩ := Option.map_eq_some_iff.mp applies
    simp only [Trial.settled_ruling, Prod.mk.injEq, Option.some.injEq] at ruled
    cases passive : service.stage.config.passiveMode with
    | true => simp [passive] at ruled
    | false =>
      simp only [passive, Bool.false_eq_true, if_false] at ruled
      obtain ⟨⟨⟩, -⟩ := ruled
      exact .detection flagged passive
  | customRequest =>
    obtain ⟨stage, -, rfl⟩ := Option.map_eq_some_iff.mp applies
    obtain ⟨answer, -, rfl, rfl⟩ := Trial.screen_denies ruled
    exact .own _ _ rfl

/-- A recovered panic exits like a check that cannot judge. -/
theorem trial_exit_of_recovered (applies : k.trial E service χ = some trial)
    (ruled : trial.ruling s = (some (.recover early), s')) :
    k.Exit E service χ s early none := by
  obtain ⟨rfl, rfl⟩ := trial_recovers applies ruled
  exact .failure rfl

/-- A request that a check denied arrived there and left by one of its exits. -/
theorem ending_exit {request : Request W}
    (denied : Check.ending E service Check.pipeline (.start request) s =
      (.denied k early payload, s')) :
    ∃ χ s₁, k.Arrives E service request s χ s₁ ∧ k.Exit E service χ s₁ early payload := by
  have ends := ending_ends E service Check.pipeline (.start request) s
  rw [denied] at ends
  cases ends with
  | denied arrives applies ruled => exact ⟨_, _, arrives, trial_exit applies ruled⟩
  | recovered arrives applies ruled => exact ⟨_, _, arrives, trial_exit_of_recovered applies ruled⟩

/-- It shows in the trace as the denial of that check, or as the scan's recovered panic. -/
theorem ending_denied_shows {request : Request W}
    (denied : Check.ending E service Check.pipeline (.start request) s =
      (.denied k early payload, s')) :
    ∃ event ∈ (service.call E request s).trace, event.consult.check = some k ∧
      (event.verdict = .denied ∨ k = .scan) := by
  have ends := ending_ends E service Check.pipeline (.start request) s
  rw [denied] at ends
  cases ends with
  | denied arrives applies ruled =>
    exact ⟨_, Check.Arrives.asks arrives applies, trial_question applies, .inl (by rw [ruled]; rfl)⟩
  | recovered arrives applies ruled =>
    exact ⟨_, Check.Arrives.asks arrives applies, trial_question applies,
      .inr (trial_recovers applies ruled).1⟩

/-! ### Which check answered -/

deriving instance DecidableEq for Answer

/-- The check that answers the request, and its answer. -/
def Check.Ending.answered : Check.Ending W → Option (Check × Answer)
  | .denied k (.answered _ answer) _ => some (k, answer)
  | .denied _ (.excluded _) _ | .forward _ | .panicked _ => none

variable (E service) in
/-- Check `k` denies the request, and the guard answers with `answer`. -/
def GuardService.Denies (request : Request W) (s : Store W) (k : Check) (answer : Answer) : Prop :=
  (Check.ending E service Check.pipeline (.start request) s).1.answered = some (k, answer)

theorem denies_iff {request : Request W} {answer : Answer} :
    service.Denies E request s k answer ↔
      ∃ parts payload s', Check.ending E service Check.pipeline (.start request) s =
        (.denied k (.answered parts answer) payload, s') := by
  unfold GuardService.Denies
  rcases Check.ending E service Check.pipeline (.start request) s with
    ⟨final | ⟨j, parts | ⟨parts, given⟩, payload⟩ | j, s'⟩
  · simp [Check.Ending.answered]
  · simp [Check.Ending.answered]
  · constructor
    · intro same
      cases same
      exact ⟨parts, payload, s', rfl⟩
    · rintro ⟨_, _, _, ⟨⟩⟩
      rfl
  · simp [Check.Ending.answered]

/-- A denial is ruled where the request arrives, unless it is a recovered panic of the scan. -/
theorem denies_ruled {request : Request W} {answer : Answer}
    (denied : service.Denies E request s k answer) (other : k ≠ .scan ∨ answer ≠ .failure) :
    ∃ χ s₁ trial payload s', k.Arrives E service request s χ s₁ ∧
      k.trial E service χ = some trial ∧
      trial.ruling s₁ = (some (.deny (.answered χ.parts answer) payload), s') ∧
      Check.ending E service Check.pipeline (.start request) s =
        (.denied k (.answered χ.parts answer) payload, s') := by
  obtain ⟨parts, payload, s', ended⟩ := denies_iff.mp denied
  have ends := ending_ends E service Check.pipeline (.start request) s
  rw [ended] at ends
  cases ends with
  | denied arrives applies ruled =>
    cases trial_denies applies ruled with
    | answered answer => exact ⟨_, _, _, payload, s', arrives, applies, ruled, ended⟩
  | recovered arrives applies ruled =>
    obtain ⟨rfl, ⟨⟩⟩ := trial_recovers applies ruled
    exact absurd rfl (other.resolve_left (not_not_intro rfl))

/-! ### What the response comes from -/

/-- The status an answer renders, before the response-side pass. -/
def Answer.status : Answer → Nat
  | .preflight answer => answer.statusCode
  | .block status _ => status
  | .gate _ => 403
  | .stage response => response.status.asU16
  | .redirect answer => answer.status
  | .oversize => 413
  | .failure => 500

/-- What the wrapped service answers, where the request comes to it: behind the checks, or past
them on an excluded path. -/
def GuardService.innerAnswer (E : Engine W) (service : GuardService W) (request : Request W)
    (s : Store W) : Option (Except W.InnerError (InnerResponse W)) :=
  match Check.ending E service Check.pipeline (.start request) s with
  | (.forward final, s') =>
    (service.inner.call (service.inner.rebuild final.parts final.buffered) s').1
  | (.denied _ (.excluded parts) _, s') =>
    (service.inner.call (service.inner.rebuild parts none) s').1
  | (.denied _ (.answered _ _) _, _) | (.panicked _, _) => none

/-- The status a response has before the response-side pass: the wrapped service's, or that of the
answer. -/
def GuardService.statusGiven (E : Engine W) (service : GuardService W) (request : Request W)
    (s : Store W) : Option Nat :=
  match service.innerAnswer E request s with
  | some answered => answered.toOption.map (·.status.asU16)
  | none =>
    (Check.ending E service Check.pipeline (.start request) s).1.answered.map (·.2.status)

end TowerGuard
