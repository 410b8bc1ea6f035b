import TowerGuard.Exits
import TowerGuard.Engine.Bench

/-!
# Custom error bodies

The override of a status against the body that is rendered. The IP gate, the detection block
and the engine stage resolve it; every other exit renders its own text.
-/

namespace TowerGuard

open Text Traced

variable {W : World}

/-- What the engine does with the overrides: `resolve_error_body` looks the status up, and an
answer of the stage carries the override of its own status. -/
structure OverridesBodies (E : Engine W) : Prop where
  resolve : ∀ responses status fallback,
    E.resolveErrorBody responses status fallback = (responses.lookup status).getD fallback
  bans : ∀ parts ip observation s response,
    ((E.rateLimitStage parts).decideBansObserved ip observation s).1 = some (some response) →
    response.customBody = parts.config.customErrorResponses.lookup response.status.asU16
  tiers : ∀ parts ip path routeTiers gate finding observation s response,
    ((E.rateLimitStage parts).decideTiersObserved ip path routeTiers gate finding observation
      s).1 = some (some response) →
    response.customBody = parts.config.customErrorResponses.lookup response.status.asU16

/-- The status and the family default of a block answer. The redirect, the preflight answer and
the custom checks' own responses are none. -/
def Check.blockOf (E : Engine W) : Check → Answer → Option (Nat × String)
  | .routeValidators, _ | .customValidators, _ | .customRequest, _ => none
  | _, .preflight _ | _, .redirect _ => none
  | _, .oversize => some (413, oversizeMessage)
  | _, .failure => some (500, failureMessage)
  | .usageRules, _ => some (403, activityBannedMessage)
  | .routeIpLists, _ | .routeCountries, _ | .ipGate, _ => some (403, forbiddenMessage)
  | .routeTimeWindow, _ => some (E.timeWindowBlock.status, E.timeWindowBlock.body)
  | .routeUserAgents, _ => some (403, "User-Agent not allowed")
  | .detection, _ => some (400, blockedMessage)
  -- The engine's stages bring their default text along.
  | _, .block status body => some (status, body)
  | _, .stage response => some (response.status.asU16, response.body)
  | _, .gate _ => some (403, forbiddenMessage)

/-- The exits that look the override up. -/
def Check.resolvesBody : Check → Answer → Bool
  | .detection, _ | _, .gate _ | _, .stage _ => true
  | _, _ => false

/-! ### The rendered body -/

/-- The text an answer renders. -/
def Answer.text : Answer → String
  | .preflight answer => answer.body
  | .block _ body | .gate body => body
  | .stage response => response.customBody.getD response.body
  | .redirect _ => ""
  | .oversize => oversizeMessage
  | .failure => failureMessage

section Render

variable {ε : Type} (E : Engine W) (layer : GuardLayer W)

theorem passGenerated_body {parts : Parts W} {generated : Generated} :
    Prog.Yields (fun passed => passed.body = generated.body)
      (passGenerated E layer parts generated : Prog (Store W) (Event W) ε Generated) :=
  .bind .any fun _ _ => .pure rfl

theorem finishGenerated_body {parts : Parts W} {generated : Generated} {body : Bytes}
    (h : generated.body = body) :
    Prog.Yields (fun response => response.body = .generated body)
      (finishGenerated E layer parts generated : Prog (Store W) (Event W) ε (Response W)) :=
  .bind (passGenerated_body E layer) fun _ same =>
    .pure (congrArg GuardBody.generated (same.trans h))

theorem Generated.blockedWithBody_body {status : Nat} {message : String} {generated : Generated}
    (h : blockedWithBody status message = some generated) :
    generated.body = bytesOf message := by
  obtain ⟨code, -, rfl⟩ := Option.map_eq_some_iff.mp h
  rfl

/-- The pass changes the status and the headers, and never the body. -/
theorem render_body {parts : Parts W} (answer : Answer) :
    Prog.Yields (fun response => response.body = .generated (bytesOf answer.text))
      (render E layer parts answer : Prog (Store W) (Event W) ε (Response W)) := by
  cases answer with
  | preflight answer =>
    refine .bind (P := fun generated => generated.body = bytesOf answer.body) (.expect ?_)
      fun generated same => .pure (congrArg GuardBody.generated same)
    intro generated rendered
    obtain ⟨blocked, shaped, rfl⟩ := Option.map_eq_some_iff.mp rendered
    have same : blocked.body = bytesOf answer.body := Generated.blockedWithBody_body shaped
    exact same
  | block status body =>
    exact .bind (.expect fun _ => Generated.blockedWithBody_body) fun _ same =>
      finishGenerated_body E layer same
  | gate body =>
    exact .bind (.expect fun _ => Generated.blockedWithBody_body) fun _ same =>
      .bind (passGenerated_body E layer) fun _ passed =>
        finishGenerated_body E layer (passed.trans same)
  | stage response =>
    refine finishGenerated_body E layer ?_
    unfold Generated.stage
    cases response.retryAfter <;> rfl
  | redirect answer =>
    refine .bind (P := fun generated => generated.body = bytesOf "") (.expect ?_)
      fun generated same => finishGenerated_body E layer same
    intro generated rendered
    obtain ⟨code, -, rfl⟩ := Option.map_eq_some_iff.mp rendered
    rfl
  | oversize => exact finishGenerated_body E layer rfl
  | failure => exact finishGenerated_body E layer rfl

end Render

section Call

variable {E : Engine W} {service : GuardService W} {request : Request W} {s : Store W}
  {k : Check} {answer : Answer} {response : Response W}

/-- The response to a denied request has the text of the denial's answer. -/
theorem denied_body (denied : service.Denies E request s k answer)
    (leaves : (service.call E request s).flow = .pass (.ok response)) :
    response.body = .generated (bytesOf answer.text) := by
  obtain ⟨parts, payload, s', ended⟩ := denies_iff.mp denied
  obtain ⟨t, -, answered, -⟩ := call_ending E service request s
  rw [answered, ended, Run.after_flow] at leaves
  obtain ⟨_, s₁, t₁, t₂, -, concluded, -⟩ := Prog.bind_pass_iff.mp (Run.of_flow leaves)
  obtain ⟨rendered, s₂, t₃, t₄, here, same, -⟩ := Prog.bind_pass_iff.mp concluded
  obtain ⟨⟨⟩, -, -⟩ := Prog.pure_pass_iff.mp same
  exact render_body E service.layer answer _ _ _ _ here

/-- An exit with a text of its own renders its default. -/
theorem denied_own {status : Nat} {body : String} {given : Nat × String}
    (denied : service.Denies E request s k (.block status body)) (own : k.rendersOwn = true)
    (block : k.blockOf E (.block status body) = some given) : given = (status, body) := by
  obtain ⟨χ, s₁, trial, payload, s', -, applies, ruled, -⟩ :=
    denies_ruled denied (.inr (by rintro ⟨⟩))
  -- The guard's own texts are read off the arms; the other exits render what they are given.
  cases k with
  | usageRules =>
    obtain ⟨processor, -, -, ⟨⟩⟩ := bind_guard_iff.mp applies
    obtain ⟨-, -, ⟨⟩, -⟩ := Trial.screen_denies ruled
    cases block
    rfl
  | routeIpLists =>
    obtain ⟨carrier, -, -, applies⟩ := bind_guard_iff.mp applies
    split at applies
    · cases applies
      obtain ⟨-, -, ⟨⟩, -⟩ := Trial.screen_denies ruled
      cases block
      rfl
    · cases applies
      cases ruled
  | routeCountries =>
    simp only [Check.trial, Option.bind_eq_bind, Option.bind_eq_some_iff,
      Option.ite_none_right_eq_some] at applies
    obtain ⟨carrier, -, ip, -, handler, -, -, ⟨⟩⟩ := applies
    obtain ⟨-, -, ⟨⟩, -⟩ := Trial.screen_denies ruled
    cases block
    rfl
  | routeTimeWindow =>
    obtain ⟨restrictions, -, rfl⟩ := Option.map_eq_some_iff.mp applies
    obtain ⟨-, -, ⟨⟩, -⟩ := Trial.screen_denies ruled
    cases block
    rfl
  | routeUserAgents =>
    obtain ⟨patterns, -, rfl⟩ := Option.map_eq_some_iff.mp applies
    obtain ⟨answer, said, ⟨⟩, -⟩ := Trial.screen_denies ruled
    simp only [Call.returning_run, routePatternsDenial, Option.some.injEq] at said
    split at said
    · obtain ⟨-, ⟨⟩⟩ := Option.ite_none_right_eq_some.mp said
      cases block
      rfl
    · cases said
  | _ => cases block <;> cases own <;> rfl

end Call

section Override

variable {E : Engine W} {layer : GuardLayer W} {inner : InnerService W} {request : Request W}
  {s : Store W} {k : Check} {answer : Answer} {status : Nat} {fallback : String}

/-- An exit that looks the override up renders it, and any other renders its default. -/
theorem denied_text (overrides : OverridesBodies E) (fresh : layer.stage = none)
    (denied : (layer.wrap E inner).Denies E request s k answer)
    (block : k.blockOf E answer = some (status, fallback)) :
    answer.text = if k.resolvesBody answer then
      (layer.customErrorResponses.lookup status).getD fallback else fallback := by
  obtain ⟨parts, payload, s', ended⟩ := denies_iff.mp denied
  obtain ⟨χ, s₁, arrives, exits⟩ := ending_exit ended
  have built := layer.wrap_stage E inner fresh
  cases exits with
  | preflight answer => cases block
  | redirect answer => cases block
  | gate denies => cases block; exact overrides.resolve _ _ _
  | detection _ _ => cases block; exact overrides.resolve _ _ _
  | oversize => cases block; rfl
  | failure unable => cases k <;> cases unable <;> cases block <;> rfl
  | own status body own =>
    cases denied_own denied own block
    cases k <;> cases own <;> rfl
  | bans said =>
    cases block
    rw [built] at said
    simp only [Answer.text, overrides.bans _ _ _ _ _ said]
    rfl
  | tiers said =>
    cases block
    rw [built] at said
    simp only [Answer.text, overrides.tiers _ _ _ _ _ _ _ _ _ said]
    rfl

/-- A block answer has the body its status is mapped to, or the family default without one,
exactly when its exit looks the override up or the lookup makes no difference. -/
theorem block_body_overridden_iff (overrides : OverridesBodies E) (fresh : layer.stage = none)
    (denied : (layer.wrap E inner).Denies E request s k answer)
    (block : k.blockOf E answer = some (status, fallback)) (response : Response W)
    (leaves : ((layer.wrap E inner).call E request s).flow = .pass (.ok response)) :
    response.body =
        .generated (bytesOf ((layer.customErrorResponses.lookup status).getD fallback)) ↔
      k.resolvesBody answer = true ∨ layer.customErrorResponses.lookup status = none ∨
        layer.customErrorResponses.lookup status = some fallback := by
  rw [denied_body denied leaves, GuardBody.generated.injEq,
    denied_text overrides fresh denied block]
  cases k.resolvesBody answer with
  | true => simp
  | false =>
    simp only [Bool.false_eq_true, if_false, false_or]
    cases layer.customErrorResponses.lookup status with
    | none => simp
    | some text =>
      rw [Option.getD_some]
      constructor
      · intro same
        exact .inr (congrArg some (bytesOf_injective same).symm)
      · rintro (absent | same)
        · cases absent
        · cases same; rfl

end Override

/-! ### The banned shapes -/

/-- The small engine's stage, with the override of its ban answer. -/
def overridingStage (parts : RateLimitStageParts Bench.world) : RateLimitStage Bench.world :=
  let overridden := fun response : StageResponse =>
    { response with
      customBody := parts.config.customErrorResponses.lookup response.status.asU16 }
  { Bench.rateLimitStage parts with
    decideBansObserved := fun ip observation => Call.map (Option.map overridden)
      ((Bench.rateLimitStage parts).decideBansObserved ip observation) }

def overridingEngine : Engine Bench.world :=
  { Bench.engine with rateLimitStage := overridingStage }

theorem overridingEngine_overrides : OverridesBodies overridingEngine where
  resolve := fun _ _ _ => rfl
  bans := by
    intro parts ip observation s response said
    simp only [overridingEngine, overridingStage, Call.map_answer] at said
    obtain ⟨_ | banned, -, same⟩ := Option.map_eq_some_iff.mp said
    · cases same
    · cases same
      rfl
  tiers := fun _ _ _ _ _ _ _ _ _ said => nomatch said

def revoked : CustomErrorResponses := [(403, "Access revoked")]

/-- A gate that denies the client, with the override. -/
def revokedAtGate : GuardLayer Bench.world :=
  (Bench.layer.withIpGate (Bench.ipGate [] [Bench.client.display] [])).withCustomErrorResponses
    revoked

/-- The gate's denial takes the override of its status. -/
theorem gate_denial_overridden :
    ∃ response, ((revokedAtGate.wrap overridingEngine Bench.ok).call overridingEngine
        (Bench.request "GET" "/items" none []) Bench.start).flow = .pass (.ok response) ∧
      response.body = .generated (bytesOf "Access revoked") := by
  obtain ⟨response, leaves⟩ := Bench.response_of_answers
    (by decide +kernel : Bench.answers ((revokedAtGate.wrap overridingEngine Bench.ok).call
      overridingEngine (Bench.request "GET" "/items" none []) Bench.start) = true)
  refine ⟨response, leaves, ?_⟩
  have denied : (revokedAtGate.wrap overridingEngine Bench.ok).Denies overridingEngine
      (Bench.request "GET" "/items" none []) Bench.start .ipGate (.gate "Access revoked") := by
    unfold GuardService.Denies
    decide +kernel
  exact (block_body_overridden_iff overridingEngine_overrides rfl denied rfl response leaves).mpr
    (.inl rfl)

/-- A processor whose usage rules ban every client. -/
def usageBanning : ResponseProcessor Bench.world :=
  { Bench.responseProcessor Bench.plainProcessor with
    processUsageRules := fun _ _ _ _ => Call.returning [⟨true⟩] }

def usageRule : BehaviorRule where
  ruleType := "usage"
  threshold := 1
  window := 3600
  pattern := ""
  action := "ban"
  banDuration := none
  correlateWithDetection := false

def revokedByUsage : GuardLayer Bench.world :=
  (Bench.layer.withResponseProcessor usageBanning).withCustomErrorResponses revoked

def usageRequest : Request Bench.world :=
  Bench.request "GET" "/items" (some { Bench.openRoute with behaviorRules := [usageRule] }) []

/-- The usage-rule ban does not: the `403` banned shape renders the family default. -/
theorem usage_ban_not_overridden :
    ∃ response, ((revokedByUsage.wrap overridingEngine Bench.ok).call overridingEngine
        usageRequest Bench.start).flow = .pass (.ok response) ∧
      (revokedByUsage.wrap overridingEngine Bench.ok).Denies overridingEngine usageRequest
        Bench.start .usageRules (.block 403 activityBannedMessage) ∧
      response.body ≠ .generated (bytesOf ((revokedByUsage.customErrorResponses.lookup 403).getD
        activityBannedMessage)) := by
  have denied : (revokedByUsage.wrap overridingEngine Bench.ok).Denies overridingEngine
      usageRequest Bench.start .usageRules (.block 403 activityBannedMessage) := by
    unfold GuardService.Denies
    decide +kernel
  obtain ⟨response, leaves⟩ := Bench.response_of_answers
    (by decide +kernel : Bench.answers ((revokedByUsage.wrap overridingEngine Bench.ok).call
      overridingEngine usageRequest Bench.start) = true)
  refine ⟨response, leaves, denied, ?_⟩
  rw [denied_body denied leaves, ne_eq, GuardBody.generated.injEq]
  decide +kernel

end TowerGuard
