import TowerGuard.Exits
import TowerGuard.Engine.Metered

/-!
# The block hook

Who calls the block hook. The engine stages report their own denials, and the guard reports the
IP gate's and the detection block; what the guard answers by itself otherwise, nobody reports.
-/

namespace TowerGuard

open Text Traced

variable {W : World}

def blockStatuses : List Nat := [400, 401, 403, 413, 429, 503]

/-- The status of a block. Preflight answers and the custom checks' own responses are none. -/
def Check.blockStatus : Check → Answer → Option Nat
  | .corsPreflight, _ | .routeValidators, _ | .customValidators, _ | .customRequest, _ => none
  | _, answer => if answer.status ∈ blockStatuses then some answer.status else none

/-- The checks the guard answers by itself without telling the hook. -/
def Check.silent : Check → Bool
  | .usageRules | .routeIpLists | .routeCountries | .bodyBuffering | .routeHeadersAuth
  | .routeReferrer | .routeTimeWindow | .routeUserAgents => true
  | _ => false

/-! ### What is assumed -/

section Assumed

variable (fired : W.Other → List BlockPayload)

/-- The call does not reach the hook. -/
def Quiet {α : Type} (c : Call W.Other α) : Prop := ∀ o, fired (c o).2 = fired o

/-- It does not where it passes. -/
def PassesQuietly {α : Type} (c : Call (Store W) (Option α)) : Prop :=
  ∀ s s', c s = (some none, s') → fired s'.other = fired s.other

/-- An engine stage reports a blocking answer once, with its status, and nothing when it
passes. -/
structure Reports {α : Type} (status : α → Nat) (c : Call (Store W) (Option α)) : Prop where
  passes : PassesQuietly fired c
  denies : ∀ s answer s', c s = (some (some answer), s') → status answer ∈ blockStatuses →
    ∃ payload, fired s'.other = fired s.other ++ [payload] ∧
      payload.statusCode = some (status answer)

/-- `fired` lists what the layer's hook was called with: the facade calls the hook it is handed,
an engine stage reports its own blocks to it, and no other collaborator does. -/
structure HookWired (E : Engine W) (service : GuardService W) : Prop where
  fires : ∀ hook, service.layer.onBlock = some hook → ∀ payload o,
    fired (E.fireBlockHook (some hook) payload o).2 = fired o ++ [payload]
  built : ∀ facts sensitive, (E.buildBlockPayload facts sensitive).statusCode = facts.statusCode
  bans : ∀ parts, parts.onBlock = service.layer.onBlock → parts.observability.isSome = true →
    parts.config.passiveMode = false → ∀ ip observation,
      Reports fired (fun response => response.status.asU16)
        ((E.rateLimitStage parts).decideBansObserved ip observation)
  tiers : ∀ parts, parts.onBlock = service.layer.onBlock → parts.observability.isSome = true →
    parts.config.passiveMode = false → ∀ ip path routeTiers gate finding observation,
      Reports fired (fun response => response.status.asU16)
        ((E.rateLimitStage parts).decideTiersObserved ip path routeTiers gate finding observation)
  emergencyMode : ∀ stage, service.layer.emergencyMode = some stage → ∀ ip ipString path method,
    Reports fired EmergencyAnswer.status (onOther (stage.decide ip ipString path method))
  https : ∀ stage, service.layer.httpsEnforcement = some stage → ∀ path scheme host forwarded url,
    Reports fired HttpsRedirectAnswer.status
      (onOther (stage.decide path scheme host forwarded url))
  httpsRoute : ∀ stage, service.layer.httpsEnforcement = some stage →
    ∀ path scheme host forwarded url required, Reports fired HttpsRedirectAnswer.status
      (onOther (stage.decideRoute path scheme host forwarded url required))
  headersAuth : ∀ stage, service.layer.headersAuth = some stage → ∀ path headers,
    Reports fired (fun denial => denial.2.status.asU16) (onOther (stage.decide path headers))
  referrerGate : ∀ stage, service.layer.referrerGate = some stage → ∀ path referer ip url method,
    Reports fired GateAnswer.status (onOther (stage.decide path referer ip url method))
  timeWindowGate : ∀ stage, service.layer.timeWindowGate = some stage → ∀ path ip url method,
    Reports fired GateAnswer.status (onOther (stage.decide path ip url method))
  geo : ∀ stage, service.layer.geoBlocking = some stage → ∀ ip gate,
    Reports fired (fun response => response.status.asU16) (onOther (stage.decide ip gate))
  cloud : ∀ stage, service.layer.cloudProvider = some stage → ∀ ip gate,
    Reports fired (fun response => response.status.asU16) (onOther (stage.decide ip gate))
  routeCloud : ∀ stage, service.layer.cloudProvider = some stage → ∀ ip gate selectors,
    Reports fired (fun response => response.status.asU16)
      (onOther (stage.decideRoute ip gate selectors))
  userAgent : ∀ stage, service.layer.userAgent = some stage → ∀ ip gate path userAgent finding,
    Reports fired (fun response => response.status.asU16)
      (stage.decide ip gate path userAgent finding)
  customValidators : ∀ stage, service.layer.customChecks = some stage → ∀ path method ip body,
    PassesQuietly fired (onOther (stage.decideCustomValidators path method ip body))
  customRequest : ∀ stage, service.layer.customChecks = some stage → ∀ method path ip body,
    PassesQuietly fired (onOther (stage.decideCustomRequest method path ip body))
  routeConfigs : ∀ resolver, service.layer.routeConfigs = some resolver →
    ∀ method path, Quiet fired (resolver method path)
  usageRules : ∀ processor, service.layer.responseProcessor = some processor →
    ∀ endpoint client rules now, Quiet fired
      (processor.processUsageRules endpoint client rules now)
  routeCountries : ∀ handler, service.layer.geoHandler = some handler →
    ∀ ip gate, Quiet fired (E.checkCountries ip gate handler false)
  requestLogging : ∀ stage, service.layer.requestLogging = some stage →
    ∀ ip method path query, Quiet fired (stage.compose ip method path query)
  countryLog : ∀ stage, service.layer.geoBlocking = some stage →
    ∀ ip suspicious country, Quiet fired (stage.countryCheckLog ip suspicious country)
  routeHeadersAuth : ∀ rules verifiers lookup,
    Quiet fired (E.headersAuthDecide rules verifiers lookup)
  routeValidators : ∀ named ctx, Quiet fired (E.decideCustomValidators named ctx)
  scan : ∀ surfaces exclusions,
    Quiet fired (service.layer.scanFn surfaces exclusions service.layer.config)
  responseSide : ResponseSideKeeps service.layer (fun _ => True) fun s => fired s.other
  inner : ∀ request s, fired (service.inner.call request s).2.other = fired s.other

end Assumed

/-! ### One check -/

section Trial

variable {fired : W.Other → List BlockPayload} {k : Check}

/-- What a check tells the hook: nothing when it passes, and of a block one payload unless it is
a silent one. The guard itself passes on the payload of the denial. -/
structure Trial.Tells (fired : W.Other → List BlockPayload) (k : Check) (trial : Trial W) :
    Prop where
  passes : ∀ s ruling next s', trial.ruling s = (some ruling, s') → ruling.next? = some next →
    fired s'.other = fired s.other
  denies : ∀ s parts answer payload status s',
    trial.ruling s = (some (.deny (.answered parts answer) payload), s') →
    k.blockStatus answer = some status → ∃ reported : List BlockPayload,
      fired s'.other ++ payload.toList = fired s.other ++ reported ∧
        reported.map BlockPayload.statusCode = if k.silent then [] else [some status]

/-- A block status is the answer's own. -/
theorem Check.status_of_block {answer : Answer} {status : Nat}
    (block : k.blockStatus answer = some status) :
    answer.status = status ∧ status ∈ blockStatuses := by
  unfold Check.blockStatus at block
  split at block
  iterate 4 cases block
  obtain ⟨listed, same⟩ := Option.ite_none_right_eq_some.mp block
  cases same
  exact ⟨rfl, listed⟩

section Screen

variable {α : Type} {χ : Locals W} {question : Consult W} {decision : Call (Store W) (Option α)}
  {early : α → Early W}

private theorem passes_of_quiet (quiet : ∀ s, fired (decision s).2.other = fired s.other) :
    PassesQuietly fired decision := by
  intro s s' said
  have here := quiet s
  rwa [said] at here

/-- A screen tells what its decision tells, and its denials have no payload of the guard's. -/
private theorem tells_screen (passes : PassesQuietly fired decision)
    (denies : ∀ s denial s' parts answer status, decision s = (some (some denial), s') →
      early denial = .answered parts answer → k.blockStatus answer = some status →
      ∃ reported : List BlockPayload, fired s'.other = fired s.other ++ reported ∧
        reported.map BlockPayload.statusCode = if k.silent then [] else [some status]) :
    (Trial.screen χ question decision early).Tells fired k where
  passes := by
    intro s ruling next s' ruled onward
    obtain ⟨-, said⟩ := Trial.screen_next ruled onward
    have left : (decision s).2 = s' := congrArg Prod.snd ruled
    exact passes s s' (Prod.ext said left)
  denies := by
    intro s parts answer payload status s' ruled block
    have answered := congrArg Prod.fst ruled
    simp only [Trial.screen_ruling] at answered
    obtain ⟨_ | denial, said, same⟩ := Option.map_eq_some_iff.mp answered
    · cases same
    · obtain ⟨rendered, rfl⟩ := Ruling.deny.inj same
      have left : (decision s).2 = s' := congrArg Prod.snd ruled
      obtain ⟨reported, told, statuses⟩ :=
        denies s denial s' parts answer status (Prod.ext said left) rendered block
      exact ⟨reported, by simpa using told, statuses⟩

/-- A stage reports its own denials. -/
private theorem tells_stage {status : α → Nat} {parts : Parts W} {answer : α → Answer}
    (reports : Reports fired status decision) (heard : k.silent = false)
    (renders : ∀ denial, (answer denial).status = status denial) :
    (Trial.screen χ question decision fun denial => .answered parts (answer denial)).Tells
      fired k := by
  refine tells_screen reports.passes ?_
  rintro s denial s' _ _ status' said ⟨⟩ block
  obtain ⟨rfl, listed⟩ := Check.status_of_block block
  rw [renders] at listed ⊢
  obtain ⟨payload, told, same⟩ := reports.denies s denial s' said listed
  exact ⟨[payload], told, by simp [heard, same]⟩

/-- Nobody reports the denial of a silent check. -/
private theorem tells_nothing (quiet : ∀ s, fired (decision s).2.other = fired s.other)
    (silent : k.silent = true) : (Trial.screen χ question decision early).Tells fired k := by
  refine tells_screen (passes_of_quiet quiet) ?_
  intro s denial s' _ _ status said _ _
  have here := quiet s
  rw [said] at here
  exact ⟨[], by rw [here, List.append_nil], by simp [silent]⟩

/-- Nor is a denial that is no block. -/
private theorem tells_aside (passes : PassesQuietly fired decision)
    (aside : ∀ denial parts answer, early denial = .answered parts answer →
      k.blockStatus answer = none) :
    (Trial.screen χ question decision early).Tells fired k := by
  refine tells_screen passes ?_
  intro s denial s' parts answer status _ same block
  rw [aside denial parts answer same] at block
  cases block

private theorem tells_compose {c : Call W.Other α} {next : α → Locals W} (quiet : Quiet fired c) :
    (Trial.compose question c next).Tells fired k where
  passes := by
    intro s ruling _ s' ruled _
    have left : s' = (onOther c s).2 := (congrArg Prod.snd ruled).symm
    rw [left]
    exact quiet s.other
  denies := by
    intro s parts answer payload status s' ruled
    obtain ⟨_, -, ⟨⟩⟩ := Option.map_eq_some_iff.mp (congrArg Prod.fst ruled)

/-- A ruling of the guard itself tells what its payload says. -/
private theorem tells_settled {ruling : Ruling W}
    (told : ∀ parts answer payload status, ruling = .deny (.answered parts answer) payload →
      k.blockStatus answer = some status →
      payload.toList.map BlockPayload.statusCode = if k.silent then [] else [some status]) :
    (Trial.settled question ruling).Tells fired k where
  passes := by
    rintro s _ _ _ ⟨⟩ _
    rfl
  denies := by
    intro s parts answer payload status s' ruled block
    obtain ⟨same, rfl⟩ := Prod.mk.inj ruled
    exact ⟨payload.toList, rfl, told parts answer payload status (Option.some.inj same) block⟩

end Screen

variable {E : Engine W} {service : GuardService W} {χ : Locals W} {trial : Trial W}

/-- With observability installed there is a payload, and it has the status of the block. -/
theorem blockPayload_statuses {layer : GuardLayer W}
    (built : ∀ facts sensitive, (E.buildBlockPayload facts sensitive).statusCode = facts.statusCode)
    (observed : layer.observability.isSome = true) {parts : Parts W}
    {check reason trigger ip : String} {status : Nat} :
    (blockPayload E layer parts check reason trigger ip status).toList.map
      BlockPayload.statusCode = [some status] := by
  obtain ⟨observability, installed⟩ := Option.isSome_iff_exists.mp observed
  simp [blockPayload, installed, built]

/-- What the guard asks of the engine stage it built. -/
structure StageWired (fired : W.Other → List BlockPayload) (service : GuardService W) : Prop where
  bans : ∀ ip observation, Reports fired (fun response => response.status.asU16)
    (service.stage.decideBansObserved ip observation)
  tiers : ∀ ip path routeTiers gate finding observation,
    Reports fired (fun response => response.status.asU16)
      (service.stage.decideTiersObserved ip path routeTiers gate finding observation)

/-- So every check tells the hook what it should, the silent ones aside. -/
theorem trial_tells (wired : HookWired fired E service) (stage : StageWired fired service)
    (observed : service.layer.observability.isSome = true)
    (applies : k.trial E service χ = some trial) : trial.Tells fired k := by
  cases k with
  | excludePaths =>
    cases applies
    exact tells_aside (passes_of_quiet fun _ => rfl) (by rintro _ _ _ ⟨⟩)
  | corsPreflight =>
    obtain ⟨processor, -, -, ⟨⟩⟩ := bind_guard_iff.mp applies
    exact tells_aside (passes_of_quiet fun _ => rfl) fun _ _ _ _ => rfl
  | routeCarrier =>
    simp only [Check.trial] at applies
    split at applies
    · cases applies
    · obtain ⟨resolver, installed, rfl⟩ := Option.map_eq_some_iff.mp applies
      exact tells_compose (wired.routeConfigs resolver installed _ _)
  | usageRules =>
    obtain ⟨processor, installed, -, ⟨⟩⟩ := bind_guard_iff.mp applies
    exact tells_nothing (fun s => wired.usageRules processor installed _ _ _ _ s.other) rfl
  | routeIpLists =>
    obtain ⟨carrier, -, -, applies⟩ := bind_guard_iff.mp applies
    split at applies
    · cases applies
      exact tells_nothing (fun _ => rfl) rfl
    · cases applies
      -- The fail-secure answer is a 500, and no block.
      exact tells_settled fun _ _ _ _ same block => by cases same; cases block
  | routeCountries =>
    simp only [Check.trial, Option.bind_eq_bind, Option.bind_eq_some_iff,
      Option.ite_none_right_eq_some] at applies
    obtain ⟨carrier, -, ip, -, handler, installed, -, ⟨⟩⟩ := applies
    exact tells_nothing (fun s => wired.routeCountries handler installed _ _ s.other) rfl
  | ipGate =>
    simp only [Check.trial, Option.bind_eq_bind, Option.bind_eq_some_iff,
      Option.ite_none_right_eq_some] at applies
    obtain ⟨gate, -, ip, -, -, ⟨⟩⟩ := applies
    refine tells_settled ?_
    intro parts answer payload status ruled block
    split at ruled
    · cases ruled
    · split at ruled
      · cases ruled
      · cases ruled
        cases block
        exact blockPayload_statuses wired.built observed
  | emergencyMode =>
    obtain ⟨stage, installed, rfl⟩ := Option.map_eq_some_iff.mp applies
    exact tells_stage (wired.emergencyMode stage installed _ _ _ _) rfl fun _ => rfl
  | httpsEnforcement =>
    simp only [Check.trial] at applies
    split at applies
    next stage carrier installed _ =>
      cases applies
      exact tells_stage (wired.httpsRoute stage installed _ _ _ _ _ _) rfl fun _ => rfl
    next stage installed _ =>
      cases applies
      exact tells_stage (wired.https stage installed _ _ _ _ _) rfl fun _ => rfl
    next =>
      obtain ⟨-, ⟨⟩⟩ := Option.ite_none_right_eq_some.mp applies
      refine tells_screen (passes_of_quiet fun _ => rfl) ?_
      -- The guard's own redirect is a 301.
      intro s denial s' parts answer status said same block
      obtain ⟨-, ⟨⟩⟩ := Option.ite_none_right_eq_some.mp (Option.some.inj (congrArg Prod.fst said))
      cases same
      cases block
    next => cases applies
  | requestLogging =>
    obtain ⟨stage, installed, rfl⟩ := Option.map_eq_some_iff.mp applies
    exact tells_compose (wired.requestLogging stage installed _ _ _ _)
  | countryLog =>
    simp only [Check.trial, Option.bind_eq_bind, Option.bind_eq_some_iff] at applies
    obtain ⟨observability, -, stage, installed, ⟨⟩⟩ := applies
    exact tells_compose (wired.countryLog stage installed _ _ _)
  | bodyBuffering =>
    simp only [Check.trial, Option.some.injEq] at applies
    split at applies
    · subst applies
      exact tells_settled (by rintro _ _ _ _ ⟨⟩)
    · subst applies
      exact tells_settled fun _ _ _ _ same _ => by cases same; rfl
    · subst applies
      exact tells_settled fun _ _ _ _ same _ => by cases same; rfl
  | routeHeadersAuth =>
    obtain ⟨carrier, -, -, ⟨⟩⟩ := bind_guard_iff.mp applies
    exact tells_nothing (fun s => wired.routeHeadersAuth _ _ _ s.other) rfl
  | headersAuth =>
    obtain ⟨stage, installed, rfl⟩ := Option.map_eq_some_iff.mp applies
    exact tells_stage (wired.headersAuth stage installed _ _) rfl fun _ => rfl
  | routeReferrer =>
    obtain ⟨domains, -, rfl⟩ := Option.map_eq_some_iff.mp applies
    exact tells_nothing (fun _ => rfl) rfl
  | referrerGate =>
    obtain ⟨stage, installed, rfl⟩ := Option.map_eq_some_iff.mp applies
    exact tells_stage (wired.referrerGate stage installed _ _ _ _ _) rfl fun _ => rfl
  | routeValidators =>
    simp only [Check.trial, Option.ite_none_left_eq_some] at applies
    obtain ⟨-, ⟨⟩⟩ := applies
    exact tells_aside (passes_of_quiet fun s => wired.routeValidators _ _ s.other)
      fun _ _ _ _ => rfl
  | customValidators =>
    obtain ⟨stage, installed, rfl⟩ := Option.map_eq_some_iff.mp applies
    exact tells_aside (wired.customValidators stage installed _ _ _ _) fun _ _ _ _ => rfl
  | routeTimeWindow =>
    obtain ⟨restrictions, -, rfl⟩ := Option.map_eq_some_iff.mp applies
    exact tells_nothing (fun _ => rfl) rfl
  | timeWindowGate =>
    obtain ⟨stage, installed, rfl⟩ := Option.map_eq_some_iff.mp applies
    exact tells_stage (wired.timeWindowGate stage installed _ _ _ _) rfl fun _ => rfl
  | scan =>
    simp only [Check.trial, Option.ite_none_left_eq_some] at applies
    obtain ⟨-, ⟨⟩⟩ := applies
    constructor
    · intro s ruling next s' ruled onward
      have here := wired.scan (scanSurfaces χ.parts χ.buffered)
        (scanExclusions E service.layer χ.parts) s.other
      dsimp only at ruled
      split at ruled
      next scanned =>
        have left := congrArg (fun out => fired out.2.other) scanned
        split at ruled <;> cases ruled <;> exact left.symm.trans here
      next => cases ruled; cases onward
    · intro s parts answer payload status s' ruled
      dsimp only at ruled
      split at ruled
      · split at ruled <;> cases ruled
      · cases ruled
  | bans =>
    obtain ⟨-, ⟨⟩⟩ := Option.ite_none_left_eq_some.mp applies
    exact tells_stage (stage.bans _ _) rfl fun _ => rfl
  | geo =>
    obtain ⟨stage, installed, -, ⟨⟩⟩ := bind_guard_iff.mp applies
    exact tells_stage (wired.geo stage installed _ _) rfl fun _ => rfl
  | cloud =>
    obtain ⟨-, applies⟩ := Option.ite_none_left_eq_some.mp applies
    split at applies
    · split at applies
      next stage _ installed =>
        cases applies
        exact tells_stage (wired.routeCloud stage installed _ _ _) rfl fun _ => rfl
      next => cases applies
      next =>
        cases applies
        exact tells_settled fun _ _ _ _ same block => by cases same; cases block
    · obtain ⟨stage, installed, rfl⟩ := Option.map_eq_some_iff.mp applies
      exact tells_stage (wired.cloud stage installed _ _) rfl fun _ => rfl
  | routeUserAgents =>
    obtain ⟨patterns, -, rfl⟩ := Option.map_eq_some_iff.mp applies
    exact tells_nothing (fun _ => rfl) rfl
  | userAgent =>
    obtain ⟨stage, installed, rfl⟩ := Option.map_eq_some_iff.mp applies
    exact tells_stage (wired.userAgent stage installed _ _ _ _ _) rfl fun _ => rfl
  | rateLimit =>
    simp only [Check.trial] at applies
    split at applies
    · cases applies
      exact tells_settled fun _ _ _ _ same block => by cases same; cases block
    · obtain ⟨-, ⟨⟩⟩ := Option.ite_none_left_eq_some.mp applies
      exact tells_stage (stage.tiers _ _ _ _ _ _) rfl fun _ => rfl
  | detection =>
    obtain ⟨verdict, -, rfl⟩ := Option.map_eq_some_iff.mp applies
    refine tells_settled ?_
    intro parts answer payload status ruled block
    split at ruled
    · cases ruled
    · cases ruled
      cases block
      exact blockPayload_statuses wired.built observed
  | customRequest =>
    obtain ⟨stage, installed, rfl⟩ := Option.map_eq_some_iff.mp applies
    exact tells_aside (wired.customRequest stage installed _ _ _ _) fun _ _ _ _ => rfl

end Trial

/-! ### One call -/

section Call

variable {E : Engine W} {service : GuardService W} {fired : W.Other → List BlockPayload}
  {request : Request W} {s : Store W}

/-- Answering a denial tells the hook the payload of the denial. -/
theorem answerTo_fired (wired : HookWired fired E service) {hook : OnBlockHook W}
    (installed : service.layer.onBlock = some hook) {facts : RequestFacts} {k : Check}
    {parts : Parts W} {answer : Answer} {payload : Option BlockPayload} {s : Store W} :
    fired (service.answerTo E facts
        (.denied k (.answered parts answer) payload, s)).state.other =
      fired s.other ++ payload.toList := by
  have rendered : ∀ _ : Unit, Prog.Keeps (fun s => fired s.other)
      (service.conclude E facts (.answered parts answer) :
        Prog (Store W) (Event W) Empty _) :=
    fun _ => .bind (render_keeps E service.layer wired.responseSide trivial) fun _ => .pure
  have behind := Prog.bind_state
    (m := (fireBlock E service.layer payload : Prog (Store W) (Event W) Empty Unit)) rendered s
  refine behind.trans ?_
  cases payload with
  | none => simp [fireBlock, Prog.pure_run]
  | some payload =>
    -- The hook was called even where it panics.
    simp only [fireBlock, notify, Prog.ask_state]
    rw [installed]
    exact wired.fires hook installed payload s.other

section Wired

variable (wired : HookWired fired E service) (stage : StageWired fired service)
  (observed : service.layer.observability.isSome = true)

include wired stage observed

/-- A passing run of checks tells the hook nothing. -/
theorem run_tells {cs : List Check} {χ χ' : Locals W} {s s' : Store W} {t : List (Event W)}
    (passed : Checklist.run (Check.step E service) cs χ s = ⟨.pass χ', s', t⟩) :
    fired s'.other = fired s.other := by
  refine Checklist.run_invariant (I := fun _ s' => fired s'.other = fired s.other) ?_ rfl passed
  intro k _ χ₁ s₁ χ₂ s₂ t held here
  rcases run_pass_iff.mp here with ⟨-, -, rfl, -⟩ | ⟨trial, ruling, applies, ruled, passes, -⟩
  · exact held
  · have tells := trial_tells wired stage observed applies
    exact (tells.passes s₁ ruling χ₂ s₂ ruled passes).trans held

/-- A block tells it once, unless the check is a silent one. -/
theorem denied_tells {hook : OnBlockHook W} (installed : service.layer.onBlock = some hook)
    {k : Check} {answer : Answer} {status : Nat} (denied : service.Denies E request s k answer)
    (block : k.blockStatus answer = some status) : ∃ reported : List BlockPayload,
      fired (service.call E request s).state.other = fired s.other ++ reported ∧
        reported.map BlockPayload.statusCode = if k.silent then [] else [some status] := by
  -- A recovered panic renders a 500, which is no block.
  have other : answer ≠ .failure := by rintro rfl; cases k <;> cases block
  obtain ⟨χ, s₁, trial, payload, s', arrives, applies, ruled, ended⟩ :=
    denies_ruled denied (.inr other)
  obtain ⟨t, -, answered, -⟩ := call_ending E service request s
  rw [answered, Run.after_state, ended, answerTo_fired wired installed]
  have tells := trial_tells wired stage observed applies
  obtain ⟨reported, told, statuses⟩ := tells.denies _ _ _ _ _ _ ruled block
  obtain ⟨front, back, t, -, passed⟩ := arrives
  exact ⟨reported, by rw [told, run_tells wired stage observed passed], statuses⟩

/-- Who hands the request over tells it nothing. -/
theorem forwarded_tells (forwarded : handedOver (service.call E request s).trace ≠ []) :
    fired (service.call E request s).state.other = fired s.other := by
  rw [call_handedOver] at forwarded
  obtain ⟨t, -, answered, -⟩ := call_ending E service request s
  rw [answered, Run.after_state]
  have handed : ∀ facts parts buffered s', fired s'.other = fired s.other →
      fired (forward E service.layer facts parts buffered service.inner s' :
        Run (Store W) (Event W) Empty _).state.other = fired s.other := by
    intro facts parts buffered s' same
    have behind := forward_keeps (ε := Empty) E service.layer facts parts buffered service.inner s'
      wired.responseSide trivial
    exact behind.trans ((wired.inner _ s').trans same)
  have ends := ending_ends E service Check.pipeline (.start request) s
  rcases ended : Check.ending E service Check.pipeline (.start request) s with
    ⟨final | ⟨k, parts | ⟨parts, answer⟩, payload⟩ | k, s'⟩ <;> rw [ended] at ends forwarded
  · cases ends with
    | forward passed => exact handed _ _ _ s' (run_tells wired stage observed passed)
  · -- An excluded path is forwarded before anyone is asked.
    obtain ⟨rfl, rfl⟩ := ending_excluded ended
    refine handed _ parts none s' ?_
    cases ends with
    | denied arrives applies ruled =>
      cases applies
      have left : s' = _ := (congrArg Prod.snd ruled).symm
      rw [left, Check.Arrives.state_of_early arrives (by decide)]
      rfl
    | recovered arrives applies ruled =>
      obtain ⟨⟨⟩, -⟩ := trial_recovers applies ruled
  · exact absurd rfl forwarded
  · exact absurd rfl forwarded

end Wired

/-- The engine stage of a fresh layer is built with the layer's hook. -/
theorem StageWired.of_fresh {layer : GuardLayer W} {inner : InnerService W}
    (wired : HookWired fired E (layer.wrap E inner)) (fresh : layer.stage = none)
    (observed : layer.observability.isSome = true) (active : layer.passiveMode = false) :
    StageWired fired (layer.wrap E inner) where
  bans := by
    rw [layer.wrap_stage E inner fresh]
    exact wired.bans _ rfl observed active
  tiers := by
    rw [layer.wrap_stage E inner fresh]
    exact wired.tiers _ rfl observed active

/-- The hook is called once for a block, with the rendered status, exactly when the check that
blocks is none of the silent ones; for a forwarded request it is not called. -/
theorem block_reported_once_iff {layer : GuardLayer W} {inner : InnerService W}
    (wired : HookWired fired E (layer.wrap E inner)) (fresh : layer.stage = none)
    {hook : OnBlockHook W} (installed : layer.onBlock = some hook)
    (observed : layer.observability.isSome = true) (active : layer.passiveMode = false)
    (request : Request W) (s : Store W) :
    (∀ k answer status, (layer.wrap E inner).Denies E request s k answer →
      k.blockStatus answer = some status →
      ((∃ payload, fired ((layer.wrap E inner).call E request s).state.other =
          fired s.other ++ [payload] ∧ payload.statusCode = some status) ↔ k.silent = false)) ∧
    (handedOver ((layer.wrap E inner).call E request s).trace ≠ [] →
      fired ((layer.wrap E inner).call E request s).state.other = fired s.other) := by
  have stage := StageWired.of_fresh wired fresh observed active
  refine ⟨?_, forwarded_tells wired stage observed⟩
  intro k answer status denied block
  obtain ⟨reported, told, statuses⟩ := denied_tells wired stage observed installed denied block
  rw [told]
  cases silent : k.silent with
  | true =>
    rw [silent, if_pos rfl, List.map_eq_nil_iff] at statuses
    simp [statuses]
  | false =>
    rw [silent, if_neg (by simp), List.map_eq_singleton_iff] at statuses
    obtain ⟨payload, rfl, same⟩ := statuses
    simp [same]

end Call

/-! ### A hook that keeps its payloads -/

def observing : ObservabilityConfig where
  logSuspiciousLevel := none
  logRequestLevel := none
  logCountryCheckLevel := none
  mutedCheckLogs := none
  sensitive := { headers := none, params := none, bodyFields := none }

/-- A layer that bans and reports its blocks. -/
def reportingLayer : GuardLayer Metered.world :=
  ((Metered.layer.withIpBanning ⟨1⟩ ⟨2⟩ Bench.engine.defaultIpBanConfig).withObservability
    observing).withOnBlock Metered.record

def reportingService : GuardService Metered.world :=
  reportingLayer.wrap Metered.engine Metered.ok

/-- The stage's report of a denial is one payload. -/
theorem report_fired {parts : RateLimitStageParts Metered.world}
    (hooked : parts.onBlock = some Metered.record) (observed : parts.observability.isSome = true)
    (check : String) (status : Nat) (ip : IpAddr) (journal : Metered.Journal) :
    ∃ payload, (Metered.report parts check status ip journal).2.fired = journal.fired ++ [payload] ∧
      payload.statusCode = some status := by
  simp only [Metered.report, observed, if_true, Metered.fire, hooked]
  exact ⟨_, rfl, rfl⟩

theorem metered_bans_report {parts : RateLimitStageParts Metered.world}
    (hooked : parts.onBlock = some Metered.record) (observed : parts.observability.isSome = true)
    (ip : Option IpAddr) (observation : Option RequestObservation) :
    Reports Metered.Journal.fired (fun response => response.status.asU16)
      ((Metered.rateLimitStage parts).decideBansObserved ip observation) := by
  constructor
  · intro s s' said
    simp only [Metered.rateLimitStage] at said
    split at said
    · split at said <;> cases said
      rfl
    · cases said
      rfl
  · intro s answer s' said _
    simp only [Metered.rateLimitStage] at said
    split at said
    · split at said <;> cases said
      exact report_fired hooked observed _ _ _ s.other
    · cases said

theorem throttle_reports {parts : RateLimitStageParts Metered.world}
    (hooked : parts.onBlock = some Metered.record) (observed : parts.observability.isSome = true)
    (tier : Option String) (limit : Nat) (ip : IpAddr) :
    Reports Metered.Journal.fired (fun response => response.status.asU16)
      (Metered.throttle parts tier limit ip) := by
  constructor
  · intro s s' said
    unfold Metered.throttle at said
    split at said
    · split at said <;> cases said; rfl
    · split at said <;> cases said; rfl
    · cases said; rfl
  · intro s answer s' said _
    unfold Metered.throttle at said
    split at said
    · split at said <;> cases said
      exact report_fired hooked observed _ _ _ s.other
    · split at said <;> cases said
      exact report_fired hooked observed _ _ _ s.other
    · cases said

/-- The last tier's report is the tiers', since those before it let the request pass. -/
theorem throttleTiers_reports {parts : RateLimitStageParts Metered.world}
    (hooked : parts.onBlock = some Metered.record) (observed : parts.observability.isSome = true)
    (path : Option String) (routeTiers : Option Nat) (ip : IpAddr) :
    Reports Metered.Journal.fired (fun response => response.status.asU16)
      (Metered.throttleTiers parts path routeTiers ip) := by
  have last (s : Store Metered.world) : ∃ tier limit s₁,
      Metered.throttleTiers parts path routeTiers ip s = Metered.throttle parts tier limit ip s₁ ∧
        s₁.other.fired = s.other.fired := by
    obtain ⟨tier, limit, s₁, last, came, -⟩ := Metered.throttleTiers_last parts path routeTiers ip s
    refine ⟨tier, limit, s₁, last, ?_⟩
    rcases came with rfl | ⟨first, limit₁, passed⟩
    · rfl
    · exact (throttle_reports hooked observed first limit₁ ip).passes _ _ passed
  constructor
  · intro s s' said
    obtain ⟨tier, limit, s₁, last, quiet⟩ := last s
    rw [← quiet]
    exact (throttle_reports hooked observed tier limit ip).passes s₁ s' (last ▸ said)
  · intro s answer s' said blocks
    obtain ⟨tier, limit, s₁, last, quiet⟩ := last s
    rw [← quiet]
    exact (throttle_reports hooked observed tier limit ip).denies s₁ answer s' (last ▸ said) blocks

theorem metered_tiers_report {parts : RateLimitStageParts Metered.world}
    (hooked : parts.onBlock = some Metered.record) (observed : parts.observability.isSome = true)
    (ip : Option IpAddr) (path : Option String) (routeTiers : Option Nat)
    (gate : Option IpGateDecision) (finding : Option ThreatFinding)
    (observation : Option RequestObservation) :
    Reports Metered.Journal.fired (fun response => response.status.asU16)
      ((Metered.rateLimitStage parts).decideTiersObserved ip path routeTiers gate finding
        observation) := by
  have reports (ip : IpAddr) := throttleTiers_reports hooked observed path routeTiers ip
  constructor
  · intro s s' said
    simp only [Metered.rateLimitStage] at said
    split at said
    next ip =>
      split at said
      · cases said
        rfl
      · exact (reports ip).passes s s' said
    next =>
      cases said
      rfl
  · intro s answer s' said blocks
    simp only [Metered.rateLimitStage] at said
    split at said
    next ip =>
      split at said
      · cases said
      · exact (reports ip).denies s answer s' said blocks
    next => cases said

theorem reporting_wired : HookWired Metered.Journal.fired Metered.engine reportingService where
  fires := by
    rintro _ ⟨⟩ payload o
    rfl
  built := fun _ _ => rfl
  bans := fun parts hooked observed _ => metered_bans_report hooked observed
  tiers := fun parts hooked observed _ => metered_tiers_report hooked observed
  emergencyMode := fun _ installed => nomatch installed
  https := fun _ installed => nomatch installed
  httpsRoute := fun _ installed => nomatch installed
  headersAuth := fun _ installed => nomatch installed
  referrerGate := fun _ installed => nomatch installed
  timeWindowGate := fun _ installed => nomatch installed
  geo := fun _ installed => nomatch installed
  cloud := fun _ installed => nomatch installed
  routeCloud := fun _ installed => nomatch installed
  userAgent := fun _ installed => nomatch installed
  customValidators := fun _ installed => nomatch installed
  customRequest := fun _ installed => nomatch installed
  routeConfigs := fun _ installed => nomatch installed
  usageRules := fun _ installed => nomatch installed
  routeCountries := fun _ installed => nomatch installed
  requestLogging := fun _ installed => nomatch installed
  countryLog := fun _ installed => nomatch installed
  routeHeadersAuth := fun _ _ _ _ => rfl
  routeValidators := fun _ _ _ => rfl
  scan := fun _ _ _ => rfl
  responseSide :=
    { process := fun _ installed => nomatch installed
      event := fun _ installed => nomatch installed
      modifier := fun _ installed => nomatch installed
      onError := fun _ installed => nomatch installed }
  inner := fun _ _ => rfl

/-- The store with one live ban, of the client. -/
def onceBanned : Store Metered.world :=
  { Metered.start with
    other := { Metered.start.other with bans := [(1, Bench.client.display)] } }

/-- The banned client's `403` is reported once. -/
theorem banned_client_reported_once :
    ∃ payload, (reportingService.call Metered.engine
        (Metered.request (some Bench.client) "GET" "/items" none []) onceBanned).state.other.fired =
        [payload] ∧ payload.statusCode = some 403 := by
  have denied : reportingService.Denies Metered.engine
      (Metered.request (some Bench.client) "GET" "/items" none []) onceBanned .bans
      (.stage Bench.banResponse) := by
    unfold GuardService.Denies
    decide +kernel
  exact ((block_reported_once_iff reporting_wired rfl rfl rfl rfl
    (Metered.request (some Bench.client) "GET" "/items" none []) onceBanned).1 .bans
    (.stage Bench.banResponse) 403 denied rfl).mpr rfl

/-- The route's own IP lists answer `403`, and nobody reports it. -/
theorem route_blacklist_not_reported :
    let blacklisting := { Bench.openRoute with ipBlacklist := some [Bench.client.display] }
    let request := Metered.request (some Bench.client) "GET" "/items" (some blacklisting) []
    let fired := (reportingService.call Metered.engine request Metered.start).state.other.fired
    reportingService.Denies Metered.engine request Metered.start .routeIpLists
        (.block 403 forbiddenMessage) ∧
      Check.routeIpLists.blockStatus (.block 403 forbiddenMessage) = some 403 ∧
      ¬∃ payload, fired = Metered.start.other.fired ++ [payload] ∧
        payload.statusCode = some 403 := by
  intro blacklisting request fired
  refine ⟨?_, rfl, ?_⟩
  · unfold GuardService.Denies
    decide +kernel
  · rintro ⟨payload, told, -⟩
    have silent : fired = [] := by decide +kernel
    rw [silent] at told
    cases told

end TowerGuard
