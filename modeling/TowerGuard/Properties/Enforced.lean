import TowerGuard.Configured
import TowerGuard.Properties.Moments
import TowerGuard.Properties.ScanBound

/-!
# What a configuration asks for is enforced

A layer built from a configuration, in front of a service: a request that reaches the service has
been let pass by all that the configuration asks for, each protection in the store as it was when
it was asked. No interleaving with other calls and no skipped check gets a request past one.
-/

namespace TowerGuard

open Text Traced

variable {W : World}

/-! ### What is asked for -/

/-- The gate's decision on the request, as the tiers are told it: the gate leaves one where it
allows an attributed client, and else it is the one the request came with. -/
def Built.decision (built : Built W) (request : Request W) : Option IpGateDecision :=
  match built.ipGate, request.extensions.clientIp with
  | some gate, some ip =>
    match gate.evaluate ip with
    | .allowed decision => some decision
    | .denied _ => request.extensions.gateDecision
  | _, _ => request.extensions.gateDecision

/-- A finding of the scan goes on in passive mode only. -/
def RateLimitStage.Bears (stage : RateLimitStage W) (finding : Option ThreatFinding) : Prop :=
  finding.isSome = true → stage.config.passiveMode = true

def Request.facts (request : Request W) : RequestFacts := .extract request.toParts

/-- Everything the configuration asks for has let the request pass. `during held` says that `held`
was so at a moment of its call. -/
structure SecurityConfig.Enforced (config : SecurityConfig W) (E : Engine W) (built : Built W)
    (stage : RateLimitStage W) (request : Request W) (during : (Store W → Prop) → Prop) :
    Prop where
  /-- A client that the lists deny gets past them in passive mode only. -/
  ipLists : ∀ gate, built.ipGate = some gate →
    ∀ ip, request.extensions.clientIp = some ip →
      config.passiveMode = true ∨ ∃ decision, gate.evaluate ip = .allowed decision
  emergencyMode : ∀ mode, built.emergencyMode = some mode → during fun s =>
    (mode.decide request.facts.attributed request.facts.ipString request.facts.path
      request.facts.method s.other).1 = some none
  https : during fun s =>
    (built.httpsEnforcement.decide request.facts.path request.facts.scheme
      (request.facts.host.map hostOfAuthority) request.facts.xForwardedProto
      request.facts.httpsUrl s.other).1 = some none
  body : request.body.content.length ≤ config.detectionMaxBodyInspectBytes
  /-- The surfaces of the request and its whole body were scanned; a request that is flagged gets
  past in passive mode only. -/
  detection : E.detectionEnabled config.enablePenetrationDetection none = true →
    during fun s => ∃ verdict,
      (E.scanRequest (scanSurfaces request.toParts (some request.body.content))
        (E.resolve config.exclusions request.extensions.detectionExclusions) config.detectConfig
        s.other).1 = some verdict ∧
      (verdict.isThreat = true → stage.config.passiveMode = true)
  bans : during fun s =>
    (stage.decideBansObserved request.extensions.clientIp
      (some (requestObservation request.toParts)) s).1 = some none
  userAgents : ∀ agents, built.userAgent = some agents →
    ∃ finding, stage.Bears finding ∧ during fun s =>
      (agents.decide request.facts.ip request.facts.gate (some request.facts.path)
        request.facts.userAgent finding s).1 = some none
  rateLimit : ∃ finding, stage.Bears finding ∧ during fun s =>
    (stage.decideTiersObserved request.facts.ip (some request.facts.path)
      request.extensions.rateLimits (built.decision request) finding
      (some (requestObservation request.toParts)) s).1 = some none

/-! ### Calls without a route -/

section Routeless

variable {E : Engine W} {service : GuardService W} {request : Request W} {k : Check}
  {cs : List Check} {past : List (Event W)} {χ : Locals W}

/-- Neither the layer nor the request brings a route. -/
structure Routeless (service : GuardService W) (request : Request W) : Prop where
  resolver : service.layer.routeConfigs = none
  carrier : request.extensions.routeConfig = none

namespace Routeless

variable (routeless : Routeless service request)

include routeless

/-- Such a call has no route anywhere, so that no list of one stands in for the global lists. -/
theorem passed (passed : Check.Passed E service request cs past χ) :
    χ.route = none ∧ χ.skipGlobalIpLists = false := by
  induction passed with
  | nil => exact ⟨routeless.carrier, rfl⟩
  | @snoc cs k past t χ χ' s s' before here ih =>
    obtain ⟨route, lists⟩ := ih
    have frame := run_frame here
    by_cases writes : k = .routeCarrier ∨ k = .routeIpLists
    · -- The two checks that would write have nothing to go by.
      have carried : χ.parts.extensions.routeConfig = none :=
        (congrArg (fun parts => parts.extensions.routeConfig)
          (Check.Passed.of before).carried).trans routeless.carrier
      have absent : k.trial E service χ = none := by
        rcases writes with rfl | rfl
        · simp [Check.trial, carried, routeless.resolver]
        · simp [Check.trial, route]
      rcases run_pass_iff.mp here with ⟨-, rfl, -⟩ | ⟨trial, ruling, applies, -⟩
      · exact ⟨route, lists⟩
      · rw [absent] at applies
        cases applies
    · exact ⟨(frame.route fun same => writes (.inl same)).trans route,
        (frame.skipGlobalIpLists fun same => writes (.inr same)).trans lists⟩

theorem arrives (arrives : k.MayArrive E service request χ) :
    χ.route = none ∧ χ.skipGlobalIpLists = false := by
  obtain ⟨_, _, _, -, passed⟩ := arrives
  exact routeless.passed passed

/-- No route bypasses a check. -/
theorem bypassed (arrives : k.MayArrive E service request χ) (check : String) :
    TowerGuard.bypassed χ.route check = false := by
  rw [(routeless.arrives arrives).1]
  rfl

end Routeless

/-- Up to the gate the parts are the request's own. -/
theorem Check.MayArrive.parts (arrives : k.MayArrive E service request χ)
    (ahead : k.position ≤ Check.ipGate.position) : χ.parts = request.toParts := by
  obtain ⟨front, back, past, split, passed⟩ := arrives
  have kept : ∀ c, c ≠ Check.ipGate → ∀ (x : Locals W) s x' s' t,
      Check.step E service c x s = ⟨.pass x', s', t⟩ → x'.parts = x.parts :=
    fun c other x s x' s' t here => (run_frame here).parts other
  refine passed.unwritten kept fun member => ?_
  have behind := (Check.position_lt_iff split).mpr member
  omega

/-- What passes the gate has its decision, and a client that the lists deny passes in passive mode
only. -/
theorem Routeless.ipGate {built : Built W} {χ' : Locals W} {s s' : Store W} {t : List (Event W)}
    (routeless : Routeless service request) (installed : service.layer.ipGate = built.ipGate)
    (arrives : Check.ipGate.MayArrive E service request χ)
    (here : Check.ipGate.run E service χ s = ⟨.pass χ', s', t⟩) :
    χ'.parts.extensions.gateDecision = built.decision request ∧
      ∀ gate, built.ipGate = some gate → ∀ ip, request.extensions.clientIp = some ip →
        service.layer.passiveMode = true ∨ ∃ decision, gate.evaluate ip = .allowed decision := by
  have parts := arrives.parts (Nat.le_refl _)
  have client : χ.parts.extensions.clientIp = request.extensions.clientIp := by rw [parts]
  have own : χ.parts.extensions.gateDecision = request.extensions.gateDecision := by
    rw [parts]
  unfold Built.decision
  rw [← installed]
  cases gated : service.layer.ipGate with
  | none =>
    have absent : Check.ipGate.trial E service χ = none := by simp [Check.trial, gated]
    rw [run_of_absent absent] at here
    cases here
    exact ⟨own, fun gate none => by cases none⟩
  | some gate =>
    cases attributed : request.extensions.clientIp with
    | none =>
      have absent : Check.ipGate.trial E service χ = none := by
        simp [Check.trial, gated, client, attributed]
      rw [run_of_absent absent] at here
      cases here
      exact ⟨own, fun _ _ ip none => by cases none⟩
    | some ip =>
      rcases run_pass_iff.mp here with ⟨absent, -⟩ | ⟨trial, ruling, applies, ruled, passes, -⟩
      · -- No route is there to bypass the gate or to stand in for its lists.
        simp [Check.trial, gated, client, attributed, routeless.bypassed arrives,
          (routeless.arrives arrives).2] at absent
      · simp only [Check.trial, gated, client, attributed, routeless.bypassed arrives,
          (routeless.arrives arrives).2, Option.bind_eq_bind, Option.bind_some, Bool.not_false,
          Bool.and_self, if_true, Option.some.injEq] at applies
        subst applies
        cases judged : gate.evaluate ip with
        | allowed decision =>
          simp only [judged] at ruled
          cases ruled
          cases passes
          refine ⟨by simp only [judged]; rfl, ?_⟩
          rintro _ ⟨⟩ _ ⟨⟩
          exact .inr ⟨decision, judged⟩
        | denied denial =>
          simp only [judged] at ruled
          cases passive : service.layer.passiveMode with
          | true =>
            simp only [passive, if_true] at ruled
            cases ruled
            cases passes
            exact ⟨by simp only [judged]; exact own, fun _ _ _ _ => .inl rfl⟩
          | false =>
            -- An active gate does not let a denied client pass.
            simp only [passive] at ruled
            cases ruled
            cases passes

/-- Behind the gate its decision is in the parts. -/
theorem Routeless.decision {built : Built W} (routeless : Routeless service request)
    (installed : service.layer.ipGate = built.ipGate)
    (arrives : k.MayArrive E service request χ) (behind : Check.ipGate.position < k.position) :
    χ.parts.extensions.gateDecision = built.decision request := by
  obtain ⟨front, back, past, split, passed⟩ := arrives
  have member := (Check.position_lt_iff split).mp behind
  obtain ⟨χ₁, s, χ₂, s', t, gated, here, -, settled⟩ := passed.through ⟨_, split.symm⟩ member
  rw [settled.parts (Nat.le_refl _)]
  exact (routeless.ipGate installed gated here).1

end Routeless

/-! ### The scan -/

section Scan

variable {E : Engine W} {service : GuardService W} {χ χ' : Locals W} {trial : Trial W}
  {s s' : Store W}

/-- What shows as a pass is a ruling that goes on. -/
theorem Ruling.passing_of_shown {shown : Option (Ruling W)}
    (passes : Verdict.ofRuling shown = .passed ∨ Verdict.ofRuling shown = .flagged) :
    ∃ ruling next, shown = some ruling ∧ ruling.next? = some next := by
  cases shown with
  | none => simp [Verdict.ofRuling] at passes
  | some ruling =>
    cases ruling with
    | pass next => exact ⟨_, next, rfl, rfl⟩
    | flag next => exact ⟨_, next, rfl, rfl⟩
    | deny early payload => simp [Verdict.ofRuling] at passes
    | recover early => simp [Verdict.ofRuling] at passes

/-- A scan that passes has returned a verdict, and a threat is kept in the locals. -/
theorem scan_returned (applies : Check.scan.trial E service χ = some trial) {ruling : Ruling W}
    (ruled : trial.ruling s = (some ruling, s')) (passes : ruling.next? = some χ') :
    ∃ verdict, (service.layer.scanFn (scanSurfaces χ.parts χ.buffered)
        (scanExclusions E service.layer χ.parts) service.layer.config s.other).1 = some verdict ∧
      Verdict.ofRuling (some ruling) = .ofScan (some verdict) ∧
      (verdict.isThreat = true → χ'.verdict = some verdict) := by
  obtain ⟨-, ⟨⟩⟩ := Option.ite_none_left_eq_some.mp applies
  dsimp only [onOther] at ruled
  rcases said : service.layer.scanFn (scanSurfaces χ.parts χ.buffered)
    (scanExclusions E service.layer χ.parts) service.layer.config s.other with
    ⟨_ | verdict, other⟩ <;> rw [said] at ruled
  · -- A scan that panicked is recovered into a denial.
    cases ruled
    cases passes
  · refine ⟨verdict, rfl, ?_⟩
    dsimp only at ruled
    split at ruled
    next threat =>
      cases ruled
      cases passes
      exact ⟨by simp [Verdict.ofRuling, Verdict.ofScan, threat], fun _ => rfl⟩
    next clean =>
      cases ruled
      exact ⟨by simp [Verdict.ofRuling, Verdict.ofScan, clean], fun threat => absurd threat clean⟩

/-- What is scanned are the surfaces of the request as it came, with its whole body. -/
theorem Check.MayArrive.scanned {request : Request W}
    (arrives : Check.scan.MayArrive E service request χ) :
    scanSurfaces χ.parts χ.buffered = scanSurfaces request.toParts (some request.body.content) ∧
      scanExclusions E service.layer χ.parts =
        scanExclusions E service.layer request.toParts := by
  have carried := arrives.of.carried
  have exclusions := congrArg (scanExclusions E service.layer) carried
  refine ⟨?_, exclusions⟩
  obtain ⟨front, back, past, split, passed⟩ := arrives
  have read : χ.buffered.getD [] = request.body.content :=
    passed.buffered ((Check.position_lt_iff split).mp (by decide))
  have surfaces := congrArg (scanSurfaces · (some request.body.content)) carried
  refine Eq.trans ?_ surfaces
  rw [← read]
  cases χ.buffered <;> rfl

end Scan

/-! ### Calls that are through -/

section Through

variable {E : Engine W} {s : Store W} {moves : List (Move (Job W) (Store W))} {i : Nat}
  {service : GuardService W} {request : Request W} {k : Check} {past : List (Event W)}
  {χ : Locals W}

variable (E s moves i service request past χ) in
/-- A call without a route is through its checks, and what it was asked, it was asked at moments
of the run. -/
structure Through : Prop where
  routeless : Routeless service request
  passed : Check.Passed E service request Check.pipeline past χ
  asked : ∀ event ∈ past, ∀ k, event.consult.check = some k → ∃ (χ₁ : Locals W) (trial : Trial W),
    k.MayArrive E service request χ₁ ∧ k.trial E service χ₁ = some trial ∧
    trial.question = event.consult ∧ Pool.During (Job.future E) s moves i fun s =>
      Verdict.ofRuling (trial.ruling s).1 = event.verdict

namespace Through

variable (through : Through E s moves i service request past χ)

include through

/-- A check that is due has let the request pass, and ruled the same at a moment of the run. -/
theorem ruled (due : ∀ χ, k.MayArrive E service request χ → (k.trial E service χ).isSome = true) :
    ∃ χ₁ trial ruling s₁ s₂ χ₂, k.MayArrive E service request χ₁ ∧
      k.trial E service χ₁ = some trial ∧ trial.ruling s₁ = (some ruling, s₂) ∧
      ruling.next? = some χ₂ ∧ Settled k χ₂ χ ∧
      ∃ (χ₃ : Locals W) (trial₃ : Trial W), k.MayArrive E service request χ₃ ∧
        k.trial E service χ₃ = some trial₃ ∧ trial₃.question = trial.question ∧
        Pool.During (Job.future E) s moves i fun s =>
          Verdict.ofRuling (trial₃.ruling s).1 = .ofRuling (some ruling) := by
  obtain ⟨χ₁, s₁, χ₂, s₂, t, arrives, here, seen, settled⟩ :=
    through.passed.through List.prefix_rfl (Check.mem_pipeline k)
  rcases run_pass_iff.mp here with ⟨absent, -⟩ | ⟨trial, ruling, applies, ruled, passes, rfl⟩
  · have asks := due χ₁ arrives
    rw [absent] at asks
    cases asks
  · exact ⟨χ₁, trial, ruling, s₁, s₂, χ₂, arrives, applies, ruled, passes, settled,
      through.asked _ (seen List.mem_cons_self) k (trial_question applies)⟩

/-- A screen that is due, with its decision read off its question, has let the request pass. -/
theorem screened {α : Type} {decision : Consult W → Call (Store W) (Option α)}
    (due : ∀ χ, k.MayArrive E service request χ → ∃ question early,
      k.trial E service χ = some (.screen χ question (decision question) early)) :
    ∃ (χ₁ : Locals W) (trial : Trial W), k.MayArrive E service request χ₁ ∧ Settled k χ₁ χ ∧
      k.trial E service χ₁ = some trial ∧ Pool.During (Job.future E) s moves i fun s =>
        (decision trial.question s).1 = some none := by
  obtain ⟨χ₁, trial, ruling, s₁, s₂, χ₂, arrives, applies, ruled, passes, settled, χ₃, trial₃,
    arrives₃, applies₃, asked, during⟩ := through.ruled fun χ arrives => by
      obtain ⟨question, early, screens⟩ := due χ arrives
      rw [screens]
      rfl
  refine ⟨χ₁, trial, arrives, ?_, applies, during.mono fun s verdict => ?_⟩
  · obtain ⟨question, early, screens⟩ := due χ₁ arrives
    cases screens.symm.trans applies
    rw [← (Trial.screen_next ruled passes).1]
    exact settled
  · -- The question put at that moment is the call's own.
    obtain ⟨question, early, screens⟩ := due χ₃ arrives₃
    cases screens.symm.trans applies₃
    have let_pass := Ruling.shows_passing passes
    rw [← verdict] at let_pass
    rw [← asked]
    exact Trial.screen_let_pass let_pass

/-- A finding that the scan left gets past detection in passive mode only. -/
theorem bears : service.stage.Bears (threatFinding χ.verdict) := by
  intro found
  obtain ⟨χ₁, s₁, χ₂, s₂, t, -, here, -, settled⟩ :=
    through.passed.through List.prefix_rfl (Check.mem_pipeline .detection)
  have kept : χ.verdict = χ₁.verdict :=
    (settled.verdict (by decide)).trans ((run_frame here).verdict (by decide))
  rw [kept] at found
  cases left : χ₁.verdict with
  | none => rw [left] at found; cases found
  | some verdict =>
    rcases run_pass_iff.mp here with ⟨absent, -⟩ | ⟨trial, ruling, applies, ruled, passes, -⟩
    · simp [Check.trial, left] at absent
    · simp only [Check.trial, left, Option.map_some, Option.some.injEq] at applies
      subst applies
      cases passive : service.stage.config.passiveMode with
      | true => rfl
      | false =>
        simp only [passive] at ruled
        cases ruled
        cases passes

/-- The scan saw the surfaces and the whole body, and a request that it flagged gets past in passive
mode only. -/
theorem detection (on : detectionOff E service.layer none = false) :
    Pool.During (Job.future E) s moves i fun s => ∃ verdict,
      (service.layer.scanFn (scanSurfaces request.toParts (some request.body.content))
        (scanExclusions E service.layer request.toParts) service.layer.config s.other).1 =
          some verdict ∧
      (verdict.isThreat = true → service.stage.config.passiveMode = true) := by
  have due (χ : Locals W) (arrives : Check.scan.MayArrive E service request χ) :
      (Check.scan.trial E service χ).isSome = true := by
    simp [Check.trial, (through.routeless.arrives arrives).1, on]
  obtain ⟨χ₁, trial, ruling, s₁, s₂, χ₂, arrives, applies, ruled, passes, settled, χ₃, trial₃,
    arrives₃, applies₃, asked, during⟩ := through.ruled due
  obtain ⟨found, -, shows, kept⟩ := scan_returned applies ruled passes
  obtain ⟨surfaces, exclusions⟩ := arrives₃.scanned
  refine during.mono fun s verdict => ?_
  have let_pass := Ruling.shows_passing passes
  rw [← verdict] at let_pass
  obtain ⟨ruling₃, χ₄, said, passes₃⟩ := Ruling.passing_of_shown let_pass
  obtain ⟨found₃, returned, shows₃, -⟩ :=
    scan_returned applies₃ (Prod.ext said rfl : trial₃.ruling s = (some ruling₃, _)) passes₃
  rw [surfaces, exclusions] at returned
  refine ⟨found₃, returned, fun threat => through.bears ?_⟩
  -- The call's own scan ruled the same, so that the finding is still there.
  have own : found.isThreat = true := by
    by_contra clean
    rw [← verdict, said, shows₃] at shows
    simp [Verdict.ofScan, threat, clean] at shows
  rw [settled.verdict (Nat.le_refl _), kept own]
  rfl

end Through

end Through

/-! ### What is due -/

section Due

variable {E : Engine W} {service : GuardService W} {request : Request W} {χ : Locals W}

/-- The finding a question is put with. -/
def Consult.finding : Consult W → Option ThreatFinding
  | .userAgent _ _ finding | .rateLimit _ _ finding => finding
  | _ => none

theorem Locals.Of.observation (of : χ.Of request) :
    requestObservation χ.parts = requestObservation request.toParts := by
  have carried := congrArg requestObservation of.carried
  exact carried

theorem emergencyMode_due {mode : EmergencyModeStage W}
    (installed : service.layer.emergencyMode = some mode)
    (arrives : Check.emergencyMode.MayArrive E service request χ) : ∃ question early,
      Check.emergencyMode.trial E service χ = some (.screen χ question
        (onOther (mode.decide request.facts.attributed request.facts.ipString request.facts.path
          request.facts.method)) early) := by
  have facts : χ.facts = request.facts := arrives.of.facts
  refine ⟨.emergencyMode request.facts.attributed,
    fun answer => χ.parts.block answer.status answer.body, ?_⟩
  simp only [Check.trial, installed, facts, Option.map_some]

theorem httpsEnforcement_due (routeless : Routeless service request)
    {stage : HttpsEnforcementStage W} (installed : service.layer.httpsEnforcement = some stage)
    (arrives : Check.httpsEnforcement.MayArrive E service request χ) : ∃ question early,
      Check.httpsEnforcement.trial E service χ = some (.screen χ question
        (onOther (stage.decide request.facts.path request.facts.scheme
          (request.facts.host.map hostOfAuthority) request.facts.xForwardedProto
          request.facts.httpsUrl)) early) := by
  have facts : χ.facts = request.facts := arrives.of.facts
  have route := (routeless.arrives arrives).1
  refine ⟨.httpsEnforcement (request.facts.host.map hostOfAuthority)
    request.facts.xForwardedProto none, fun answer => .answered χ.parts (.redirect answer), ?_⟩
  simp only [Check.trial, installed, route, facts]

theorem bans_due (routeless : Routeless service request)
    (arrives : Check.bans.MayArrive E service request χ) : ∃ question early,
      Check.bans.trial E service χ = some (.screen χ question
        (service.stage.decideBansObserved request.facts.ip
          (some (requestObservation request.toParts))) early) := by
  have facts : χ.facts = request.facts := arrives.of.facts
  refine ⟨.bans request.facts.ip, fun blocked => .answered χ.parts (.stage blocked), ?_⟩
  simp only [Check.trial, routeless.bypassed arrives, facts, arrives.of.observation]
  rfl

theorem userAgent_due {agents : UserAgentStage W}
    (installed : service.layer.userAgent = some agents)
    (arrives : Check.userAgent.MayArrive E service request χ) : ∃ question early,
      Check.userAgent.trial E service χ = some (.screen χ question
        (agents.decide request.facts.ip request.facts.gate (some request.facts.path)
          request.facts.userAgent question.finding) early) ∧
      question.finding = threatFinding χ.verdict := by
  have facts : χ.facts = request.facts := arrives.of.facts
  refine ⟨.userAgent request.facts.ip request.facts.gate (threatFinding χ.verdict),
    χ.parts.blockStage, ?_, rfl⟩
  simp only [Check.trial, installed, facts, Option.map_some, Consult.finding]

theorem rateLimit_due (routeless : Routeless service request) {built : Built W}
    (installed : service.layer.ipGate = built.ipGate)
    (arrives : Check.rateLimit.MayArrive E service request χ) : ∃ question early,
      Check.rateLimit.trial E service χ = some (.screen χ question
        (service.stage.decideTiersObserved request.facts.ip (some request.facts.path)
          request.extensions.rateLimits (built.decision request) question.finding
          (some (requestObservation request.toParts))) early) ∧
      question.finding = threatFinding χ.verdict := by
  have facts : χ.facts = request.facts := arrives.of.facts
  have limits : χ.parts.extensions.rateLimits = request.extensions.rateLimits :=
    congrArg (fun parts => parts.extensions.rateLimits) arrives.of.carried
  have tiers : carrierTiers χ.route = .ok none := by rw [(routeless.arrives arrives).1]; rfl
  refine ⟨.rateLimit request.facts.ip (built.decision request) (threatFinding χ.verdict),
    fun blocked => .answered χ.parts (.stage blocked), ?_, rfl⟩
  simp only [Check.trial, tiers, routeless.bypassed arrives, facts, arrives.of.observation, limits,
    routeless.decision installed arrives (by decide), Option.none_or, Consult.finding]
  rfl

/-- A body that is buffered fits the cap. -/
theorem bodyBuffering_fits {χ' : Locals W} {s s' : Store W} {t : List (Event W)}
    (arrives : Check.bodyBuffering.MayArrive E service request χ)
    (here : Check.bodyBuffering.run E service χ s = ⟨.pass χ', s', t⟩) :
    request.body.content.length ≤ bodyCap E service.layer χ.route := by
  apply content_le_of_bufferBody_isOk
  rw [← arrives.of.body]
  rcases run_pass_iff.mp here with ⟨absent, -⟩ | ⟨trial, ruling, applies, ruled, passes, -⟩
  · simp only [Check.trial] at absent
    cases absent
  · simp only [Check.trial, Option.some.injEq] at applies
    split at applies
    next buffered unread read => rw [read]; rfl
    next => subst applies; cases ruled; cases passes
    next => subst applies; cases ruled; cases passes

end Due

/-! ### Configured layers -/

section Configured

variable {E : Engine W} {C : Constructors W} {stores : Allocation} {config : SecurityConfig W}
  {built : Built W} {inner : InnerService W} {s : Store W} {moves : List (Move (Job W) (Store W))}
  {i : Nat} {request : Request W} {past : List (Event W)} {χ : Locals W}

/-- A call that is through a configured layer has been let pass by all that is configured. -/
theorem Through.enforced (through : Through E s moves i
      ((config.assemble E C stores built).wrap E inner) request past χ) :
    config.Enforced E built ((config.assemble E C stores built).buildStage E) request
      (Pool.During (Job.future E) s moves i) where
  ipLists := by
    obtain ⟨χ₁, s₁, χ₂, s₂, t, arrives, here, -, -⟩ :=
      through.passed.through List.prefix_rfl (Check.mem_pipeline .ipGate)
    exact (through.routeless.ipGate rfl arrives here).2
  emergencyMode := by
    intro mode installed
    obtain ⟨-, -, -, -, -, during⟩ := through.screened fun χ => emergencyMode_due installed
    exact during
  https := by
    obtain ⟨-, -, -, -, -, during⟩ :=
      through.screened fun χ => httpsEnforcement_due through.routeless rfl
    exact during
  body := by
    obtain ⟨χ₁, s₁, χ₂, s₂, t, arrives, here, -, -⟩ :=
      through.passed.through List.prefix_rfl (Check.mem_pipeline .bodyBuffering)
    have fits := bodyBuffering_fits arrives here
    rw [(through.routeless.arrives arrives).1] at fits
    exact fits
  detection := by
    intro on
    have off : detectionOff E ((config.assemble E C stores built).wrap E inner).layer none =
        !E.detectionEnabled config.enablePenetrationDetection none := rfl
    exact through.detection (by rw [off, on]; rfl)
  bans := by
    obtain ⟨-, -, -, -, -, during⟩ := through.screened fun χ => bans_due through.routeless
    exact during
  userAgents := by
    intro agents installed
    obtain ⟨χ₁, trial, arrives, settled, applies, during⟩ := through.screened fun χ arrives =>
      (userAgent_due installed arrives).imp fun _ => Exists.imp fun _ => And.left
    obtain ⟨question, early, screens, found⟩ := userAgent_due installed arrives
    cases screens.symm.trans applies
    rw [Trial.screen_question, found, ← settled.verdict (by decide)] at during
    exact ⟨_, through.bears, during⟩
  rateLimit := by
    obtain ⟨χ₁, trial, arrives, settled, applies, during⟩ := through.screened fun χ arrives =>
      (rateLimit_due through.routeless rfl arrives).imp fun _ => Exists.imp fun _ => And.left
    obtain ⟨question, early, screens, found⟩ := rateLimit_due through.routeless rfl arrives
    cases screens.symm.trans applies
    rw [Trial.screen_question, found, ← settled.verdict (by decide)] at during
    exact ⟨_, through.bears, during⟩

end Configured

variable {E : Engine W} {C : Constructors W} {stores : Allocation} {config : SecurityConfig W}
  {layer : GuardLayer W} {inner : InnerService W} {s : Store W}
  {moves : List (Move (Job W) (Store W))} {pool : Calls W} {shown : List (Nat × Event W)}

/-- In every interleaving a request without a route of its own that a configured layer hands over
is on an excluded path, or has been let pass by everything the configuration asks for, each
protection at a moment of the call. -/
theorem interleaved_configuration_enforced
    (constructed : fromSecurityConfig E C stores config = .ok layer)
    (ran : Machine.run (calls E) (.empty s) moves = some (pool, shown)) {i : Nat} {task}
    (found : pool.tasks[i]? = some task) (wrapped : task.job.service = layer.wrap E inner)
    (carrier : task.job.request.extensions.routeConfig = none) {r : Request W}
    (handed : r ∈ handedOver (Pool.own i shown)) :
    config.excludePaths.contains task.job.request.uri.path = true ∨
      ∃ built, config.build E C stores = .ok built ∧
        config.Enforced E built (layer.buildStage E) task.job.request
          (Pool.During (Job.future E) s moves i) := by
  rw [fromSecurityConfig_eq, map_ok_iff] at constructed
  obtain ⟨built, answered, rfl⟩ := constructed
  rw [← Pool.past_eq_own ran found] at handed
  have sound := run_sound ran task (List.mem_of_getElem? found)
  cases sound with
  | kept none => rw [none] at handed; cases handed
  | @handed earlier past r' verdict admitted behind =>
    cases admitted with
    | excluded listed =>
      rw [wrapped] at listed
      exact .inl listed
    | @cleared past χ passed =>
      obtain ⟨later, whole, -⟩ := behind
      have front : earlier <+: task.past := ⟨_, by rw [whole, List.append_assoc]⟩
      have asked : ∀ event ∈ earlier, ∀ k, event.consult.check = some k →
          ∃ (χ₁ : Locals W) (trial : Trial W),
            k.MayArrive E task.job.service task.job.request χ₁ ∧
            k.trial E task.job.service χ₁ = some trial ∧ trial.question = event.consult ∧
            Pool.During (Job.future E) s moves i fun s =>
              Verdict.ofRuling (trial.ruling s).1 = event.verdict := by
        intro event seen k own
        obtain ⟨here, χ₁, trial, moment, arrives, applies, rfl⟩ :=
          asked_when ran found (front.subset seen) own
        exact ⟨χ₁, trial, arrives, applies, rfl, here, moment, rfl⟩
      rw [wrapped] at passed asked
      have through : Through E s moves i ((config.assemble E C stores built).wrap E inner)
          task.job.request earlier χ := ⟨⟨rfl, carrier⟩, passed, asked⟩
      exact .inr ⟨built, answered, through.enforced⟩

/-! ### An emergency -/

/-- Lists, limits, bans and blocked agents, in an emergency with one client admitted. -/
def emergencyConfig : SecurityConfig Bench.world :=
  { Bench.banning [] with
    blacklist := ["203.0.113.9"]
    enableRateLimiting := true
    emergencyMode := true
    emergencyWhitelist := [Bench.client.display]
    blockedUserAgents := ["scraper"] }

def emergencyLayer : GuardLayer Bench.world :=
  (fromSecurityConfig Bench.engine Bench.constructors Bench.stores emergencyConfig).toOption.getD
    Bench.layer

/-- The admitted client uploads a body in two parts, and another request comes in between. -/
def emergencyUploads : List (Move (Job Bench.world) (Store Bench.world)) :=
  let service := emergencyLayer.wrap Bench.engine Bench.ok
  [.start ⟨service, Bench.request "POST" "/upload" none
      [.data (bytesOf "he"), .pending, .data (bytesOf "llo")]⟩,
    .start ⟨service, Bench.request "GET" "/page" none []⟩] ++
    List.replicate 12 (.step 0) ++ List.replicate 30 (.step 1) ++ List.replicate 21 (.step 0)

theorem emergency_configuration_enforced : ∃ pool shown task built,
    Machine.run (calls Bench.engine) (.empty Bench.start) emergencyUploads = some (pool, shown) ∧
      pool.tasks[0]? = some task ∧ handedOver (Pool.own 0 shown) ≠ [] ∧
      emergencyConfig.Enforced Bench.engine built (emergencyLayer.buildStage Bench.engine)
        task.job.request
        (Pool.During (Job.future Bench.engine) Bench.start emergencyUploads 0) := by
  have one : (Machine.run (calls Bench.engine) (.empty Bench.start) emergencyUploads).map
      (fun run => (handedOver (Pool.own 0 run.2)).length) = some 1 := by
    decide +kernel
  obtain ⟨⟨pool, shown⟩, ran, handed⟩ := Option.map_eq_some_iff.mp one
  obtain ⟨_, _, _, ⟨⟩, rest, -⟩ := Machine.run_cons_iff.mp ran
  have placed := Pool.run_job (j := 0) rest rfl
  obtain ⟨task, found, job⟩ := Option.map_eq_some_iff.mp placed
  obtain ⟨r, member⟩ := List.exists_mem_of_length_pos (Nat.lt_of_lt_of_eq Nat.one_pos handed.symm)
  have wrapped : task.job.service = emergencyLayer.wrap Bench.engine Bench.ok :=
    congrArg Job.service job
  have carrier : task.job.request.extensions.routeConfig = none :=
    congrArg (fun job => job.request.extensions.routeConfig) job
  have enforced := interleaved_configuration_enforced
    (rfl : fromSecurityConfig Bench.engine Bench.constructors Bench.stores emergencyConfig =
      .ok emergencyLayer) ran found wrapped carrier member
  rcases enforced with excluded | ⟨built, -, enforced⟩
  · cases excluded
  · exact ⟨pool, shown, task, built, ran, found, List.ne_nil_of_mem member, enforced⟩

end TowerGuard
