import TowerGuard.Arrival
import TowerGuard.Engine.Bench

/-!
# Failing securely

Only the scan and the response modifier run under a panic guard, and a status that is no
HTTP status has no rendering. Every other panic of a collaborator, and every such status,
unwinds the request.
-/

namespace TowerGuard

open Text Traced

variable {W : World}

/-! ### The response side -/

/-- What the guard calls on the response side returns: the processor, the event bus and the
hooks. The wrapped service returns too; the modifier may do as it likes. -/
structure GuardService.ResponseSideReturns (E : Engine W) (service : GuardService W) : Prop where
  process : ∀ processor, service.layer.responseProcessor = some processor →
    ∀ request bits now s, (processor.process request bits now s).1.isSome = true
  events : ∀ bus, service.layer.events = some bus →
    ∀ event s, (bus.sendEvent event s).1.isSome = true
  onError : ∀ hook, service.layer.onError = some hook →
    ∀ stage error context s, (hook stage error context s).1.isSome = true
  onBlock : ∀ payload s, (E.fireBlockHook service.layer.onBlock payload s).1.isSome = true
  inner : ∀ request s, (service.inner.call request s).1.isSome = true

/-- The answer has an HTTP status. -/
def Answer.renderable : Answer → Bool
  | .preflight answer => (StatusCode.fromU16 answer.statusCode).isSome
  | .block status _ => (StatusCode.fromU16 status).isSome
  | .redirect answer => (StatusCode.fromU16 answer.status).isSome
  | .gate _ | .stage _ | .oversize | .failure => true

def Early.renderable : Early W → Bool
  | .excluded _ => true
  | .answered _ answer => answer.renderable

section Render

variable {ε α : Type} {E : Engine W} {service : GuardService W}

theorem notify_returns {c : Consult W} {call : Call W.Other α}
    (h : ∀ s, (call s).1.isSome = true) :
    Prog.Returns (notify c call : Prog (Store W) (Event W) ε α) :=
  .ask fun s => h s.other

variable (returns : service.ResponseSideReturns E)

include returns

theorem applyResponseProcessor_returns {input : RequestBits} {status : Nat} {headers : HeaderMap}
    {lane : ResponseLane} : Prog.Returns
      (applyResponseProcessor E service.layer input status headers lane :
        Prog (Store W) (Event W) ε (Option Nat × HeaderMap)) := by
  unfold applyResponseProcessor
  split
  · exact .pure
  -- In the order of the pass: the processor, the event, the modifier under its panic guard.
  next processor installed =>
    refine .bind .reads fun now => .bind
      (.ask fun s => returns.process processor installed _ _ _ s.other)
      fun answer => .bind ?_ fun _ => .bind ?_ fun _ => .pure
    · unfold emitHeadersAppliedEvent
      split
      · split
        next config bus _ bound => exact notify_returns (returns.events bus bound _)
        · exact .pure
      · exact .pure
    · unfold runModifier
      split
      · exact .pure
      · refine .bind .caught_ask fun modified => ?_
        split
        · exact .pure
        · split
          next hook bound =>
            exact .bind (notify_returns (returns.onError hook bound _ _ _)) fun _ => .pure
          · exact .pure

theorem passGenerated_returns {parts : Parts W} {generated : Generated} :
    Prog.Returns (passGenerated E service.layer parts generated :
      Prog (Store W) (Event W) ε Generated) :=
  .bind (applyResponseProcessor_returns returns) fun _ => .pure

theorem finishGenerated_returns {parts : Parts W} {generated : Generated} :
    Prog.Returns (finishGenerated E service.layer parts generated :
      Prog (Store W) (Event W) ε (Response W)) :=
  .bind (passGenerated_returns returns) fun _ => .pure

/-- An answer renders when its status is an HTTP status. -/
theorem render_returns {parts : Parts W} {answer : Answer} (h : answer.renderable = true) :
    Prog.Returns (render E service.layer parts answer :
      Prog (Store W) (Event W) ε (Response W)) := by
  cases answer with
  | preflight answer =>
    -- The rendering is the one place where a status can fail.
    refine .bind (.expect ?_) fun _ => .pure
    simpa [Generated.preflight, Generated.blockedWithBody, Answer.renderable] using h
  | block status body =>
    refine .bind (.expect ?_) fun _ => finishGenerated_returns returns
    simpa [Generated.blockedWithBody, Answer.renderable] using h
  | gate body =>
    exact .bind (.expect rfl) fun _ => .bind (passGenerated_returns returns) fun _ =>
      finishGenerated_returns returns
  | stage response => exact finishGenerated_returns returns
  | redirect answer =>
    refine .bind (.expect ?_) fun _ => finishGenerated_returns returns
    simpa [Generated.redirect, Answer.renderable] using h
  | oversize => exact finishGenerated_returns returns
  | failure => exact finishGenerated_returns returns

theorem fireBlock_returns {payload : Option BlockPayload} :
    Prog.Returns (fireBlock E service.layer payload : Prog (Store W) (Event W) ε Unit) := by
  cases payload with
  | none => exact .pure
  | some payload => exact notify_returns (returns.onBlock payload)

theorem forward_returns {facts : RequestFacts} {parts : Parts W} {buffered : Option Bytes} :
    Prog.Returns (forward E service.layer facts parts buffered service.inner :
      Prog (Store W) (Event W) ε (Except W.InnerError (Response W))) := by
  refine .bind (.ask (returns.inner _)) fun answer => ?_
  cases answer with
  | error error => exact .pure
  | ok response => exact .bind (applyResponseProcessor_returns returns) fun _ => .pure

theorem conclude_returns {facts : RequestFacts} {early : Early W}
    (h : early.renderable = true) :
    Prog.Returns (service.conclude E facts early :
      Prog (Store W) (Event W) ε (Except W.InnerError (Response W))) := by
  cases early with
  | excluded parts => exact forward_returns returns
  | answered parts answer => exact .bind (render_returns returns h) fun _ => .pure

end Render

/-- A status that is no HTTP status panics in the rendering. -/
theorem render_unwinds {ε : Type} {E : Engine W} {layer : GuardLayer W} {parts : Parts W}
    {answer : Answer} (h : answer.renderable = false) (s : Store W) :
    (render E layer parts answer s : Run (Store W) (Event W) ε (Response W)) =
      ⟨.unwound, s, []⟩ := by
  cases answer with
  | preflight answer =>
    have none_ : Generated.preflight answer = none := by
      simpa [Generated.preflight, Generated.blockedWithBody, Answer.renderable] using h
    exact Prog.bind_unwound (by rw [none_]; rfl)
  | block status body =>
    have none_ : Generated.blockedWithBody status body = none := by
      simpa [Generated.blockedWithBody, Answer.renderable] using h
    exact Prog.bind_unwound (by rw [none_]; rfl)
  | redirect answer =>
    have none_ : Generated.redirect answer = none := by
      simpa [Generated.redirect, Answer.renderable] using h
    exact Prog.bind_unwound (by rw [none_]; rfl)
  | _ => cases h

/-! ### The property -/

/-- The run answers with the guard's 500 and never hands the request over. -/
def GuardError (E : Engine W) (service : GuardService W) (request : Request W)
    (s : Store W) : Prop :=
  handedOver (service.call E request s).trace = [] ∧
    ∃ parts s' t, service.call E request s =
      ((do let response ← render E service.layer parts .failure; pure (.ok response) :
        Prog (Store W) (Event W) Empty (Except W.InnerError (Response W))) s').after t

/-- The request completes, and a check that panicked or whose answer has no rendering makes
it the guard's error answer. -/
structure FailSecure (E : Engine W) (service : GuardService W) (request : Request W)
    (s : Store W) : Prop where
  completes : ∃ answer, (service.call E request s).flow = .pass answer
  panicked : ∀ event ∈ (service.call E request s).trace, event.consult.check.isSome = true →
    event.verdict = .panicked → GuardError E service request s
  unrendered : ∀ k early payload s',
    Check.ending E service Check.pipeline (.start request) s = (.denied k early payload, s') →
    early.renderable = false → GuardError E service request s

/-- The check's collaborator returns, and a denial of its has an HTTP status. -/
def Check.Returns (E : Engine W) (service : GuardService W) (k : Check) (χ : Locals W)
    (s : Store W) : Prop :=
  ∀ trial, k.trial E service χ = some trial → ∃ ruling, (trial.ruling s).1 = some ruling ∧
    ∀ early payload, ruling = .deny early payload → early.renderable = true

section Ends

variable {E : Engine W} {service : GuardService W} {request : Request W} {s s' s'' : Store W}
  {k : Check} {χ : Locals W} {trial : Trial W} {early : Early W} {payload : Option BlockPayload}

theorem call_flow : (service.call E request s).flow = (service.answerTo E
    (.extract request.toParts)
    (Check.ending E service Check.pipeline (.start request) s)).flow := by
  obtain ⟨t, -, answered, -⟩ := call_ending E service request s
  rw [answered, Run.after_flow]

/-- A panicking collaborator unwinds the request. -/
theorem call_unwinds_of_panic (arrives : k.Arrives E service request s χ s')
    (applies : k.trial E service χ = some trial) (ruled : trial.ruling s' = (none, s'')) :
    (service.call E request s).flow = .unwound := by
  obtain ⟨back, ended⟩ := ending_of_reaches arrives
  rw [call_flow, ended]
  simp only [Check.ending, applies, ruled]
  rfl

/-- So does a denial without a rendering, whether or not the block hook returns. -/
theorem call_unwinds_of_status (arrives : k.Arrives E service request s χ s')
    (applies : k.trial E service χ = some trial)
    (ruled : trial.ruling s' = (some (.deny early payload), s''))
    (unfit : early.renderable = false) : (service.call E request s).flow = .unwound := by
  obtain ⟨back, ended⟩ := ending_of_reaches arrives
  rw [call_flow, ended]
  simp only [Check.ending, applies, ruled, GuardService.answerTo]
  obtain ⟨s₁, t, -, fired | fired⟩ := fireBlock_cases E service.layer payload s''
  · rw [Prog.bind_pass (fired _), Run.after_flow]
    cases early with
    | excluded parts => cases unfit
    | answered parts answer =>
      rw [GuardService.conclude, Prog.bind_unwound (render_unwinds unfit s₁)]
  · rw [Prog.bind_unwound (fired _)]

/-- A recovered panic is the scan's, and answers with the guard's 500. -/
theorem guardError_of_recovered (arrives : k.Arrives E service request s χ s')
    (applies : k.trial E service χ = some trial)
    (ruled : trial.ruling s' = (some (.recover early), s'')) :
    early = .answered χ.parts .failure ∧ GuardError E service request s := by
  obtain ⟨back, ended⟩ := ending_of_reaches arrives
  simp only [Check.ending, applies, ruled] at ended
  obtain ⟨-, rfl⟩ := trial_recovers applies ruled
  refine ⟨rfl, ?_, χ.parts, s'', ?_⟩
  · rw [call_handedOver, ended]
    rfl
  · obtain ⟨t, -, answered, -⟩ := call_ending E service request s
    refine ⟨t, ?_⟩
    rw [answered, ended]
    rfl

end Ends

/-- A request fails securely only when every check it arrives at, but for the scan's own
panic, returns with an HTTP status; where the response side returns, exactly then. -/
theorem call_fail_secure_iff (E : Engine W) (service : GuardService W) (request : Request W)
    (s : Store W) :
    let sound := ∀ k χ s', Check.Arrives E service request s k χ s' → k.Returns E service χ s'
    (FailSecure E service request s → sound) ∧
      (service.ResponseSideReturns E → (FailSecure E service request s ↔ sound)) := by
  intro sound
  have necessary : FailSecure E service request s → sound := by
    rintro ⟨⟨answer, completes⟩, -, -⟩ k χ s' arrives trial applies
    rcases ruled : trial.ruling s' with ⟨_ | ruling, s''⟩
    · rw [call_unwinds_of_panic arrives applies ruled] at completes
      cases completes
    · refine ⟨ruling, rfl, fun early payload denied => ?_⟩
      subst denied
      rcases fit : early.renderable with _ | _
      · rw [call_unwinds_of_status arrives applies ruled fit] at completes
        cases completes
      · rfl
  refine ⟨necessary, fun returns => ⟨necessary, fun sound => ?_⟩⟩
  have ends := ending_ends E service Check.pipeline (.start request) s
  -- Whoever denies has an HTTP status: the checks by assumption, the recovered scan with its 500.
  have renders : ∀ {k early payload s'},
      Check.ending E service Check.pipeline (.start request) s = (.denied k early payload, s') →
      early.renderable = true := by
    intro k early payload s' ended
    rw [ended] at ends
    cases ends with
    | denied arrives applies ruled =>
      obtain ⟨ruling, answered, fit⟩ := sound _ _ _ arrives _ applies
      rw [ruled] at answered
      cases answered
      exact fit early payload rfl
    | recovered arrives applies ruled =>
      rw [(guardError_of_recovered arrives applies ruled).1]
      rfl
  refine ⟨?_, ?_, fun k early payload s' ended unfit => ?_⟩
  · have passes : (service.call E request s).flow.passes = true := by
      rw [call_flow]
      -- No ending unwinds: a forward and an answer return, and nobody panicked.
      rcases ended : Check.ending E service Check.pipeline (.start request) s with
        ⟨final | ⟨k, early, payload⟩ | k, s'⟩
      · exact forward_returns returns s'
      · exact Prog.Returns.bind (fireBlock_returns returns)
          (fun _ => conclude_returns returns (renders ended)) s'
      · rw [ended] at ends
        cases ends with
        | panicked arrives applies ruled =>
          obtain ⟨ruling, answered, -⟩ := sound _ _ _ arrives _ applies
          rw [ruled] at answered
          cases answered
    cases flow : (service.call E request s).flow with
    | pass answer => exact ⟨answer, rfl⟩
    | exit early => cases early
    | unwound => rw [flow] at passes; cases passes
  · intro event member asked unwound
    obtain ⟨k, own⟩ := Option.isSome_iff_exists.mp asked
    obtain ⟨χ, s', trial, arrives, applies, rfl⟩ := (call_asks_iff own).mp member
    -- A question that shows a panic was recovered: all collaborators but the scan's returned.
    obtain ⟨ruling, answered, -⟩ := sound k χ s' arrives trial applies
    rcases ruled : trial.ruling s' with ⟨_ | ruling', s''⟩
    · rw [ruled] at answered
      cases answered
    · rw [ruled] at unwound
      cases ruling' with
      | recover early => exact (guardError_of_recovered arrives applies ruled).2
      | _ => cases unwound
  · rw [renders ended] at unfit
    cases unfit

/-- A layer whose scan panics. -/
def panickingService : GuardService Bench.world :=
  ({ Bench.layer with scanFn := fun _ _ _ other => (none, other) }).wrap Bench.engine Bench.ok

theorem panickingService_returns : panickingService.ResponseSideReturns Bench.engine where
  process := fun _ installed => nomatch installed
  events := fun _ installed => nomatch installed
  onError := fun _ installed => nomatch installed
  onBlock := fun _ _ => rfl
  inner := fun _ _ => rfl

/-- The scan panics, and its request is answered with the internal error. -/
theorem panicked_scan_fails_securely :
    FailSecure Bench.engine panickingService (Bench.request "GET" "/items" none []) Bench.start ∧
      GuardError Bench.engine panickingService (Bench.request "GET" "/items" none [])
        Bench.start := by
  have secure : FailSecure Bench.engine panickingService (Bench.request "GET" "/items" none [])
      Bench.start := by
    refine (call_fail_secure_iff Bench.engine panickingService
      (Bench.request "GET" "/items" none []) Bench.start).2 panickingService_returns |>.mpr ?_
    intro k χ s' arrives trial applies
    rcases ruled : trial.ruling s' with ⟨_ | ruling, s''⟩
    · -- The call comes to its end, so that nobody's panic went through it.
      have completes : (panickingService.call Bench.engine (Bench.request "GET" "/items" none [])
          Bench.start).flow.passes = true := by decide +kernel
      rw [call_unwinds_of_panic arrives applies ruled] at completes
      cases completes
    · refine ⟨ruling, rfl, ?_⟩
      rintro early payload rfl
      have undenied : ∀ event ∈ (panickingService.call Bench.engine
          (Bench.request "GET" "/items" none []) Bench.start).trace, event.verdict ≠ .denied := by
        decide +kernel
      exact absurd (by rw [ruled]; rfl) (undenied _ (Check.Arrives.asks arrives applies))
  have panicked : (panickingService.call Bench.engine (Bench.request "GET" "/items" none [])
      Bench.start).trace.any (fun event => event.consult.check.isSome &&
        decide (event.verdict = .panicked)) = true := by decide +kernel
  obtain ⟨event, member, both⟩ := List.any_eq_true.mp panicked
  obtain ⟨asked, unwound⟩ := (Bool.and_eq_true _ _).mp both
  exact ⟨secure, secure.panicked event member asked (of_decide_eq_true unwound)⟩

/-- Custom checks whose request function answers with `answer`, or panics. -/
def customStage (answer : Option CustomRequestAnswer) : CustomChecksStage Bench.world where
  decideCustomValidators := fun _ _ _ _ => Call.returning none
  decideCustomRequest := fun _ _ _ _ other => (answer.map some, other)

def customService (answer : Option CustomRequestAnswer) : GuardService Bench.world :=
  (Bench.layer.withCustomChecks (customStage answer)).wrap Bench.engine Bench.ok

/-- A custom request function that panics unwinds the request, and so does one that answers
with a status below 100. -/
theorem custom_request_unwinds :
    ¬FailSecure Bench.engine (customService none) (Bench.request "GET" "/items" none [])
      Bench.start ∧
    ¬FailSecure Bench.engine (customService (some ⟨some 42, ""⟩))
      (Bench.request "GET" "/items" none []) Bench.start := by
  have unwound : ∀ answer ∈ [none, some ⟨some 42, ""⟩],
      ((customService answer).call Bench.engine (Bench.request "GET" "/items" none [])
        Bench.start).flow.passes = false := by decide +kernel
  have insecure : ∀ answer ∈ [none, some ⟨some 42, ""⟩], ¬FailSecure Bench.engine
      (customService answer) (Bench.request "GET" "/items" none []) Bench.start := by
    rintro answer member ⟨⟨response, completes⟩, -, -⟩
    have stopped := unwound answer member
    rw [completes] at stopped
    cases stopped
  exact ⟨insecure _ (by simp), insecure _ (by simp)⟩

end TowerGuard
