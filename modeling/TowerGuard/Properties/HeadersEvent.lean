import TowerGuard.Exits
import TowerGuard.Engine.Bench

/-!
# The `security_headers_applied` event

One event for every response of the wrapped service that the processor's security headers land
on, whichever way the request came to it, and none for anything the guard answers itself.
-/

namespace TowerGuard

open Text Traced

variable {W : World} {ε : Type}

/-- The event a dispatch is about. -/
def Event.headersApplied : Event W → Option HeadersAppliedEvent
  | ⟨.headersEvent event, _⟩ => some event
  | _ => none

/-- The event for a request by what is installed: the processor's enabled security headers and a
bus. Neither the CORS config nor the modifier has a part in it. -/
def GuardLayer.appliedEvent (layer : GuardLayer W) (E : Engine W) (path client : String) :
    Option HeadersAppliedEvent :=
  match layer.responseProcessor.bind fun processor =>
    processor.securityHeaders.filter SecurityHeadersConfig.enabled, layer.events with
  | some config, some _ =>
    let set := E.securityHeaders config
    some
      { path := path
        headersCount := set.length
        hasCsp := set.any (·.1 = "Content-Security-Policy")
        hasHsts := set.any (·.1 = "Strict-Transport-Security")
        clientIp := client }
  | _, _ => none

/-! ### One pass -/

section Pass

variable {E : Engine W} {layer : GuardLayer W}

theorem notify_tells {α κ : Type} {g : Event W → Option κ} {k : κ} {c : Consult W}
    {call : Call W.Other α} (h : ∀ verdict, g ⟨c, verdict⟩ = some k) :
    Prog.Tells g [k] (notify c call : Prog (Store W) (Event W) ε α) := .ask fun _ => h _

theorem emitHeadersAppliedEvent_tells {processor : ResponseProcessor W} {input : RequestBits}
    {lane : ResponseLane} (installed : layer.responseProcessor = some processor) :
    Prog.Tells Event.headersApplied
      (if lane = .forwarded then (layer.appliedEvent E input.urlPath input.clientIp).toList else [])
      (emitHeadersAppliedEvent E layer processor input lane : Prog (Store W) (Event W) ε Unit) := by
  unfold emitHeadersAppliedEvent GuardLayer.appliedEvent
  rw [installed, Option.bind_some]
  split
  · cases processor.securityHeaders.filter SecurityHeadersConfig.enabled with
    | none => exact .pure
    | some config =>
      cases layer.events with
      | none => exact .pure
      | some bus => exact notify_tells fun _ => rfl
  · exact .pure

theorem runModifier_tells {input : RequestBits} {bits : ResponseBits} :
    Prog.Tells Event.headersApplied []
      (runModifier layer input bits : Prog (Store W) (Event W) ε ResponseBits) := by
  refine .of_emits ?_
  unfold runModifier
  cases layer.responseModifier with
  | none => exact .pure
  | some modifier =>
    refine .bind (.caught (notify_emits fun _ => rfl)) fun modified => ?_
    cases modified with
    | some bits => exact .pure
    | none =>
      cases layer.onError with
      | none => exact .pure
      | some hook => exact .bind (notify_emits fun _ => rfl) fun _ => .pure

/-- The processor answers whatever it is given. -/
def GuardLayer.ProcessReturns (layer : GuardLayer W) : Prop :=
  ∀ processor, layer.responseProcessor = some processor → ∀ request bits now s,
    (processor.process request bits now s).1.isSome = true

/-- One pass dispatches the event on the forwarded lane, and none on the other. -/
theorem applyResponseProcessor_tells (returns : layer.ProcessReturns) {input : RequestBits}
    {status : Nat} {headers : HeaderMap} {lane : ResponseLane} :
    Prog.Tells Event.headersApplied
      (if lane = .forwarded then (layer.appliedEvent E input.urlPath input.clientIp).toList else [])
      (applyResponseProcessor E layer input status headers lane :
        Prog (Store W) (Event W) ε (Option Nat × HeaderMap)) := by
  unfold applyResponseProcessor
  cases installed : layer.responseProcessor with
  | none =>
    simp only [GuardLayer.appliedEvent, installed, Option.bind_none, Option.toList_none, ite_self]
    exact .pure
  | some processor =>
    refine .bind_returns (.of_emits .reads) .reads fun now =>
      .bind_returns (.of_emits (.ask fun _ => by rfl)) (.ask fun s => ?_) fun answer => ?_
    · exact returns processor installed input _ now s.other
    · -- What follows the event is the modifier's turn, which dispatches nothing.
      exact .bind (emitHeadersAppliedEvent_tells installed) fun _ =>
        .bind runModifier_tells fun _ => .pure

variable {parts : Parts W}

theorem passGenerated_tells (returns : layer.ProcessReturns) {generated : Generated} :
    Prog.Tells Event.headersApplied []
      (passGenerated E layer parts generated : Prog (Store W) (Event W) ε Generated) :=
  .bind (applyResponseProcessor_tells returns) fun _ => .pure

theorem finishGenerated_tells (returns : layer.ProcessReturns) {generated : Generated} :
    Prog.Tells Event.headersApplied []
      (finishGenerated E layer parts generated : Prog (Store W) (Event W) ε (Response W)) :=
  .bind (passGenerated_tells returns) fun _ => .pure

/-- No answer of the guard dispatches the event. -/
theorem render_tells (returns : layer.ProcessReturns) (answer : Answer) :
    Prog.Tells Event.headersApplied []
      (render E layer parts answer : Prog (Store W) (Event W) ε (Response W)) := by
  have finish (generated : Generated) : Prog.Tells Event.headersApplied []
      (finishGenerated E layer parts generated : Prog (Store W) (Event W) ε (Response W)) :=
    finishGenerated_tells returns
  have shaped {α : Type} (a : Option α) : Prog.Tells Event.headersApplied []
      (Prog.expect a : Prog (Store W) (Event W) ε α) := .of_emits .expect
  cases answer with
  | preflight answer => exact .bind (shaped _) fun _ => .pure
  | gate body =>
    exact .bind (shaped _) fun _ => .bind (passGenerated_tells returns) fun _ => finish _
  | block status body => exact .bind (shaped _) fun _ => finish _
  | redirect answer => exact .bind (shaped _) fun _ => finish _
  | stage response => exact finish _
  | oversize => exact finish _
  | failure => exact finish _

/-- A forward dispatches the event where the wrapped service answers with a response. -/
theorem forward_tells (returns : layer.ProcessReturns) (facts : RequestFacts)
    (buffered : Option Bytes) (inner : InnerService W) (s : Store W) :
    (forward E layer facts parts buffered inner s : Run (Store W) (Event W) ε _).trace.filterMap
        Event.headersApplied =
      match (inner.call (inner.rebuild parts buffered) s).1 with
      | some (.ok _) => (layer.appliedEvent E facts.path facts.ipString).toList
      | _ => [] := by
  rcases called : inner.call (inner.rebuild parts buffered) s with ⟨_ | error | response, s'⟩
  · unfold forward
    rw [Prog.bind_unwound (Prog.ask_unwound called)]
    rfl
  · unfold forward
    rw [Prog.bind_pass (Prog.ask_pass called)]
    rfl
  · unfold forward
    rw [Prog.bind_pass (Prog.ask_pass called), Run.after_trace, List.filterMap_append]
    have passed : Prog.Tells Event.headersApplied
        (layer.appliedEvent E facts.path facts.ipString).toList
        (passForwarded E layer facts (.ok response) : Prog (Store W) (Event W) ε _) :=
      .bind (applyResponseProcessor_tells returns) fun _ => .pure
    rw [passed s']
    rfl

end Pass

/-! ### One call -/

/-- A call dispatches the event for a response of the wrapped service, once, and for nothing
else. -/
theorem headers_event_once (E : Engine W) (service : GuardService W) (request : Request W)
    (s : Store W) (returns : service.layer.ProcessReturns) :
    (service.call E request s).trace.filterMap Event.headersApplied =
      match service.innerAnswer E request s with
      | some (.ok _) => (service.layer.appliedEvent E request.uri.path
          ((request.extensions.clientIp.map IpAddr.display).getD "")).toList
      | _ => [] := by
  obtain ⟨t, seen, answered, -, -, questions⟩ := call_ending E service request s
  have asked : t.filterMap Event.headersApplied = [] := by
    rw [List.filterMap_eq_nil_iff]
    intro event member
    obtain ⟨k, -, own⟩ := questions event member
    rcases event with ⟨consult, verdict⟩
    cases consult <;> first | rfl | cases own
  rw [answered, Run.after_trace, List.filterMap_append, asked, List.nil_append]
  unfold GuardService.innerAnswer
  rcases ended : Check.ending E service Check.pipeline (.start request) s with
    ⟨final | ⟨k, early, payload⟩ | k, s'⟩
  · exact forward_tells returns _ _ _ _
  · cases early with
    | excluded parts =>
      -- An excluded path is no denial the block hook hears of.
      obtain ⟨χ, s₁, arrives, exits⟩ := ending_exit ended
      cases exits with
      | excluded => exact forward_tells returns _ _ _ _
    | answered parts answer =>
      have hooked : Prog.Tells Event.headersApplied []
          (fireBlock E service.layer payload : Prog (Store W) (Event W) Empty Unit) := by
        cases payload with
        | none => exact .pure
        | some payload => exact .of_emits (notify_emits fun _ => by rfl)
      have rendered : Prog.Tells Event.headersApplied [] (service.conclude E
          (.extract request.toParts) (.answered parts answer) :
            Prog (Store W) (Event W) Empty (Except W.InnerError (Response W))) :=
        .bind (render_tells returns answer) fun _ => .pure
      exact Prog.Tells.bind hooked (fun _ => rendered) s'
  · rfl

/-! ### Both ways to the wrapped service -/

/-- Security headers that are on, and a bus. -/
def announcing : GuardService Bench.world :=
  GuardLayer.wrap Bench.engine
    { Bench.layer with
      excludePaths := ["/health"]
      events := some ⟨fun _ => Call.returning ()⟩
      responseProcessor := some { Bench.responseProcessor Bench.plainProcessor with
        securityHeaders := some { enabled := true, settings := () } } } Bench.ok

theorem announcing_returns : announcing.layer.ProcessReturns := by
  rintro _ ⟨⟩ request bits now s
  rfl

/-- The event is dispatched for a screened path and for an excluded one. -/
theorem announced_on_both_paths :
    ((announcing.call Bench.engine (Bench.request "GET" "/items" none [])
        Bench.start).trace.filterMap Event.headersApplied).length = 1 ∧
    ((announcing.call Bench.engine (Bench.request "GET" "/health" none [])
      Bench.start).trace.filterMap Event.headersApplied).length = 1 := by
  rw [headers_event_once Bench.engine announcing _ _ announcing_returns,
    headers_event_once Bench.engine announcing _ _ announcing_returns]
  decide +kernel

end TowerGuard
