import TowerGuard.Service
import TowerGuard.Traced.Effects

/-!
# What rendering does

Rendering an answer consults the response side only, and leaves of the state what that side
leaves, the counters of the engine stage in any case. A forward calls the wrapped service exactly
once, before anything else.
-/

namespace TowerGuard

open Text Traced

variable {W : World} {ε α : Type}

section Notify

variable {c : Consult W} {call : Call W.Other α}

theorem notify_emits {P : Event W → Prop} (h : ∀ verdict, P ⟨c, verdict⟩) :
    Prog.Emits P (notify c call : Prog (Store W) (Event W) ε α) :=
  .ask fun _ => h _

theorem notify_keeps : Prog.Keeps Store.limits (notify c call : Prog (Store W) (Event W) ε α) :=
  .ask fun _ => rfl

end Notify

variable (E : Engine W) (layer : GuardLayer W)

/-! ### Observations -/

section Observations

variable {P : Event W → Prop}

theorem emitHeadersAppliedEvent_emits {processor : ResponseProcessor W} {input : RequestBits}
    {lane : ResponseLane} (h : ∀ applied verdict, P ⟨.headersEvent applied, verdict⟩) :
    Prog.Emits P (emitHeadersAppliedEvent E layer processor input lane :
      Prog (Store W) (Event W) ε Unit) := by
  unfold emitHeadersAppliedEvent
  split
  · split
    · exact notify_emits fun _ => h _ _
    · exact .pure
  · exact .pure

theorem runModifier_emits {input : RequestBits} {bits : ResponseBits}
    (modified : ∀ verdict, P ⟨.responseModifier, verdict⟩)
    (reported : ∀ verdict, P ⟨.onError, verdict⟩) :
    Prog.Emits P (runModifier layer input bits : Prog (Store W) (Event W) ε ResponseBits) := by
  unfold runModifier
  split
  · exact .pure
  · refine .bind (.caught (notify_emits modified)) fun answer => ?_
    split
    · exact .pure
    · split
      · exact .bind (notify_emits reported) fun _ => .pure
      · exact .pure

theorem applyResponseProcessor_emits {input : RequestBits} {status : Nat} {headers : HeaderMap}
    {lane : ResponseLane} (h : ∀ event, event.aside → P event) :
    Prog.Emits P (applyResponseProcessor E layer input status headers lane :
      Prog (Store W) (Event W) ε (Option Nat × HeaderMap)) := by
  unfold applyResponseProcessor
  split
  · exact .pure
  · refine .bind .reads fun now => .bind (.ask fun _ => h _ ⟨rfl, rfl⟩) fun answer => ?_
    exact .bind (emitHeadersAppliedEvent_emits E layer fun _ _ => h _ ⟨rfl, rfl⟩) fun _ =>
      .bind (runModifier_emits layer (fun _ => h _ ⟨rfl, rfl⟩) fun _ => h _ ⟨rfl, rfl⟩) fun _ =>
        .pure

theorem passGenerated_emits {parts : Parts W} {generated : Generated}
    (h : ∀ event, event.aside → P event) :
    Prog.Emits P (passGenerated E layer parts generated :
      Prog (Store W) (Event W) ε Generated) :=
  .bind (applyResponseProcessor_emits E layer h) fun _ => .pure

theorem finishGenerated_emits {parts : Parts W} {generated : Generated}
    (h : ∀ event, event.aside → P event) :
    Prog.Emits P (finishGenerated E layer parts generated :
      Prog (Store W) (Event W) ε (Response W)) :=
  .bind (passGenerated_emits E layer h) fun _ => .pure

theorem render_emits {parts : Parts W} {answer : Answer} (h : ∀ event, event.aside → P event) :
    Prog.Emits P (render E layer parts answer : Prog (Store W) (Event W) ε (Response W)) := by
  cases answer with
  | preflight answer => exact .bind .expect fun _ => .pure
  | block status body => exact .bind .expect fun _ => finishGenerated_emits E layer h
  | gate body =>
    exact .bind .expect fun _ => .bind (passGenerated_emits E layer h) fun _ =>
      finishGenerated_emits E layer h
  | stage response => exact finishGenerated_emits E layer h
  | redirect answer => exact .bind .expect fun _ => finishGenerated_emits E layer h
  | oversize => exact finishGenerated_emits E layer h
  | failure => exact finishGenerated_emits E layer h

theorem fireBlock_emits {payload : Option BlockPayload} (h : ∀ event, event.aside → P event) :
    Prog.Emits P (fireBlock E layer payload : Prog (Store W) (Event W) ε Unit) := by
  cases payload with
  | none => exact .pure
  | some payload => exact notify_emits fun _ => h _ ⟨rfl, rfl⟩

end Observations

/-! ### State -/

/-- What the response side is asked leaves `f` of the state as it is, the processor for the
clients in question only. -/
structure ResponseSideKeeps {κ : Type} (clients : String → Prop) (f : Store W → κ) : Prop where
  process : ∀ processor, layer.responseProcessor = some processor →
    ∀ request bits now s, clients request.clientIp →
      f (onOther (processor.process request bits now) s).2 = f s
  event : ∀ bus, layer.events = some bus →
    ∀ event s, f (onOther (bus.sendEvent event) s).2 = f s
  modifier : ∀ modifier, layer.responseModifier = some modifier →
    ∀ bits s, f (onOther (modifier bits) s).2 = f s
  onError : ∀ hook, layer.onError = some hook →
    ∀ stage error context s, f (onOther (hook stage error context) s).2 = f s

/-- The response side has no handle on the counters. -/
theorem ResponseSideKeeps.limits : ResponseSideKeeps layer (fun _ => True) Store.limits where
  process := fun _ _ _ _ _ _ _ => rfl
  event := fun _ _ _ _ => rfl
  modifier := fun _ _ _ _ => rfl
  onError := fun _ _ _ _ _ _ => rfl

theorem ResponseSideKeeps.mono {κ : Type} {clients clients' : String → Prop} {f : Store W → κ}
    {layer : GuardLayer W} (keeps : ResponseSideKeeps layer clients f)
    (fewer : ∀ client, clients' client → clients client) : ResponseSideKeeps layer clients' f where
  process processor installed request bits now s told :=
    keeps.process processor installed request bits now s (fewer _ told)
  event := keeps.event
  modifier := keeps.modifier
  onError := keeps.onError

section Keeps

variable {κ : Type} {clients : String → Prop} {f : Store W → κ}
  (keeps : ResponseSideKeeps layer clients f)

include keeps

theorem emitHeadersAppliedEvent_keeps {processor : ResponseProcessor W} {input : RequestBits}
    {lane : ResponseLane} : Prog.Keeps f
      (emitHeadersAppliedEvent E layer processor input lane :
        Prog (Store W) (Event W) ε Unit) := by
  unfold emitHeadersAppliedEvent
  split
  · split
    next _ bus _ installed => exact .ask fun s => keeps.event bus installed _ s
    next => exact .pure
  · exact .pure

theorem runModifier_keeps {input : RequestBits} {bits : ResponseBits} : Prog.Keeps f
    (runModifier layer input bits : Prog (Store W) (Event W) ε ResponseBits) := by
  unfold runModifier
  split
  next => exact .pure
  next modifier installed =>
    refine .bind (.caught (.ask fun s => keeps.modifier modifier installed _ s)) fun modified => ?_
    split
    · exact .pure
    · split
      next hook installed =>
        exact .bind (.ask fun s => keeps.onError hook installed _ _ _ s) fun _ => .pure
      next => exact .pure

theorem applyResponseProcessor_keeps {input : RequestBits} (told : clients input.clientIp)
    {status : Nat} {headers : HeaderMap} {lane : ResponseLane} : Prog.Keeps f
      (applyResponseProcessor E layer input status headers lane :
        Prog (Store W) (Event W) ε (Option Nat × HeaderMap)) := by
  unfold applyResponseProcessor
  split
  next => exact .pure
  next processor installed =>
    refine .bind .reads fun now => .bind (.ask fun s => ?_) fun answer => ?_
    · exact keeps.process processor installed _ _ _ s told
    · exact .bind (emitHeadersAppliedEvent_keeps E layer keeps) fun _ =>
        .bind (runModifier_keeps layer keeps) fun _ => .pure

variable {parts : Parts W} (told : clients (RequestBits.fromParts parts).clientIp)

include told

theorem passGenerated_keeps {generated : Generated} :
    Prog.Keeps f (passGenerated E layer parts generated :
      Prog (Store W) (Event W) ε Generated) :=
  .bind (applyResponseProcessor_keeps E layer keeps told) fun _ => .pure

theorem finishGenerated_keeps {generated : Generated} :
    Prog.Keeps f (finishGenerated E layer parts generated :
      Prog (Store W) (Event W) ε (Response W)) :=
  .bind (passGenerated_keeps E layer keeps told) fun _ => .pure

theorem render_keeps {answer : Answer} :
    Prog.Keeps f (render E layer parts answer : Prog (Store W) (Event W) ε (Response W)) := by
  cases answer with
  | preflight answer => exact .bind .expect fun _ => .pure
  | block status body => exact .bind .expect fun _ => finishGenerated_keeps E layer keeps told
  | gate body =>
    exact .bind .expect fun _ => .bind (passGenerated_keeps E layer keeps told) fun _ =>
      finishGenerated_keeps E layer keeps told
  | stage response => exact finishGenerated_keeps E layer keeps told
  | redirect answer => exact .bind .expect fun _ => finishGenerated_keeps E layer keeps told
  | oversize => exact finishGenerated_keeps E layer keeps told
  | failure => exact finishGenerated_keeps E layer keeps told

end Keeps

theorem fireBlock_keeps {payload : Option BlockPayload} :
    Prog.Keeps Store.limits (fireBlock E layer payload : Prog (Store W) (Event W) ε Unit) := by
  cases payload with
  | none => exact .pure
  | some payload => exact notify_keeps

/-! ### Forwarding -/

theorem passForwarded_emits {facts : RequestFacts}
    {answer : Except W.InnerError (InnerResponse W)} {P : Event W → Prop}
    (h : ∀ event, event.aside → P event) :
    Prog.Emits P (passForwarded E layer facts answer :
      Prog (Store W) (Event W) ε (Except W.InnerError (Response W))) := by
  cases answer with
  | error error => exact .pure
  | ok response => exact .bind (applyResponseProcessor_emits E layer h) fun _ => .pure

theorem passForwarded_keeps {κ : Type} {clients : String → Prop} {f : Store W → κ}
    (keeps : ResponseSideKeeps layer clients f) {facts : RequestFacts}
    (told : clients facts.ipString) {answer : Except W.InnerError (InnerResponse W)} :
    Prog.Keeps f (passForwarded E layer facts answer :
      Prog (Store W) (Event W) ε (Except W.InnerError (Response W))) := by
  cases answer with
  | error error => exact .pure
  | ok response => exact .bind (applyResponseProcessor_keeps E layer keeps told) fun _ => .pure

section Forward

variable (facts : RequestFacts) (parts : Parts W) (buffered : Option Bytes)
  (inner : InnerService W) (s : Store W)

/-- A forward hands the rebuilt request over first; the response side follows. -/
theorem forward_trace : ∃ verdict rest,
    (forward E layer facts parts buffered inner s :
        Run (Store W) (Event W) ε (Except W.InnerError (Response W))).trace =
      ⟨.inner (inner.rebuild parts buffered), verdict⟩ :: rest ∧ ∀ event ∈ rest, event.aside := by
  unfold forward
  rcases called : inner.call (inner.rebuild parts buffered) s with ⟨_ | answer, s'⟩
  · rw [Prog.bind_unwound (Prog.ask_unwound called)]
    exact ⟨.panicked, [], rfl, by simp⟩
  · rw [Prog.bind_pass (Prog.ask_pass called)]
    exact ⟨.passed, _, rfl, passForwarded_emits E layer (fun _ aside => aside) s'⟩

/-- A forward leaves the state as the wrapped service leaves it, but for the response side. -/
theorem forward_keeps {κ : Type} {clients : String → Prop} {f : Store W → κ}
    (keeps : ResponseSideKeeps layer clients f) (told : clients facts.ipString) :
    f (forward E layer facts parts buffered inner s :
        Run (Store W) (Event W) ε (Except W.InnerError (Response W))).state =
      f (inner.call (inner.rebuild parts buffered) s).2 := by
  unfold forward
  rw [Prog.bind_state fun _ => passForwarded_keeps E layer keeps told, Prog.ask_state]

end Forward

end TowerGuard
