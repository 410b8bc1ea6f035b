import TowerGuard.Exits
import TowerGuard.Engine.Bench

/-!
# The response-side pass

How often the processor and the modifier run for one response. Every exit goes through the
pass once, but for the IP gate's denial, which goes through it twice; and without a processor
the pass ends before the modifier's turn.
-/

namespace TowerGuard

open Text Traced

variable {W : World}

def Event.isProcess : Event W → Bool
  | ⟨.process _ _, _⟩ => true
  | _ => false

def Event.isModifier : Event W → Bool
  | ⟨.responseModifier, _⟩ => true
  | _ => false

/-- The request and the status the processor is given. -/
def Event.processing : Event W → Option (RequestBits × Nat)
  | ⟨.process request status, _⟩ => some (request, status)
  | _ => none

/-- The response to the request went through the pass once. Its processor was given this request
and the status the response had, and no other; its modifier ran once. -/
structure PassedOnce (E : Engine W) (service : GuardService W) (request : Request W)
    (s : Store W) : Prop where
  processed : service.layer.responseProcessor.isSome = true →
    ∃ status, service.statusGiven E request s = some status ∧
      (service.call E request s).trace.filterMap Event.processing =
        [(.fromParts request.toParts, status)]
  modified : service.layer.responseModifier.isSome = true →
    (service.call E request s).trace.countP Event.isModifier = 1

theorem Event.isProcess_iff {event : Event W} :
    event.isProcess = event.processing.isSome := by
  obtain ⟨consult, verdict⟩ := event
  cases consult <;> rfl

theorem Event.processing_of_check {event : Event W} {k : Check}
    (own : event.consult.check = some k) : event.processing = none := by
  obtain ⟨consult, verdict⟩ := event
  cases consult with
  | process request status => cases own
  | _ => rfl

theorem countP_isProcess (trace : List (Event W)) :
    trace.countP Event.isProcess = (trace.filterMap Event.processing).length := by
  rw [List.length_filterMap_eq_countP]
  exact List.countP_congr fun event _ => by rw [Event.isProcess_iff]

/-! ### Counting one pass -/

/-- What an observer sees of the response-side pass: the processor, the modifier, or both. -/
structure Watches (p : Event W → Bool) (process modifier : Bool) : Prop where
  process : ∀ request status verdict, p ⟨.process request status, verdict⟩ = process
  modifier : ∀ verdict, p ⟨.responseModifier, verdict⟩ = modifier
  event : ∀ event verdict, p ⟨.headersEvent event, verdict⟩ = false
  onError : ∀ verdict, p ⟨.onError, verdict⟩ = false
  blockHook : ∀ payload verdict, p ⟨.blockHook payload, verdict⟩ = false
  inner : ∀ request verdict, p ⟨.inner request, verdict⟩ = false
  check : ∀ event : Event W, event.consult.check.isSome = true → p event = false

theorem watches_process : Watches (W := W) Event.isProcess true false where
  process := fun _ _ _ => rfl
  modifier := fun _ => rfl
  event := fun _ _ => rfl
  onError := fun _ => rfl
  blockHook := fun _ _ => rfl
  inner := fun _ _ => rfl
  check := by
    rintro ⟨consult, verdict⟩ asked
    cases consult <;> first | rfl | cases asked

theorem watches_modifier : Watches (W := W) Event.isModifier false true where
  process := fun _ _ _ => rfl
  modifier := fun _ => rfl
  event := fun _ _ => rfl
  onError := fun _ => rfl
  blockHook := fun _ _ => rfl
  inner := fun _ _ => rfl
  check := by
    rintro ⟨consult, verdict⟩ asked
    cases consult <;> first | rfl | cases asked

/-- What one pass shows to an observer. Without a processor nothing runs. -/
def GuardLayer.passShows (layer : GuardLayer W) (process modifier : Bool) : Nat :=
  if layer.responseProcessor.isSome then
    process.toNat + if layer.responseModifier.isSome then modifier.toNat else 0
  else 0

/-- Whatever is installed runs once in this many passes: there is nothing to run, or a processor
runs and it is one pass. -/
theorem GuardLayer.passShows_once_iff (layer : GuardLayer W) (passes : Nat) :
    ((layer.responseProcessor.isSome = true → passes * layer.passShows true false = 1) ∧
      (layer.responseModifier.isSome = true → passes * layer.passShows false true = 1)) ↔
      (layer.responseProcessor = none ∧ layer.responseModifier = none) ∨
      (layer.responseProcessor.isSome = true ∧ passes = 1) := by
  unfold GuardLayer.passShows
  cases layer.responseProcessor <;> cases layer.responseModifier <;> simp

/-- How many passes the rendering of an answer makes. -/
def Answer.passes : Answer → Nat
  | .preflight _ => 0
  | .gate _ => 2
  | .block _ _ | .stage _ | .redirect _ | .oversize | .failure => 1

section Pass

variable {ε : Type} {p : Event W → Bool} {a b : Bool} (watches : Watches p a b) (E : Engine W)
  (layer : GuardLayer W)

include watches

theorem emitHeadersAppliedEvent_shows {processor : ResponseProcessor W} {input : RequestBits}
    {lane : ResponseLane} : Prog.Shows p 0
      (emitHeadersAppliedEvent E layer processor input lane :
        Prog (Store W) (Event W) ε Unit) := by
  unfold emitHeadersAppliedEvent
  split
  · split
    · exact .of_emits (notify_emits fun _ => watches.event _ _)
    · exact .pure
  · exact .pure

theorem runModifier_shows {input : RequestBits} {bits : ResponseBits} :
    Prog.Shows p (if layer.responseModifier.isSome then b.toNat else 0)
      (runModifier layer input bits : Prog (Store W) (Event W) ε ResponseBits) := by
  unfold runModifier
  cases layer.responseModifier with
  | none => exact .pure
  | some modifier =>
    -- The modifier is asked in either case; what follows its panic is the hook, and not counted.
    refine .bind (k := 0) (.caught_ask fun _ => watches.modifier _) fun modified => ?_
    cases modified with
    | some bits => exact .pure
    | none =>
      cases layer.onError with
      | none => exact .pure
      | some hook =>
        exact .of_emits (.bind (notify_emits fun _ => watches.onError _) fun _ => .pure)

theorem applyResponseProcessor_shows {input : RequestBits} {status : Nat} {headers : HeaderMap}
    {lane : ResponseLane} : Prog.Shows p (layer.passShows a b)
      (applyResponseProcessor E layer input status headers lane :
        Prog (Store W) (Event W) ε (Option Nat × HeaderMap)) := by
  unfold applyResponseProcessor GuardLayer.passShows
  cases layer.responseProcessor with
  | none => exact .pure
  | some processor =>
    rw [Option.isSome_some, if_pos rfl]
    -- The processor's turn counts `a`, the modifier's `b`; around them nothing counts.
    have turns : ∀ n, a.toNat + n = 0 + (a.toNat + (0 + (n + 0))) := by simp
    rw [turns]
    refine .bind .reads fun now => .bind (.ask fun _ => watches.process _ _ _) fun answer => ?_
    exact .bind (emitHeadersAppliedEvent_shows watches E layer) fun _ =>
      .bind (runModifier_shows watches layer) fun _ => .pure

theorem passGenerated_shows {parts : Parts W} {generated : Generated} :
    Prog.Shows p (layer.passShows a b)
      (passGenerated E layer parts generated : Prog (Store W) (Event W) ε Generated) :=
  .bind (applyResponseProcessor_shows watches E layer) fun _ => .pure

theorem finishGenerated_shows {parts : Parts W} {generated : Generated} :
    Prog.Shows p (layer.passShows a b)
      (finishGenerated E layer parts generated : Prog (Store W) (Event W) ε (Response W)) :=
  .bind (passGenerated_shows watches E layer) fun _ => .pure

/-- Rendering an answer makes its passes. -/
theorem render_shows {parts : Parts W} (answer : Answer) :
    Prog.Shows p (answer.passes * layer.passShows a b)
      (render E layer parts answer : Prog (Store W) (Event W) ε (Response W)) := by
  have finish (generated : Generated) : Prog.Shows p (layer.passShows a b)
      (finishGenerated E layer parts generated : Prog (Store W) (Event W) ε (Response W)) :=
    finishGenerated_shows watches E layer
  cases answer with
  | preflight answer =>
    rw [Answer.passes, Nat.zero_mul]
    exact .bind .expect fun _ => .pure
  | gate body =>
    -- The denial is finished by the pass of its own, and then by the pass of every answer.
    rw [Answer.passes, Nat.two_mul, ← Nat.zero_add (_ + _)]
    exact .bind .expect fun _ => .bind (passGenerated_shows watches E layer) fun _ => finish _
  | block status body =>
    rw [Answer.passes, Nat.one_mul, ← Nat.zero_add (layer.passShows a b)]
    exact .bind .expect fun _ => finish _
  | redirect answer =>
    rw [Answer.passes, Nat.one_mul, ← Nat.zero_add (layer.passShows a b)]
    exact .bind .expect fun _ => finish _
  | stage response => rw [Answer.passes, Nat.one_mul]; exact finish _
  | oversize => rw [Answer.passes, Nat.one_mul]; exact finish _
  | failure => rw [Answer.passes, Nat.one_mul]; exact finish _

theorem forward_shows {facts : RequestFacts} {parts : Parts W} {buffered : Option Bytes}
    {inner : InnerService W} {s s' : Store W} {t : List (Event W)} {response : Response W}
    (h : (forward E layer facts parts buffered inner s : Run _ (Event W) ε _) =
      ⟨.pass (.ok response), s', t⟩) : t.countP p = layer.passShows a b := by
  obtain ⟨answer, s₁, t₁, t₂, called, passed, rfl⟩ := Prog.bind_pass_iff.mp h
  have silent : t₁.countP p = 0 :=
    Prog.Shows.of_emits (.ask fun _ => watches.inner _ _) _ _ _ _ called
  rw [List.countP_append, silent, Nat.zero_add]
  cases answer with
  -- The wrapped service's error is no response.
  | error error => cases passed
  | ok answered =>
    exact Prog.Shows.bind (k := 0) (applyResponseProcessor_shows watches E layer)
      (fun _ => .pure) _ _ _ _ passed

end Pass

/-! ### What one pass is about -/

/-- If the event is the processor's, it was given this request and this status. -/
def Event.About (request : RequestBits) (status : Nat) (event : Event W) : Prop :=
  ∀ given, event.processing = some given → given = (request, status)

section About

variable {ε : Type} (E : Engine W) (layer : GuardLayer W)

theorem applyResponseProcessor_about {input : RequestBits} {status : Nat} {headers : HeaderMap}
    {lane : ResponseLane} : Prog.Emits (Event.About input status)
      (applyResponseProcessor E layer input status headers lane :
        Prog (Store W) (Event W) ε (Option Nat × HeaderMap)) := by
  -- Around the processor nothing is processed.
  have around {event : Event W} (other : event.processing = none) :
      event.About input status := by
    intro given here
    rw [other] at here
    cases here
  unfold applyResponseProcessor
  cases layer.responseProcessor with
  | none => exact .pure
  | some processor =>
    refine .bind .reads fun now => .bind (.ask fun _ => ?_) fun answer => ?_
    · rintro _ ⟨⟩
      rfl
    · exact .bind (emitHeadersAppliedEvent_emits E layer fun _ _ => around rfl) fun _ =>
        .bind (runModifier_emits layer (fun _ => around rfl) fun _ => around rfl) fun _ => .pure

variable {parts : Parts W}

theorem finishGenerated_about {generated : Generated} :
    Prog.Emits (Event.About (.fromParts parts) generated.status.asU16)
      (finishGenerated E layer parts generated : Prog (Store W) (Event W) ε (Response W)) :=
  .bind (.bind (applyResponseProcessor_about E layer) fun _ => .pure) fun _ => .pure

/-- The pass of an answer is about the answer's status; the gate's second pass is about what the
first made of it. -/
theorem render_about {answer : Answer} (other : ∀ body, answer ≠ .gate body) :
    Prog.Emits (Event.About (.fromParts parts) answer.status)
      (render E layer parts answer : Prog (Store W) (Event W) ε (Response W)) := by
  have finish {generated : Generated} {status : Nat} (same : generated.status.asU16 = status) :
      Prog.Emits (Event.About (.fromParts parts) status)
        (finishGenerated E layer parts generated : Prog (Store W) (Event W) ε (Response W)) := by
    rw [← same]
    exact finishGenerated_about E layer
  cases answer with
  | preflight answer => exact .bind .expect fun _ => .pure
  | gate body => exact absurd rfl (other body)
  | block status body =>
    refine .bind_expect fun generated rendered => finish ?_
    obtain ⟨code, valid, rfl⟩ := Option.map_eq_some_iff.mp rendered
    exact StatusCode.asU16_fromU16 valid
  | redirect answer =>
    refine .bind_expect fun generated rendered => finish ?_
    obtain ⟨code, valid, rfl⟩ := Option.map_eq_some_iff.mp rendered
    exact StatusCode.asU16_fromU16 valid
  | stage response =>
    refine finish ?_
    unfold Generated.stage
    cases response.retryAfter <;> rfl
  | oversize => exact finish rfl
  | failure => exact finish rfl

theorem forward_about {facts : RequestFacts} {buffered : Option Bytes} {inner : InnerService W}
    {s s' : Store W} {t : List (Event W)} {response : Response W}
    (h : (forward E layer facts parts buffered inner s : Run _ (Event W) ε _) =
      ⟨.pass (.ok response), s', t⟩) :
    ∃ answered, (inner.call (inner.rebuild parts buffered) s).1 = some (.ok answered) ∧
      ∀ event ∈ t, event.About (.fromFacts facts) answered.status.asU16 := by
  unfold forward at h
  rcases called : inner.call (inner.rebuild parts buffered) s with ⟨_ | answer, s₁⟩
  · rw [Prog.bind_unwound (Prog.ask_unwound called)] at h
    cases h
  · rw [Prog.bind_pass (Prog.ask_pass called)] at h
    cases answer with
    | error error => cases congrArg Run.flow h
    | ok answered =>
      refine ⟨answered, rfl, fun event member => ?_⟩
      have about : Prog.Emits (Event.About (.fromFacts facts) answered.status.asU16)
          (passForwarded E layer facts (.ok answered) : Prog (Store W) (Event W) ε _) :=
        .bind (applyResponseProcessor_about E layer) fun _ => .pure
      have told : t = _ ++ _ := (congrArg Run.trace h).symm
      rw [told] at member
      rcases List.mem_append.mp member with handed | behind
      · obtain rfl := List.mem_singleton.mp handed
        rintro _ ⟨⟩
      · exact about s₁ event behind

end About

/-! ### Counting a call -/

/-- How many passes follow an ending. -/
def Check.Ending.passes : Check.Ending W → Nat
  | .forward _ | .denied _ (.excluded _) _ => 1
  | .denied _ (.answered _ answer) _ => answer.passes
  | .panicked _ => 0

section Call

variable {E : Engine W} {service : GuardService W} {request : Request W} {s : Store W}
  {response : Response W}

/-- A call that answers has made the passes of its ending. -/
theorem call_shows {p : Event W → Bool} {a b : Bool} (watches : Watches p a b)
    (leaves : (service.call E request s).flow = .pass (.ok response)) :
    (service.call E request s).trace.countP p =
      (Check.ending E service Check.pipeline (.start request) s).1.passes *
        service.layer.passShows a b := by
  obtain ⟨t, seen, answered, -, -, questions⟩ := call_ending E service request s
  -- The questions of the checks are none of the pass.
  have ahead : t.countP p = 0 := by
    rw [List.countP_eq_zero]
    intro event member shown
    obtain ⟨k, -, own⟩ := questions event member
    rw [watches.check event (by rw [own]; rfl)] at shown
    cases shown
  rw [answered] at leaves ⊢
  rw [Run.after_flow] at leaves
  rw [Run.after_trace, List.countP_append, ahead, Nat.zero_add]
  rcases ended : Check.ending E service Check.pipeline (.start request) s with
    ⟨final | ⟨k, early, payload⟩ | k, s'⟩ <;> rw [ended] at leaves
  · rw [Check.Ending.passes, Nat.one_mul]
    exact forward_shows watches E service.layer (Run.of_flow leaves)
  · -- The block hook is no part of the pass either.
    obtain ⟨_, s₁, t₁, t₂, fired, concluded, same⟩ :=
      Prog.bind_pass_iff.mp (Run.of_flow leaves)
    have hooked : t₁.countP p = 0 := by
      cases payload with
      | none => exact Prog.Shows.pure _ _ _ _ fired
      | some payload =>
        exact Prog.Shows.of_emits (notify_emits fun _ => watches.blockHook _ _) _ _ _ _ fired
    simp only [GuardService.answerTo] at same ⊢
    rw [same, List.countP_append, hooked, Nat.zero_add]
    cases early with
    | excluded parts =>
      rw [Check.Ending.passes, Nat.one_mul]
      exact forward_shows watches E service.layer concluded
    | answered parts answer =>
      rw [Check.Ending.passes]
      exact Prog.Shows.bind (k := 0) (render_shows watches E service.layer answer)
        (fun _ => .pure) _ _ _ _ concluded
  · cases leaves

variable (E service request s) in
/-- The request comes to the IP gate, which denies its client. -/
def GuardService.DeniedAtGate : Prop :=
  ∃ χ s' ip denial, Check.ipGate.Arrives E service request s χ s' ∧
    GateDenies service χ ip denial

/-- The gate's denial is the answer of a request that is denied there, and of no other. -/
theorem ending_gate_iff : service.DeniedAtGate E request s ↔
    ∃ early payload s', Check.ending E service Check.pipeline (.start request) s =
      (.denied .ipGate early payload, s') := by
  constructor
  · rintro ⟨χ, s₁, ip, denial, arrives, ⟨open_, routed⟩, client, ⟨gate, installed, said⟩, active⟩
    obtain ⟨back, ended⟩ := ending_of_reaches arrives
    rw [ended]
    simp only [Check.ending, Check.trial, Option.bind_eq_bind, installed, client, open_, routed,
      said, active, Option.bind_some, Bool.not_false, Bool.and_self, if_true,
      Trial.settled_ruling, Bool.false_eq_true, if_false]
    exact ⟨_, _, _, rfl⟩
  · rintro ⟨early, payload, s', ended⟩
    obtain ⟨χ, s₁, arrives, exits⟩ := ending_exit ended
    cases exits with
    | gate denies => exact ⟨χ, s₁, _, _, arrives, denies⟩
    | failure unable => cases unable
    | own _ _ own => cases own

/-- A call that answers other than a preflight makes one pass, or two at the IP gate. -/
theorem ending_passes (leaves : (service.call E request s).flow = .pass (.ok response))
    (ordinary : ∀ event ∈ (service.call E request s).trace,
      event.consult.check = some .corsPreflight → event.verdict ≠ .denied) :
    (service.DeniedAtGate E request s ∧
      (Check.ending E service Check.pipeline (.start request) s).1.passes = 2) ∨
    (¬service.DeniedAtGate E request s ∧
      (Check.ending E service Check.pipeline (.start request) s).1.passes = 1) := by
  rw [ending_gate_iff]
  rcases ended : Check.ending E service Check.pipeline (.start request) s with
    ⟨final | ⟨k, early, payload⟩ | k, s'⟩
  · right
    refine ⟨?_, rfl⟩
    rintro ⟨_, _, _, ⟨⟩⟩
  · obtain ⟨χ, s₁, arrives, exits⟩ := ending_exit ended
    cases exits with
    | gate denies => exact .inl ⟨⟨_, _, _, rfl⟩, rfl⟩
    | preflight answer =>
      -- A preflight answer shows in the trace as the denial of its check.
      exfalso
      obtain ⟨event, member, own, denied | ⟨⟨⟩⟩⟩ := ending_denied_shows ended
      exact ordinary event member own denied
    | excluded => exact .inr ⟨by rintro ⟨_, _, _, ⟨⟩⟩, rfl⟩
    | redirect answer => exact .inr ⟨by rintro ⟨_, _, _, ⟨⟩⟩, rfl⟩
    | oversize => exact .inr ⟨by rintro ⟨_, _, _, ⟨⟩⟩, rfl⟩
    | failure unable =>
      refine .inr ⟨?_, rfl⟩
      rintro ⟨_, _, _, ⟨⟩⟩
      cases unable
    | own _ _ own =>
      refine .inr ⟨?_, rfl⟩
      rintro ⟨_, _, _, ⟨⟩⟩
      cases own
    | bans _ => exact .inr ⟨by rintro ⟨_, _, _, ⟨⟩⟩, rfl⟩
    | tiers _ => exact .inr ⟨by rintro ⟨_, _, _, ⟨⟩⟩, rfl⟩
    | detection _ _ => exact .inr ⟨by rintro ⟨_, _, _, ⟨⟩⟩, rfl⟩
  · -- A panicked call does not answer.
    obtain ⟨t, -, answered, -⟩ := call_ending E service request s
    rw [answered, ended] at leaves
    cases leaves

/-- The answer is rendered for the request as it came. -/
theorem ending_answered_parts {k : Check} {parts : Parts W} {answer : Answer}
    {payload : Option BlockPayload} {s' : Store W}
    (ended : Check.ending E service Check.pipeline (.start request) s =
      (.denied k (.answered parts answer) payload, s')) :
    RequestBits.fromParts parts = .fromParts request.toParts := by
  -- The bits do not read what the gate inserts.
  have bits {χ : Locals W} (of : χ.Of request) :
      RequestBits.fromParts χ.parts = .fromParts request.toParts := by
    have same : RequestBits.fromParts χ.parts.withoutDecision =
        .fromParts request.toParts.withoutDecision := congrArg _ of.carried
    exact same
  have ends := ending_ends E service Check.pipeline (.start request) s
  rw [ended] at ends
  cases ends with
  | denied arrives applies ruled =>
    cases trial_denies applies ruled
    exact bits (Check.Arrives.of arrives)
  | recovered arrives applies ruled =>
    obtain ⟨-, ⟨⟩⟩ := trial_recovers applies ruled
    exact bits (Check.Arrives.of arrives)

/-- Off the IP gate, whatever a call that answers processes is its request and the status its
response had. -/
theorem call_about (leaves : (service.call E request s).flow = .pass (.ok response))
    (passed : ¬service.DeniedAtGate E request s) :
    ∃ status, service.statusGiven E request s = some status ∧
      ∀ event ∈ (service.call E request s).trace,
        event.About (.fromParts request.toParts) status := by
  obtain ⟨t, seen, answered, -, -, questions⟩ := call_ending E service request s
  -- The checks and the block hook process nothing.
  have ahead {status : Nat} : ∀ event ∈ t, event.About (.fromParts request.toParts) status := by
    intro event member given here
    obtain ⟨k, -, own⟩ := questions event member
    rw [Event.processing_of_check own] at here
    cases here
  have hooked {payload : Option BlockPayload} {status : Nat} :
      Prog.Emits (Event.About (.fromParts request.toParts) status)
        (fireBlock E service.layer payload : Prog (Store W) (Event W) Empty Unit) := by
    cases payload with
    | none => exact .pure
    | some payload => exact notify_emits fun _ => by rintro _ ⟨⟩
  unfold GuardService.statusGiven GuardService.innerAnswer
  rw [ending_gate_iff] at passed
  rw [answered] at leaves ⊢
  rw [Run.after_flow] at leaves
  rw [Run.after_trace]
  rcases ended : Check.ending E service Check.pipeline (.start request) s with
    ⟨final | ⟨k, early, payload⟩ | k, s'⟩ <;> rw [ended] at leaves
  · obtain ⟨inner, said, about⟩ := forward_about E service.layer (Run.of_flow leaves)
    simp only [said]
    exact ⟨_, rfl, List.forall_mem_append.mpr ⟨ahead, about⟩⟩
  · cases early with
    | excluded parts =>
      obtain ⟨χ, s₁, arrives, exits⟩ := ending_exit ended
      cases exits with
      | excluded =>
        obtain ⟨inner, said, about⟩ := forward_about E service.layer (Run.of_flow leaves)
        simp only [said]
        exact ⟨_, rfl, List.forall_mem_append.mpr ⟨ahead, about⟩⟩
    | answered parts answer =>
      have other : ∀ body, answer ≠ .gate body := by
        rintro body rfl
        obtain ⟨χ, s₁, arrives, exits⟩ := ending_exit ended
        cases exits with
        | gate denies => exact passed ⟨_, _, _, ended⟩
      refine ⟨_, rfl, List.forall_mem_append.mpr ⟨ahead, ?_⟩⟩
      have rendered : Prog.Emits (Event.About (.fromParts parts) answer.status)
          (render E service.layer parts answer : Prog (Store W) (Event W) Empty (Response W)) :=
        render_about E service.layer other
      rw [ending_answered_parts ended] at rendered
      exact Prog.Emits.bind hooked (fun _ => .bind rendered fun _ => .pure) s'
  · cases leaves

/-- What went through the pass once did so by count, -/
theorem PassedOnce.counts (once : PassedOnce E service request s) :
    (service.layer.responseProcessor.isSome = true →
      (service.call E request s).trace.countP Event.isProcess = 1) ∧
    (service.layer.responseModifier.isSome = true →
      (service.call E request s).trace.countP Event.isModifier = 1) := by
  refine ⟨fun installed => ?_, once.modified⟩
  obtain ⟨status, -, told⟩ := once.processed installed
  rw [countP_isProcess, told, List.length_singleton]

/-- and off the IP gate the count is enough: what is processed is the response to the request. -/
theorem passedOnce_of_counts (leaves : (service.call E request s).flow = .pass (.ok response))
    (passed : ¬service.DeniedAtGate E request s)
    (processed : service.layer.responseProcessor.isSome = true →
      (service.call E request s).trace.countP Event.isProcess = 1)
    (modified : service.layer.responseModifier.isSome = true →
      (service.call E request s).trace.countP Event.isModifier = 1) :
    PassedOnce E service request s := by
  refine ⟨fun installed => ?_, modified⟩
  obtain ⟨status, given, about⟩ := call_about leaves passed
  refine ⟨status, given, (List.eq_replicate_iff (n := 1)).mpr ⟨?_, ?_⟩⟩
  · rw [← countP_isProcess]
    exact processed installed
  · intro processing member
    obtain ⟨event, seen, here⟩ := List.mem_filterMap.mp member
    exact about event seen processing here

end Call

/-- A response that is no preflight answer went through the pass once exactly when there is
nothing to run, or a processor runs and the IP gate was not the one to deny. -/
theorem response_passed_once_iff (E : Engine W) (service : GuardService W) (request : Request W)
    (s : Store W) (response : Response W)
    (leaves : (service.call E request s).flow = .pass (.ok response))
    (ordinary : ∀ event ∈ (service.call E request s).trace,
      event.consult.check = some .corsPreflight → event.verdict ≠ .denied) :
    PassedOnce E service request s ↔
      (service.layer.responseProcessor = none ∧ service.layer.responseModifier = none) ∨
      (service.layer.responseProcessor.isSome = true ∧ ¬service.DeniedAtGate E request s) := by
  have processed := call_shows watches_process leaves
  have modified := call_shows watches_modifier leaves
  have once_iff := service.layer.passShows_once_iff
  rcases ending_passes leaves ordinary with ⟨denied, two⟩ | ⟨passed, one⟩
  · -- At the gate whatever is installed runs twice, or not at all.
    rw [two] at processed modified
    constructor
    · intro once
      have counts := once.counts
      rw [processed, modified, once_iff] at counts
      rcases counts with bare | ⟨-, ⟨⟩⟩
      exact .inl bare
    · rintro (⟨bare, plain⟩ | ⟨-, passed⟩)
      · exact ⟨by simp [bare], by simp [plain]⟩
      · exact absurd denied passed
  · rw [one] at processed modified
    constructor
    · intro once
      have counts := once.counts
      rw [processed, modified, once_iff] at counts
      exact counts.imp_right fun ⟨installed, _⟩ => ⟨installed, passed⟩
    · intro runs
      obtain ⟨process, modifier⟩ := (once_iff 1).mpr
        (runs.imp_right fun ⟨installed, _⟩ => ⟨installed, rfl⟩)
      rw [← processed] at process
      rw [← modified] at modifier
      exact passedOnce_of_counts leaves passed process modifier

/-! ### Two exits that miss it -/

/-- A processor without rules, behind a gate that denies these clients. -/
def gatedLayer (blacklist : List String) : GuardLayer Bench.world :=
  (Bench.layer.withIpGate (Bench.ipGate [] blacklist [])).withResponseProcessor
    (Bench.responseProcessor Bench.plainProcessor)

/-- A modifier that leaves the response as it is, and no processor. -/
def modifiedLayer : GuardLayer Bench.world :=
  Bench.layer.withCustomResponseModifier fun bits => Call.returning bits

def passCall (layer : GuardLayer Bench.world) :
    Run (Store Bench.world) (Event Bench.world) Empty
      (Except Unit (Response Bench.world)) :=
  (layer.wrap Bench.engine Bench.ok).call Bench.engine (Bench.request "GET" "/items" none [])
    Bench.start

/-- A client the gate allows has its response processed once. -/
theorem allowed_response_passed_once :
    PassedOnce Bench.engine ((gatedLayer []).wrap Bench.engine Bench.ok)
      (Bench.request "GET" "/items" none []) Bench.start := by
  obtain ⟨response, leaves⟩ := Bench.response_of_answers
    (by decide +kernel : Bench.answers (passCall (gatedLayer [])) = true)
  have verdicts : ∀ event ∈ (passCall (gatedLayer [])).trace,
      event.consult.check.isSome = true → event.verdict ≠ .denied := by decide +kernel
  refine (response_passed_once_iff Bench.engine ((gatedLayer []).wrap Bench.engine Bench.ok)
    (Bench.request "GET" "/items" none []) Bench.start response leaves
    fun event member own => verdicts event member (by rw [own]; rfl)).mpr (.inr ⟨rfl, ?_⟩)
  rintro ⟨χ, s', ip, denial, -, -, -, ⟨gate, ⟨⟩, said⟩, -⟩
  simp [Bench.ipGate] at said

/-- The layer answers a plain request, and not with a preflight answer; the response did not go
through the pass once. -/
def Misses (layer : GuardLayer Bench.world) : Prop :=
  (∃ response, (passCall layer).flow = .pass (.ok response)) ∧
    (∀ event ∈ (passCall layer).trace,
      event.consult.check = some .corsPreflight → event.verdict ≠ .denied) ∧
    ¬PassedOnce Bench.engine (layer.wrap Bench.engine Bench.ok)
      (Bench.request "GET" "/items" none []) Bench.start

/-- The gate's denial is processed twice, and a modifier without a processor never runs. -/
theorem denial_and_modifier_miss_the_pass :
    Misses (gatedLayer [Bench.client.display]) ∧ Misses modifiedLayer := by
  have twice : (passCall (gatedLayer [Bench.client.display])).trace.countP Event.isProcess = 2 := by
    decide +kernel
  have never : (passCall modifiedLayer).trace.countP Event.isModifier = 0 := by decide +kernel
  constructor
  · refine ⟨Bench.response_of_answers (by decide +kernel), by decide +kernel, fun once => ?_⟩
    have processed := once.counts.1 rfl
    exact absurd (twice.symm.trans processed) (by decide)
  · refine ⟨Bench.response_of_answers (by decide +kernel), by decide +kernel, fun once => ?_⟩
    have modified := once.modified rfl
    exact absurd (never.symm.trans modified) (by decide)

end TowerGuard
