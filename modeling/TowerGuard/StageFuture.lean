import TowerGuard.Composition
import TowerGuard.Future
import TowerGuard.Traced.Walk

/-!
# The future of a stacked call

`pass_gate` decides in `call` itself, stage by stage, before there is a future to poll. What it
returns is the rendering of a denial, which runs when it is polled, or the future of the wrapped
service. In between the decisions other requests have theirs.

`StageEnding.Found` is the row of decisions with each an act of its own. `stacked_walks` reads it
off a call, and `found_stacked` makes a call of it.
-/

namespace TowerGuard

open Text Traced

variable {W : World}

namespace StageInner

variable (inner : StageInner W)

/-- `render_verdict` in the boxed block: what has no rendering panics. -/
def rendered (verdict : StageVerdict) : Flow Empty (Except W.InnerError (InnerResponse W)) :=
  match inner.renderVerdict verdict with
  | some response => .pass (.ok response)
  | none => .unwound

/-- The innermost call. -/
def asked (request : Request W) :
    Prog (Store W) (Event W) Empty (Except W.InnerError (InnerResponse W)) :=
  Prog.ask (fun answer => ⟨.inner request, if answer.isSome then .passed else .panicked⟩)
    (inner.call request)

/-- `call` on the layers stacked over a service, and the future it returns. -/
def future (request : Request W) :
    List (GuardStageLayer W) → Future W Empty (Except W.InnerError (InnerResponse W))
  | [] => do
    let answer ← Thread.atomically (inner.asked request)
    .wait .inner (pure answer)
  | layer :: layers => do
    let facts := RequestFacts.extract request.toParts
    match ← Thread.atomically (judge (layer.question facts)
      (layer.decide facts (headerPairs request.headers))) with
    | some verdict => .wait .poll (.ofFlow (inner.rendered verdict))
    | none => future request layers

end StageInner

/-! ### Without interference -/

section Alone

variable (inner : StageInner W) (request : Request W)

theorem stacked_alone_cons (layer : GuardStageLayer W) (layers : List (GuardStageLayer W)) :
    (inner.future request (layer :: layers)).alone = (do
      let facts := RequestFacts.extract request.toParts
      match ← judge (layer.question facts) (layer.decide facts (headerPairs request.headers)) with
      | some verdict => (Thread.ofFlow (inner.rendered verdict) : Future W _ _).alone
      | none => (inner.future request layers).alone) := by
  simp only [StageInner.future, Thread.alone_bind, Thread.alone_atomically]
  refine bind_congr fun denial => ?_
  cases denial <;> rfl

/-- With nothing in between the future ends as the stack of services does. -/
theorem stacked_alone (layers : List (GuardStageLayer W)) (s : Store W) :
    (inner.behind layers).call request s =
      (match ((inner.future request layers).alone s).flow with
        | .pass answer => some answer
        | .exit _ | .unwound => none, ((inner.future request layers).alone s).state) := by
  induction layers generalizing s with
  | nil =>
    have alone : (inner.future request []).alone = inner.asked request >>= pure := by
      simp only [StageInner.future, Thread.alone_bind, Thread.alone_atomically]
      rfl
    rw [alone, bind_pure]
    change inner.call request s = _
    rcases called : inner.call request s with ⟨_ | answer, s'⟩ <;>
      simp only [StageInner.asked, Prog.ask, called]
  | cons layer layers ih =>
    rw [StageInner.behind_cons, GuardStageService.asInner_call, stacked_alone_cons]
    dsimp only
    rcases decided : layer.decide (.extract request.toParts) (headerPairs request.headers) s with
      ⟨_ | _ | verdict, s'⟩
    · rw [Prog.bind_unwound (judge_unwound decided)]
    · rw [Prog.bind_pass (judge_pass decided)]
      exact ih s'
    · rw [Prog.bind_pass (judge_pass decided)]
      dsimp only [StageInner.rendered]
      rw [StageInner.behind_renderVerdict]
      cases inner.renderVerdict verdict <;> rfl

end Alone

/-! ### Each decision on a store of its own -/

/-- How a row ends with such an answer, if not with a pass. -/
def StageEnding.ofAnswer : Option (Option StageVerdict) → StageEnding
  | some none => .forward
  | some (some verdict) => .blocked verdict
  | none => .panicked

/-- The decisions in order, each an act of its own on the store it finds, up to the first that
blocks. -/
inductive StageEnding.Found : List (Call (Store W) (Option StageVerdict)) →
    List (Act (Store W)) → StageEnding → Prop
  | nil : Found [] [] .forward
  | pass {decision : Call (Store W) (Option StageVerdict)}
      {decisions : List (Call (Store W) (Option StageVerdict))} {s s' : Store W}
      {acts : List (Act (Store W))} {ended : StageEnding} : decision s = (some none, s') →
      Found decisions acts ended → Found (decision :: decisions) (⟨s, s'⟩ :: acts) ended
  | stop {decision : Call (Store W) (Option StageVerdict)}
      {decisions : List (Call (Store W) (Option StageVerdict))} {s s' : Store W}
      {answer : Option (Option StageVerdict)} : decision s = (answer, s') → answer ≠ some none →
      Found (decision :: decisions) [⟨s, s'⟩] (.ofAnswer answer)

/-- How a call answers behind such an ending: what it does then, what it hands over, and the
answer. -/
inductive StageInner.Answers (inner : StageInner W) (request : Request W) :
    StageEnding → List (Act (Store W)) → List (Request W) →
      Flow Empty (Except W.InnerError (InnerResponse W)) → Prop
  | called {s s' : Store W} {answer : Except W.InnerError (InnerResponse W)} :
      inner.call request s = (some answer, s') →
      Answers inner request .forward [⟨s, s'⟩] [request] (.pass answer)
  | lost {s s' : Store W} : inner.call request s = (none, s') →
      Answers inner request .forward [⟨s, s'⟩] [request] .unwound
  | denied (verdict : StageVerdict) :
      Answers inner request (.blocked verdict) [] [] (inner.rendered verdict)
  | panicked : Answers inner request .panicked [] [] .unwound

/-- What a call waits for behind such an ending: its denial with nothing handed over, or the
service, which has the request. -/
inductive StageInner.Awaits (inner : StageInner W) (request : Request W) :
    StageEnding → Waiting → List (Act (Store W)) → List (Request W) → Prop
  | poll (verdict : StageVerdict) : Awaits inner request (.blocked verdict) .poll [] []
  | inner {s s' : Store W} {answer : Except W.InnerError (InnerResponse W)} :
      inner.call request s = (some answer, s') →
      Awaits inner request .forward .inner [⟨s, s'⟩] [request]

section Walks

variable {inner : StageInner W} {request : Request W} {layer : GuardStageLayer W}
  {layers : List (GuardStageLayer W)} {acts : List (Act (Store W))} {trace : List (Event W)}
  {flow : Flow Empty (Except W.InnerError (InnerResponse W))} {s s' : Store W}

/-- No stage hands anything over. -/
theorem judge_handed (facts : RequestFacts) (headers : List (String × String))
    (layer : GuardStageLayer W) (s : Store W) :
    handedOver (judge (layer.question facts) (layer.decide facts headers) s :
      Run (Store W) (Event W) Empty _).trace = [] := by
  have silent (verdict : Verdict) :
      handedOver [(⟨layer.question facts, verdict⟩ : Event W)] = [] := by
    cases layer <;> rfl
  rcases decided : layer.decide facts headers s with ⟨_ | denial, s'⟩
  · rw [judge_unwound decided]
    exact silent _
  · rw [judge_pass decided]
    exact silent _

theorem asked_called {answer : Except W.InnerError (InnerResponse W)}
    (said : inner.call request s = (some answer, s')) :
    (inner.asked request s).flow = .pass answer ∧ (inner.asked request s).state = s' ∧
      handedOver (inner.asked request s).trace = [request] := by
  rw [StageInner.asked, Prog.ask_pass said]
  exact ⟨rfl, rfl, rfl⟩

theorem asked_lost (said : inner.call request s = (none, s')) :
    (inner.asked request s).flow = .unwound ∧ (inner.asked request s).state = s' ∧
      handedOver (inner.asked request s).trace = [request] := by
  rw [StageInner.asked, Prog.ask_unwound said]
  exact ⟨rfl, rfl, rfl⟩

/-- What a call has done where it ended: its row of decisions, and behind it the answer. -/
theorem stacked_walks (walks : (inner.future request layers).Walks acts trace flow) :
    ∃ found rest ended, acts = found ++ rest ∧
      StageEnding.Found (decisionsOn request layers) found ended ∧
      inner.Answers request ended rest (handedOver trace) flow := by
  induction layers generalizing acts trace with
  | nil =>
    obtain ⟨s, later, trace', rfl, rfl, onward⟩ := Thread.walks_atomically_bind_iff.mp walks
    refine ⟨[], _ :: later, .forward, rfl, .nil, ?_⟩
    rcases said : inner.call request s with ⟨_ | answer, s'⟩
    · obtain ⟨flow, state, handed⟩ := asked_lost said
      rw [flow] at onward
      cases onward
      rw [List.append_nil, handed, state]
      exact .lost said
    · obtain ⟨flow, state, handed⟩ := asked_called said
      rw [flow] at onward
      cases onward with
      | wait ended =>
        cases ended
        rw [List.append_nil, handed, state]
        exact .called said
  | cons layer layers ih =>
    obtain ⟨s, later, trace', rfl, rfl, onward⟩ := Thread.walks_atomically_bind_iff.mp walks
    rw [handedOver_append, judge_handed, List.nil_append]
    rcases decided : layer.decide (.extract request.toParts) (headerPairs request.headers) s with
      ⟨_ | _ | verdict, s'⟩
    · rw [judge_unwound decided] at onward ⊢
      cases onward
      exact ⟨[_], [], .ofAnswer none, rfl, .stop decided (by simp), .panicked⟩
    · rw [judge_pass decided] at onward ⊢
      obtain ⟨found, rest, ended, rfl, row, answers⟩ := ih onward
      exact ⟨_ :: found, rest, ended, rfl, .pass decided row, answers⟩
    · rw [judge_pass decided] at onward ⊢
      obtain ⟨rfl, rfl, rfl⟩ := Thread.walks_ofFlow_iff.mp (Thread.walks_wait_iff.mp onward)
      exact ⟨[_], [], .ofAnswer (some (some verdict)), rfl, .stop decided (by simp),
        .denied verdict⟩

/-- A call waits with its denial or for the wrapped service, behind all of its decisions. -/
theorem stacked_goes {t : Future W Empty (Except W.InnerError (InnerResponse W))} {held : Waiting}
    (goes : (inner.future request layers).Goes acts trace t) (waits : t.held? = some held) :
    ∃ found rest ended, acts = found ++ rest ∧
      StageEnding.Found (decisionsOn request layers) found ended ∧
      inner.Awaits request ended held rest (handedOver trace) := by
  induction layers generalizing acts trace with
  | nil =>
    obtain ⟨s, later, trace', rfl, rfl, onward⟩ := goes.of_atomically_bind waits
    rcases said : inner.call request s with ⟨_ | answer, s'⟩
    · rw [(asked_lost said).1] at onward
      cases onward
      cases waits
    · obtain ⟨flow, state, handed⟩ := asked_called said
      rw [flow] at onward
      rcases Thread.Goes.of_wait onward waits with ⟨rfl, rfl, rfl⟩ | onward
      · refine ⟨[], [_], .forward, rfl, .nil, ?_⟩
        rw [List.append_nil, handed, state]
        exact .inner said
      · cases onward
        cases waits
  | cons layer layers ih =>
    obtain ⟨s, later, trace', rfl, rfl, onward⟩ := goes.of_atomically_bind waits
    rw [handedOver_append, judge_handed, List.nil_append]
    rcases decided : layer.decide (.extract request.toParts) (headerPairs request.headers) s with
      ⟨_ | _ | verdict, s'⟩
    · rw [judge_unwound decided] at onward
      cases onward
      cases waits
    · rw [judge_pass decided] at onward ⊢
      obtain ⟨found, rest, ended, rfl, row, awaits⟩ := ih onward
      exact ⟨_ :: found, rest, ended, rfl, .pass decided row, awaits⟩
    · rw [judge_pass decided] at onward ⊢
      rcases Thread.Goes.of_wait onward waits with ⟨rfl, rfl, rfl⟩ | onward
      · exact ⟨[_], [], .ofAnswer (some (some verdict)), rfl, .stop decided (by simp),
          .poll verdict⟩
      · rw [onward.of_ofFlow] at waits
        cases waits

/-- Whatever its decisions may do, and the service behind them, some call does it so. -/
theorem found_stacked {found rest : List (Act (Store W))} {handed : List (Request W)}
    {ended : StageEnding} (row : StageEnding.Found (decisionsOn request layers) found ended)
    (answers : inner.Answers request ended rest handed flow) :
    ∃ trace, (inner.future request layers).Walks (found ++ rest) trace flow ∧
      handedOver trace = handed := by
  induction layers generalizing found with
  | nil =>
    cases row
    cases answers with
    | @called s s' answer said =>
      obtain ⟨came, state, handed⟩ := asked_called said
      refine ⟨(inner.asked request s).trace ++ [], Thread.walks_atomically_bind_iff.mpr
        ⟨s, [], [], by rw [state]; rfl, rfl, ?_⟩, by rw [List.append_nil, handed]⟩
      rw [came]
      exact .wait (.pass answer)
    | @lost s s' said =>
      obtain ⟨came, state, handed⟩ := asked_lost said
      refine ⟨(inner.asked request s).trace ++ [], Thread.walks_atomically_bind_iff.mpr
        ⟨s, [], [], by rw [state]; rfl, rfl, ?_⟩, by rw [List.append_nil, handed]⟩
      rw [came]
      exact .unwound
  | cons layer layers ih =>
    have silent := judge_handed (.extract request.toParts) (headerPairs request.headers) layer
    cases row with
    | @pass _ _ s s' found _ said row =>
      obtain ⟨trace, walks, handed⟩ := ih row
      refine ⟨_ ++ trace, Thread.walks_atomically_bind_iff.mpr ⟨s, found ++ rest, trace, ?_, rfl,
        ?_⟩, by rw [handedOver_append, silent, handed, List.nil_append]⟩
      · rw [judge_pass said]
        rfl
      · rw [judge_pass said]
        exact walks
    | @stop _ _ s s' answer said stops =>
      rcases answer with _ | _ | verdict
      · cases answers
        refine ⟨_ ++ [], Thread.walks_atomically_bind_iff.mpr ⟨s, [], [], ?_, rfl, ?_⟩,
          by rw [handedOver_append, silent]; rfl⟩
        · rw [judge_unwound said]
          rfl
        · rw [judge_unwound said]
          exact .unwound
      · exact absurd rfl stops
      · cases answers
        refine ⟨_ ++ [], Thread.walks_atomically_bind_iff.mpr ⟨s, [], [], ?_, rfl, ?_⟩,
          by rw [handedOver_append, silent]; rfl⟩
        · rw [judge_pass said]
          rfl
        · rw [judge_pass said]
          exact .wait (Thread.walks_ofFlow_iff.mpr ⟨rfl, rfl, rfl⟩)

end Walks

end TowerGuard
