import TowerGuard.Answers
import TowerGuard.Traced.Pool

/-!
# The future of a call

`GuardService::call` boxes its async block and returns. The block runs when the future is
polled, and it suspends where the body is pending and while the wrapped service answers. What
lies between runs on, but every call of a collaborator in it is a step of its own: other
requests have theirs in between.

`future_alone` says that a future nothing interferes with is the call of `Service`.
-/

namespace TowerGuard

open Text Traced

variable {W : World} {ε : Type}

/-- What a suspended call waits for, with the buffer it holds meanwhile. -/
inductive Waiting where
  | poll
  | frame (cap : Nat) (buffered : Bytes)
  | inner
  deriving DecidableEq

variable (W) in
abbrev Future (ε α : Type) := Thread (Store W) (Event W) Waiting ε α

namespace Future

/-! ### The body -/

/-- The read loop. It suspends at a pending poll and polls the rest when it is woken. -/
def bufferFrames (cap : Nat) (buffered : Bytes) :
    Body → Future W ε (Except BufferFailure Bytes × Body)
  | [] => pure (.ok buffered, [])
  | .pending :: rest => .wait (.frame cap buffered) (bufferFrames cap buffered rest)
  | .trailers :: rest => bufferFrames cap buffered rest
  | .failed :: rest => pure (.error .read, rest)
  | .data bytes :: rest =>
    if cap < buffered.length + bytes.length then pure (.error .tooLarge, rest)
    else bufferFrames cap (buffered ++ bytes) rest

def bodyBuffering (E : Engine W) (layer : GuardLayer W) (parts : Parts W) (body : Body)
    (route : Option (RouteConfig W)) : Future W (Early W) (Option Bytes) := do
  let cap := bodyCap E layer route
  match ← bufferFrames cap [] body with
  | (.ok buffered, unread) => Thread.atomically do
      Prog.emit ⟨.bodyBuffering cap unread, .passed⟩
      pure (if buffered = [] then none else some buffered)
  | (.error .tooLarge, unread) =>
      Thread.atomically (refuse (.bodyBuffering cap unread) (.answered parts .oversize))
  | (.error .read, unread) =>
      Thread.atomically (refuse (.bodyBuffering cap unread) (.answered parts .failure))

/-! ### The response side -/

def runModifier (layer : GuardLayer W) (input : RequestBits) (bits : ResponseBits) :
    Future W ε ResponseBits :=
  match layer.responseModifier with
  | none => pure bits
  | some modifier => do
    match ← Thread.atomically (Prog.caught (notify .responseModifier (modifier bits))) with
    | some modified => pure modified
    | none =>
      match layer.onError with
      | some hook => do
        Thread.atomically (notify .onError (hook "custom_response_modifier"
          "the response modifier panicked; returning unmodified response"
          [("path", input.urlPath)]))
        pure bits
      | none => pure bits

def applyResponseProcessor (E : Engine W) (layer : GuardLayer W) (input : RequestBits)
    (status : Nat) (headers : HeaderMap) (lane : ResponseLane) :
    Future W ε (Option Nat × HeaderMap) :=
  match layer.responseProcessor with
  | none => pure (none, headers)
  | some processor => do
    -- The clock is read with the question it goes into.
    let (bits, _action) ← Thread.atomically do
      let now ← Prog.reads fun s => E.now s.other
      Prog.ask (fun answer => ⟨.process input status, .ofAction answer⟩)
        (onOther (processor.process input { status, body := none, headers := [] } now))
    Thread.atomically (emitHeadersAppliedEvent E layer processor input lane)
    let bits ← runModifier layer input bits
    let modifiedStatus := if bits.status ≠ status then some bits.status else none
    pure (modifiedStatus, mergeHeaders headers bits.headers)

def passGenerated (E : Engine W) (layer : GuardLayer W) (parts : Parts W)
    (generated : Generated) : Future W ε Generated := do
  let (modified, headers) ← applyResponseProcessor E layer (.fromParts parts)
    generated.status.asU16 generated.headers .generated
  pure { generated with status := overrideStatus generated.status modified, headers }

def finishGenerated (E : Engine W) (layer : GuardLayer W) (parts : Parts W)
    (generated : Generated) : Future W ε (Response W) := do
  let finished ← passGenerated E layer parts generated
  pure finished.response

/-- A shaped answer goes on; a status that is no HTTP status panics. -/
def shaped {α : Type} (generated : Option Generated) (finish : Generated → Future W ε α) :
    Future W ε α :=
  match generated with
  | some generated => finish generated
  | none => .unwound

def render (E : Engine W) (layer : GuardLayer W) (parts : Parts W) :
    Answer → Future W ε (Response W)
  | .preflight answer => shaped (Generated.preflight answer) fun generated =>
      pure generated.response
  | .block status body =>
      shaped (Generated.blockedWithBody status body) (finishGenerated E layer parts)
  | .gate body => shaped (Generated.blockedWithBody 403 body) fun generated => do
      let denial ← passGenerated E layer parts generated
      finishGenerated E layer parts denial
  | .stage response => finishGenerated E layer parts (Generated.stage response)
  | .redirect answer => shaped (Generated.redirect answer) (finishGenerated E layer parts)
  | .oversize => finishGenerated E layer parts Generated.oversize
  | .failure => finishGenerated E layer parts Generated.failure

def passForwarded (E : Engine W) (layer : GuardLayer W) (facts : RequestFacts) :
    Except W.InnerError (InnerResponse W) →
      Future W ε (Except W.InnerError (Response W))
  | .error error => pure (.error error)
  | .ok response => do
    let (modified, headers) ← applyResponseProcessor E layer (.fromFacts facts)
      response.status.asU16 response.headers .forwarded
    pure (.ok
      { status := overrideStatus response.status modified
        headers := headers
        body := .passthrough response.body })

/-- `forward`. What the wrapped service does to the shared state it does at one point; its
answer is waited for. -/
def forward (E : Engine W) (layer : GuardLayer W) (facts : RequestFacts) (parts : Parts W)
    (buffered : Option Bytes) (inner : InnerService W) :
    Future W ε (Except W.InnerError (Response W)) := do
  let rebuilt := inner.rebuild parts buffered
  let answer ← Thread.atomically <| Prog.ask
    (fun answer => ⟨.inner rebuilt, if answer.isSome then .passed else .panicked⟩)
    (inner.call rebuilt)
  .wait .inner (passForwarded E layer facts answer)

def conclude (E : Engine W) (service : GuardService W) (facts : RequestFacts) :
    Early W → Future W ε (Except W.InnerError (Response W))
  | .excluded parts => forward E service.layer facts parts none service.inner
  | .answered parts answer => do
    let response ← render E service.layer parts answer
    pure (.ok response)

end Future

/-- A check of the list asks at most one collaborator, the block hook of a denial included, so
that it is one step. The body read is as many as it suspends. -/
def Check.future (E : Engine W) (service : GuardService W) (k : Check) (χ : Locals W) :
    Future W (Early W) (Locals W) :=
  match k with
  | .bodyBuffering => do
    let buffered ← Future.bodyBuffering E service.layer χ.parts χ.body χ.route
    pure { χ with buffered }
  | k => Thread.atomically (k.run E service χ)

/-- The future `Service::call` returns. It does nothing before its first poll. -/
def GuardService.future (E : Engine W) (service : GuardService W) (request : Request W) :
    Future W Empty (Except W.InnerError (Response W)) :=
  let facts := RequestFacts.extract request.toParts
  .wait .poll <|
    (Thread.checklist (Check.future E service) Check.pipeline (.start request)).settle
      (fun χ => Future.forward E service.layer facts χ.parts χ.buffered service.inner)
      (Future.conclude E service facts)

/-! ### Without interference -/

section Alone

open Thread

variable (E : Engine W) (layer : GuardLayer W)

theorem bufferFrames_alone (cap : Nat) (buffered : Bytes) (body : Body) :
    (Future.bufferFrames cap buffered body : Future W ε _).alone =
      pure (bufferFrames cap buffered body) := by
  induction body generalizing buffered with
  | nil => rfl
  | cons poll rest ih =>
    cases poll with
    | pending => exact ih buffered
    | trailers => exact ih buffered
    | failed => rfl
    | data bytes =>
      simp only [Future.bufferFrames, bufferFrames]
      split
      · rfl
      · exact ih _

theorem bodyBuffering_alone (parts : Parts W) (body : Body) (route : Option (RouteConfig W)) :
    (Future.bodyBuffering E layer parts body route).alone =
      bodyBuffering E layer parts body route := by
  simp only [Future.bodyBuffering, bodyBuffering, alone_bind, bufferFrames_alone, pure_bind,
    bufferBody]
  rcases bufferFrames (bodyCap E layer route) [] body with ⟨failure | bytes, unread⟩
  · cases failure <;> simp only [alone_atomically]
  · simp only [alone_atomically]

theorem runModifier_alone (input : RequestBits) (bits : ResponseBits) :
    (Future.runModifier layer input bits : Future W ε _).alone = runModifier layer input bits := by
  unfold Future.runModifier runModifier
  cases layer.responseModifier with
  | none => rfl
  | some modifier =>
    simp only [alone_bind, alone_atomically]
    refine bind_congr fun answer => ?_
    cases answer with
    | some modified => rfl
    | none => cases layer.onError <;> simp

theorem applyResponseProcessor_alone (input : RequestBits) (status : Nat) (headers : HeaderMap)
    (lane : ResponseLane) :
    (Future.applyResponseProcessor E layer input status headers lane : Future W ε _).alone =
      applyResponseProcessor E layer input status headers lane := by
  unfold Future.applyResponseProcessor applyResponseProcessor
  cases layer.responseProcessor with
  | none => rfl
  | some processor =>
    simp only [alone_bind, alone_atomically, bind_assoc, runModifier_alone, alone_pure]

theorem passGenerated_alone (parts : Parts W) (generated : Generated) :
    (Future.passGenerated E layer parts generated : Future W ε _).alone =
      passGenerated E layer parts generated := by
  simp only [Future.passGenerated, passGenerated, alone_bind, applyResponseProcessor_alone,
    alone_pure]

theorem finishGenerated_alone (parts : Parts W) (generated : Generated) :
    (Future.finishGenerated E layer parts generated : Future W ε _).alone =
      finishGenerated E layer parts generated := by
  simp only [Future.finishGenerated, finishGenerated, alone_bind, passGenerated_alone, alone_pure]

theorem shaped_alone {α : Type} (generated : Option Generated)
    (finish : Generated → Future W ε α) : (Future.shaped generated finish).alone =
      Prog.expect generated >>= fun generated => (finish generated).alone := by
  cases generated with
  | none => rfl
  | some generated => simp [Future.shaped, Prog.expect]

theorem render_alone (parts : Parts W) (answer : Answer) :
    (Future.render E layer parts answer : Future W ε _).alone = render E layer parts answer := by
  cases answer <;>
    simp only [Future.render, render, blockResponse, shaped_alone, alone_bind, alone_pure,
      passGenerated_alone, finishGenerated_alone]

theorem passForwarded_alone (facts : RequestFacts)
    (answer : Except W.InnerError (InnerResponse W)) :
    (Future.passForwarded E layer facts answer : Future W ε _).alone =
      passForwarded E layer facts answer := by
  cases answer with
  | error error => rfl
  | ok response =>
    simp only [Future.passForwarded, passForwarded, alone_bind, applyResponseProcessor_alone,
      alone_pure]

theorem forward_alone (facts : RequestFacts) (parts : Parts W) (buffered : Option Bytes)
    (inner : InnerService W) :
    (Future.forward E layer facts parts buffered inner : Future W ε _).alone =
      forward E layer facts parts buffered inner := by
  simp only [Future.forward, forward, alone_bind, alone_atomically, alone_wait,
    passForwarded_alone]

theorem conclude_alone (service : GuardService W) (facts : RequestFacts) (early : Early W) :
    (Future.conclude E service facts early : Future W ε _).alone =
      service.conclude E facts early := by
  cases early with
  | excluded parts => exact forward_alone E service.layer facts parts none service.inner
  | answered parts answer =>
    simp only [Future.conclude, GuardService.conclude, alone_bind, render_alone, alone_pure]

theorem check_alone (service : GuardService W) (k : Check) (χ : Locals W) :
    (k.future E service χ).alone = k.run E service χ := by
  cases k with
  | bodyBuffering =>
    simp only [Check.future, alone_bind, bodyBuffering_alone, alone_pure]
    exact (run_bodyBuffering E service χ).symm
  | _ => exact alone_atomically _

/-- With nothing in between the future is the call. -/
theorem future_alone (service : GuardService W) (request : Request W) :
    (service.future E request).alone = service.call E request := by
  have checks : (Thread.checklist (Check.future E service) Check.pipeline
      (.start request)).alone = Check.runPipeline E service request := by
    rw [alone_checklist, Check.runPipeline]
    congr 1
    funext k χ
    exact check_alone E service k χ
  unfold GuardService.future GuardService.call
  dsimp only
  rw [alone_wait, alone_settle, checks, screening_eq]
  funext s
  -- The pair the async block ends with is read off the last locals.
  simp only [forward_alone, conclude_alone, Prog.settle, Prog.bind_run]
  rcases Check.runPipeline E service request s with ⟨χ | early | _, s', t⟩ <;>
    simp [Prog.pure_run, Run.after]

end Alone

end TowerGuard
