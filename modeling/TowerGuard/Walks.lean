import TowerGuard.Concurrency
import TowerGuard.Traced.Walk

/-!
# What a call finds

A call among others comes down to its acts, each with the store it found and the one it left. Each
check is one, the body read only at its end, and what follows the checks goes on from there.
`future_walks_iff` says so of the whole call.
-/

namespace TowerGuard

open Text Traced

variable {W : World} {ε : Type} {E : Engine W} {service : GuardService W} {request : Request W}
  {acts : List (Act (Store W))} {trace : List (Event W)}

/-- Reading the body is no act. -/
theorem bufferFrames_walks_iff {cap : Nat} {buffered : Bytes} {body : Body}
    {flow : Flow ε (Except BufferFailure Bytes × Body)} :
    (Future.bufferFrames cap buffered body : Future W ε _).Walks acts trace flow ↔
      acts = [] ∧ trace = [] ∧ flow = .pass (bufferFrames cap buffered body) := by
  induction body generalizing buffered with
  | nil => exact Thread.walks_pass_iff
  | cons poll rest ih =>
    cases poll with
    | pending => exact Thread.walks_wait_iff.trans ih
    | trailers => exact ih
    | failed => exact Thread.walks_pass_iff
    | data bytes =>
      simp only [Future.bufferFrames, bufferFrames]
      split
      · exact Thread.walks_pass_iff
      · exact ih

/-- What was read is judged in one step. -/
theorem bodyBuffering_walks_iff {layer : GuardLayer W} {parts : Parts W} {body : Body}
    {route : Option (RouteConfig W)} {α : Type} {f : Option Bytes → α} {flow : Flow (Early W) α} :
    ((Future.bodyBuffering E layer parts body route).bind fun read => .pass (f read)).Walks acts
        trace flow ↔
      (do let read ← bodyBuffering E layer parts body route; pure (f read)).Once acts trace
        flow := by
  unfold Future.bodyBuffering
  simp only [Thread.bind_eq]
  rw [Thread.bind_assoc, Thread.walks_silent_bind_iff bufferFrames_walks_iff]
  simp only [bodyBuffering, bufferBody]
  rcases bufferFrames (bodyCap E layer route) [] body with ⟨failure | bytes, unread⟩
  · cases failure <;> exact Thread.walks_atomically_map_iff
  · exact Thread.walks_atomically_map_iff

/-- Every check is one act, and does in it what it does alone. -/
theorem check_walks_iff {k : Check} {χ : Locals W} {flow : Flow (Early W) (Locals W)} :
    (k.future E service χ).Walks acts trace flow ↔ (k.run E service χ).Once acts trace flow := by
  cases k with
  | bodyBuffering =>
    rw [run_bodyBuffering]
    exact bodyBuffering_walks_iff
  | _ => exact Thread.walks_atomically_iff

/-- No check hands anything over. -/
theorem checks_handedOver {cs : List Check} {χ : Locals W} {ended : Flow (Early W) (Locals W)}
    (walks : Checklist.Walks (Check.run E service) cs χ acts trace ended) :
    handedOver trace = [] := by
  induction walks with
  | nil χ => rfl
  | pass _ _ ih => rw [handedOver_append, run_handedOver, ih]; rfl
  | exit _ => exact run_handedOver _ _ _
  | unwound _ => exact run_handedOver _ _ _

/-- Checks that have all passed have read the body. -/
theorem checks_read {χ : Locals W} (walks : Checklist.Walks (Check.run E service) Check.pipeline
    (.start request) acts trace (.pass χ)) : χ.buffered.getD [] = request.body.content := by
  have passed : Check.Passed E service request Check.pipeline trace χ := walks.cleared .nil
  exact passed.buffered (Check.mem_pipeline _)

/-- What follows the checks: the forward, or the answer to an early exit. -/
def GuardService.goOn (E : Engine W) (service : GuardService W) (facts : RequestFacts) :
    Flow (Early W) (Locals W) → Future W Empty (Except W.InnerError (Response W))
  | .pass χ => Future.forward E service.layer facts χ.parts χ.buffered service.inner
  | .exit early => Future.conclude E service facts early
  | .unwound => .unwound

section Behind

variable {layer : GuardLayer W} {facts : RequestFacts} {ended : Flow (Early W) (Locals W)}
  {result : Except W.InnerError (Response W)}

/-- The response side hands nothing over, and makes what it says of its value. -/
theorem Aside.walks {α : Type} {V : α → Prop} {t : Future W ε α} {flow : Flow ε α}
    (aside : Aside layer (fun _ => True) V t) (walks : t.Walks acts trace flow) :
    (∀ event ∈ trace, event.aside) ∧ ∀ a, flow = .pass a → V a := by
  obtain ⟨⟨later, whole, behind⟩, values⟩ :=
    (aside .vacuous [] fun _ _ _ _ _ _ _ => trivial).walks walks
  obtain rfl : trace = later := whole
  exact ⟨behind, values⟩

/-- A forward hands over what it rebuilds, and passes on what the wrapped service answers. -/
theorem forward_walks {parts : Parts W} {buffered : Option Bytes} {inner : InnerService W}
    {flow : Flow ε (Except W.InnerError (Response W))}
    (walks : (Future.forward E layer facts parts buffered inner : Future W ε _).Walks acts trace
      flow) : handedOver trace = [inner.rebuild parts buffered] ∧ ∀ result, flow = .pass result →
        ∃ act ∈ acts, ∃ answer, (inner.call (inner.rebuild parts buffered) act.found).1 =
          some answer ∧ Forwarded layer answer result := by
  obtain ⟨s, later, trace', rfl, rfl, onward⟩ := Thread.walks_atomically_bind_iff.mp walks
  rw [handedOver_append]
  rcases called : inner.call (inner.rebuild parts buffered) s with ⟨_ | answer, s'⟩
  · rw [Prog.ask_unwound called] at onward ⊢
    cases onward
    refine ⟨rfl, ?_⟩
    rintro result ⟨⟩
  · rw [Prog.ask_pass called] at onward ⊢
    obtain ⟨behind, values⟩ :=
      (passForwarded_aside E layer trivial answer).walks (Thread.walks_wait_iff.mp onward)
    rw [handedOver_eq_nil fun event member => Event.handed_of_aside (behind event member)]
    exact ⟨rfl, fun result passes => ⟨_, List.mem_cons_self, answer, congrArg Prod.fst called,
      values result passes⟩⟩

/-- What follows the checks ends with the guard's own response and nothing handed over, or with what
the wrapped service answered to the one request it was handed. -/
theorem goOn_walks (walks : (service.goOn E facts ended).Walks acts trace (.pass result)) :
    (handedOver trace = [] ∧ ∃ response, result = .ok response ∧ response.Own) ∨
      ∃ r, handedOver trace = [r] ∧ ∃ act ∈ acts, ∃ answer,
        (service.inner.call r act.found).1 = some answer ∧
          Forwarded service.layer answer result := by
  rcases ended with χ | ⟨parts | ⟨parts, answer⟩⟩ | _
  · obtain ⟨handed, passes⟩ := forward_walks walks
    exact .inr ⟨_, handed, passes result rfl⟩
  · obtain ⟨handed, passes⟩ := forward_walks walks
    exact .inr ⟨_, handed, passes result rfl⟩
  · have whole : Aside service.layer (fun _ => True)
        (fun result => ∃ response, result = .ok response ∧ response.Own)
        (Future.conclude E service facts (.answered parts answer) : Future W Empty _) :=
      (render_aside E service.layer trivial answer).bind fun response own =>
        .pure ⟨response, rfl, own⟩
    obtain ⟨behind, values⟩ := whole.walks walks
    exact .inl ⟨handedOver_eq_nil fun event member => Event.handed_of_aside (behind event member),
      values result rfl⟩
  · cases walks

end Behind

/-- A call walks through its checks, each an act of its own, up to the first that does not pass, and
goes on from there. -/
theorem future_walks_iff {flow : Flow Empty (Except W.InnerError (Response W))} :
    (service.future E request).Walks acts trace flow ↔ ∃ ended s₁ s₂ t₁ t₂,
      Checklist.Walks (Check.run E service) Check.pipeline (.start request) s₁ t₁ ended ∧
        (service.goOn E (.extract request.toParts) ended).Walks s₂ t₂ flow ∧
        acts = s₁ ++ s₂ ∧ trace = t₁ ++ t₂ := by
  unfold GuardService.future
  rw [Thread.walks_wait_iff, Thread.walks_settle_iff]
  refine exists_congr fun ended => exists₄_congr fun s₁ s₂ t₁ t₂ => and_congr ?_ ?_
  · exact Checklist.walks_iff fun _ _ _ _ _ => check_walks_iff
  · cases ended <;> exact Iff.rfl

/-! ### Where a call waits for its body -/

section Reading

variable {cs : List Check} {k : Check} {χ : Locals W} {held : Waiting}

/-- The read loop waits with its cap, and has done nothing. -/
theorem bufferFrames_goes {cap : Nat} {buffered : Bytes} {body : Body}
    {t : Future W ε (Except BufferFailure Bytes × Body)}
    (goes : (Future.bufferFrames cap buffered body : Future W ε _).Goes acts trace t)
    (waits : t.held? = some held) :
    acts = [] ∧ trace = [] ∧ ∃ buffered, held = .frame cap buffered := by
  induction body generalizing buffered with
  | nil => cases goes; cases waits
  | cons poll rest ih =>
    cases poll with
    | pending =>
      cases goes with
      | refl => cases waits; exact ⟨rfl, rfl, buffered, rfl⟩
      | wait onward => exact ih onward
    | trailers => exact ih goes
    | failed => cases goes; cases waits
    | data bytes =>
      simp only [Future.bufferFrames] at goes
      split at goes
      · cases goes; cases waits
      · exact ih goes

/-- What is taken as one step waits for nothing. -/
theorem atomically_goes {α : Type} {m : Prog (Store W) (Event W) ε α} {t : Future W ε α}
    (goes : (Thread.atomically m : Future W ε α).Goes acts trace t) : t.held? = none := by
  unfold Thread.atomically at goes
  cases goes with
  | refl => rfl
  | act onward => exact onward.of_ofFlow

/-- A check that waits is the one of the body, with the cap its locals set. -/
theorem check_goes {t : Future W (Early W) (Locals W)}
    (goes : (k.future E service χ).Goes acts trace t) (waits : t.held? = some held) :
    k = .bodyBuffering ∧ acts = [] ∧ trace = [] ∧
      ∃ buffered, held = .frame (bodyCap E service.layer χ.route) buffered := by
  cases k with
  | bodyBuffering =>
    rcases Thread.Goes.of_bind goes waits with ⟨t', reads, waits⟩ |
      ⟨ended, s₁, s₂, t₁, t₂, -, onward, -, -⟩
    · rcases Thread.Goes.of_bind reads waits with ⟨t'', loop, waits⟩ |
        ⟨ended, s₁, s₂, t₁, t₂, -, judged, -, -⟩
      · exact ⟨rfl, bufferFrames_goes loop waits⟩
      · -- What was read is judged in one step.
        rcases ended with ⟨⟨_ | _⟩ | bytes, unread⟩ | early | _
        · rw [atomically_goes judged] at waits; cases waits
        · rw [atomically_goes judged] at waits; cases waits
        · rw [atomically_goes judged] at waits; cases waits
        · cases judged; cases waits
        · cases judged; cases waits
    · cases ended <;> cases onward <;> cases waits
  | _ => rw [atomically_goes goes] at waits; cases waits

/-- A list of checks that waits has walked to the one of the body. -/
theorem checks_goes {t : Future W (Early W) (Locals W)}
    (goes : (Thread.checklist (Check.future E service) cs χ).Goes acts trace t)
    (waits : t.held? = some held) : ∃ front back χ' buffered,
      cs = front ++ .bodyBuffering :: back ∧
      Checklist.Walks (Check.run E service) front χ acts trace (.pass χ') ∧
      held = .frame (bodyCap E service.layer χ'.route) buffered := by
  induction cs generalizing χ acts trace with
  | nil => cases goes; cases waits
  | cons k cs ih =>
    rcases Thread.Goes.of_bind goes waits with ⟨t', within, waits⟩ |
      ⟨ended, s₁, s₂, t₁, t₂, walks, onward, rfl, rfl⟩
    · obtain ⟨rfl, rfl, rfl, buffered, rfl⟩ := check_goes within waits
      exact ⟨[], cs, χ, buffered, rfl, .nil χ, rfl⟩
    · obtain ⟨s, rfl, rfl, rfl⟩ := check_walks_iff.mp walks
      cases came : (k.run E service χ s).flow with
      | pass χ' =>
        rw [came] at onward
        obtain ⟨front, back, χ'', buffered, rfl, later, rfl⟩ := ih onward
        exact ⟨k :: front, back, χ'', buffered, rfl, .pass came later, rfl⟩
      | exit early => rw [came] at onward; cases onward; cases waits
      | unwound => rw [came] at onward; cases onward; cases waits

/-- Behind its checks a call waits for the wrapped service alone. -/
theorem goOn_ensures {facts : RequestFacts} {ended : Flow (Early W) (Locals W)}
    (past : List (Event W)) : (service.goOn E facts ended).Ensures
      ⟨fun _ _ _ => True, fun _ held => held = .inner⟩ (fun _ _ => True) past := by
  have forwards (parts : Parts W) (buffered : Option Bytes) {past : List (Event W)} :
      (Future.forward E service.layer facts parts buffered service.inner :
        Future W Empty _).Ensures ⟨fun _ _ _ => True, fun _ held => held = .inner⟩
          (fun _ _ => True) past := by
    refine .bind (Thread.ensures_atomically_iff.mpr fun s => ⟨trivial, ?_⟩)
    cases (Prog.ask _ (service.inner.call (service.inner.rebuild parts buffered)) s).flow with
    | pass answer =>
      have aside : Aside service.layer (fun _ => True) (Forwarded service.layer answer)
          (Future.passForwarded E service.layer facts answer : Future W Empty _) :=
        passForwarded_aside E service.layer trivial answer
      exact ⟨rfl, (aside _ _ fun _ _ _ _ _ _ _ => trivial).mono fun _ _ _ => trivial⟩
    | exit e => trivial
    | unwound => trivial
  rcases ended with χ | ⟨parts | ⟨parts, answer⟩⟩ | _
  · exact forwards _ _
  · exact forwards _ _
  · have aside : Aside service.layer (fun _ => True) Response.Own
        (Future.render E service.layer parts answer : Future W Empty _) :=
      render_aside E service.layer trivial answer
    refine .bind ((aside _ _ fun _ _ _ _ _ _ _ => trivial).mono ?_)
    rintro past flow -
    cases flow <;> trivial
  · trivial

/-- A call that waits for its body has walked through the checks ahead of it, and holds no more than
the carrier allows that one of its acts has found. -/
theorem future_goes_frame {t : Future W Empty (Except W.InnerError (Response W))} {cap : Nat}
    {buffered : Bytes} (goes : (service.future E request).Goes acts trace t)
    (waits : t.held? = some (.frame cap buffered)) : ∃ front back χ,
      Check.pipeline = front ++ .bodyBuffering :: back ∧
      Checklist.Walks (Check.run E service) front (.start request) acts trace (.pass χ) ∧
      cap = bodyCap E service.layer χ.route := by
  unfold GuardService.future at goes
  rcases Thread.Goes.of_wait goes waits with ⟨-, -, ⟨⟩⟩ | goes
  rcases goes.of_settle waits with ⟨t', within, waits⟩ |
    ⟨ended, s₁, s₂, t₁, t₂, -, onward, -, -⟩
  · obtain ⟨front, back, χ, buffered', split, walks, same⟩ := checks_goes within waits
    exact ⟨front, back, χ, split, walks, (Waiting.frame.inj same).1⟩
  · have onward : (service.goOn E (.extract request.toParts) ended).Goes s₂ t₂ t := by
      cases ended <;> exact onward
    cases ((goOn_ensures []).goes onward).holds waits

/-- The carrier a call goes by is as one of its acts has found it. -/
theorem walks_route {cs : List Check} {χ : Locals W} (ahead : cs <+: Check.pipeline)
    (walks : Checklist.Walks (Check.run E service) cs (.start request) acts trace (.pass χ))
    (resolved : .routeCarrier ∈ cs) :
    ∃ act ∈ acts, χ.route = service.carrier request act.found := by
  obtain ⟨χ₀, act, χ₁, s', t, among, held, same, wrote, after⟩ :=
    Checklist.Walks.written (I := Locals.Of request) (f := Locals.route)
      (fun k other χ s χ' s' t here => (run_frame here).route other)
      (fun k χ s χ' s' t held here => held.frame (run_frame here)) ⟨rfl, rfl, rfl⟩ walks
      (Check.pipeline_nodup.sublist ahead.sublist) resolved
  exact ⟨act, among, after.trans (route_of_pass held same wrote)⟩

end Reading

end TowerGuard
