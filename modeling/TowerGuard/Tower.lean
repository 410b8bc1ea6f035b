import TowerGuard.StageService
import TowerGuard.Answers
import TowerGuard.Traced.Machine

/-!
# Guards in a tower stack

What a caller does with the guards it holds: wrap, poll, clone and call them, and drive the
futures it got, in any order. Every guard owns one value of the wrapped service, and so does
every future of a `GuardService`. A caller calls a guard only when the last `poll_ready` of
that guard answered `Ready(Ok)`, with no call since.
-/

namespace TowerGuard

open Text Traced

variable {W : World}

/-- What `poll_ready` answers. -/
inductive Readiness where
  | ready | pending | failed
  deriving DecidableEq

/-- A value of the wrapped service. It is ready when its last `poll_ready` answered
`Ready(Ok)`, with no call since. -/
structure Instance where
  ready : Bool

namespace Instance

def pollReady (_instance : Instance) (outcome : Readiness) : Instance := ⟨outcome = .ready⟩

/-- A clone starts not ready, whatever it is a clone of. -/
def clone (_instance : Instance) : Instance := ⟨false⟩

/-- A call takes the readiness with it. -/
def call (_instance : Instance) : Instance := ⟨false⟩

end Instance

variable (W) in
/-- A call on a value of the wrapped service, and whether that value was ready for it. -/
structure InnerCall where
  request : Request W
  ready : Bool

/-- A value of the wrapped service takes these requests one after the other. -/
def Instance.serve : Instance → List (Request W) → Instance × List (InnerCall W)
  | inner, [] => (inner, [])
  | inner, request :: rest =>
    ((inner.call.serve rest).1, ⟨request, inner.ready⟩ :: (inner.call.serve rest).2)

variable (W) in
inductive Guard where
  | fused (service : GuardService W)
  | stage (service : GuardStageService W)

variable (W) in
/-- A guard in the caller's hands. `polled` is what the contract lets the caller rely on. -/
structure Held where
  guard : Guard W
  inner : Instance
  polled : Bool

/-- `poll_ready` of either kind delegates to the value the guard owns. -/
def Held.pollReady (held : Held W) (outcome : Readiness) : Held W :=
  { held with inner := held.inner.pollReady outcome, polled := outcome = .ready }

/-- The derived `Clone` clones the wrapped service along. -/
def Held.clone (held : Held W) : Held W :=
  { held with inner := held.inner.clone, polled := false }

variable (W) in
/-- The boxed future of a `GuardService` call. It owns a clone of the wrapped service. -/
structure Deferred where
  service : GuardService W
  inner : Instance
  request : Request W

variable (W) in
/-- The guards and futures of one stack, over what they share. -/
structure Tower where
  guards : List (Held W)
  futures : List (Deferred W)
  store : Store W

variable (W) in
inductive Action where
  | wrap (guard : Guard W) (inner : Instance)
  | pollReady (guard : Nat) (outcome : Readiness)
  | clone (guard : Nat)
  | call (guard : Nat) (request : Request W)
  | drive (future : Nat)
  /-- Anything else that moves the shared state: the clock, other stacks. -/
  | elsewhere (store : Store W)

namespace Tower

def start (store : Store W) : Tower W where
  guards := []
  futures := []
  store := store

/-- `call` on guard `i`. A `GuardService` clones its value and leaves the rest to a future;
a stage service decides, and calls its own value, in place. -/
def call (tower : Tower W) (i : Nat) (held : Held W) (request : Request W) :
    Tower W × List (InnerCall W) :=
  match held.guard with
  -- The clone is taken here; that the guard's own value was polled no longer matters.
  | .fused service =>
    ({ tower with
        guards := tower.guards.set i { held with polled := false }
        futures := tower.futures ++ [{ service, inner := held.inner.clone, request }] }, [])
  | .stage service =>
    let passed : Run (Store W) (Event W) Empty _ := service.call request tower.store
    -- The request goes, if at all, to the very value the caller polled.
    let (inner, calls) := held.inner.serve (handedOver passed.trace)
    ({ tower with
        guards := tower.guards.set i { held with inner, polled := false }
        store := passed.state }, calls)

/-- A future runs to its end. -/
def drive (E : Engine W) (tower : Tower W) (i : Nat) (future : Deferred W) :
    Tower W × List (InnerCall W) :=
  let passed := future.service.call E future.request tower.store
  ({ tower with futures := tower.futures.eraseIdx i, store := passed.state },
    (future.inner.serve (handedOver passed.trace)).2)

/-- One step of a caller that respects the contract. -/
def step (E : Engine W) : Machine (Tower W) (Action W) (InnerCall W)
  | tower, .wrap guard inner =>
    some ({ tower with guards := tower.guards ++ [{ guard, inner, polled := false }] }, [])
  | tower, .pollReady i outcome =>
    tower.guards[i]?.map fun held =>
      ({ tower with guards := tower.guards.set i (held.pollReady outcome) }, [])
  | tower, .clone i =>
    tower.guards[i]?.map fun held => ({ tower with guards := tower.guards ++ [held.clone] }, [])
  -- Only a guard whose last `poll_ready` said so may be called.
  | tower, .call i request =>
    (tower.guards[i]?.filter Held.polled).map fun held => tower.call i held request
  | tower, .drive i => tower.futures[i]?.map fun future => tower.drive E i future
  | tower, .elsewhere store => some ({ tower with store }, [])

end Tower

/-! ### What a stage hands over -/

theorem GuardStageLayer.handed_question (layer : GuardStageLayer W) (facts : RequestFacts)
    (verdict : Verdict) : (Event.mk (layer.question facts) verdict).handed = none := by
  cases layer <;> rfl

/-- A stage hands the request over as it came, or nothing. -/
theorem GuardStageService.call_handedOver (gate : GuardStageService W) (request : Request W)
    (s : Store W) : handedOver (gate.call request s : Run _ (Event W) Empty _).trace = [] ∨
      handedOver (gate.call request s : Run _ (Event W) Empty _).trace = [request] := by
  have silent := gate.decides.handed_question (.extract request.toParts)
  rcases decided : gate.decides.decide (.extract request.toParts) (headerPairs request.headers) s
    with ⟨_ | _ | verdict, s'⟩
  · left
    rw [GuardStageService.call_of_panic _ decided]
    simp [handedOver, silent]
  · right
    rw [GuardStageService.call_of_pass _ decided]
    rcases called : gate.inner.call request s' with ⟨_ | answer, s''⟩ <;>
      simp [handedOver, silent, Prog.ask, called, Event.handed_inner]
  · left
    rw [GuardStageService.call_of_denial _ decided]
    rcases gate.inner.renderVerdict verdict with _ | response
    · simp [handedOver, silent, Prog.expect, Prog.unwind, Prog.bind_run]
    · simp [handedOver, silent, Prog.expect, Prog.bind_run, Prog.pure_run]

end TowerGuard
