import TowerGuard.Agreement
import TowerGuard.Properties.Reset
import TowerGuard.Traced.Machine

/-!
# Clones and re-layerings

Every `layer` call builds an engine stage of its own, over the handles it finds in the layer. As
long as a stage keeps what it counts in those handles, all services of one layer are one guard.
-/

namespace TowerGuard

open Text Traced

variable {W : World} {φ : Type}

/-! ### A fleet -/

/-- The engine at its `n`th build of a stage. No two builds give the same object. -/
def Engine.atBuild (E : Engine W) (builder : Nat → RateLimitStageParts W → RateLimitStage W)
    (n : Nat) : Engine W :=
  { E with rateLimitStage := builder n }

variable (W) in
/-- The layers and services that stem from one layer, over what they share. -/
structure Fleet where
  layers : List (GuardLayer W)
  services : List (GuardService W)
  builds : Nat
  store : Store W

namespace Fleet

def start (layer : GuardLayer W) (store : Store W) : Fleet W where
  layers := [layer]
  services := []
  builds := 0
  store := store

variable (W) in
inductive Action where
  | cloneLayer (layer : Nat)
  | wrap (layer : Nat)
  | cloneService (service : Nat)
  | call (service : Nat) (request : Request W)
  | resetLayer (layer : Nat)
  | resetService (service : Nat)
  /-- The clock, and whatever else moves outside the guard. -/
  | elsewhere (move : W.Other → W.Other)

end Fleet

variable (W) in
/-- What is put to one service. -/
inductive Errand where
  | call (request : Request W)
  | reset
  | elsewhere (move : W.Other → W.Other)

/-- The request or the reset, whichever service or layer it is put to. -/
def Fleet.Action.errands : Fleet.Action W → List (Errand W)
  | .cloneLayer _ | .wrap _ | .cloneService _ => []
  | .call _ request => [.call request]
  | .resetLayer _ | .resetService _ => [.reset]
  | .elsewhere move => [.elsewhere move]

variable (W φ) in
/-- What a request or a reset shows: the answer, and the state it leaves in the handles and
outside the engine stage. -/
structure Seen where
  answer : Option (Flow Empty (Except W.InnerError (Response W)))
  handles : φ
  other : W.Other

section Machines

variable (E : Engine W) (builder : Nat → RateLimitStageParts W → RateLimitStage W)
  (resetLimiter : RateLimiter → W.Limits → W.Limits) (handles : W.Limits → φ)
  (inner : InnerService W)

def Seen.of (answer : Option (Flow Empty (Except W.InnerError (Response W)))) (s : Store W) :
    Seen W φ :=
  ⟨answer, handles s.limits, s.other⟩

/-- One step of the fleet. A clone of a layer or of a service shares all its handles. -/
def Fleet.step : Machine (Fleet W) (Fleet.Action W) (Seen W φ)
  | fleet, .cloneLayer i =>
    fleet.layers[i]?.map fun layer => ({ fleet with layers := fleet.layers ++ [layer] }, [])
  | fleet, .wrap i =>
    fleet.layers[i]?.map fun layer =>
      ({ fleet with
          services := fleet.services ++ [layer.wrap (E.atBuild builder fleet.builds) inner]
          builds := fleet.builds + 1 }, [])
  | fleet, .cloneService i =>
    fleet.services[i]?.map fun service =>
      ({ fleet with services := fleet.services ++ [service] }, [])
  | fleet, .call i request =>
    fleet.services[i]?.map fun service =>
      let run := service.call E request fleet.store
      ({ fleet with store := run.state }, [.of handles (some run.flow) run.state])
  | fleet, .resetLayer i =>
    fleet.layers[i]?.map fun layer =>
      let store := layer.reset resetLimiter fleet.store
      ({ fleet with store }, [.of handles none store])
  | fleet, .resetService i =>
    fleet.services[i]?.map fun service =>
      let store := service.reset resetLimiter fleet.store
      ({ fleet with store }, [.of handles none store])
  | fleet, .elsewhere move =>
    some ({ fleet with store := { fleet.store with other := move fleet.store.other } }, [])

/-- One step of one service. -/
def GuardService.errand (service : GuardService W) :
    Machine (Store W) (Errand W) (Seen W φ)
  | s, .call request =>
    let run := service.call E request s
    some (run.state, [.of handles (some run.flow) run.state])
  | s, .reset =>
    let store := service.reset resetLimiter s
    some (store, [.of handles none store])
  | s, .elsewhere move => some ({ s with other := move s.other }, [])

end Machines

/-! ### The fleet is one guard -/

section Simulation

variable {E : Engine W} {builder : Nat → RateLimitStageParts W → RateLimitStage W}
  {resetLimiter : RateLimiter → W.Limits → W.Limits} {handles : W.Limits → φ}
  {inner : InnerService W} {layer : GuardLayer W} {s s' : Store W}

/-- What the engine is relied on for: what its stages count is in the handles, and a clone of a
handle is the handle. -/
structure KeepsInHandles (handles : W.Limits → φ)
    (builder : Nat → RateLimitStageParts W → RateLimitStage W)
    (resetLimiter : RateLimiter → W.Limits → W.Limits) (layer : GuardLayer W) : Prop where
  builds : ∀ n m parts, StagesAgree (SameView handles id) (builder n parts) (builder m parts)
  agents : ∀ stage, layer.userAgent = some stage → ∀ ip gate path userAgent finding,
    Call.Agree (SameView handles id) Eq (stage.decide ip gate path userAgent finding)
      (stage.decide ip gate path userAgent finding)
  resets : ∀ limiter, layer.rateLimiter = some limiter → ∀ limits limits',
    handles limits = handles limits' →
      handles (resetLimiter limiter limits) = handles (resetLimiter limiter limits')

theorem steady_id {α : Type} (c : Call W.Other α) : Steady id c := by
  intro o o' same
  rw [id, id] at same
  exact ⟨by rw [same], by rw [same]⟩

theorem reset_sameView (keeps : KeepsInHandles handles builder resetLimiter layer)
    (same : SameView handles id s s') :
    SameView handles id (layer.reset resetLimiter s) (layer.reset resetLimiter s') := by
  unfold GuardLayer.reset
  split
  next limiter installed => exact ⟨keeps.resets limiter installed _ _ same.limits, same.other⟩
  next => exact same

/-- Two builds of the layer's service take a request alike. -/
theorem builds_alike (keeps : KeepsInHandles handles builder resetLimiter layer)
    (fresh : layer.stage = none) (wrapped : ∀ request,
      Call.Agree (SameView handles id) Eq (inner.call request) (inner.call request))
    (n m : Nat) (request : Request W) (same : SameView handles id s s') :
    Run.Alike (SameView handles id) Eq
      ((layer.wrap (E.atBuild builder n) inner).call E request s)
      ((layer.wrap (E.atBuild builder m) inner).call E request s') := by
  have stages : StagesAgree (SameView handles id) (layer.wrap (E.atBuild builder n) inner).stage
      (layer.wrap (E.atBuild builder m) inner).stage := by
    rw [layer.wrap_stage _ inner fresh, layer.wrap_stage _ inner fresh]
    exact keeps.builds n m _
  -- The services differ in their stage and in nothing else.
  have restaged : layer.wrap (E.atBuild builder m) inner =
      (layer.wrap (E.atBuild builder n) inner).withStage
        (layer.wrap (E.atBuild builder m) inner).stage := rfl
  rw [restaged]
  have meets : CollaboratorsMeet E (layer.wrap (E.atBuild builder n) inner) (fun _ => True)
      fun _ c => Steady id c := .of_all fun _ => steady_id
  refine call_alike ?_ (fun _ _ _ _ _ same =>
    rulesAlike_of_steady meets stages keeps.agents (fun _ _ => trivial) same) same
  exact
    { hook := fun _ => (steady_id _).agree
      clock := fun _ _ same => congrArg E.now same.other
      process := fun _ _ _ _ _ => (steady_id _).agree.mono fun _ _ h => by rw [h]
      event := fun _ _ _ => (steady_id _).agree
      modifier := fun _ _ _ => (steady_id _).agree
      onError := fun _ _ _ _ _ => (steady_id _).agree
      inner := wrapped }

variable (E builder handles inner layer) in
/-- All of the fleet stems from the layer, and it shares the state of the one service. -/
structure Fleet.Mirrors (fleet : Fleet W) (s : Store W) : Prop where
  layers : ∀ clone ∈ fleet.layers, clone = layer
  services : ∀ service ∈ fleet.services, ∃ n, service = layer.wrap (E.atBuild builder n) inner
  shared : SameView handles id fleet.store s

theorem Seen.of_same {answer : Option (Flow Empty (Except W.InnerError (Response W)))}
    (same : SameView handles id s s') : Seen.of handles answer s = Seen.of handles answer s' := by
  have other : s.other = s'.other := same.other
  rw [Seen.of, Seen.of, same.limits, other]

/-- A step of the fleet is a step of any one of its services, or changes nothing shared. -/
theorem fleet_step (keeps : KeepsInHandles handles builder resetLimiter layer)
    (fresh : layer.stage = none) (wrapped : ∀ request,
      Call.Agree (SameView handles id) Eq (inner.call request) (inner.call request))
    {m : Nat} {fleet fleet' : Fleet W} {action : Fleet.Action W} {shown : List (Seen W φ)}
    (mirrors : fleet.Mirrors E builder handles inner layer s)
    (taken : fleet.step E builder resetLimiter handles inner action = some (fleet', shown)) :
    ∃ s', (((layer.wrap (E.atBuild builder m) inner).errand E resetLimiter handles).run s
        action.errands = some (s', shown)) ∧
      fleet'.Mirrors E builder handles inner layer s' := by
  obtain ⟨layers, services, shared⟩ := mirrors
  cases action with
  | cloneLayer i =>
    obtain ⟨clone, found, ⟨⟩⟩ := Option.map_eq_some_iff.mp taken
    refine ⟨s, rfl, ?_, services, shared⟩
    simp only [List.mem_append, List.mem_singleton]
    rintro _ (old | rfl)
    · exact layers _ old
    · exact layers _ (List.mem_of_getElem? found)
  | wrap i =>
    obtain ⟨clone, found, ⟨⟩⟩ := Option.map_eq_some_iff.mp taken
    obtain rfl := layers clone (List.mem_of_getElem? found)
    refine ⟨s, rfl, layers, ?_, shared⟩
    simp only [List.mem_append, List.mem_singleton]
    rintro _ (old | rfl)
    · exact services _ old
    · exact ⟨fleet.builds, rfl⟩
  | cloneService i =>
    obtain ⟨service, found, ⟨⟩⟩ := Option.map_eq_some_iff.mp taken
    refine ⟨s, rfl, layers, ?_, shared⟩
    simp only [List.mem_append, List.mem_singleton]
    rintro _ (old | rfl)
    · exact services _ old
    · exact services _ (List.mem_of_getElem? found)
  | call i request =>
    obtain ⟨service, found, ⟨⟩⟩ := Option.map_eq_some_iff.mp taken
    obtain ⟨n, rfl⟩ := services service (List.mem_of_getElem? found)
    obtain ⟨flows, left⟩ := builds_alike (E := E) keeps fresh wrapped n m request shared
    refine ⟨_, Machine.run_singleton ?_, layers, services, left⟩
    rw [flows.eq, Seen.of_same left]
    rfl
  | resetLayer i =>
    obtain ⟨clone, found, ⟨⟩⟩ := Option.map_eq_some_iff.mp taken
    obtain rfl := layers clone (List.mem_of_getElem? found)
    have left := reset_sameView keeps shared
    refine ⟨_, Machine.run_singleton ?_, layers, services, left⟩
    rw [Seen.of_same left]
    rfl
  | resetService i =>
    obtain ⟨service, found, ⟨⟩⟩ := Option.map_eq_some_iff.mp taken
    obtain ⟨n, rfl⟩ := services service (List.mem_of_getElem? found)
    have left := reset_sameView keeps shared
    rw [GuardLayer.wrap_reset]
    refine ⟨_, Machine.run_singleton ?_, layers, services, left⟩
    rw [Seen.of_same left]
    rfl
  | elsewhere move =>
    cases taken
    exact ⟨_, rfl, layers, services, shared.limits, congrArg move shared.other⟩

/-- Whatever is put to the clones and re-layerings of one layer, in whatever order, every request
is answered as by one single service, and leaves the shared state as it does. -/
theorem fleet_runs_as_one (keeps : KeepsInHandles handles builder resetLimiter layer)
    (fresh : layer.stage = none) (wrapped : ∀ request,
      Call.Agree (SameView handles id) Eq (inner.call request) (inner.call request))
    (m : Nat) {actions : List (Fleet.Action W)} {final : Fleet W} {shown : List (Seen W φ)}
    (ran : (Fleet.step E builder resetLimiter handles inner).run (.start layer s) actions =
      some (final, shown)) :
    ∃ s', ((layer.wrap (E.atBuild builder m) inner).errand E resetLimiter handles).run s
        (actions.flatMap Fleet.Action.errands) = some (s', shown) ∧
      handles final.store.limits = handles s'.limits ∧ final.store.other = s'.other := by
  have start : (Fleet.start layer s).Mirrors E builder handles inner layer s := by
    refine ⟨?_, ?_, rfl, rfl⟩
    · intro clone member
      exact List.mem_singleton.mp member
    · intro service member
      cases member
  obtain ⟨s', matched, mirrors⟩ := Machine.run_simulated (C := fun _ _ => True)
    (fun _ _ _ _ _ mirrors _ taken => fleet_step (m := m) keeps fresh wrapped mirrors taken)
    start (Machine.along_of_forall fun _ _ => trivial) ran
  exact ⟨s', matched, mirrors.shared.limits, mirrors.shared.other⟩

end Simulation

/-! ### Two services over one limiter -/

def Seen.status (seen : Seen W φ) : Option Nat := seen.answer.bind Bench.statusOf

/-- The metering stage keeps its counts in the stores of its handles. -/
theorem metered_keeps : KeepsInHandles id (fun _ => Metered.rateLimitStage) meteredReset
    (limitingLayer none) where
  builds := by
    intro n m parts
    exact ⟨rfl, fun _ _ => agree_self _, fun _ _ _ _ _ _ => agree_self _⟩
  agents := by
    intro stage installed
    cases installed
  resets := by
    rintro limiter _ limits _ rfl
    rfl

/-- One request to each of two services, of which one wraps a clone of the layer, a reset on
that clone, and a request to a third service. -/
def relayering : List (Fleet.Action Metered.world) :=
  let request := Metered.request (some Bench.client) "GET" "/items" none []
  [.wrap 0, .cloneLayer 0, .wrap 1, .call 0 request, .call 1 request, .resetLayer 1,
    .cloneService 0, .call 2 request]

/-- The second service throttles the client the first one let through. -/
theorem relayered_throttles_as_one :
    ∃ final shown s', (Fleet.step Metered.engine (fun _ => Metered.rateLimitStage) meteredReset id
        Metered.ok).run (.start (limitingLayer none) Metered.start) relayering =
          some (final, shown) ∧
      shown.map Seen.status = [some 200, some 429, none, some 200] ∧
      (((limitingLayer none).wrap (Metered.engine.atBuild (fun _ => Metered.rateLimitStage) 0)
        Metered.ok).errand Metered.engine meteredReset id).run Metered.start
          (relayering.flatMap Fleet.Action.errands) = some (s', shown) := by
  have statuses : ((Fleet.step Metered.engine (fun _ => Metered.rateLimitStage) meteredReset id
      Metered.ok).run (.start (limitingLayer none) Metered.start) relayering).map
        (fun ended => ended.2.map Seen.status) = some [some 200, some 429, none, some 200] := by
    decide +kernel
  obtain ⟨⟨final, shown⟩, ran, answers⟩ := Option.map_eq_some_iff.mp statuses
  have wrapped : ∀ request, Call.Agree (SameView id id) Eq (Metered.ok.call request)
      (Metered.ok.call request) := fun _ => .returning rfl
  obtain ⟨s', matched, -⟩ := fleet_runs_as_one metered_keeps rfl wrapped 0 ran
  exact ⟨final, shown, s', ran, answers, matched⟩

end TowerGuard
