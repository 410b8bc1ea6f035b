import TowerGuard.Tower
import TowerGuard.Engine.Bench

/-!
# The readiness contract

A stage service calls the value that its `poll_ready` polled. A `GuardService` polls one
value and calls a clone of it, which nobody has polled, so that a run keeps the contract
exactly when none of its deferred calls gets as far as the wrapped service.
-/

namespace TowerGuard

open Text Traced

variable {W : World} {E : Engine W} {tower tower' : Tower W} {action : Action W}
  {calls : List (InnerCall W)}

/-- The request stays with the guard: a check answers it or panics on it. -/
def Check.Ending.stays : Check.Ending W → Prop
  | .forward _ | .denied _ (.excluded _) _ => False
  | .denied _ (.answered _ _) _ | .panicked _ => True

theorem GuardService.handsOver_eq_nil_iff (service : GuardService W) (ended : Check.Ending W) :
    service.handsOver ended = [] ↔ ended.stays := by
  rcases ended with final | ⟨k, parts | ⟨parts, answer⟩, payload⟩ | k <;>
    simp [GuardService.handsOver, Check.Ending.stays]

/-- A deferred call that is driven here stays with its guard. -/
def Tower.Stays (E : Engine W) (tower : Tower W) : Action W → Prop
  | .drive i => ∀ future ∈ tower.futures[i]?,
      (Check.ending E future.service Check.pipeline (.start future.request)
        tower.store).1.stays
  | _ => True

/-- What the caller may rely on holds of the value behind the guard, and the value a future
owns has never been polled. -/
structure Tower.Sound (tower : Tower W) : Prop where
  polled : ∀ held ∈ tower.guards, held.polled = true → held.inner.ready = true
  deferred : ∀ future ∈ tower.futures, future.inner.ready = false

namespace Tower

theorem start_sound (store : Store W) : (start store).Sound :=
  ⟨fun _ none => (nomatch none), fun _ none => nomatch none⟩

/-! ### Steps -/

section Guards

variable {i : Nat} {held : Held W} {futures : List (Deferred W)} {store : Store W}

/-- Another guard in the hands of the caller. -/
theorem Sound.append (sound : tower.Sound)
    (fits : held.polled = true → held.inner.ready = true) :
    Sound { tower with guards := tower.guards ++ [held] } := by
  refine ⟨?_, sound.deferred⟩
  intro other member
  rcases List.mem_append.mp member with here | new
  · exact sound.polled other here
  · obtain rfl := List.mem_singleton.mp new
    exact fits

/-- A guard changes in place. -/
theorem Sound.set (sound : tower.Sound)
    (fits : held.polled = true → held.inner.ready = true) :
    Sound { tower with guards := tower.guards.set i held, store := store } := by
  refine ⟨?_, sound.deferred⟩
  intro other member
  rcases List.mem_or_eq_of_mem_set member with here | rfl
  · exact sound.polled other here
  · exact fits

theorem Sound.defer (sound : tower.Sound) {future : Deferred W}
    (fresh : future.inner.ready = false) :
    Sound { tower with futures := tower.futures ++ [future] } := by
  refine ⟨sound.polled, ?_⟩
  intro other member
  rcases List.mem_append.mp member with here | new
  · exact sound.deferred other here
  · obtain rfl := List.mem_singleton.mp new
    exact fresh

theorem Sound.call (sound : tower.Sound) (i : Nat) (held : Held W) (request : Request W) :
    (tower.call i held request).1.Sound := by
  unfold Tower.call
  split
  · -- The future's value is a fresh clone.
    exact Sound.defer (Sound.set sound fun polled => by cases polled) rfl
  · exact Sound.set sound fun polled => by cases polled

theorem Sound.drive (sound : tower.Sound) (i : Nat) (future : Deferred W) :
    (tower.drive E i future).1.Sound :=
  ⟨sound.polled, fun other member => sound.deferred other (List.mem_of_mem_eraseIdx member)⟩

end Guards

/-- The invariant of a caller that respects the contract. -/
theorem step_sound (sound : tower.Sound) (taken : tower.step E action = some (tower', calls)) :
    tower'.Sound := by
  cases action with
  | wrap guard inner =>
    cases taken
    exact sound.append fun polled => by cases polled
  | pollReady i outcome =>
    obtain ⟨held, -, ⟨⟩⟩ := Option.map_eq_some_iff.mp taken
    exact sound.set id
  | clone i =>
    obtain ⟨held, -, ⟨⟩⟩ := Option.map_eq_some_iff.mp taken
    exact sound.append fun polled => by cases polled
  | call i request =>
    obtain ⟨held, -, called⟩ := Option.map_eq_some_iff.mp taken
    have kept := sound.call i held request
    rwa [called] at kept
  | drive i =>
    obtain ⟨future, -, driven⟩ := Option.map_eq_some_iff.mp taken
    have kept := sound.drive (E := E) i future
    rwa [driven] at kept
  | elsewhere store =>
    cases taken
    exact ⟨sound.polled, sound.deferred⟩

variable (tower) in
/-- A stage service calls the value its own `poll_ready` polled. -/
theorem call_ready (i : Nat) {held : Held W} (ready : held.inner.ready = true)
    (request : Request W) : ∀ call ∈ (tower.call i held request).2, call.ready = true := by
  unfold Tower.call
  split
  next => exact fun _ member => nomatch member
  next gate _ =>
    -- At most one request goes to the polled value, which is what one readiness is good for.
    rcases gate.call_handedOver request tower.store with none | one
    · simp [none, Instance.serve]
    · simp [one, Instance.serve, ready]

variable (E tower) in
/-- A deferred call is made on a value that nobody polled, if it is made at all. -/
theorem drive_ready_iff (i : Nat) {future : Deferred W} (fresh : future.inner.ready = false) :
    (∀ call ∈ (tower.drive E i future).2, call.ready = true) ↔
      (Check.ending E future.service Check.pipeline (.start future.request)
        tower.store).1.stays := by
  rw [← future.service.handsOver_eq_nil_iff]
  rw [Tower.drive, call_handedOver]
  rcases future.service.handsOver _ with _ | ⟨request, rest⟩ <;> simp [Instance.serve, fresh]

theorem step_ready_iff (sound : tower.Sound)
    (taken : tower.step E action = some (tower', calls)) :
    (∀ call ∈ calls, call.ready = true) ↔ tower.Stays E action := by
  cases action with
  | call i request =>
    obtain ⟨held, found, called⟩ := Option.map_eq_some_iff.mp taken
    obtain ⟨found, polled⟩ := Option.filter_eq_some_iff.mp found
    have ready := call_ready tower i
      (sound.polled held (List.mem_of_getElem? found) polled) request
    rw [called] at ready
    exact iff_of_true ready trivial
  | drive i =>
    obtain ⟨future, found, driven⟩ := Option.map_eq_some_iff.mp taken
    have ready := drive_ready_iff E tower i
      (sound.deferred future (List.mem_of_getElem? found))
    rw [driven] at ready
    simpa [Tower.Stays, found] using ready
  | wrap guard inner =>
    cases taken
    exact iff_of_true (fun _ member => nomatch member) trivial
  | pollReady i outcome =>
    obtain ⟨held, -, ⟨⟩⟩ := Option.map_eq_some_iff.mp taken
    exact iff_of_true (fun _ member => nomatch member) trivial
  | clone i =>
    obtain ⟨held, -, ⟨⟩⟩ := Option.map_eq_some_iff.mp taken
    exact iff_of_true (fun _ member => nomatch member) trivial
  | elsewhere store =>
    cases taken
    exact iff_of_true (fun _ member => nomatch member) trivial

/-! ### Runs -/

/-- Whatever a caller that respects the contract does, it ends with a sound tower. -/
theorem run_sound {store : Store W} {actions : List (Action W)}
    (ran : Machine.run (Tower.step E) (.start store) actions = some (tower, calls)) :
    tower.Sound := by
  apply Machine.run_keeps _ (start_sound store) ran
  intro tower action tower' calls sound taken
  exact step_sound sound taken

/-- Every call on the wrapped service is made on a ready value exactly when every deferred
call of a `GuardService` stays with its guard. -/
theorem calls_ready_iff (E : Engine W) (store : Store W) (actions : List (Action W))
    {final : Tower W} {calls : List (InnerCall W)}
    (ran : Machine.run (Tower.step E) (.start store) actions = some (final, calls)) :
    (∀ call ∈ calls, call.ready = true) ↔
      Machine.Along (Tower.step E) (Tower.Stays E) (.start store) actions := by
  apply Machine.run_shows_iff (I := Tower.Sound) _ _ (start_sound store) ran
  · intro tower action tower' calls sound taken
    exact step_sound sound taken
  · intro tower action tower' calls sound taken
    exact step_ready_iff sound taken

/-- A caller wraps, polls and calls a guard. -/
def polledCall (guard : Guard Bench.world) : List (Action Bench.world) :=
  [.wrap guard ⟨false⟩, .pollReady 0 .ready, .call 0 (Bench.request "GET" "/items" none [])]

/-- A ban arm in front of the small engine's service, polled and called. -/
theorem polled_stage_ready :
    ∃ final calls, Machine.run (Tower.step Bench.engine) (.start Bench.start)
        (polledCall (.stage Bench.banStage)) = some (final, calls) ∧
      calls.length = 1 ∧ ∀ call ∈ calls, call.ready = true :=
  ⟨_, _, rfl, rfl,
    (calls_ready_iff Bench.engine Bench.start (polledCall (.stage Bench.banStage)) rfl).mpr
    ⟨trivial, fun _ _ _ => ⟨trivial, fun _ _ _ => ⟨trivial, fun _ _ _ => trivial⟩⟩⟩⟩

/-- A `GuardService` polled once and called once calls a value that was never polled. -/
theorem cloned_inner_not_ready :
    ¬∀ (actions : List (Action Bench.world)) (final : Tower Bench.world)
      (calls : List (InnerCall Bench.world)),
      Machine.run (Tower.step Bench.engine) (.start Bench.start) actions = some (final, calls) →
        ∀ call ∈ calls, call.ready = true := by
  intro claimed
  -- The caller keeps the contract: it wraps, polls, calls, and drives the future.
  have ready := claimed (polledCall (.fused (Bench.layer.wrap Bench.engine Bench.ok)) ++ [.drive 0])
    _ _ rfl
  revert ready
  decide +kernel

end Tower

end TowerGuard
