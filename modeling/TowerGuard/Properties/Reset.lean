import TowerGuard.Maintenance
import TowerGuard.Untouched
import TowerGuard.Traced.Machine
import TowerGuard.Engine.Metered

/-!
# Reset

`reset` clears the limiter it finds in the layer. The windows of a distributed store are none of
the limiter's, and stay.
-/

namespace TowerGuard

open Text Traced

variable {W : World} {ρ ν : Type}

/-- What `RateLimiter::reset` does: it clears the windows of this limiter and nothing else. -/
structure ClearsWindows (windows : WindowStores W) (violations : W.Limits → ν)
    (resetLimiter : RateLimiter → W.Limits → W.Limits) (limiter : RateLimiter) : Prop where
  cleared : ∀ limits identity,
    windows.memory (resetLimiter limiter limits) limiter.store identity = []
  violations : ∀ limits, violations (resetLimiter limiter limits) = violations limits

/-- The tiers judge an identity by the hits they hold against it, and by what stands beside the
windows. -/
def JudgesByHits (E : Engine W) (windows : WindowStores W) (beside : Store W → ρ)
    (layer : GuardLayer W) : Prop :=
  ∀ identity path routeTiers gate finding observation s₁ s₂, beside s₁ = beside s₂ →
    windows.held layer s₁ identity = windows.held layer s₂ identity →
    ((layer.buildStage E).decideTiersObserved (some identity) path routeTiers gate finding
        observation s₁).1 =
      ((layer.buildStage E).decideTiersObserved (some identity) path routeTiers gate finding
        observation s₂).1

/-- The tiers answer the identity as in any state in which no hit is held against it. -/
def AnswersAfresh (windows : WindowStores W) (beside : Store W → ρ) (service : GuardService W)
    (s : Store W) (identity : IpAddr) : Prop :=
  ∀ path routeTiers gate finding observation s₀, beside s₀ = beside s →
    windows.held service.layer s₀ identity = [] →
    (service.stage.decideTiersObserved (some identity) path routeTiers gate finding observation
        s).1 =
      (service.stage.decideTiersObserved (some identity) path routeTiers gate finding observation
        s₀).1

/-- The identity's next request is its first: no hit is held against it, and the tiers answer as
in any state in which none is. -/
structure StartsAfresh (windows : WindowStores W) (beside : Store W → ρ)
    (service : GuardService W) (s : Store W) (identity : IpAddr) : Prop where
  unheld : windows.held service.layer s identity = []
  first : AnswersAfresh windows beside service s identity

/-- An enabled limiter has an answer for an identity with this many hits that it has not for one
without any. -/
def ThrottlesAt (E : Engine W) (windows : WindowStores W) (beside : Store W → ρ)
    (layer : GuardLayer W) (limit : Nat) : Prop :=
  ∀ identity s, limit ≤ (windows.held layer s identity).length →
    ∃ path routeTiers gate finding observation s₀, beside s₀ = beside s ∧
      windows.held layer s₀ identity = [] ∧
      ((layer.buildStage E).decideTiersObserved (some identity) path routeTiers gate finding
          observation s).1 ≠
        ((layer.buildStage E).decideTiersObserved (some identity) path routeTiers gate finding
          observation s₀).1

/-- Under an enabled limiter, an identity that is answered afresh has fewer hits. -/
theorem AnswersAfresh.unthrottled {E : Engine W} {windows : WindowStores W}
    {beside : Store W → ρ} {layer : GuardLayer W} {inner : InnerService W} {s : Store W}
    {identity : IpAddr} {limit : Nat} (fresh : layer.stage = none)
    (throttles : ThrottlesAt E windows beside layer limit)
    (afresh : AnswersAfresh windows beside (layer.wrap E inner) s identity) :
    (windows.held layer s identity).length < limit := by
  refine Nat.lt_of_not_le fun full => ?_
  obtain ⟨path, routeTiers, gate, finding, observation, s₀, aside, none_, differs⟩ :=
    throttles identity s full
  refine differs ?_
  rw [← layer.wrap_stage E inner fresh]
  exact afresh path routeTiers gate finding observation s₀ aside none_

/-- Where the tiers judge by the hits, an identity without any starts afresh. -/
theorem startsAfresh_of_unheld {E : Engine W} {windows : WindowStores W} {beside : Store W → ρ}
    {layer : GuardLayer W} {inner : InnerService W} {s : Store W} {identity : IpAddr}
    (fresh : layer.stage = none) (judges : JudgesByHits E windows beside layer)
    (unheld : windows.held layer s identity = []) :
    StartsAfresh windows beside (layer.wrap E inner) s identity := by
  refine ⟨unheld, ?_⟩
  intro path routeTiers gate finding observation s₀ aside none_
  rw [layer.wrap_stage E inner fresh]
  exact judges identity path routeTiers gate finding observation s s₀ aside.symm
    (unheld.trans none_.symm)

/-! ### Until the next request -/

/-- What comes before the next request of an identity: requests of others, and whatever moves
outside the guard and records no hit. -/
inductive Interlude (windows : WindowStores W) (layer : GuardLayer W) (identity : IpAddr) where
  | call (request : Request W)
      (another : request.extensions.clientIp.map IpAddr.display ≠ some identity.display)
  | elsewhere (move : W.Other → W.Other)
      (unrecorded : ∀ s, windows.held layer s identity = [] →
        windows.held layer { s with other := move s.other } identity = [])

def GuardService.interlude (E : Engine W) (service : GuardService W) (windows : WindowStores W)
    (identity : IpAddr) :
    Machine (Store W) (Interlude windows service.layer identity)
      (Flow Empty (Except W.InnerError (Response W)))
  | s, .call request _ =>
    let run := service.call E request s
    some (run.state, [run.flow])
  | s, .elsewhere move _ => some ({ s with other := move s.other }, [])

/-- The engine records hits by identity: what is asked on behalf of one request leaves the windows
of the other identities as they are. -/
def RecordsByIdentity (E : Engine W) (windows : WindowStores W) (service : GuardService W) : Prop :=
  ∀ identity request, request.extensions.clientIp.map IpAddr.display ≠ some identity.display →
    Untouched (windows.held service.layer · identity) (fun _ => True) E service request

/-- No interlude records a hit against the identity. -/
theorem unheld_kept {E : Engine W} {windows : WindowStores W} {service : GuardService W}
    (records : RecordsByIdentity E windows service) {identity : IpAddr}
    {interludes : List (Interlude windows service.layer identity)} {s final : Store W}
    {shown : List (Flow Empty (Except W.InnerError (Response W)))}
    (unheld : windows.held service.layer s identity = [])
    (ran : (service.interlude E windows identity).run s interludes = some (final, shown)) :
    windows.held service.layer final identity = [] := by
  refine Machine.run_keeps (I := fun s => windows.held service.layer s identity = []) ?_ unheld ran
  intro s interlude s' shown unheld taken
  cases interlude with
  | call request another =>
    cases taken
    have untouched := (records identity request another).call (s := s) fun _ => trivial
    exact untouched.trans unheld
  | elsewhere move unrecorded =>
    cases taken
    exact unrecorded s unheld

/-! ### The reset -/

/-- What a reset leaves is what a distributed store holds. -/
theorem held_reset {windows : WindowStores W} {violations : W.Limits → ν}
    {resetLimiter : RateLimiter → W.Limits → W.Limits} {layer : GuardLayer W}
    (clears : ∀ limiter, layer.rateLimiter = some limiter →
      ClearsWindows windows violations resetLimiter limiter) (s : Store W)
    (identity : IpAddr) : windows.held layer (layer.reset resetLimiter s) identity =
      if layer.distributed.isSome then windows.held layer s identity else [] := by
  unfold WindowStores.held
  cases limiting : layer.rateLimiter with
  | none => simp
  | some limiter =>
    cases layer.distributed with
    | none => simp [GuardLayer.reset, limiting, (clears limiter limiting).cleared]
    | some installed => simp

/-- After a reset every identity starts afresh exactly when no distributed store takes the place
of the limiter's windows, or it holds no hit, and what comes before its next request does not
change that. The answers of an enabled limiter tell as much: no identity is answered afresh that has
used a distributed window up. Bans, counts and the cloud table are unchanged in any case. -/
theorem reset_drops_windows_iff {E : Engine W} {windows : WindowStores W}
    {violations : W.Limits → ν} {beside : Store W → ρ}
    {resetLimiter : RateLimiter → W.Limits → W.Limits}
    {layer : GuardLayer W} (clears : ∀ limiter, layer.rateLimiter = some limiter →
      ClearsWindows windows violations resetLimiter limiter)
    (fresh : layer.stage = none) (judges : JudgesByHits E windows beside layer)
    (inner : InnerService W) (s : Store W) :
    let service := layer.wrap E inner
    let s' := service.reset resetLimiter s
    s' = layer.reset resetLimiter s ∧
      ((∀ identity, StartsAfresh windows beside service s' identity) ↔
        layer.distributed = none ∨ ∀ identity, windows.held layer s identity = []) ∧
      (∀ limit, ThrottlesAt E windows beside layer limit →
        (∀ identity, AnswersAfresh windows beside service s' identity) →
        layer.distributed = none ∨ ∀ identity, (windows.held layer s identity).length < limit) ∧
      (RecordsByIdentity E windows service →
        ∀ identity, StartsAfresh windows beside service s' identity →
        ∀ interludes final shown,
          (service.interlude E windows identity).run s' interludes = some (final, shown) →
          StartsAfresh windows beside service final identity) ∧
      s'.other = s.other ∧ violations s'.limits = violations s.limits := by
  intro service s'
  have same : s' = layer.reset resetLimiter s := rfl
  refine ⟨same, ?_, ?_, ?_, layer.reset_other resetLimiter s, ?_⟩
  · have unheld_iff : (∀ identity, windows.held layer s' identity = []) ↔
        layer.distributed = none ∨ ∀ identity, windows.held layer s identity = [] := by
      rw [same]
      simp only [held_reset clears]
      cases layer.distributed <;> simp
    rw [← unheld_iff]
    constructor
    · intro afresh identity
      exact (afresh identity).unheld
    · intro unheld identity
      exact startsAfresh_of_unheld fresh judges (unheld identity)
  · intro limit throttles afresh
    have fewer (identity : IpAddr) := (afresh identity).unthrottled fresh throttles
    simp only [same, held_reset clears] at fewer
    cases installed : layer.distributed with
    | none => exact .inl rfl
    | some distributed => exact .inr fun identity => by simpa [installed] using fewer identity
  · intro records identity afresh interludes final shown ran
    exact startsAfresh_of_unheld fresh judges (unheld_kept records afresh.unheld ran)
  · rw [same]
    unfold GuardLayer.reset
    split
    next limiter limiting => exact (clears limiter limiting).violations s.limits
    next => rfl

/-! ### A limiter of one request -/

/-- The metering engine's hits, in memory and in the distributed store. -/
def meteredWindows : WindowStores Metered.world where
  Hit := Metered.Hit
  memory := fun limits limiter identity =>
    limits.filter fun hit => hit.store = limiter && hit.client = identity.display
  remote := fun journal store _ identity =>
    journal.hits.filter fun hit => hit.store = store && hit.client = identity.display

def meteredReset (limiter : RateLimiter) (limits : List Metered.Hit) : List Metered.Hit :=
  limits.filter fun hit => hit.store ≠ limiter.store

/-- One request a minute. -/
def onePerMinute : RateLimiter where
  store := 0
  config := { Bench.engine.defaultRateLimitConfig with rateLimit := 1 }

/-- The violations counted in the counters' own store. -/
def meteredViolations (limits : List Metered.Hit) : List Metered.Hit :=
  limits.filter fun hit => hit.store = 2

theorem metered_clears :
    ClearsWindows meteredWindows meteredViolations meteredReset onePerMinute where
  cleared := by
    intro limits identity
    simp only [meteredWindows, meteredReset, List.filter_filter, List.filter_eq_nil_iff]
    intro hit _
    by_cases same : hit.store = onePerMinute.store <;> simp [same]
  violations := by
    intro limits
    simp only [meteredViolations, meteredReset, List.filter_filter]
    refine List.filter_congr fun hit _ => ?_
    by_cases counted : hit.store = 2 <;> simp [counted, onePerMinute]

/-- A layer that limits, over this distributed store if there is one. -/
def limitingLayer (distributed : Option (SlidingWindowStore × String × Bool)) :
    GuardLayer Metered.world :=
  { Metered.layer.withRateLimiting onePerMinute with distributed }

def limitingService (distributed : Option (SlidingWindowStore × String × Bool)) :
    GuardService Metered.world :=
  (limitingLayer distributed).wrap Metered.engine Metered.ok

/-- The hits of one window among those held against the identity. -/
theorem count_hit (hits : List Metered.Hit) (store : Nat) (tier : Option String)
    (client : String) : hits.count ⟨store, tier, client⟩ =
      (hits.filter fun hit => hit.store = store && hit.client = client).countP
        fun hit => hit.tier = tier := by
  rw [List.count, List.countP_filter]
  refine List.countP_congr fun hit _ => ?_
  obtain ⟨store', tier', client'⟩ := hit
  simp only [beq_iff_eq, Metered.Hit.mk.injEq, Bool.and_eq_true, decide_eq_true_eq]
  exact and_left_comm

/-- One tier judges by the hits held against the identity, and pushes one more as it passes. -/
theorem throttle_alike {parts : RateLimitStageParts Metered.world}
    (limiter : parts.limiter = some onePerMinute) (tier : Option String) (limit : Nat)
    {identity : IpAddr} {s₁ s₂ : Store Metered.world}
    (same : meteredWindows.held (limitingLayer parts.distributedStore) s₁ identity =
      meteredWindows.held (limitingLayer parts.distributedStore) s₂ identity) :
    (∃ answer s₁' s₂', Metered.throttle parts tier limit identity s₁ = (some (some answer), s₁') ∧
        Metered.throttle parts tier limit identity s₂ = (some (some answer), s₂')) ∨
      ∃ s₁' s₂', Metered.throttle parts tier limit identity s₁ = (some none, s₁') ∧
        Metered.throttle parts tier limit identity s₂ = (some none, s₂') ∧
        meteredWindows.held (limitingLayer parts.distributedStore) s₁' identity =
          meteredWindows.held (limitingLayer parts.distributedStore) s₂' identity := by
  unfold Metered.throttle
  rw [limiter]
  rcases installed : parts.distributedStore with _ | ⟨window, redisPrefix, failOpen⟩ <;>
    simp only [installed, WindowStores.held, limitingLayer, GuardLayer.withRateLimiting,
      meteredWindows] at same ⊢
  · have counts := (count_hit s₁.limits _ tier _).trans
      ((congrArg _ same).trans (count_hit s₂.limits _ tier _).symm)
    rw [counts]
    split
    · exact .inl ⟨_, _, _, rfl, rfl⟩
    · exact .inr ⟨_, _, rfl, rfl, by simp only [List.filter_cons, same]⟩
  · have counts := (count_hit s₁.other.hits _ tier _).trans
      ((congrArg _ same).trans (count_hit s₂.other.hits _ tier _).symm)
    rw [counts]
    split
    · exact .inl ⟨_, _, _, rfl, rfl⟩
    · exact .inr ⟨_, _, rfl, rfl, by simp only [List.filter_cons, same]⟩

theorem throttle_answer {parts : RateLimitStageParts Metered.world}
    (limiter : parts.limiter = some onePerMinute) (tier : Option String) (limit : Nat)
    {identity : IpAddr} {s₁ s₂ : Store Metered.world}
    (same : meteredWindows.held (limitingLayer parts.distributedStore) s₁ identity =
      meteredWindows.held (limitingLayer parts.distributedStore) s₂ identity) :
    (Metered.throttle parts tier limit identity s₁).1 =
      (Metered.throttle parts tier limit identity s₂).1 := by
  rcases throttle_alike limiter tier limit same with
    ⟨answer, s₁', s₂', said, said'⟩ | ⟨s₁', s₂', said, said', -⟩ <;> rw [said, said']

/-- So do the tiers together. -/
theorem throttleTiers_answer {parts : RateLimitStageParts Metered.world}
    (limiter : parts.limiter = some onePerMinute) (path : Option String)
    (routeTiers : Option Nat) {identity : IpAddr} {s₁ s₂ : Store Metered.world}
    (same : meteredWindows.held (limitingLayer parts.distributedStore) s₁ identity =
      meteredWindows.held (limitingLayer parts.distributedStore) s₂ identity) :
    (Metered.throttleTiers parts path routeTiers identity s₁).1 =
      (Metered.throttleTiers parts path routeTiers identity s₂).1 := by
  unfold Metered.throttleTiers
  cases routeTiers with
  | none => exact throttle_answer limiter none _ same
  | some limit =>
    -- Passed by the route's tier with like hits, the request comes to the global one.
    rcases throttle_alike limiter (some (path.getD "")) limit same with
      ⟨answer, s₁', s₂', said, said'⟩ | ⟨s₁', s₂', said, said', same'⟩ <;>
      simp only [said, said']
    exact throttle_answer limiter none _ same'

theorem limiting_judges (distributed : Option (SlidingWindowStore × String × Bool)) :
    JudgesByHits Metered.engine meteredWindows (fun s => s.other.bans)
      (limitingLayer distributed) := by
  intro identity path routeTiers gate finding observation s₁ s₂ _ same
  change ((Metered.rateLimitStage _).decideTiersObserved (some identity) path routeTiers gate
      finding observation s₁).1 =
    ((Metered.rateLimitStage _).decideTiersObserved (some identity) path routeTiers gate
      finding observation s₂).1
  simp only [Metered.rateLimitStage]
  split
  · rfl
  · exact throttleTiers_answer rfl path routeTiers same

/-- A window that is full throttles, -/
theorem throttle_full {parts : RateLimitStageParts Metered.world}
    (limiter : parts.limiter = some onePerMinute) {identity : IpAddr} {s : Store Metered.world}
    {hit : Metered.Hit}
    (held : hit ∈ meteredWindows.held (limitingLayer parts.distributedStore) s identity) :
    (Metered.throttle parts hit.tier 1 identity s).1 = some (some Metered.throttledResponse) := by
  obtain ⟨store, tier, client⟩ := hit
  unfold Metered.throttle
  rw [limiter]
  rcases installed : parts.distributedStore with _ | ⟨window, redisPrefix, failOpen⟩ <;>
    rw [installed] at held <;> obtain ⟨member, own⟩ := List.mem_filter.mp held <;>
    obtain ⟨rfl, rfl⟩ : _ ∧ _ := by simpa only [Bool.and_eq_true, decide_eq_true_eq] using own
  · exact congrArg Prod.fst (if_pos (List.count_pos_iff.mpr member))
  · exact congrArg Prod.fst (if_pos (List.count_pos_iff.mpr member))

theorem throttleTiers_full {parts : RateLimitStageParts Metered.world}
    (limiter : parts.limiter = some onePerMinute) (limit : parts.config.rateLimit.rateLimit = 1)
    {identity : IpAddr} {s : Store Metered.world} {hit : Metered.Hit}
    (held : hit ∈ meteredWindows.held (limitingLayer parts.distributedStore) s identity) :
    (Metered.throttleTiers parts hit.tier (hit.tier.map fun _ => 1) identity s).1 =
      some (some Metered.throttledResponse) := by
  have full := throttle_full limiter held
  unfold Metered.throttleTiers
  obtain ⟨store, _ | route, client⟩ := hit
  · rw [limit]
    exact full
  · -- The route's tier is asked first, and throttles.
    dsimp only [Option.map_some, Option.getD_some]
    split
    next s' passed =>
      rw [passed] at full
      cases full
    next => exact full

/-- and the windows of a store without hits let one request pass. -/
theorem throttleTiers_empty {parts : RateLimitStageParts Metered.world}
    (limit : parts.config.rateLimit.rateLimit = 1) (tier : Option String) (ip : IpAddr)
    (s : Store Metered.world) (empty : s.limits = []) (unrecorded : s.other.hits = []) :
    (Metered.throttleTiers parts tier (tier.map fun _ => 1) ip s).1 = some none := by
  unfold Metered.throttleTiers Metered.throttle
  rw [limit]
  cases tier <;> cases parts.distributedStore <;> cases parts.limiter <;>
    simp [empty, unrecorded]

/-- The stage of a limiting layer. -/
theorem limiting_stage (distributed : Option (SlidingWindowStore × String × Bool)) :
    ∃ parts, (limitingLayer distributed).buildStage Metered.engine = Metered.rateLimitStage parts ∧
      parts.limiter = some onePerMinute ∧ parts.distributedStore = distributed ∧
      parts.config.rateLimit = onePerMinute.config :=
  ⟨_, rfl, rfl, rfl, rfl⟩

/-- A single hit uses a window of one request up: the global tier's, or that of a route with such
a tier. -/
theorem limiting_throttles (distributed : Option (SlidingWindowStore × String × Bool)) :
    ThrottlesAt Metered.engine meteredWindows (fun s => s.other.bans)
      (limitingLayer distributed) 1 := by
  intro identity s held
  obtain ⟨hit, member⟩ := List.exists_mem_of_length_pos held
  obtain ⟨parts, built, limiter, rfl, enabled⟩ := limiting_stage distributed
  have limit : parts.config.rateLimit.rateLimit = 1 := by rw [enabled]; rfl
  have asked (path : Option String) (s : Store Metered.world) :
      (Metered.rateLimitStage parts).decideTiersObserved (some identity) path (path.map fun _ => 1)
        none none none s = Metered.throttleTiers parts path (path.map fun _ => 1) identity s := by
    simp only [Metered.rateLimitStage, enabled]
    rfl
  refine ⟨Metered.Hit.tier hit, (Metered.Hit.tier hit).map fun _ => 1, none, none, none,
    ⟨[], { s.other with hits := [] }⟩, rfl, ?_, ?_⟩
  · cases parts.distributedStore <;> rfl
  · rw [built, asked, asked, throttleTiers_full limiter limit member,
      throttleTiers_empty limit _ _ _ rfl rfl]
    exact fun same => nomatch same

/-- What one request of the client leaves behind. -/
def afterOne (distributed : Option (SlidingWindowStore × String × Bool)) : Store Metered.world :=
  ((limitingService distributed).call Metered.engine
    (Metered.request (some Bench.client) "GET" "/items" none []) Metered.start).state

/-- The tiers push hits of the client that asks, and no other. -/
theorem throttle_held {parts : RateLimitStageParts Metered.world}
    (limiter : parts.limiter = some onePerMinute) (memory : parts.distributedStore = none)
    {ip identity : IpAddr} (another : ip.display ≠ identity.display) (tier : Option String)
    (limit : Nat) (s : Store Metered.world) :
    meteredWindows.held (limitingLayer none) (Metered.throttle parts tier limit ip s).2 identity =
      meteredWindows.held (limitingLayer none) s identity := by
  unfold Metered.throttle
  rw [limiter, memory]
  dsimp only
  split
  · rfl
  · simp [WindowStores.held, limitingLayer, GuardLayer.withRateLimiting, meteredWindows, another]

theorem throttleTiers_held {parts : RateLimitStageParts Metered.world}
    (limiter : parts.limiter = some onePerMinute) (memory : parts.distributedStore = none)
    {ip identity : IpAddr} (another : ip.display ≠ identity.display) (path : Option String)
    (routeTiers : Option Nat) (s : Store Metered.world) :
    meteredWindows.held (limitingLayer none) (Metered.throttleTiers parts path routeTiers ip s).2
        identity =
      meteredWindows.held (limitingLayer none) s identity := by
  obtain ⟨tier, limit, s₁, last, came, -⟩ := Metered.throttleTiers_last parts path routeTiers ip s
  rw [last, throttle_held limiter memory another]
  rcases came with rfl | ⟨first, limit₁, passed⟩
  · rfl
  · have left := throttle_held limiter memory another first limit₁ s
    rwa [passed] at left

theorem limiting_records :
    RecordsByIdentity Metered.engine meteredWindows (limitingService none) := by
  intro identity request another
  constructor
  case asked => exact .of_all fun _ _ _ => rfl
  case bans =>
    intro observation s
    cases request.extensions.clientIp <;> rfl
  case tiers =>
    intro path routeTiers gate finding observation s
    cases attributed : request.extensions.clientIp with
    | none => rfl
    | some ip =>
      have apart : ip.display ≠ identity.display := by
        rw [attributed] at another
        exact fun same => another (congrArg some same)
      change meteredWindows.held _ ((Metered.rateLimitStage _).decideTiersObserved (some ip) path
        routeTiers gate finding observation s).2 identity = _
      simp only [Metered.rateLimitStage]
      split
      · rfl
      · exact throttleTiers_held rfl rfl apart path routeTiers s
  case agents =>
    intro stage installed
    cases installed
  case hook => exact fun _ _ => rfl
  case responseSide => exact ⟨nofun, nofun, nofun, nofun⟩
  case inner => exact fun _ _ _ => rfl

/-- A request of another client, and a second gone by. -/
def othersFirst : List (Interlude meteredWindows (limitingService none).layer Bench.client) :=
  [.call (Metered.request (some (.v4 192 0 2 42)) "GET" "/items" none []) (by decide),
    .elsewhere (fun journal => { journal with now := journal.now + 1 }) fun _ unheld => unheld]

/-- The windows of the limiter itself are dropped: the client is not throttled again, also after
the request of another. -/
theorem memory_windows_dropped :
    ∃ final shown, ((limitingService none).interlude Metered.engine meteredWindows
        Bench.client).run ((limitingService none).reset meteredReset (afterOne none)) othersFirst =
          some (final, shown) ∧
      shown.map Bench.statusOf = [some 200] ∧
      StartsAfresh meteredWindows (fun s => s.other.bans) (limitingService none) final
        Bench.client := by
  have clears : ∀ limiter, (limitingLayer none).rateLimiter = some limiter →
      ClearsWindows meteredWindows meteredViolations meteredReset limiter := by
    rintro _ ⟨⟩
    exact metered_clears
  have statuses : (((limitingService none).interlude Metered.engine meteredWindows
      Bench.client).run ((limitingService none).reset meteredReset (afterOne none))
        othersFirst).map (fun ended => ended.2.map Bench.statusOf) = some [some 200] := by
    decide +kernel
  obtain ⟨⟨final, shown⟩, ran, answers⟩ := Option.map_eq_some_iff.mp statuses
  obtain ⟨-, afresh, -, kept, -⟩ := reset_drops_windows_iff clears rfl (limiting_judges none)
    Metered.ok (afterOne none)
  have dropped := afresh.mpr (.inl rfl) Bench.client
  exact ⟨final, shown, ran, answers,
    kept limiting_records Bench.client dropped othersFirst final shown ran⟩

/-- Those of a distributed store are not: the client's next request is throttled like before. -/
theorem distributed_windows_stay :
    let distributed := some (⟨7⟩, "guard:", false)
    let s := (limitingService distributed).reset meteredReset (afterOne distributed)
    (¬∀ identity, StartsAfresh meteredWindows (fun s => s.other.bans)
        (limitingService distributed) s identity) ∧
      (¬∀ identity, AnswersAfresh meteredWindows (fun s => s.other.bans)
        (limitingService distributed) s identity) ∧
      (limitingService distributed).Denies Metered.engine
        (Metered.request (some Bench.client) "GET" "/items" none []) s .rateLimit
        (.stage Metered.throttledResponse) := by
  intro distributed s
  have unanswered : ¬∀ identity, AnswersAfresh meteredWindows (fun s => s.other.bans)
      (limitingService distributed) s identity := by
    intro afresh
    have fewer := (afresh Bench.client).unthrottled rfl (limiting_throttles distributed)
    have recorded : (meteredWindows.remote s.other 7 "guard:" Bench.client).length = 1 := by
      decide +kernel
    exact absurd recorded (Nat.ne_of_lt fewer)
  refine ⟨fun afresh => unanswered fun identity => (afresh identity).first, unanswered, ?_⟩
  unfold GuardService.Denies
  decide +kernel

end TowerGuard
