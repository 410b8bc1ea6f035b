import TowerGuard.Properties.Moments
import TowerGuard.Properties.Reset

/-!
# The rate limit under concurrency

Requests of one client race for what is left of its limit. The tiers are asked once for each
request, before it is handed over, and nothing else in a call gives a hit back. So where the
engine counts what it lets pass, the requests of a window that get through stay within the limit
in whatever order the calls take their steps.
-/

namespace TowerGuard

open Text Traced

variable {W : World} {E : Engine W} {hits : Store W → Nat} {limit : Nat} {ip : IpAddr}

/-- The tiers let a request of the client pass that the gate has not exempted. -/
def Event.metered (ip : IpAddr) (event : Event W) : Bool :=
  match event.consult with
  | .rateLimit client gate _ =>
    client = some ip && !gate.any IpGateDecision.skips && event.verdict = .passed
  | _ => false

theorem Event.metered_iff {event : Event W} : event.metered ip = true ↔
    ∃ gate finding, event = ⟨.rateLimit (some ip) gate finding, .passed⟩ ∧
      gate.any IpGateDecision.skips = false := by
  obtain ⟨consult, verdict⟩ := event
  constructor
  · intro metered
    cases consult with
    | rateLimit client gate finding =>
      simp only [Event.metered, Bool.and_eq_true, decide_eq_true_eq, Bool.not_eq_true'] at metered
      obtain ⟨⟨rfl, unexempt⟩, rfl⟩ := metered
      exact ⟨gate, finding, rfl, unexempt⟩
    | _ => cases metered
  · rintro ⟨gate, finding, ⟨⟩, unexempt⟩
    simp [Event.metered, unexempt]

theorem Event.unmetered_of_aside {event : Event W} (aside : event.aside) :
    event.metered ip = false := by
  rw [← Bool.not_eq_true, metered_iff]
  rintro ⟨gate, finding, rfl, -⟩
  cases aside.1

/-- The engine meters the client by `hits`: nothing a request sets off takes one back, and a
request that the tiers let pass was below the limit and is one more. -/
structure Meters (hits : Store W → Nat) (limit : Nat) (ip : IpAddr) (E : Engine W)
    (service : GuardService W) (request : Request W) : Prop where
  asked : AskedAlong (fun s s' => hits s ≤ hits s') (· = request.client) E service request
  hook : ∀ payload s,
    hits s ≤ hits { s with other := (E.fireBlockHook service.layer.onBlock payload s.other).2 }
  responseSide : ResponseSideKeeps service.layer (· = request.client) hits
  inner : ∀ rebuilt s, hits s ≤ hits (service.inner.call rebuilt s).2
  counts : ∀ path routeTiers gate finding observation s, gate.any IpGateDecision.skips = false →
    (service.stage.decideTiersObserved (some ip) path routeTiers gate finding observation s).1 =
      some none → hits s < limit ∧ hits s < hits (service.stage.decideTiersObserved (some ip) path
        routeTiers gate finding observation s).2

variable (hits limit ip) in
/-- What was let pass from `s` on is counted, and was within what the limit had left. -/
def Counted (s : Store W) (after : Store W × List (Event W)) : Prop :=
  hits s + after.2.countP (Event.metered ip) ≤ hits after.1 ∧
    after.2.countP (Event.metered ip) ≤ limit - hits s

/-- Without a request let pass it is enough that no hit is taken back. -/
theorem Counted.of_none {s : Store W} {after : Store W × List (Event W)}
    (none : ∀ event ∈ after.2, event.metered ip = false) (raised : hits s ≤ hits after.1) :
    Counted hits limit ip s after := by
  have zero : after.2.countP (Event.metered ip) = 0 :=
    List.countP_eq_zero.mpr fun event member => by simp [none event member]
  rw [Counted, zero]
  exact ⟨raised, Nat.zero_le _⟩

namespace Meters

variable {service : GuardService W} {request : Request W} {k : Check} {χ : Locals W}
  {trial : Trial W} {ruling : Ruling W} {s : Store W}
  (meters : Meters hits limit ip E service request)

include meters

theorem proceed (ruling : Ruling W) (s : Store W) :
    hits s ≤ hits (Check.proceed E service ruling s).state := by
  cases ruling with
  | pass next => exact Nat.le_refl _
  | flag next => exact Nat.le_refl _
  | recover early => exact Nat.le_refl _
  | deny early payload =>
    cases payload with
    | none => exact Nat.le_refl _
    | some payload =>
      have fired := meters.hook payload s
      simp only [Check.proceed, fireBlock]
      rcases called : E.fireBlockHook service.layer.onBlock payload s.other with ⟨_ | _, o⟩ <;>
        rw [called] at fired
      · rw [Prog.bind_unwound (notify_unwound called)]; exact fired
      · rw [Prog.bind_pass (notify_pass called)]; exact fired

/-- A question that is metered found the client below the limit, and counted. -/
theorem ruled (applies : k.trial E service χ = some trial)
    (metered : Event.metered ip ⟨trial.question, .ofRuling (trial.ruling s).1⟩ = true) :
    hits s < limit ∧ hits s < hits (trial.ruling s).2 := by
  obtain ⟨gate, finding, own, unexempt⟩ := Event.metered_iff.mp metered
  obtain ⟨asked, passed⟩ := Event.mk.inj own
  obtain rfl : k = .rateLimit := by
    have named := trial_question applies
    rw [asked] at named
    exact (Option.some.inj named).symm
  simp only [Check.trial] at applies
  split at applies
  · cases applies; cases asked
  · obtain ⟨-, ⟨⟩⟩ := Option.ite_none_left_eq_some.mp applies
    simp only [Trial.screen_question, Consult.rateLimit.injEq] at asked
    obtain ⟨client, rfl, -⟩ := asked
    have pass := Trial.screen_let_pass (.inl passed)
    rw [client] at pass
    simp only [Trial.screen_ruling, client]
    exact meters.counts _ _ _ _ _ s unexempt pass

theorem run (of : χ.Of request) (k : Check) (s : Store W) :
    Counted hits limit ip s ((k.run E service χ s).state, (k.run E service χ s).trace) := by
  cases applies : k.trial E service χ with
  | none =>
    rw [run_of_absent applies]
    exact .of_none (fun event member => by cases member) (Nat.le_refl _)
  | some trial =>
    have asked : hits s ≤ hits (trial.ruling s).2 :=
      meters.asked.ruling of applies (fun _ => rfl) s
    have raised : hits (trial.ruling s).2 ≤ hits (k.run E service χ s).state := by
      rcases said : trial.ruling s with ⟨_ | ruling, s₁⟩
      · simp only [run_of_panicked applies said, Nat.le_refl]
      · rw [run_of_ruled applies said]
        exact meters.proceed ruling s₁
    obtain ⟨rest, trace, aside⟩ := run_trace (s := s) applies
    have later : rest.countP (Event.metered ip) = 0 :=
      List.countP_eq_zero.mpr fun event member => by
        simp [Event.unmetered_of_aside (aside event member)]
    simp only [Counted, trace, List.countP_cons, later]
    -- Of all the check observes only its own question may be metered.
    split
    next metered =>
      obtain ⟨below, counted⟩ := meters.ruled applies metered
      omega
    next => omega

theorem acts {past : List (Event W)} {after : Store W × List (Event W)}
    (acts : service.Acts E request past s after) : Counted hits limit ip s after := by
  cases acts with
  | check split passed => exact meters.run passed.of _ s
  | inner admitted =>
    refine .of_none (fun event member => ?_) (meters.inner _ s)
    obtain rfl := List.mem_singleton.mp member
    rfl
  | response sound step tells =>
    exact .of_none (fun event member => Event.unmetered_of_aside (tells event member).aside)
      (Nat.le_of_eq (step _ _ meters.responseSide).symm)

end Meters

/-! ### Requests that race -/

section Asked

variable {service : GuardService W} {χ : Locals W} {trial : Trial W} {s : Store W}

/-- The tiers are not asked only where the route bypasses them. -/
theorem rateLimit_absent (absent : Check.rateLimit.trial E service χ = none) :
    bypassed χ.route "rate_limit" = true := by
  simp only [Check.trial] at absent
  split at absent
  · cases absent
  · split at absent
    next bypasses => exact bypasses
    next => cases absent

/-- A request that has got past the tiers was let pass by them. -/
theorem rateLimit_asked (applies : Check.rateLimit.trial E service χ = some trial)
    (verdict : Verdict.ofRuling (trial.ruling s).1 = .passed ∨
      Verdict.ofRuling (trial.ruling s).1 = .flagged) :
    ∃ gate finding, (⟨trial.question, .ofRuling (trial.ruling s).1⟩ : Event W) =
      ⟨.rateLimit χ.facts.ip gate finding, .passed⟩ := by
  simp only [Check.trial] at applies
  split at applies
  · cases applies
    -- Tiers that do not parse are a denial.
    rcases verdict with passed | flagged <;> contradiction
  · obtain ⟨-, ⟨⟩⟩ := Option.ite_none_left_eq_some.mp applies
    refine ⟨_, _, congrArg (Event.mk _) ?_⟩
    rw [Trial.screen_ruling, Trial.screen_let_pass verdict]
    rfl

end Asked

variable {s : Store W} {moves : List (Move (Job W) (Store W))} {pool : Calls W}
  {shown : List (Nat × Event W)}

variable (hits) in
/-- What comes from elsewhere takes no hit back: none of them expires. -/
def Unexpired (pool : Calls W) (mv : Move (Job W) (Store W)) : Prop :=
  ∀ s, mv = .elsewhere s → hits pool.state ≤ hits s

/-- All a run lets pass is counted, and stays within what the limit had left at its start. -/
theorem run_counted (ran : Machine.run (calls E) (.empty s) moves = some (pool, shown))
    (unexpired : Machine.Along (calls E) (Unexpired hits) (.empty s) moves)
    (meters : ∀ job, .start job ∈ moves → Meters hits limit ip E job.service job.request) :
    hits s + shown.countP (fun e => e.2.metered ip) ≤ hits pool.state ∧
      shown.countP (fun e => e.2.metered ip) ≤ limit - hits s := by
  have starts : Machine.Along (calls E) (fun _ mv => ∀ job, mv = .start job →
      Meters hits limit ip E job.service job.request) (.empty s) moves :=
    Machine.along_of_mem fun mv member _ job start => meters job (start ▸ member)
  have none : (∀ task ∈ (Pool.empty s : Calls W).tasks,
      Meters hits limit ip E task.job.service task.job.request) ∧
      hits s + ([] : List (Nat × Event W)).countP (fun e => e.2.metered ip) ≤ hits s ∧
      ([] : List (Nat × Event W)).countP (fun e => e.2.metered ip) ≤ limit - hits s :=
    ⟨fun task member => (by cases member), Nat.le_refl _, Nat.zero_le _⟩
  refine (Machine.run_keeps_shown (I := fun pool past =>
    (∀ task ∈ pool.tasks, Meters hits limit ip E task.job.service task.job.request) ∧
      hits s + past.countP (fun e => e.2.metered ip) ≤ hits pool.state ∧
      past.countP (fun e => e.2.metered ip) ≤ limit - hits s) ?_ none
    (((Pool.run_keeps (job_ensures E) s moves).and unexpired).and starts) ran).2
  rintro pool past mv pool' shown ⟨each, counted, within⟩ ⟨⟨keeps, kept⟩, fresh⟩ moved
  rw [List.countP_append]
  cases Pool.moves_of_move moved with
  | start job =>
    refine ⟨fun task member => ?_, counted, within⟩
    rcases List.mem_append.mp member with old | new
    · exact each task old
    · obtain rfl := List.mem_singleton.mp new
      exact fresh job rfl
  | elsewhere s' => exact ⟨each, Nat.le_trans counted (kept s' rfl), within⟩
  | @drop i job t past' taken held found waits =>
    have own : Meters hits limit ip E job.service job.request :=
      each _ (List.mem_of_getElem? found)
    refine ⟨fun task member => ?_, counted, within⟩
    rcases List.mem_or_eq_of_mem_set member with old | rfl
    · exact each task old
    · exact own
  | @step i job t t' past' seen taken s' found stepped =>
    obtain ⟨task, seen', found', same, acted⟩ := keeps i _ _ rfl moved
    rw [found] at found'
    cases found'
    have own : Meters hits limit ip E job.service job.request :=
      each _ (List.mem_of_getElem? found)
    have step : Counted hits limit ip pool.state (s', seen') := by
      rcases acted with acted | ⟨left, rfl⟩
      · exact own.acts acted
      · dsimp only at left
        rw [left]
        exact .of_none (fun event member => by cases member) (Nat.le_refl _)
    refine ⟨fun task member => ?_, ?_⟩
    · rcases List.mem_or_eq_of_mem_set member with old | rfl
      · exact each task old
      · exact own
    · have shows : (seen.map fun e => (i, e)).countP (fun e => e.2.metered ip) =
          seen'.countP (Event.metered ip) := by
        rw [same, List.countP_map]
        rfl
      obtain ⟨raised, left⟩ := step
      dsimp only at raised left
      rw [shows]
      dsimp only
      omega

/-- In every interleaving in which no hit expires, no more requests pass the client's tiers than
its limit has left at the start. A request of the client is handed over only if it is one of
these, it carries a gate decision that exempts it (the gate's, or one it came with), its route
bypasses the limit, or its path is excluded. -/
theorem interleaved_rate_limited
    (ran : Machine.run (calls E) (.empty s) moves = some (pool, shown))
    (unexpired : Machine.Along (calls E) (Unexpired hits) (.empty s) moves)
    (meters : ∀ job, .start job ∈ moves → Meters hits limit ip E job.service job.request) :
    pool.tasks.countP (fun task => task.past.any (Event.metered ip)) ≤ limit - hits s ∧
      ∀ i task r, pool.tasks[i]? = some task → r ∈ handedOver (Pool.own i shown) →
        task.job.request.extensions.clientIp = some ip →
          task.past.any (Event.metered ip) = true ∨
          (∃ gate finding, ⟨.rateLimit (some ip) (some gate) finding, .passed⟩ ∈ task.past ∧
            gate.skips = true) ∨
          (∃ earlier χ, earlier <+: Pool.own i shown ∧ Check.Passed E task.job.service
            task.job.request Check.pipeline earlier χ ∧ bypassed χ.route "rate_limit" = true) ∨
          task.job.service.layer.excludePaths.contains task.job.request.uri.path = true := by
  refine ⟨Nat.le_trans (Pool.run_countP_le ran) (run_counted ran unexpired meters).2, ?_⟩
  intro i task r found handed client
  rw [← Pool.past_eq_own ran found] at handed ⊢
  have sound := run_sound ran task (List.mem_of_getElem? found)
  cases sound with
  | kept none => rw [none] at handed; cases handed
  | @handed earlier past r' verdict admitted behind =>
    cases admitted with
    | excluded listed => exact .inr (.inr (.inr listed))
    | @cleared past χ passed =>
      obtain ⟨later, whole, -⟩ := behind
      have front : earlier <+: task.past := ⟨_, by rw [whole, List.append_assoc]⟩
      obtain ⟨χ₁, of₁, route, absent | ⟨trial, event, applies, seen, question, verdict⟩⟩ :=
        passed.asked List.prefix_rfl (Check.mem_pipeline .rateLimit) (by decide)
      · refine .inr (.inr (.inl ⟨earlier, χ, front, passed, ?_⟩))
        rw [← route]
        exact rateLimit_absent absent
      · obtain ⟨here, χ₂, trial₂, -, arrives₂, applies₂, rfl⟩ :=
          asked_when ran found (front.subset seen) (by rw [question]; exact trial_question applies)
        obtain ⟨gate, finding, own⟩ := rateLimit_asked applies₂ verdict
        rw [arrives₂.of.client.1, client] at own
        rw [own] at seen
        by_cases exempt : gate.any IpGateDecision.skips = true
        · obtain ⟨decision, rfl, skips⟩ := (Option.any_eq_true ..).mp exempt
          exact .inr (.inl ⟨decision, finding, front.subset seen, skips⟩)
        · refine .inl (List.any_eq_true.mpr ⟨_, front.subset seen, Event.metered_iff.mpr ?_⟩)
          exact ⟨gate, finding, rfl, Bool.eq_false_iff.mpr exempt⟩

/-! ### Two requests and one left -/

/-- The hits held in memory against the client by the global tier. -/
def heldHits (s : Store Metered.world) : Nat :=
  s.limits.count ⟨onePerMinute.store, none, Bench.client.display⟩

section Throttle

variable {parts : RateLimitStageParts Metered.world}
  (limiter : parts.limiter = some onePerMinute) (memory : parts.distributedStore = none)

include limiter memory

/-- A tier in memory takes no hit back, -/
theorem throttle_raises (tier : Option String) (limit : Nat) (ip : IpAddr)
    (s : Store Metered.world) :
    heldHits s ≤ heldHits (Metered.throttle parts tier limit ip s).2 := by
  unfold Metered.throttle
  rw [limiter, memory]
  dsimp only
  split
  · exact Nat.le_refl _
  · exact List.count_le_count_cons ..

/-- nor do the tiers together, -/
theorem throttleTiers_raise (path : Option String) (routeTiers : Option Nat) (ip : IpAddr)
    (s : Store Metered.world) :
    heldHits s ≤ heldHits (Metered.throttleTiers parts path routeTiers ip s).2 := by
  obtain ⟨tier, limit, s₁, last, came, -⟩ := Metered.throttleTiers_last parts path routeTiers ip s
  rw [last]
  refine Nat.le_trans ?_ (throttle_raises limiter memory tier limit ip s₁)
  rcases came with rfl | ⟨first, limit₁, passed⟩
  · exact Nat.le_refl _
  · have raised := throttle_raises limiter memory first limit₁ ip s
    rwa [passed] at raised

/-- and the global one counts the client that it lets pass. -/
theorem throttle_counts (limit : Nat) (s : Store Metered.world)
    (passed : (Metered.throttle parts none limit Bench.client s).1 = some none) :
    heldHits s < limit ∧
      heldHits s < heldHits (Metered.throttle parts none limit Bench.client s).2 := by
  unfold Metered.throttle at passed ⊢
  rw [limiter, memory] at passed ⊢
  dsimp only at passed ⊢
  split at passed
  next full => cases passed
  next room =>
    rw [if_neg room]
    refine ⟨Nat.lt_of_not_le room, ?_⟩
    simp [heldHits]

theorem throttleTiers_count (path : Option String) (routeTiers : Option Nat)
    (s : Store Metered.world)
    (passed : (Metered.throttleTiers parts path routeTiers Bench.client s).1 = some none) :
    heldHits s < parts.config.rateLimit.rateLimit ∧
      heldHits s < heldHits (Metered.throttleTiers parts path routeTiers Bench.client s).2 := by
  obtain ⟨tier, limit, s₁, last, came, globally⟩ :=
    Metered.throttleTiers_last parts path routeTiers Bench.client s
  obtain ⟨rfl, rfl⟩ := globally passed
  rw [last] at passed ⊢
  obtain ⟨room, counted⟩ := throttle_counts limiter memory _ s₁ passed
  have before : heldHits s ≤ heldHits s₁ := by
    rcases came with rfl | ⟨first, limit₁, passed⟩
    · exact Nat.le_refl _
    · have raised := throttle_raises limiter memory first limit₁ Bench.client s
      rwa [passed] at raised
  exact ⟨Nat.lt_of_le_of_lt before room, Nat.lt_of_le_of_lt before counted⟩

end Throttle

theorem onePerMinute_meters (request : Request Metered.world) :
    Meters heldHits 1 Bench.client Metered.engine (limitingService none) request where
  asked :=
    { asked := .of_all fun _ _ _ => Nat.le_refl _
      bans := by
        intro observation s
        cases request.extensions.clientIp <;> exact Nat.le_refl _
      tiers := by
        intro path routeTiers gate finding observation s
        cases request.extensions.clientIp with
        | none => exact Nat.le_refl _
        | some ip =>
          change heldHits s ≤ heldHits ((Metered.rateLimitStage _).decideTiersObserved (some ip)
            path routeTiers gate finding observation s).2
          simp only [Metered.rateLimitStage]
          split
          · exact Nat.le_refl _
          · exact throttleTiers_raise rfl rfl path routeTiers ip s
      agents := by
        intro stage installed
        cases installed }
  hook := fun _ _ => Nat.le_refl _
  responseSide := ⟨nofun, nofun, nofun, nofun⟩
  inner := fun _ _ => Nat.le_refl _
  counts := by
    intro path routeTiers gate finding observation s unexempt
    change ((Metered.rateLimitStage _).decideTiersObserved (some Bench.client) path routeTiers gate
      finding observation s).1 = some none → heldHits s < 1 ∧ heldHits s <
        heldHits ((Metered.rateLimitStage _).decideTiersObserved (some Bench.client) path
          routeTiers gate finding observation s).2
    simp only [Metered.rateLimitStage, unexempt, Bool.false_or]
    split
    next off => exact absurd off (by decide)
    next => exact throttleTiers_count rfl rfl path routeTiers s

/-- The two calls take their steps in turn. -/
def requestsRacing : List (Move (Job Metered.world) (Store Metered.world)) :=
  let request := Metered.request (some Bench.client) "GET" "/items" none []
  [.start ⟨limitingService none, request⟩, .start ⟨limitingService none, request⟩] ++
    (List.replicate 28 [.step 0, .step 1]).flatten ++ List.replicate 4 (.step 0)

theorem race_rate_limited : ∃ pool shown,
    Machine.run (calls Metered.engine) (.empty Metered.start) requestsRacing = some (pool, shown) ∧
      pool.tasks.map (fun task => (Pool.outcome task).map Bench.statusOf) =
        [some (some 200), some (some 429)] ∧
      pool.tasks.countP (fun task => task.past.any (Event.metered Bench.client)) ≤ 1 := by
  have ended : (Machine.run (calls Metered.engine) (.empty Metered.start) requestsRacing).map
      (fun run => run.1.tasks.map fun task => (Pool.outcome task).map Bench.statusOf) =
        some [some (some 200), some (some 429)] := by
    decide +kernel
  obtain ⟨⟨pool, shown⟩, ran, answers⟩ := Option.map_eq_some_iff.mp ended
  have unexpired : Machine.Along (calls Metered.engine) (Unexpired heldHits) (.empty Metered.start)
      requestsRacing := by
    refine Machine.along_of_mem fun mv member s s' elsewhere => ?_
    subst elsewhere
    simp [requestsRacing] at member
  have meters : ∀ job, .start job ∈ requestsRacing →
      Meters heldHits 1 Bench.client Metered.engine job.service job.request := by
    intro job member
    obtain rfl : job = ⟨limitingService none, _⟩ := by simpa [requestsRacing] using member
    exact onePerMinute_meters _
  exact ⟨pool, shown, ran, answers, (interleaved_rate_limited ran unexpired meters).1⟩

end TowerGuard
