import TowerGuard.Engine.Bench
import TowerGuard.Runs
import TowerGuard.Walks

/-!
# Requests in any interleaving

Requests come to services over one store, and their calls take steps in any order, are given up
where they wait, and find the store changed from elsewhere. What a single call guarantees holds
in all of this: one hand-over at most, of a request every check has passed; rate-limit windows and
violation counters that move for bodies read to the end; a bounded buffer; one side that answers;
a bounded number of steps.
-/

namespace TowerGuard

open Text Traced

variable {W : World}

variable (W) in
/-- A request put to one of the services. -/
structure Job where
  service : GuardService W
  request : Request W

/-- The calls under way over one store. -/
abbrev Calls (W : World) :=
  Pool (Job W) (Store W) (Event W) Waiting Empty (Except W.InnerError (Response W))

def Job.future (E : Engine W) (job : Job W) :
    Future W Empty (Except W.InnerError (Response W)) :=
  job.service.future E job.request

/-- One move among the calls: a request arrives, a call takes a step or is given up, or the store
changes from elsewhere. -/
abbrev calls (E : Engine W) : Machine (Calls W) (Move (Job W) (Store W)) (Nat × Event W) :=
  Pool.move (Job.future E)

variable {E : Engine W} {s : Store W} {moves : List (Move (Job W) (Store W))} {pool : Calls W}
  {shown : List (Nat × Event W)}

theorem job_ensures (E : Engine W) (job : Job W) :
    (job.future E).Ensures (job.service.promise E job.request) (fun _ _ => True) [] :=
  future_ensures

/-- At every point of a run every task is sound. -/
theorem run_sound (ran : Machine.run (calls E) (.empty s) moves = some (pool, shown)) :
    ∀ task ∈ pool.tasks, Sound E task.job.service task.job.request task.past :=
  Pool.run_past (H := fun job past => Sound E job.service job.request past) (job_ensures E)
    (fun _ => .kept rfl) (fun _ _ _ _ _ acted => acted.sound) ran

/-- Two requests to one service, the first with a body that comes in two parts. -/
def uploads : List (Move (Job Bench.world) (Store Bench.world)) :=
  let service := Bench.layer.wrap Bench.engine Bench.ok
  [.start ⟨service, Bench.request "POST" "/upload" none
      [.data (bytesOf "he"), .pending, .data (bytesOf "llo")]⟩,
    .start ⟨service, Bench.request "GET" "/page" none []⟩]

/-- The first request waits for the rest of its body while the second is through its checks. -/
def uploadsWaiting : List (Move (Job Bench.world) (Store Bench.world)) :=
  uploads ++ List.replicate 12 (.step 0) ++ List.replicate 30 (.step 1)

/-- Both requests have been answered. -/
def uploadsAnswered : List (Move (Job Bench.world) (Store Bench.world)) :=
  uploadsWaiting ++ List.replicate 21 (.step 0) ++ List.replicate 2 (.step 1)

/-! ### What is handed over -/

/-- In every interleaving a call hands over at most one request. It is the client's, with the
body it sent, behind the questions of all the checks, asked in order and none denied; or its path
is excluded, and it goes on without a body. -/
theorem interleaved_forward_cleared
    (ran : Machine.run (calls E) (.empty s) moves = some (pool, shown)) {i : Nat} {task}
    (found : pool.tasks[i]? = some task) :
    (handedOver (Pool.own i shown)).length ≤ 1 ∧ ∀ r ∈ handedOver (Pool.own i shown),
      r.toParts.withoutDecision = task.job.request.toParts.withoutDecision ∧
      ((task.job.service.layer.excludePaths.contains task.job.request.uri.path = true ∧
          r.body = task.job.service.inner.fromBytes []) ∨
        r.body = task.job.service.inner.fromBytes task.job.request.body.content ∧
          ∃ earlier later verdict χ,
            Pool.own i shown = earlier ++ ⟨.inner r, verdict⟩ :: later ∧
            Check.Passed E task.job.service task.job.request Check.pipeline earlier χ) := by
  rw [← Pool.past_eq_own ran found]
  have sound := run_sound ran task (List.mem_of_getElem? found)
  cases sound with
  | kept none => rw [none]; exact ⟨Nat.zero_le _, fun r member => by cases member⟩
  | @handed earlier past r verdict admitted behind =>
    rw [admitted.handedOver behind]
    refine ⟨Nat.le_refl _, fun r' member => ?_⟩
    obtain rfl := List.mem_singleton.mp member
    refine ⟨admitted.parts, ?_⟩
    cases admitted with
    | excluded listed => exact .inl ⟨listed, rfl⟩
    | @cleared past χ passed =>
      obtain ⟨later, whole, -⟩ := behind
      refine .inr ⟨?_, earlier, later, verdict, χ, ?_, passed⟩
      · exact congrArg _ (passed.buffered (Check.mem_pipeline _))
      · rw [whole, List.append_assoc]
        rfl

/-- The first upload is handed over. -/
theorem uploads_handed : ∃ pool shown task r,
    Machine.run (calls Bench.engine) (.empty Bench.start) uploadsAnswered = some (pool, shown) ∧
      pool.tasks[0]? = some task ∧ r ∈ handedOver (Pool.own 0 shown) := by
  have one : (Machine.run (calls Bench.engine) (.empty Bench.start) uploadsAnswered).map
      (fun run => ((handedOver (Pool.own 0 run.2)).length, run.1.tasks.length)) =
        some (1, 2) := by
    decide +kernel
  obtain ⟨⟨pool, shown⟩, ran, counts⟩ := Option.map_eq_some_iff.mp one
  obtain ⟨handed, tasks⟩ := Prod.mk.inj counts
  dsimp only at handed tasks
  obtain ⟨task, found⟩ : ∃ task, pool.tasks[0]? = some task :=
    ⟨_, List.getElem?_eq_getElem (by omega)⟩
  obtain ⟨r, member⟩ := List.exists_mem_of_length_pos (Nat.lt_of_lt_of_eq Nat.one_pos handed.symm)
  exact ⟨pool, shown, task, r, ran, found, member⟩

theorem upload_forward_cleared : ∃ pool shown task,
    Machine.run (calls Bench.engine) (.empty Bench.start) uploadsAnswered = some (pool, shown) ∧
      pool.tasks[0]? = some task ∧ ∃ r ∈ handedOver (Pool.own 0 shown),
        r.toParts.withoutDecision = task.job.request.toParts.withoutDecision := by
  obtain ⟨pool, shown, task, r, ran, found, member⟩ := uploads_handed
  exact ⟨pool, shown, task, ran, found, r, member,
    ((interleaved_forward_cleared ran found).2 r member).1⟩

/-! ### What is asked -/

/-- The checks that were asked, in order. -/
def checksAsked (past : List (Event W)) : List Check := past.filterMap fun event =>
  event.consult.check

@[simp] theorem checksAsked_append (past later : List (Event W)) :
    checksAsked (past ++ later) = checksAsked past ++ checksAsked later := List.filterMap_append

theorem checksAsked_eq_nil {past : List (Event W)}
    (none : ∀ event ∈ past, event.consult.check = none) : checksAsked past = [] :=
  List.filterMap_eq_nil_iff.mpr none

/-- Behind a check that has denied or panicked no other is asked. -/
def Event.Stops (event later : Event W) : Prop :=
  event.consult.check.isSome = true → event.verdict = .denied ∨ event.verdict = .panicked →
    later.consult.check = none

/-- Checks are asked in the order of the pipeline, each once at most, until one stops the call. -/
structure AskedInOrder (past : List (Event W)) : Prop where
  ordered : (checksAsked past).Sublist Check.pipeline
  stops : past.Pairwise Event.Stops

/-- What observes no check keeps the order. -/
theorem AskedInOrder.append {past seen : List (Event W)} (asked : AskedInOrder past)
    (none : ∀ event ∈ seen, event.consult.check = none) : AskedInOrder (past ++ seen) where
  ordered := by
    rw [checksAsked_append, checksAsked_eq_nil none, List.append_nil]
    exact asked.ordered
  stops := by
    refine List.pairwise_append.mpr ⟨asked.stops, ?_, fun _ _ later seen _ _ => none later seen⟩
    exact List.pairwise_of_forall_mem_list fun _ _ later seen _ _ => none later seen

section Asked

variable {service : GuardService W} {request : Request W} {cs : List Check} {k : Check}
  {past seen : List (Event W)} {χ : Locals W} {s s' : Store W}

/-- One check asks its own question at most. -/
theorem run_checksAsked (E : Engine W) (service : GuardService W) (k : Check) (χ : Locals W)
    (s : Store W) :
    (checksAsked (k.run E service χ s).trace).Sublist [k] ∧
      (k.run E service χ s).trace.Pairwise Event.Stops := by
  cases applies : k.trial E service χ with
  | none =>
    rw [run_of_absent applies]
    exact ⟨List.nil_sublist _, .nil⟩
  | some trial =>
    obtain ⟨rest, trace, aside⟩ := run_trace (s := s) applies
    have later : checksAsked rest = [] := checksAsked_eq_nil fun event member =>
      (aside event member).1
    have only : checksAsked (⟨trial.question, .ofRuling (trial.ruling s).1⟩ :: rest) = [k] := by
      simp only [checksAsked, List.filterMap_cons, trial_question applies]
      exact congrArg _ later
    rw [trace, only]
    constructor
    · exact .refl _
    · refine List.pairwise_cons.mpr ⟨fun event member _ _ => (aside event member).1, ?_⟩
      exact List.pairwise_of_forall_mem_list fun _ _ event member _ _ => (aside event member).1

theorem Check.Passed.checksAsked (passed : Check.Passed E service request cs past χ) :
    (TowerGuard.checksAsked past).Sublist cs := by
  induction passed with
  | nil => exact List.Sublist.slnil
  | @snoc cs k past t χ χ' s s' before here ih =>
    have own := (run_checksAsked E service k χ s).1
    have trace : (k.run E service χ s).trace = t := congrArg Run.trace here
    rw [trace] at own
    rw [checksAsked_append]
    exact ih.append own

/-- A call asks in order, whatever it does next. -/
theorem GuardService.Acts.asked (acts : service.Acts E request past s (s', seen))
    (asked : AskedInOrder past) : AskedInOrder (past ++ seen) := by
  cases acts with
  | @check front rest k χ past s split passed =>
    obtain ⟨own, stops⟩ := run_checksAsked E service k χ s
    constructor
    · rw [checksAsked_append, split, List.append_cons]
      exact (passed.checksAsked.append own).trans (List.sublist_append_left _ _)
    · refine List.pairwise_append.mpr ⟨asked.stops, stops, ?_⟩
      -- What has been asked so far has passed.
      intro event member later _ _ stopped
      have passes : event.verdict ≠ .denied ∧ event.verdict ≠ .panicked := by
        rcases (passed.event member).2 with passes | flags <;> simp [*]
      exact (stopped.elim passes.1 passes.2).elim
  | inner admitted =>
    refine asked.append fun event member => ?_
    obtain rfl := List.mem_singleton.mp member
    rfl
  | response sound step tells =>
    exact asked.append fun event member => (tells event member).aside.1

end Asked

/-- In every interleaving a call asks the checks in the order of the pipeline, each once at most,
and none behind one that has denied or panicked. -/
theorem interleaved_asked_once
    (ran : Machine.run (calls E) (.empty s) moves = some (pool, shown)) {i : Nat} {task}
    (found : pool.tasks[i]? = some task) :
    (checksAsked (Pool.own i shown)).Sublist Check.pipeline ∧
      ∀ front event later, Pool.own i shown = front ++ event :: later →
        event.consult.check.isSome = true →
          event.verdict = .denied ∨ event.verdict = .panicked → checksAsked later = [] := by
  rw [← Pool.past_eq_own ran found]
  have asked : AskedInOrder task.past :=
    Pool.run_past (H := fun _ past => AskedInOrder past) (job_ensures E)
      (fun _ => ⟨List.nil_sublist _, .nil⟩) (fun _ _ _ _ asked acted => acted.asked asked) ran task
      (List.mem_of_getElem? found)
  refine ⟨asked.ordered, fun front event later split check stopped => ?_⟩
  have stops := asked.stops
  rw [split] at stops
  refine checksAsked_eq_nil fun event' member => ?_
  exact List.rel_of_pairwise_cons (List.pairwise_append.mp stops).2.1 member check stopped

theorem upload_asked_once : ∃ pool shown,
    Machine.run (calls Bench.engine) (.empty Bench.start) uploadsAnswered = some (pool, shown) ∧
      checksAsked (Pool.own 0 shown) ≠ [] ∧
      (checksAsked (Pool.own 0 shown)).Sublist Check.pipeline := by
  have asks : (Machine.run (calls Bench.engine) (.empty Bench.start) uploadsAnswered).map
      (fun run => ((checksAsked (Pool.own 0 run.2)).isEmpty, run.1.tasks.length)) =
        some (false, 2) := by
    decide +kernel
  obtain ⟨⟨pool, shown⟩, ran, counts⟩ := Option.map_eq_some_iff.mp asks
  obtain ⟨many, tasks⟩ := Prod.mk.inj counts
  dsimp only at many tasks
  obtain ⟨task, found⟩ : ∃ task, pool.tasks[0]? = some task :=
    ⟨_, List.getElem?_eq_getElem (by omega)⟩
  refine ⟨pool, shown, ran, ?_, (interleaved_asked_once ran found).1⟩
  intro none
  rw [none] at many
  cases many

/-! ### What moves the counters -/

/-- A move that changes the rate-limit windows or the violation counters comes from elsewhere, or it
is the step of a call that has read the whole body, or that hands its request over. -/
def CountsLate (E : Engine W) (pool : Calls W) (move : Move (Job W) (Store W)) : Prop :=
  ∀ pool' shown, calls E pool move = some (pool', shown) →
    pool'.state.limits ≠ pool.state.limits →
      (∃ s, move = .elsewhere s) ∨
      ∃ i task, move = .step i ∧ pool.tasks[i]? = some task ∧
        (BodyRead task.past ∨ ∃ r, r ∈ handedOver (Pool.own i shown))

/-- In every interleaving a request costs its client no hit in a rate-limit window and no violation
before its whole body is read. What it uses of a route's usage rules is tracked ahead of the
body. -/
theorem interleaved_counts_late (E : Engine W) (s : Store W)
    (moves : List (Move (Job W) (Store W))) :
    Machine.Along (calls E) (CountsLate E) (.empty s) moves := by
  refine (Pool.run_keeps (job_ensures E) s moves).mono ?_
  intro pool move keeps pool' shown moved counted
  cases move with
  | start job => cases moved; exact absurd rfl counted
  | drop i =>
    cases Pool.moves_of_move moved
    exact absurd rfl counted
  | elsewhere s => exact .inl ⟨s, rfl⟩
  | step i =>
    obtain ⟨task, seen, found, rfl, acted | ⟨same, -⟩⟩ := keeps i pool' shown rfl moved
    · refine .inr ⟨i, task, rfl, found, ?_⟩
      rw [Pool.own_map, if_pos rfl]
      exact (acted.limits counted).imp_right (List.exists_mem_of_ne_nil _)
    · exact absurd (congrArg Store.limits same) counted

/-! ### What a waiting call holds -/

/-- In every interleaving a call that waits for its body, or is given up there, holds a front of
the body within the cap of its carrier: the one the request brings along, or the resolver's answer
at a moment of the call. It has asked the checks ahead of the body, none of which denied, and has
handed nothing over. -/
theorem interleaved_read_bounded
    (ran : Machine.run (calls E) (.empty s) moves = some (pool, shown)) {i : Nat} {task}
    (found : pool.tasks[i]? = some task) {cap : Nat} {buffered : Bytes}
    (waits : Pool.holding task = some (.frame cap buffered)) :
    buffered.length ≤ cap ∧ buffered <+: task.job.request.body.content ∧
      (∃ here, Pool.Moment (Job.future E) s moves i here ∧ cap = bodyCap E task.job.service.layer
        (task.job.service.carrier task.job.request here.state)) ∧
      handedOver (Pool.own i shown) = [] ∧
      ∀ event ∈ Pool.own i shown, (event.verdict = .passed ∨ event.verdict = .flagged) ∧
        ∃ k, event.consult.check = some k ∧ k.position < Check.bodyBuffering.position := by
  rw [← Pool.past_eq_own ran found]
  obtain ⟨front, χ, ahead, passed, -, within, start⟩ :=
    (Pool.run_meets (job_ensures E) ran task (List.mem_of_getElem? found)).holds waits
  refine ⟨within, start, ?_, passed.handedOver, fun event seen => ?_⟩
  · obtain ⟨heres, moments, t, goes, waits⟩ := Pool.run_holding ran found waits
    obtain ⟨front, back, χ, split, walks, rfl⟩ := future_goes_frame goes waits
    have inside : .routeCarrier ∈ front := (Check.position_lt_iff split).mp (by decide)
    obtain ⟨act, among, route⟩ := walks_route ⟨_, split.symm⟩ walks inside
    obtain ⟨stepped, taken, rfl⟩ := List.mem_map.mp among
    exact ⟨stepped.1, moments.moment taken, by rw [route]; rfl⟩
  · obtain ⟨⟨k, inside, own⟩, verdict⟩ := passed.event seen
    obtain ⟨rest, split⟩ := ahead
    rw [List.append_assoc] at split
    exact ⟨verdict, k, own, (Check.position_lt_iff split.symm).mpr inside⟩

/-- A route with a limit of its own. -/
def cappedRoute : RouteConfig Bench.world := { Bench.openRoute with maxRequestSize := some 5 }

/-- An upload to that route comes in two parts, and the call waits for the second. -/
def cappedWaiting : List (Move (Job Bench.world) (Store Bench.world)) :=
  .start ⟨Bench.layer.wrap Bench.engine Bench.ok, Bench.request "POST" "/upload" (some cappedRoute)
    [.data (bytesOf "he"), .pending, .data (bytesOf "llo")]⟩ :: List.replicate 12 (.step 0)

theorem upload_read_bounded : ∃ pool shown task here,
    Machine.run (calls Bench.engine) (.empty Bench.start) cappedWaiting = some (pool, shown) ∧
      pool.tasks[0]? = some task ∧
      Pool.holding task = some (.frame 5 (bytesOf "he")) ∧
      Pool.Moment (Job.future Bench.engine) Bench.start cappedWaiting 0 here ∧
      5 = bodyCap Bench.engine task.job.service.layer
        (task.job.service.carrier task.job.request here.state) := by
  have held : (Machine.run (calls Bench.engine) (.empty Bench.start) cappedWaiting).map
      (fun run => run.1.tasks[0]?.bind Pool.holding) = some (some (.frame 5 (bytesOf "he"))) := by
    decide +kernel
  obtain ⟨⟨pool, shown⟩, ran, waits⟩ := Option.map_eq_some_iff.mp held
  obtain ⟨task, found, waits⟩ := Option.bind_eq_some_iff.mp waits
  obtain ⟨here, moment, cap⟩ := (interleaved_read_bounded ran found waits).2.2.1
  exact ⟨pool, shown, task, here, ran, found, waits, moment, cap⟩

/-! ### Who answers -/

/-- In every interleaving a finished call has one answer: the guard's own response, with nothing
handed over, or what the wrapped service answered, at a moment of the call, to the one request it
was handed. -/
theorem interleaved_answer_exclusive
    (ran : Machine.run (calls E) (.empty s) moves = some (pool, shown)) {i : Nat} {task}
    (found : pool.tasks[i]? = some task) {result : Except W.InnerError (Response W)}
    (finished : Pool.outcome task = some (.pass result)) :
    (handedOver (Pool.own i shown) = [] ∧ ∃ response, result = .ok response ∧ response.Own) ∨
      ∃ r here answer, handedOver (Pool.own i shown) = [r] ∧
        Pool.Moment (Job.future E) s moves i here ∧
        (task.job.service.inner.call r here.state).1 = some answer ∧
        Forwarded task.job.service.layer answer result := by
  obtain ⟨moments, inOrder, walks⟩ := Pool.run_walks ran found finished
  obtain ⟨ended, front, back, checked, answered, checks, onward, split, past⟩ :=
    future_walks_iff.mp walks
  rw [← Pool.past_eq_own ran found, past, handedOver_append, checks_handedOver checks]
  rcases goOn_walks onward with own | ⟨r, handed, act, member, answer, said, forwarded⟩
  · exact .inl own
  · -- The act is one of the call's own steps.
    have among : act ∈ moments.map Pool.act := split ▸ List.mem_append_right _ member
    obtain ⟨stepped, taken, rfl⟩ := List.mem_map.mp among
    exact .inr ⟨r, stepped.1, answer, handed, inOrder.moment taken, said, forwarded⟩

theorem upload_answer_exclusive : ∃ pool shown task result,
    Machine.run (calls Bench.engine) (.empty Bench.start) uploadsAnswered = some (pool, shown) ∧
      pool.tasks[0]? = some task ∧ Pool.outcome task = some (.pass result) ∧
        ((handedOver (Pool.own 0 shown) = [] ∧ ∃ response, result = .ok response ∧
          response.Own) ∨ ∃ r here answer, handedOver (Pool.own 0 shown) = [r] ∧
            Pool.Moment (Job.future Bench.engine) Bench.start uploadsAnswered 0 here ∧
            (task.job.service.inner.call r here.state).1 = some answer ∧
            Forwarded task.job.service.layer answer result) := by
  have ended : (Machine.run (calls Bench.engine) (.empty Bench.start) uploadsAnswered).map
      (fun run => ((run.1.tasks[0]?.bind Pool.outcome).map Flow.passes)) = some (some true) := by
    decide +kernel
  obtain ⟨⟨pool, shown⟩, ran, done⟩ := Option.map_eq_some_iff.mp ended
  obtain ⟨flow, done, passes⟩ := Option.map_eq_some_iff.mp done
  obtain ⟨task, found, finished⟩ := Option.bind_eq_some_iff.mp done
  cases flow with
  | pass result =>
    exact ⟨pool, shown, task, result, ran, found, finished,
      interleaved_answer_exclusive ran found finished⟩
  | exit e => cases passes
  | unwound => cases passes

/-! ### How long a call takes -/

/-- In every interleaving a call takes a bounded number of steps of its own, by its body's pending
polls alone, and a call that has taken them all has ended: none waits for another. -/
theorem interleaved_call_bounded
    (ran : Machine.run (calls E) (.empty s) moves = some (pool, shown)) {task}
    (member : task ∈ pool.tasks) :
    task.taken ≤ task.job.request.body.pendings + 38 ∧
      ∀ t, task.progress = .running t → (∃ flow, t = .ofFlow flow) ∨
        task.taken < task.job.request.body.pendings + 38 ∧ ∀ s, (t.next s).isSome = true := by
  obtain ⟨bounded, left⟩ := Pool.run_within (fun job : Job W => future_within E job.service
    job.request) ran task member
  refine ⟨bounded, fun t running => ?_⟩
  rcases t.ended_or_next with ended | steps
  · exact .inl ended
  · by_cases more : task.taken < task.job.request.body.pendings + 38
    · exact .inr ⟨more, steps⟩
    · -- With all its steps taken it has none left.
      have within : t.Within (task.job.request.body.pendings + 38 - task.taken) := left t running
      rw [Nat.sub_eq_zero_of_le (Nat.le_of_not_lt more)] at within
      exact .inl within.ended

theorem upload_call_bounded : ∃ pool shown,
    Machine.run (calls Bench.engine) (.empty Bench.start) uploadsAnswered = some (pool, shown) ∧
      ∃ task ∈ pool.tasks, task.taken = 33 ∧
        task.taken ≤ task.job.request.body.pendings + 38 := by
  have steps : (Machine.run (calls Bench.engine) (.empty Bench.start) uploadsAnswered).map
      (fun run => run.1.tasks[0]?.map Task.taken) = some (some 33) := by
    decide +kernel
  obtain ⟨⟨pool, shown⟩, ran, taken⟩ := Option.map_eq_some_iff.mp steps
  obtain ⟨task, found, taken⟩ := Option.map_eq_some_iff.mp taken
  have member := List.mem_of_getElem? found
  exact ⟨pool, shown, ran, task, member, taken, (interleaved_call_bounded ran member).1⟩

/-! ### One after the other -/

/-- The moves by which each request of the turns comes in and is left alone to its end, the first of
them at place `i`. -/
def oneByOne (E : Engine W) (service : GuardService W) :
    Nat → Store W → List (Turn W) → List (Move (Job W) (Store W))
  | _, _, [] => []
  | i, s, .request request :: turns =>
    .start ⟨service, request⟩ ::
      List.replicate ((service.future E request).steps s) (.step i) ++
        oneByOne E service (i + 1) (service.call E request s).state turns
  | i, _, .elsewhere s :: turns => .elsewhere s :: oneByOne E service i s turns

/-- The requests of the turns, each with the store that its turn finds. -/
def GuardService.served (E : Engine W) (service : GuardService W) :
    Store W → List (Turn W) → List (Request W × Store W)
  | _, [] => []
  | s, .request request :: turns =>
    (request, s) :: service.served E (service.call E request s).state turns
  | _, .elsewhere s :: turns => service.served E s turns

/-- The task is of this request, and has ended as its call does on this store. -/
structure EndedAsCall (E : Engine W) (service : GuardService W) (served : Request W × Store W)
    (task : Task (Job W) (Store W) (Event W) Waiting Empty (Except W.InnerError (Response W))) :
    Prop where
  job : task.job = ⟨service, served.1⟩
  past : task.past = (service.call E served.1 served.2).trace
  outcome : Pool.outcome task = some (service.call E served.1 served.2).flow

/-- A request left alone ends as its call. -/
private theorem servedTask_ended (E : Engine W) (service : GuardService W) (request : Request W)
    (s : Store W) : EndedAsCall E service (request, s)
      (Pool.servedTask (Job.future E) ⟨service, request⟩ s) := by
  have alone : (Job.future E ⟨service, request⟩).alone = service.call E request :=
    future_alone E service request
  refine ⟨rfl, by rw [Pool.servedTask, alone], ?_⟩
  rw [Pool.servedTask, alone]
  cases (service.call E request s).flow <;> rfl

/-- The turns of one service are moves of any pool. -/
private theorem turns_moves (E : Engine W) (service : GuardService W) (turns : List (Turn W))
    (pool : Calls W) : ∃ s' tasks shown,
      Machine.run (calls E) pool (oneByOne E service pool.tasks.length pool.state turns) =
        some (⟨s', pool.tasks ++ tasks⟩, shown) ∧
      Machine.run (service.turn E) pool.state turns = some (s', shown.map Prod.snd) ∧
      List.Forall₂ (EndedAsCall E service) (service.served E pool.state turns) tasks := by
  induction turns generalizing pool with
  | nil => exact ⟨pool.state, [], [], by rw [List.append_nil]; rfl, rfl, .nil⟩
  | cons turn turns ih =>
    cases turn with
    | elsewhere s =>
      obtain ⟨s', tasks, shown, ran, turned, done⟩ := ih { pool with state := s }
      exact ⟨s', tasks, shown, Machine.run_cons_iff.mpr ⟨_, [], shown, rfl, ran, rfl⟩,
        Machine.run_cons_iff.mpr ⟨_, [], _, rfl, turned, rfl⟩, done⟩
    | request request =>
      have called := Pool.run_alone (Job.future E) pool ⟨service, request⟩
      have alone : (Job.future E ⟨service, request⟩).alone = service.call E request :=
        future_alone E service request
      rw [alone] at called
      obtain ⟨s', tasks, shown, ran, turned, done⟩ :=
        ih ⟨(service.call E request pool.state).state,
          pool.tasks ++ [Pool.servedTask (Job.future E) ⟨service, request⟩ pool.state]⟩
      rw [List.length_append, List.append_assoc] at ran
      refine ⟨s', _ :: tasks, _, Machine.run_append_iff.mpr ⟨_, _, shown, called, ran, rfl⟩,
        Machine.run_cons_iff.mpr ⟨_, _, _, rfl, turned, ?_⟩,
        .cons (servedTask_ended E service request pool.state) done⟩
      rw [List.map_append, List.map_map, Function.comp_def, List.map_id']

/-- Every run of one service, request after request, is an interleaving: the one in which each
request comes in at its turn and is left alone to its end. It shows the same, leaves the same
store, and every call ends as `Service::call` does on the store of its turn. -/
theorem turns_interleaved (E : Engine W) (service : GuardService W) (s : Store W)
    (turns : List (Turn W)) : ∃ pool shown,
      Machine.run (calls E) (.empty s) (oneByOne E service 0 s turns) = some (pool, shown) ∧
      Machine.run (service.turn E) s turns = some (pool.state, shown.map Prod.snd) ∧
      List.Forall₂ (EndedAsCall E service) (service.served E s turns) pool.tasks := by
  obtain ⟨s', tasks, shown, ran, turned, done⟩ := turns_moves E service turns (.empty s)
  exact ⟨⟨s', tasks⟩, shown, ran, turned, done⟩

end TowerGuard
