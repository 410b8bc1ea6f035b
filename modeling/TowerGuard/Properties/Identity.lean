import TowerGuard.Address
import TowerGuard.Properties.Isolation
import TowerGuard.Properties.Passes

/-!
# Identities

The behavior rules count a client's uses, and the responses it gets, under a text, and this text is
all they are told of it. Since no two addresses are written the same, and none as the empty text,
what is counted under one text comes from one address, or from requests that have none.
-/

namespace TowerGuard

open Text Traced

variable {W : World} {E : Engine W} {s : Store W} {moves : List (Move (Job W) (Store W))}
  {pool : Calls W} {shown : List (Nat × Event W)}

/-- The identity of a request says where it came from. -/
theorem Request.client_inj {request request' : Request W}
    (same : request.client = request'.client) :
    request.extensions.clientIp = request'.extensions.clientIp := by
  unfold Request.client at same
  cases address : request.extensions.clientIp <;> cases address' : request'.extensions.clientIp <;>
    simp only [address, address', Option.map_some, Option.map_none, Option.getD_some,
      Option.getD_none] at same
  · rfl
  · exact absurd same.symm (IpAddr.display_ne_empty _)
  · exact absurd same (IpAddr.display_ne_empty _)
  · rw [IpAddr.display_inj same]

/-- The identity that the behavior rules count under: the usage rules ahead of the pipeline, or the
return rules behind it. -/
def Event.countedUnder (event : Event W) : Option String :=
  match event.consult with
  | .usageRules _ client _ => some client
  | .process input _ => some input.clientIp
  | _ => none

theorem Event.countedUnder_iff {event : Event W} {client : String} :
    event.countedUnder = some client ↔
      (∃ endpoint rules, event.consult = .usageRules endpoint client rules) ∨
        ∃ input status, event.consult = .process input status ∧ input.clientIp = client := by
  obtain ⟨consult, verdict⟩ := event
  constructor
  · intro counted
    cases consult with
    | usageRules endpoint client' rules =>
      cases counted
      exact .inl ⟨endpoint, rules, rfl⟩
    | process input status =>
      cases counted
      exact .inr ⟨input, status, rfl, rfl⟩
    | _ => cases counted
  · rintro (⟨endpoint, rules, ⟨⟩⟩ | ⟨input, status, ⟨⟩, rfl⟩)
    · rfl
    · rfl

/-- The processor is told the request's own identity. -/
theorem GuardService.Acts.told {service : GuardService W} {request : Request W}
    {past : List (Event W)} {after : Store W × List (Event W)} {event : Event W}
    (acts : service.Acts E request past s after) (seen : event ∈ after.2) {input : RequestBits}
    {status : Nat} (asked : event.consult = .process input status) :
    input.clientIp = request.client := by
  cases acts with
  | @check front back k χ past s split passed =>
    -- No check puts anything to it.
    have silent : ¬event.isProcess = true :=
      List.countP_eq_zero.mp (run_silent watches_process k χ s) event seen
    obtain ⟨consult, verdict⟩ := event
    obtain rfl : consult = .process input status := asked
    exact absurd rfl silent
  | inner admitted =>
    obtain rfl := List.mem_singleton.mp seen
    cases asked
  | response sound step tells => exact (tells event seen).client input status asked

/-- The behavior rules count a request under its own identity. -/
theorem counted_client (ran : Machine.run (calls E) (.empty s) moves = some (pool, shown))
    {i : Nat} {task} (found : pool.tasks[i]? = some task) {event : Event W} {client : String}
    (seen : event ∈ Pool.own i shown) (counted : event.countedUnder = some client) :
    client = task.job.request.client := by
  rw [← Pool.past_eq_own ran found] at seen
  rcases Event.countedUnder_iff.mp counted with
    ⟨endpoint, rules, asked⟩ | ⟨input, status, asked, rfl⟩
  · obtain ⟨here, χ, trial, -, arrives, applies, rfl⟩ :=
      asked_when ran found seen (by rw [asked]; rfl)
    obtain ⟨processor, -, -, ⟨⟩⟩ := bind_guard_iff.mp applies
    have told := (Consult.usageRules.inj asked).2.1
    rw [← told, arrives.of.client.1]
    rfl
  · obtain ⟨here, before, after, -, acts, observed⟩ := Pool.run_when (job_ensures E) ran found seen
    exact GuardService.Acts.told acts observed asked

/-- In every interleaving two requests that the behavior rules count under one identity, by their
uses or by the responses they got, come from one address, or both from none. -/
theorem interleaved_identities_apart
    (ran : Machine.run (calls E) (.empty s) moves = some (pool, shown)) {i j : Nat} {task task'}
    (found : pool.tasks[i]? = some task) (found' : pool.tasks[j]? = some task')
    {event event' : Event W} {client : String} (seen : event ∈ Pool.own i shown)
    (seen' : event' ∈ Pool.own j shown) (counted : event.countedUnder = some client)
    (counted' : event'.countedUnder = some client) :
    task.job.request.extensions.clientIp = task'.job.request.extensions.clientIp := by
  refine Request.client_inj ?_
  rw [← counted_client ran found seen counted, counted_client ran found' seen' counted']

/-- A client uses one route twice at a time. -/
def clientTwice : List (Move (Job Metered.world) (Store Metered.world)) :=
  let job := ⟨trackingService, ruledRequest (some Bench.client)⟩
  [.start job, .start job] ++ (List.replicate 6 [.step 0, .step 1]).flatten

theorem twice_identities_apart : ∃ pool shown task task',
    Machine.run (calls Metered.engine) (.empty Metered.start) clientTwice = some (pool, shown) ∧
      pool.tasks[0]? = some task ∧ pool.tasks[1]? = some task' ∧
      task.job.request.extensions.clientIp = task'.job.request.extensions.clientIp := by
  have both : (Machine.run (calls Metered.engine) (.empty Metered.start) clientTwice).map
      (fun run => (run.1.tasks.length, [0, 1].map fun i => (Pool.own i run.2).any fun event =>
        event.countedUnder = some Bench.client.display)) = some (2, [true, true]) := by
    decide +kernel
  obtain ⟨⟨pool, shown⟩, ran, counts⟩ := Option.map_eq_some_iff.mp both
  obtain ⟨two, uses⟩ := Prod.mk.inj counts
  simp only [List.map_cons, List.map_nil, List.cons.injEq, and_true] at uses
  obtain ⟨event, seen, counted⟩ := List.any_eq_true.mp uses.1
  obtain ⟨event', seen', counted'⟩ := List.any_eq_true.mp uses.2
  have place {i : Nat} (inside : i < 2) : ∃ task, pool.tasks[i]? = some task :=
    ⟨_, List.getElem?_eq_getElem (two.symm ▸ inside)⟩
  obtain ⟨task, found⟩ := place (i := 0) (by decide)
  obtain ⟨task', found'⟩ := place (i := 1) (by decide)
  exact ⟨pool, shown, task, task', ran, found, found', interleaved_identities_apart ran found found'
    seen seen' (of_decide_eq_true counted) (of_decide_eq_true counted')⟩

end TowerGuard
