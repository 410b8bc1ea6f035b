import TowerGuard.Properties.RateLimit
import TowerGuard.Properties.Standalone
import TowerGuard.StageFuture

/-!
# Stacked layers in any interleaving

Requests come to services with layers stacked over them, and their calls take steps in any order.
Each stage decides on the store as it is at its own moment, and the moments are in the order of the
layers. A call answers as its row of decisions says, and one that is given up has them all behind
it.
-/

namespace TowerGuard

open Text Traced

variable {W : World}

variable (W) in
/-- A request put to the layers stacked over a service. -/
structure StackedJob where
  inner : StageInner W
  layers : List (GuardStageLayer W)
  request : Request W

/-- The stacked calls under way over one store. -/
abbrev StackedCalls (W : World) :=
  Pool (StackedJob W) (Store W) (Event W) Waiting Empty (Except W.InnerError (InnerResponse W))

def StackedJob.future (job : StackedJob W) :
    Future W Empty (Except W.InnerError (InnerResponse W)) :=
  job.inner.future job.request job.layers

abbrev stackedCalls : Machine (StackedCalls W) (Move (StackedJob W) (Store W)) (Nat × Event W) :=
  Pool.move StackedJob.future

variable {s : Store W} {moves : List (Move (StackedJob W) (Store W))} {pool : StackedCalls W}
  {shown : List (Nat × Event W)}

/-- In every interleaving a call that has ended has asked its stages in order, each on the store at
its own moment and leaving there what it leaves, up to the first that denied or panicked. It answers
with the rendering of that denial; and where every stage let the request through, it has handed over
this very request, once and behind all of them, and answers as the wrapped service did. -/
theorem interleaved_stack_answers
    (ran : Machine.run stackedCalls (.empty s) moves = some (pool, shown)) {i : Nat} {task}
    (found : pool.tasks[i]? = some task) {flow} (finished : Pool.outcome task = some flow) :
    ∃ heres behind ended,
      Pool.Moments StackedJob.future s i moves (heres ++ behind) ∧
      StageEnding.Found (decisionsOn task.job.request task.job.layers) (heres.map Pool.act)
        ended ∧
      task.job.inner.Answers task.job.request ended (behind.map Pool.act)
        (handedOver (Pool.own i shown)) flow := by
  obtain ⟨moments, inOrder, walks⟩ := Pool.run_walks ran found finished
  obtain ⟨front, back, ended, split, row, answers⟩ := stacked_walks walks
  obtain ⟨heres, behind, rfl, rfl, rfl⟩ := List.map_eq_append_iff.mp split
  rw [Pool.past_eq_own ran found] at answers
  exact ⟨heres, behind, ended, inOrder, row, answers⟩

/-! ### Two requests and one left, stage by stage -/

/-- A request to a service with the layers of one limiter stacked over it. -/
def limitedJob : StackedJob Metered.world where
  inner := meteredInner
  layers := (limitingLayer none).providedLayers Metered.engine
  request := Metered.request (some Bench.client) "GET" "/items" none []

/-- Two such calls take their steps in turn. -/
def stackedRacing : List (Move (StackedJob Metered.world) (Store Metered.world)) :=
  [.start limitedJob, .start limitedJob] ++ [0, 1, 0, 1, 0, 1, 0].map .step

/-- The status of the response a stacked call ends with. -/
def stackedStatus : Flow Empty (Except Unit (InnerResponse Metered.world)) → Option Nat
  | .pass (.ok response) => some response.status.asU16
  | .pass (.error _) | .unwound => none

/-- The tiers deny the second request at its moment. -/
theorem race_stack_answers : ∃ pool shown task flow heres behind ended,
    Machine.run stackedCalls (.empty Metered.start) stackedRacing = some (pool, shown) ∧
      pool.tasks[1]? = some task ∧ stackedStatus flow = some 429 ∧
      Pool.Moments StackedJob.future Metered.start 1 stackedRacing (heres ++ behind) ∧
      StageEnding.Found (decisionsOn task.job.request task.job.layers) (heres.map Pool.act)
        ended ∧
      task.job.inner.Answers task.job.request ended (behind.map Pool.act)
        (handedOver (Pool.own 1 shown)) flow := by
  have raced : (Machine.run stackedCalls (.empty Metered.start) stackedRacing).map
      (fun run => (run.1.tasks[1]?.bind Pool.outcome).map stackedStatus) =
        some (some (some 429)) := by
    decide +kernel
  obtain ⟨⟨pool, shown⟩, ran, answered⟩ := Option.map_eq_some_iff.mp raced
  obtain ⟨flow, there, status⟩ := Option.map_eq_some_iff.mp answered
  obtain ⟨task, found, finished⟩ := Option.bind_eq_some_iff.mp there
  obtain ⟨heres, behind, ended, moments, row, answers⟩ :=
    interleaved_stack_answers ran found finished
  exact ⟨pool, shown, task, flow, heres, behind, ended, ran, found, status, moments, row, answers⟩

/-! ### Given up -/

/-- In every interleaving a call that is given up, even before its future is first polled, has all
of its decisions behind it, and what they did to the store: it holds its first denial, with nothing
handed over, or every stage let the request through and the wrapped service has it. -/
theorem interleaved_stack_given_up
    (ran : Machine.run stackedCalls (.empty s) moves = some (pool, shown)) {i : Nat} {task}
    (found : pool.tasks[i]? = some task) {held} (dropped : task.progress = .dropped held) :
    ∃ heres behind ended,
      Pool.Moments StackedJob.future s i moves (heres ++ behind) ∧
      StageEnding.Found (decisionsOn task.job.request task.job.layers) (heres.map Pool.act)
        ended ∧
      task.job.inner.Awaits task.job.request ended held (behind.map Pool.act)
        (handedOver (Pool.own i shown)) := by
  have holds : Pool.holding task = some held := by
    obtain ⟨job, progress, past, taken⟩ := task
    cases dropped
    rfl
  obtain ⟨moments, inOrder, t, goes, waits⟩ := Pool.run_holding ran found holds
  obtain ⟨front, back, ended, split, row, awaits⟩ := stacked_goes goes waits
  obtain ⟨heres, behind, rfl, rfl, rfl⟩ := List.map_eq_append_iff.mp split
  rw [Pool.past_eq_own ran found] at awaits
  exact ⟨heres, behind, ended, inOrder, row, awaits⟩

/-- The second call is given up before its future is polled. -/
def stackedGivenUp : List (Move (StackedJob Metered.world) (Store Metered.world)) :=
  [.start limitedJob, .start limitedJob] ++ [0, 1, 0, 1].map .step ++ [.drop 1]

/-- It holds the denial of the tiers. -/
theorem race_stack_given_up : ∃ pool shown task heres behind ended,
    Machine.run stackedCalls (.empty Metered.start) stackedGivenUp = some (pool, shown) ∧
      pool.tasks[1]? = some task ∧
      Pool.Moments StackedJob.future Metered.start 1 stackedGivenUp (heres ++ behind) ∧
      StageEnding.Found (decisionsOn task.job.request task.job.layers) (heres.map Pool.act)
        ended ∧
      task.job.inner.Awaits task.job.request ended .poll (behind.map Pool.act)
        (handedOver (Pool.own 1 shown)) := by
  have raced : (Machine.run stackedCalls (.empty Metered.start) stackedGivenUp).map
      (fun run => run.1.tasks[1]?.bind fun task => match task.progress with
        | .dropped held => some held
        | .running _ => none) = some (some .poll) := by
    decide +kernel
  obtain ⟨⟨pool, shown⟩, ran, given⟩ := Option.map_eq_some_iff.mp raced
  obtain ⟨task, found, held⟩ := Option.bind_eq_some_iff.mp given
  have dropped : task.progress = .dropped .poll := by
    cases progress : task.progress with
    | dropped waiting => rw [progress] at held; cases held; rfl
    | running t => rw [progress] at held; cases held
  obtain ⟨heres, behind, ended, moments, row, awaits⟩ :=
    interleaved_stack_given_up ran found dropped
  exact ⟨pool, shown, task, heres, behind, ended, ran, found, moments, row, awaits⟩

end TowerGuard
