import TowerGuard.Properties.Moments
import TowerGuard.Properties.ResponsePass

/-!
# The response-side pass in any interleaving

The processor, the modifier and the events of a response are steps of their own, with other calls
in between. However they fall, a response has been through the pass as often as its call shows:
once, twice behind a denial at the IP gate, and not at all as a preflight answer.
-/

namespace TowerGuard

open Text Traced

variable {W : World} {ε : Type}

/-! ### Counting the steps of one pass -/

section Pass

variable {p : Event W → Bool} {a b : Bool} (watches : Watches p a b) (E : Engine W)
  (layer : GuardLayer W)

include watches

namespace Future

theorem runModifier_shows {input : RequestBits} {bits : ResponseBits} :
    (Future.runModifier layer input bits : Future W ε _).Shows p
      (if layer.responseModifier.isSome then b.toNat else 0) := by
  unfold Future.runModifier
  cases layer.responseModifier with
  | none => exact .pass _
  | some modifier =>
    refine .bind (k := 0) (.atomically (.caught_ask fun _ => watches.modifier _)) fun modified => ?_
    cases modified with
    | some bits => exact .pass _
    | none =>
      cases layer.onError with
      | none => exact .pass _
      | some hook =>
        exact .bind (.atomically (.of_emits (notify_emits fun _ => watches.onError _)))
          fun _ => .pass _

theorem applyResponseProcessor_shows {input : RequestBits} {status : Nat} {headers : HeaderMap}
    {lane : ResponseLane} :
    (Future.applyResponseProcessor E layer input status headers lane : Future W ε _).Shows p
      (layer.passShows a b) := by
  unfold Future.applyResponseProcessor GuardLayer.passShows
  cases layer.responseProcessor with
  | none => exact .pass _
  | some processor =>
    rw [Option.isSome_some, if_pos rfl]
    have turns : ∀ n, a.toNat + n = (0 + a.toNat) + (0 + (n + 0)) := by simp
    rw [turns]
    refine .bind (.atomically (.bind .reads fun now => .ask fun _ => watches.process _ _ _))
      fun answer => ?_
    exact .bind (.atomically (emitHeadersAppliedEvent_shows watches E layer)) fun _ =>
      .bind (runModifier_shows watches layer) fun _ => .pass _

theorem passGenerated_shows {parts : Parts W} {generated : Generated} :
    (Future.passGenerated E layer parts generated : Future W ε _).Shows p (layer.passShows a b) :=
  .bind (applyResponseProcessor_shows watches E layer) fun _ => .pass _

theorem finishGenerated_shows {parts : Parts W} {generated : Generated} :
    (Future.finishGenerated E layer parts generated : Future W ε _).Shows p
      (layer.passShows a b) :=
  .bind (passGenerated_shows watches E layer) fun _ => .pass _

omit watches in
theorem shaped_shows {α : Type} {n : Nat} {generated : Option Generated}
    {finish : Generated → Future W ε α} (finishes : ∀ generated, (finish generated).Shows p n) :
    (Future.shaped generated finish).Shows p n := by
  cases generated with
  | none => exact .unwound
  | some generated => exact finishes generated

/-- Rendering an answer makes its passes, whatever goes on in between. -/
theorem render_shows {parts : Parts W} (answer : Answer) :
    (Future.render E layer parts answer : Future W ε _).Shows p
      (answer.passes * layer.passShows a b) := by
  have finish (generated : Generated) :
      (Future.finishGenerated E layer parts generated : Future W ε _).Shows p
        (layer.passShows a b) :=
    finishGenerated_shows watches E layer
  cases answer with
  | preflight answer =>
    rw [Answer.passes, Nat.zero_mul]
    exact shaped_shows fun _ => .pass _
  | gate body =>
    rw [Answer.passes, Nat.two_mul]
    unfold Future.render
    refine shaped_shows fun generated => ?_
    exact .bind (passGenerated_shows watches E layer) fun _ => finish _
  | block status body => rw [Answer.passes, Nat.one_mul]; exact shaped_shows finish
  | redirect answer => rw [Answer.passes, Nat.one_mul]; exact shaped_shows finish
  | stage response => rw [Answer.passes, Nat.one_mul]; exact finish _
  | oversize => rw [Answer.passes, Nat.one_mul]; exact finish _
  | failure => rw [Answer.passes, Nat.one_mul]; exact finish _

end Future

variable {acts : List (Act (Store W))} {trace : List (Event W)} {response : Response W}

/-- A forward that ends with a response has made one pass. -/
theorem forward_walks_shows {facts : RequestFacts} {parts : Parts W} {buffered : Option Bytes}
    {inner : InnerService W}
    (walks : (Future.forward E layer facts parts buffered inner : Future W ε _).Walks acts trace
      (.pass (.ok response))) : trace.countP p = layer.passShows a b := by
  obtain ⟨s, later, trace', rfl, rfl, onward⟩ := Thread.walks_atomically_bind_iff.mp walks
  rw [List.countP_append]
  rcases called : inner.call (inner.rebuild parts buffered) s with ⟨_ | answer, s'⟩
  · rw [Prog.ask_unwound called] at onward
    cases onward
  · rw [Prog.ask_pass called] at onward ⊢
    have passes : (Future.passForwarded E layer facts answer : Future W ε _).Walks later trace'
        (.pass (.ok response)) := Thread.walks_wait_iff.mp onward
    rw [List.countP_singleton, watches.inner, if_neg Bool.false_ne_true, Nat.zero_add]
    cases answer with
    -- The wrapped service's error is no response.
    | error error => cases passes
    | ok answered =>
      exact Thread.Shows.bind (k := 0) (Future.applyResponseProcessor_shows watches E layer)
        (fun _ => .pass _) _ _ _ passes

end Pass

/-! ### The checks ahead of it -/

section Checks

variable {E : Engine W} {service : GuardService W} {k : Check} {cs : List Check} {χ : Locals W}
  {acts : List (Act (Store W))} {trace : List (Event W)} {ended : Flow (Early W) (Locals W)}
  {s : Store W} {early : Early W} {p : Event W → Bool} {a b : Bool}

/-- No check takes a part in the pass. -/
theorem run_silent (watches : Watches p a b) (k : Check) (χ : Locals W) (s : Store W) :
    (k.run E service χ s).trace.countP p = 0 := by
  have emits : Prog.Emits (fun event => p event = false) (k.run E service χ) := by
    cases applies : k.trial E service χ with
    | none => rw [run_of_absent applies]; exact .pure
    | some trial =>
      simp only [Check.run, applies]
      have asked : ∀ verdict, p ⟨trial.question, verdict⟩ = false := fun verdict =>
        watches.check _ (by rw [trial_question applies]; rfl)
      refine .bind (.ask fun _ => asked _) fun ruling => ?_
      cases ruling with
      | pass next => exact .pure
      | flag next => exact .pure
      | recover early => exact .exit
      | deny early payload =>
        refine .bind ?_ fun _ => .exit
        cases payload with
        | none => exact .pure
        | some payload => exact notify_emits fun _ => watches.blockHook _ _
  rw [List.countP_eq_zero]
  intro event member satisfied
  rw [emits s event member] at satisfied
  cases satisfied

theorem checks_silent (watches : Watches p a b)
    (walks : Checklist.Walks (Check.run E service) cs χ acts trace ended) :
    trace.countP p = 0 := by
  induction walks with
  | nil χ => rfl
  | pass _ _ ih => rw [List.countP_append, run_silent watches, ih]
  | exit _ => exact run_silent watches _ _ _
  | unwound _ => exact run_silent watches _ _ _

/-- The denial of this check. -/
def Event.denies (k : Check) (event : Event W) : Bool :=
  event.consult.check = some k && event.verdict = .denied

/-- How many passes a response makes, by what its call shows. -/
def passesShown (past : List (Event W)) : Nat :=
  if past.any (Event.denies .corsPreflight) then 0
  else if past.any (Event.denies .ipGate) then 2
  else 1

/-- What denies nothing in front, and asks nothing behind, changes nothing. -/
theorem passesShown_append {front back : List (Event W)}
    (passed : ∀ event ∈ front, event.verdict ≠ .denied) :
    passesShown (front ++ back) = passesShown back := by
  have none (k : Check) : front.any (Event.denies k) = false := by
    simp only [List.any_eq_false, Event.denies]
    intro event member denies
    simp [passed event member] at denies
  simp only [passesShown, List.any_append, none, Bool.false_or]

theorem passesShown_unasked {front back : List (Event W)}
    (unasked : ∀ event ∈ back, event.consult.check = none) :
    passesShown (front ++ back) = passesShown front := by
  have none (k : Check) : back.any (Event.denies k) = false := by
    simp only [List.any_eq_false, Event.denies]
    intro event member denies
    simp [unasked event member] at denies
  simp only [passesShown, List.any_append, none, Bool.or_false]

/-- How many passes follow the checks. -/
def passesOf : Flow (Early W) (Locals W) → Nat
  | .pass _ | .exit (.excluded _) => 1
  | .exit (.answered _ answer) => answer.passes
  | .unwound => 0

/-- A check that leaves early does so by one of its exits, and shows its denial; but for the scan,
whose panic is recovered. -/
theorem run_leaves (left : (k.run E service χ s).flow = .exit early) :
    ∃ payload event later, k.Exit E service χ s early payload ∧
      (k.run E service χ s).trace = event :: later ∧ (∀ event ∈ later, event.aside) ∧
      event.consult.check = some k ∧
      (event.verdict = .denied ∨ k = .scan ∧ event.verdict = .panicked) := by
  cases applies : k.trial E service χ with
  | none => rw [run_of_absent applies] at left; cases left
  | some trial =>
    obtain ⟨later, trace, aside⟩ := run_trace (s := s) applies
    rcases ruled : trial.ruling s with ⟨_ | ruling, s₁⟩
    · rw [run_of_panicked applies ruled] at left; cases left
    · rw [run_of_ruled applies ruled, Run.after_flow] at left
      rw [ruled] at trace
      cases ruling with
      | pass next => cases left
      | flag next => cases left
      | recover early =>
        cases left
        exact ⟨none, _, later, trial_exit_of_recovered applies ruled, trace, aside,
          trial_question applies, .inr ⟨(trial_recovers applies ruled).1, rfl⟩⟩
      | deny early payload =>
        simp only [Check.proceed] at left
        obtain ⟨s₂, t₂, -, fired | fired⟩ := fireBlock_cases E service.layer payload s₁
        · rw [Prog.bind_pass (fired _)] at left
          cases left
          exact ⟨payload, _, later, trial_exit applies ruled, trace, aside,
            trial_question applies, .inl rfl⟩
        · rw [Prog.bind_unwound (fired _)] at left; cases left

/-- A denial shows the passes of its check. -/
theorem passesShown_denied {event : Event W} (own : event.consult.check = some k)
    (denied : event.verdict = .denied) : passesShown [event] =
      if k = .corsPreflight then 0 else if k = .ipGate then 2 else 1 := by
  simp [passesShown, Event.denies, own, denied]

/-- The answer of an exit makes two passes at the gate, none at the preflight, and one anywhere
else. -/
theorem Check.Exit.passes {payload : Option BlockPayload}
    (exits : k.Exit E service χ s early payload) :
    passesOf (.exit early : Flow (Early W) (Locals W)) =
      if k = .corsPreflight then 0 else if k = .ipGate then 2 else 1 := by
  cases exits with
  | failure unable =>
    rw [if_neg (by rintro rfl; cases unable), if_neg (by rintro rfl; cases unable)]
    rfl
  | own _ _ own =>
    rw [if_neg (by rintro rfl; cases own), if_neg (by rintro rfl; cases own)]
    rfl
  | _ => rfl

/-- An exit shows as many passes as its answer makes. -/
theorem run_leaves_shown (left : (k.run E service χ s).flow = .exit early) :
    passesShown (k.run E service χ s).trace =
      passesOf (.exit early : Flow (Early W) (Locals W)) := by
  obtain ⟨payload, event, later, exits, trace, aside, own, shows⟩ := run_leaves left
  have first : passesShown (k.run E service χ s).trace = passesShown [event] := by
    have unasked : ∀ event ∈ later, event.consult.check = none :=
      fun event member => (aside event member).1
    rw [trace, ← List.singleton_append, passesShown_unasked unasked]
  rw [first, exits.passes]
  rcases shows with denied | ⟨rfl, panicked⟩
  · exact passesShown_denied own denied
  · simp [passesShown, Event.denies, panicked]

/-- A check that passes has denied nothing. -/
theorem run_passed {χ' : Locals W} (passed : (k.run E service χ s).flow = .pass χ') :
    ∀ event ∈ (k.run E service χ s).trace, event.verdict ≠ .denied := by
  intro event member denied
  rcases run_pass_iff.mp (Run.of_flow passed) with
    ⟨-, -, -, empty⟩ | ⟨trial, ruling, -, -, passes, single⟩
  · rw [empty] at member
    cases member
  · rw [single] at member
    obtain rfl := List.mem_singleton.mp member
    rcases Ruling.shows_passing passes with shown | shown
    · cases shown.symm.trans denied
    · cases shown.symm.trans denied

/-- Checks that go by or leave early show the passes that follow them. -/
theorem checks_pass_shown
    (walks : Checklist.Walks (Check.run E service) cs χ acts trace ended)
    (standing : ended ≠ .unwound) : passesShown trace = passesOf ended := by
  induction walks with
  | nil χ => rfl
  | @pass k cs χ χ' s acts trace ended passed _ ih =>
    rw [passesShown_append (run_passed passed), ih standing]
  | exit left => exact run_leaves_shown left
  | unwound _ => exact absurd rfl standing

end Checks

/-! ### Behind them -/

section Behind

variable {E : Engine W} {service : GuardService W} {facts : RequestFacts}
  {acts : List (Act (Store W))} {trace : List (Event W)} {ended : Flow (Early W) (Locals W)}
  {response : Response W} {p : Event W → Bool} {a b : Bool}

/-- The response side asks no check. -/
theorem Aside.unasked {α : Type} {layer : GuardLayer W} {V : α → Prop} {t : Future W ε α}
    {flow : Flow ε α} (aside : Aside layer (fun _ => True) V t)
    (walks : t.Walks acts trace flow) : ∀ event ∈ trace, event.consult.check = none := by
  exact fun event member => ((aside.walks walks).1 event member).1

theorem forward_unasked {layer : GuardLayer W} {parts : Parts W} {buffered : Option Bytes}
    {inner : InnerService W} {flow : Flow ε (Except W.InnerError (Response W))}
    (walks : (Future.forward E layer facts parts buffered inner : Future W ε _).Walks acts trace
      flow) : ∀ event ∈ trace, event.consult.check = none := by
  obtain ⟨s, later, trace', rfl, rfl, onward⟩ := Thread.walks_atomically_bind_iff.mp walks
  intro event member
  rcases called : inner.call (inner.rebuild parts buffered) s with ⟨_ | answer, s'⟩
  · rw [Prog.ask_unwound called] at onward member
    cases onward
    obtain rfl := List.mem_singleton.mp member
    rfl
  · rw [Prog.ask_pass called] at onward member
    rcases List.mem_append.mp member with handed | behind
    · obtain rfl := List.mem_singleton.mp handed
      rfl
    · exact (passForwarded_aside E layer trivial answer).unasked (Thread.walks_wait_iff.mp onward)
        event behind

/-- What follows the checks asks none of them. -/
theorem goOn_unasked {flow : Flow Empty (Except W.InnerError (Response W))}
    (walks : (service.goOn E facts ended).Walks acts trace flow) :
    ∀ event ∈ trace, event.consult.check = none := by
  rcases ended with χ | ⟨parts | ⟨parts, answer⟩⟩ | _
  · exact forward_unasked walks
  · exact forward_unasked walks
  · exact Aside.unasked ((render_aside E service.layer trivial answer).bind (V := fun _ => True)
      fun _ _ => .pure trivial) walks
  · cases walks
    intro event member
    cases member

/-- A response has made the passes that follow the checks. -/
theorem goOn_shows (watches : Watches p a b)
    (walks : (service.goOn E facts ended).Walks acts trace (.pass (.ok response))) :
    trace.countP p = passesOf ended * service.layer.passShows a b := by
  rcases ended with χ | ⟨parts | ⟨parts, answer⟩⟩ | _
  · rw [passesOf, Nat.one_mul]
    exact forward_walks_shows watches E service.layer walks
  · rw [passesOf, Nat.one_mul]
    exact forward_walks_shows watches E service.layer walks
  · exact Thread.Shows.bind (k := 0) (Future.render_shows watches E service.layer answer)
      (fun _ => .pass _) _ _ _ walks
  · cases walks

/-- A call that ends with a response shows how many passes the response has made. -/
theorem future_walks_shows (watches : Watches p a b) {request : Request W}
    (walks : (service.future E request).Walks acts trace (.pass (.ok response))) :
    trace.countP p = passesShown trace * service.layer.passShows a b := by
  obtain ⟨ended, s₁, s₂, t₁, t₂, checks, onward, -, rfl⟩ := future_walks_iff.mp walks
  have standing : ended ≠ .unwound := by
    rintro rfl
    cases onward
  rw [List.countP_append, checks_silent watches checks, Nat.zero_add, goOn_shows watches onward,
    passesShown_unasked (goOn_unasked onward), checks_pass_shown checks standing]

end Behind

/-! ### Any interleaving -/

section Interleaved

variable {E : Engine W} {s : Store W} {moves : List (Move (Job W) (Store W))} {pool : Calls W}
  {shown : List (Nat × Event W)}

/-- In every interleaving a call that ends with a response has put it to the processor, and with
one installed to the modifier, as often as its own checks say: not at all if the preflight was
answered, twice if the IP gate denied, and once however else it went. -/
theorem interleaved_response_passed
    (ran : Machine.run (calls E) (.empty s) moves = some (pool, shown)) {i : Nat} {task}
    (found : pool.tasks[i]? = some task) {response : Response W}
    (finished : Pool.outcome task = some (.pass (.ok response))) :
    (Pool.own i shown).countP Event.isProcess = passesShown (Pool.own i shown) *
        (if task.job.service.layer.responseProcessor.isSome then 1 else 0) ∧
      (Pool.own i shown).countP Event.isModifier = passesShown (Pool.own i shown) *
        (if task.job.service.layer.responseProcessor.isSome ∧
          task.job.service.layer.responseModifier.isSome then 1 else 0) := by
  obtain ⟨moments, -, walks⟩ := Pool.run_walks ran found finished
  rw [← Pool.past_eq_own ran found]
  refine ⟨(future_walks_shows watches_process walks).trans ?_,
    (future_walks_shows watches_modifier walks).trans ?_⟩
  · simp [GuardLayer.passShows]
  · simp [GuardLayer.passShows, ite_and]

end Interleaved

/-- A call behind a gate that denies these clients, with both parts of the pass installed. -/
def gatedJob (blacklist : List String) : Job Bench.world :=
  ⟨((gatedLayer blacklist).withCustomResponseModifier fun bits => Call.returning bits).wrap
    Bench.engine Bench.ok, Bench.request "GET" "/items" none []⟩

/-- A client that is let in and one that is not, in turns. -/
def gatedTurns : List (Move (Job Bench.world) (Store Bench.world)) :=
  [.start (gatedJob []), .start (gatedJob [Bench.client.display])] ++
    (List.replicate 14 [.step 0, .step 1]).flatten ++ List.replicate 21 (.step 0)

/-- The response to the client behind the gate has made two passes, in two turns of the other. -/
theorem gated_response_passed : ∃ pool shown,
    Machine.run (calls Bench.engine) (.empty Bench.start) gatedTurns = some (pool, shown) ∧
      (Pool.own 0 shown).countP Event.isProcess = 1 ∧
      (Pool.own 0 shown).countP Event.isModifier = 1 ∧
      (Pool.own 1 shown).countP Event.isProcess = 2 ∧
      (Pool.own 1 shown).countP Event.isModifier = 2 := by
  have turned : (Machine.run (calls Bench.engine) (.empty Bench.start) gatedTurns).map
      (fun run => ((run.1.tasks[0]?.bind Pool.outcome).map Bench.statusOf,
        (run.1.tasks[1]?.bind Pool.outcome).map Bench.statusOf,
        passesShown (Pool.own 0 run.2), passesShown (Pool.own 1 run.2))) =
        some (some (some 200), some (some 403), 1, 2) := by
    decide +kernel
  obtain ⟨⟨pool, shown⟩, ran, ended⟩ := Option.map_eq_some_iff.mp turned
  simp only [Prod.mk.injEq] at ended
  obtain ⟨allowed, denied, once, twice⟩ := ended
  obtain ⟨_, _, _, ⟨⟩, rest, -⟩ := Machine.run_cons_iff.mp ran
  obtain ⟨_, _, _, ⟨⟩, turns, -⟩ := Machine.run_cons_iff.mp rest
  have passed {i : Nat} {blacklist : List String} {status : Nat}
      (placed : pool.tasks[i]?.map Task.job = some (gatedJob blacklist))
      (answered : (pool.tasks[i]?.bind Pool.outcome).map Bench.statusOf = some (some status)) :
      (Pool.own i shown).countP Event.isProcess = passesShown (Pool.own i shown) * 1 ∧
        (Pool.own i shown).countP Event.isModifier = passesShown (Pool.own i shown) * 1 := by
    obtain ⟨flow, there, said⟩ := Option.map_eq_some_iff.mp answered
    obtain ⟨task, found, finished⟩ := Option.bind_eq_some_iff.mp there
    obtain ⟨response, rfl⟩ := Bench.response_of_status said
    have counts := interleaved_response_passed ran found finished
    rw [found] at placed
    rw [Option.some.inj placed] at counts
    exact counts
  have first := passed (Pool.run_job (j := 0) turns rfl) allowed
  have second := passed (Pool.run_job (j := 1) turns rfl) denied
  rw [once] at first
  rw [twice] at second
  exact ⟨pool, shown, ran, first.1, first.2, second.1, second.2⟩

end TowerGuard
