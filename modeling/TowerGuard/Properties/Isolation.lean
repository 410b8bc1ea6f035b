import TowerGuard.Properties.Interleaving
import TowerGuard.Properties.Unattributed

/-!
# A call among others

What a call looks at is a part of the store. As long as the other calls and the world around
leave that part as it is, the call ends as it does alone, wherever its steps fall.
-/

namespace TowerGuard

open Text Traced Thread

variable {W : World} {ε φ γ : Type} {f : W.Limits → φ} {g : W.Other → γ} {E : Engine W}

/-- A call of the request looks at `f` of the counters and at `g` of the rest of the store, the
usage rules for the request's own client. -/
structure LooksAt (f : W.Limits → φ) (g : W.Other → γ) (E : Engine W) (service : GuardService W)
    (request : Request W) : Prop where
  asked : CollaboratorsMeet E service (· = request.client) fun _ c => Steady g c
  stages : StagesAgree (SameView f g) service.stage service.stage
  agents : ∀ stage, service.layer.userAgent = some stage → ∀ ip gate path userAgent finding,
    Call.Agree (SameView f g) Eq (stage.decide ip gate path userAgent finding)
      (stage.decide ip gate path userAgent finding)
  answers : AnswersAlike (SameView f g) E service

/-! ### Futures that run alike -/

section Alike

variable {R : Store W → Store W → Prop} {service : GuardService W}

theorem bufferFrames_alike (cap : Nat) (buffered : Bytes) (body : Body) :
    (Future.bufferFrames cap buffered body : Future W ε _).Alike R Eq
      (Future.bufferFrames cap buffered body) := by
  induction body generalizing buffered with
  | nil => exact .pass rfl
  | cons poll rest ih =>
    cases poll with
    | pending => exact .wait _ (ih buffered)
    | trailers => exact ih buffered
    | failed => exact .pass rfl
    | data bytes =>
      simp only [Future.bufferFrames]
      split
      · exact .pass rfl
      · exact ih _

theorem bodyBuffering_alike (layer : GuardLayer W) (parts : Parts W) (body : Body)
    (route : Option (RouteConfig W)) :
    (Future.bodyBuffering E layer parts body route).Alike R Eq
      (Future.bodyBuffering E layer parts body route) := by
  refine .bind (bufferFrames_alike _ _ _) ?_
  rintro ⟨failure | bytes, unread⟩ _ rfl
  · have refused : ∀ (c : Consult W) (early : Early W),
        Prog.Agree R Eq (refuse c early : Guarded W (Option Bytes)) (refuse c early) :=
      fun c early s s' same => ⟨.exit early, same⟩
    cases failure <;> exact alike_atomically (refused _ _)
  · exact alike_atomically fun s s' same => ⟨.pass rfl, same⟩

section Answers

variable (answers : AnswersAlike R E service)

include answers

theorem runModifier_alike (input : RequestBits) (bits : ResponseBits) :
    (Future.runModifier service.layer input bits : Future W ε _).Alike R Eq
      (Future.runModifier service.layer input bits) := by
  unfold Future.runModifier
  cases modifies : service.layer.responseModifier with
  | none => exact .pass rfl
  | some modifier =>
    refine .bind (alike_atomically (.caught (notify_agree (answers.modifier modifier modifies
      bits)))) ?_
    intro _ _ related
    cases related with
    | some same => cases same; exact .pass rfl
    | none =>
      cases reports : service.layer.onError with
      | none => exact .pass rfl
      | some hook =>
        exact .bind (alike_atomically (notify_agree (answers.onError hook reports _ _ _)))
          fun _ _ _ => .pass rfl

theorem applyResponseProcessor_alike (input : RequestBits) (status : Nat) (headers : HeaderMap)
    (lane : ResponseLane) :
    (Future.applyResponseProcessor E service.layer input status headers lane :
      Future W ε _).Alike R Eq
        (Future.applyResponseProcessor E service.layer input status headers lane) := by
  unfold Future.applyResponseProcessor
  cases installed : service.layer.responseProcessor with
  | none => exact .pass rfl
  | some processor =>
    -- The action is not read, so that it may differ.
    refine .bind (V := fun a b => a.1 = b.1) (alike_atomically (.bind (.reads answers.clock) ?_)) ?_
    · rintro now _ rfl
      exact .ask (answers.process processor installed _ _ _)
    · rintro ⟨bits, action⟩ ⟨_, action'⟩ rfl
      refine .bind (alike_atomically (emitHeadersAppliedEvent_agree answers)) fun _ _ _ => ?_
      refine .bind (runModifier_alike answers _ _) ?_
      rintro modified _ rfl
      exact .pass rfl

theorem passGenerated_alike (parts : Parts W) (generated : Generated) :
    (Future.passGenerated E service.layer parts generated : Future W ε _).Alike R Eq
      (Future.passGenerated E service.layer parts generated) := by
  refine .bind (applyResponseProcessor_alike answers _ _ _ _) ?_
  rintro ⟨modified, headers⟩ _ rfl
  exact .pass rfl

theorem finishGenerated_alike (parts : Parts W) (generated : Generated) :
    (Future.finishGenerated E service.layer parts generated : Future W ε _).Alike R Eq
      (Future.finishGenerated E service.layer parts generated) := by
  refine .bind (passGenerated_alike answers _ _) ?_
  rintro finished _ rfl
  exact .pass rfl

omit answers in
theorem shaped_alike {α : Type} {finish : Generated → Future W ε α} (generated : Option Generated)
    (finishes : ∀ generated, (finish generated).Alike R Eq (finish generated)) :
    (Future.shaped generated finish).Alike R Eq (Future.shaped generated finish) := by
  cases generated with
  | none => exact .unwound
  | some generated => exact finishes generated

theorem render_alike (parts : Parts W) (answer : Answer) :
    (Future.render E service.layer parts answer : Future W ε _).Alike R Eq
      (Future.render E service.layer parts answer) := by
  cases answer with
  | preflight answer => exact shaped_alike _ fun _ => .pass rfl
  | block status body => exact shaped_alike _ fun _ => finishGenerated_alike answers _ _
  | gate body =>
    unfold Future.render
    refine shaped_alike _ fun _ => .bind (passGenerated_alike answers _ _) ?_
    rintro denial _ rfl
    exact finishGenerated_alike answers _ _
  | stage response => exact finishGenerated_alike answers _ _
  | redirect answer => exact shaped_alike _ fun _ => finishGenerated_alike answers _ _
  | oversize => exact finishGenerated_alike answers _ _
  | failure => exact finishGenerated_alike answers _ _

theorem forward_alike (facts : RequestFacts) (parts : Parts W) (buffered : Option Bytes) :
    (Future.forward E service.layer facts parts buffered service.inner : Future W ε _).Alike R Eq
      (Future.forward E service.layer facts parts buffered service.inner) := by
  refine .bind (alike_atomically (.ask (answers.inner _))) ?_
  rintro answer _ rfl
  refine .wait _ ?_
  cases answer with
  | error error => exact .pass rfl
  | ok response =>
    refine .bind (applyResponseProcessor_alike answers _ _ _ _) ?_
    rintro ⟨modified, headers⟩ _ rfl
    exact .pass rfl

theorem conclude_alike (facts : RequestFacts) (early : Early W) :
    (Future.conclude E service facts early : Future W ε _).Alike R Eq
      (Future.conclude E service facts early) := by
  cases early with
  | excluded parts => exact forward_alike answers _ _ _
  | answered parts answer =>
    refine .bind (render_alike answers _ _) ?_
    rintro response _ rfl
    exact .pass rfl

end Answers

end Alike

namespace LooksAt

variable {service : GuardService W} {request : Request W}
  (looks : LooksAt f g E service request)

include looks

/-- A check sees no difference between stores the same to `f` and `g`. -/
theorem check_alike (k : Check) {χ : Locals W} (of : χ.Of request) :
    (k.future E service χ).Alike (SameView f g) (fun χ₁ χ₂ => χ₁ = χ₂ ∧ χ₁.Of request)
      (k.future E service χ) := by
  by_cases reads : k = .bodyBuffering
  · subst reads
    refine .bind (bodyBuffering_alike _ _ _ _) ?_
    rintro buffered _ rfl
    exact .pass ⟨rfl, of.facts, of.body, of.carried⟩
  · have atomic : k.future E service χ = Thread.atomically (k.run E service χ) := by
      cases k with
      | bodyBuffering => exact absurd rfl reads
      | _ => rfl
    rw [atomic]
    refine alike_atomically fun s s' same => ?_
    have rules : k.RulesAlike (SameView f g) E service service.stage χ s s' := by
      refine rulesAlike_of_steady looks.asked looks.stages looks.agents (fun _ _ => ?_) same
      rw [of.client.1]
      rfl
    have alike := rules.run_alike looks.answers same
    rw [service.withStage_stage] at alike
    refine ⟨?_, alike.state⟩
    rw [← alike.flow.eq]
    rcases ran : k.run E service χ s with ⟨χ' | early | _, s₁, t⟩
    · have frame := run_frame ran
      exact .pass ⟨rfl, frame.facts.trans of.facts, frame.body.trans of.body,
        frame.carried.trans of.carried⟩
    · exact .exit early
    · exact .unwound

theorem future_alike : (service.future E request).Alike (SameView f g) Eq
    (service.future E request) := by
  unfold GuardService.future
  refine .wait _ (.settle (V := fun χ₁ χ₂ => χ₁ = χ₂ ∧ χ₁.Of request)
    (.checklist (I := fun χ : Locals W => χ.Of request) (fun k χ of => looks.check_alike k of)
      ⟨rfl, rfl, rfl⟩) ?_ (conclude_alike looks.answers _))
  rintro χ _ ⟨rfl, -⟩
  exact forward_alike looks.answers _ _ _

end LooksAt

/-! ### Futures that leave what others look at -/

namespace Untouched

variable {κ : Type} {v : Store W → κ} {service : GuardService W} {request : Request W}
  (untouched : Untouched v (· = request.client) E service request)

include untouched

/-- A check leaves it, -/
theorem run {k : Check} {χ : Locals W} (of : χ.Of request) :
    Prog.Keeps v (k.run E service χ) := by
  cases applies : k.trial E service χ with
  | none => rw [run_of_absent applies]; exact .pure
  | some trial =>
    simp only [Check.run, applies]
    refine .bind (.ask (untouched.trial_untouched of applies fun _ => rfl)) fun ruling => ?_
    cases ruling with
    | pass next => exact .pure
    | flag next => exact .pure
    | recover early => exact fun _ => rfl
    | deny early payload =>
      refine .bind ?_ fun _ _ => rfl
      cases payload with
      | none => exact .pure
      | some payload => exact .ask fun s => untouched.hook payload s

/-- and so does every step of the call. -/
theorem acts {past : List (Event W)} {s : Store W} {after : Store W × List (Event W)}
    (acts : service.Acts E request past s after) : v after.1 = v s := by
  cases acts with
  | check split passed => exact untouched.run passed.of s
  | inner admitted =>
    refine untouched.inner _ ?_ s
    exact congrArg (fun parts => parts.extensions.clientIp) admitted.parts
  | response sound step tells => exact step _ _ untouched.responseSide

end Untouched

/-! ### Calls apart -/

/-- In every interleaving a call ends as it does alone from the store the run starts with, and
leaves what it looks at the same, if the other requests and the world around leave that part of
the store. -/
theorem interleaved_call_apart {s : Store W} {moves : List (Move (Job W) (Store W))}
    {pool : Calls W} {shown : List (Nat × Event W)}
    (ran : Machine.run (calls E) (.empty s) moves = some (pool, shown))
    (undisturbed : Machine.Along (calls E) (Pool.Undisturbed (SameView f g)) (.empty s) moves)
    {i : Nat} {task} (found : pool.tasks[i]? = some task)
    (looks : LooksAt f g E task.job.service task.job.request)
    (others : ∀ j other, j ≠ i → pool.tasks[j]? = some other →
      Untouched (fun s => (f s.limits, g s.other)) (· = other.job.request.client) E
        other.job.service other.job.request)
    {flow : Flow Empty (Except W.InnerError (Response W))}
    (ended : Pool.outcome task = some flow) :
    (task.job.service.call E task.job.request s).flow = flow ∧
      SameView f g pool.state (task.job.service.call E task.job.request s).state := by
  have same : Equivalence (SameView f g (W := W)) := ⟨.refl, .symm, .trans⟩
  have apart : ∀ j job, pool.tasks[j]?.map Task.job = some job →
      Pool.Apart (SameView f g) (Job.future E) i j job := by
    intro j job placed
    obtain ⟨other, found', rfl⟩ := Option.map_eq_some_iff.mp placed
    constructor
    · rintro rfl
      rw [found] at found'
      cases found'
      exact looks.future_alike
    · intro away
      refine ((job_ensures E other.job).weaken (fun past s after acts => ?_)
        fun _ _ _ => trivial).mono fun _ _ _ => trivial
      obtain ⟨limits, rest⟩ := Prod.mk.inj ((others j other away found').acts acts)
      exact ⟨limits.symm, rest.symm⟩
  have alone : (task.job.future E).alone = task.job.service.call E task.job.request :=
    future_alone E task.job.service task.job.request
  rw [← alone]
  exact Pool.run_apart same ran undisturbed apart found ended

/-! ### Two clients of one rule -/

/-- What the metering engine keeps for this client. -/
def usesOf (client : String) (journal : Metered.world.Other) : Metered.world.Other :=
  { journal with uses := journal.uses.filter fun use => use.2 = client }

theorem countP_usesOf (endpoint client : String) (journal : Metered.Journal) :
    (usesOf client journal).uses.countP (fun use => use.1 = endpoint && use.2 = client) =
      journal.uses.countP fun use => use.1 = endpoint && use.2 = client := by
  simp only [usesOf, List.countP_filter]
  refine List.countP_congr fun use _ => ?_
  by_cases same : use.2 = client <;> simp [same]

theorem usesOf_cons_self (endpoint client : String) (journal : Metered.Journal) :
    usesOf client { journal with uses := (endpoint, client) :: journal.uses } =
      { usesOf client journal with
        uses := (endpoint, client) :: (usesOf client journal).uses } := by
  simp [usesOf]

theorem usesOf_cons_other {endpoint client other : String} (away : other ≠ client)
    (journal : Metered.Journal) :
    usesOf client { journal with uses := (endpoint, other) :: journal.uses } =
      usesOf client journal := by
  simp [usesOf, away]

/-- The metering engine counts each client by itself. -/
theorem tracking_looks (request : Request Metered.world) :
    LooksAt id (usesOf request.client) Metered.engine trackingService request where
  asked := by
    constructor
    case usageRules =>
      rintro _ ⟨⟩ endpoint client rules rfl o o' same
      have used : o.uses.countP (fun use => use.1 = endpoint && use.2 = request.client) =
          o'.uses.countP fun use => use.1 = endpoint && use.2 = request.client := by
        rw [← countP_usesOf endpoint _ o, ← countP_usesOf endpoint _ o', same]
      constructor
      · simp only [trackingProcessor, Metered.responseProcessor, used]
      · change usesOf request.client { o with uses := (endpoint, request.client) :: o.uses } =
          usesOf request.client { o' with uses := (endpoint, request.client) :: o'.uses }
        rw [usesOf_cons_self, usesOf_cons_self, same]
    case clock =>
      intro o o' same
      exact ⟨congrArg (fun journal => some journal.now) same, same⟩
    all_goals first | (intros; exact .returning _) | (intro _ installed; cases installed)
  stages := by
    refine ⟨rfl, fun ip observation => ?_, fun ip path routeTiers gate finding observation => ?_⟩
    · rw [tracking_bans]
      exact .returning rfl
    · rw [tracking_tiers]
      exact .returning rfl
  agents := by
    intro stage installed
    cases installed
  answers :=
    { hook := fun _ => .returning rfl
      clock := by
        intro s s' same
        have moment := congrArg Metered.Journal.now same.other
        exact moment
      process := by
        rintro _ ⟨⟩ request bits now
        exact .returning rfl
      event := by rintro _ ⟨⟩
      modifier := by rintro _ ⟨⟩
      onError := by rintro _ ⟨⟩
      inner := fun _ => .returning rfl }

/-- Another client's request leaves what the engine keeps for this one. -/
theorem tracking_untouched {client : String} {request : Request Metered.world}
    (away : request.client ≠ client) :
    Untouched (fun s => (id s.limits, usesOf client s.other)) (· = request.client)
      Metered.engine trackingService request where
  asked := by
    constructor
    case usageRules =>
      rintro _ ⟨⟩ endpoint _ rules rfl s
      exact congrArg (Prod.mk _) (usesOf_cons_other away s.other)
    case clock => exact fun _ => rfl
    all_goals first | (intros; rfl) | (intro _ installed; cases installed)
  bans := by
    intro observation s
    rw [tracking_bans]
    rfl
  tiers := by
    intro path routeTiers gate finding observation s
    rw [tracking_tiers]
    rfl
  agents := by
    intro stage installed
    cases installed
  hook := fun _ _ => rfl
  responseSide :=
    { process := by
        rintro _ ⟨⟩ request bits now s -
        rfl
      event := by rintro _ ⟨⟩
      modifier := by rintro _ ⟨⟩
      onError := by rintro _ ⟨⟩ }
  inner := fun _ _ _ => rfl

/-- Two clients use one route, their calls taking steps in turn. -/
def clientsInTurn : List (Move (Job Metered.world) (Store Metered.world)) :=
  [.start ⟨trackingService, ruledRequest (some Bench.client)⟩,
    .start ⟨trackingService, ruledRequest (some (.v4 192 0 2 42))⟩] ++
    (List.replicate 34 [.step 0, .step 1]).flatten

theorem clients_call_apart : ∃ pool shown task flow,
    Machine.run (calls Metered.engine) (.empty Metered.start) clientsInTurn =
      some (pool, shown) ∧ pool.tasks[0]? = some task ∧ Pool.outcome task = some flow ∧
        (task.job.service.call Metered.engine task.job.request Metered.start).flow = flow ∧
        SameView id (usesOf Bench.client.display) pool.state
          (task.job.service.call Metered.engine task.job.request Metered.start).state := by
  have both : (Machine.run (calls Metered.engine) (.empty Metered.start) clientsInTurn).map
      (fun run => ((run.1.tasks[0]?.bind Pool.outcome).isSome, run.1.tasks.length)) =
        some (true, 2) := by
    decide +kernel
  obtain ⟨⟨pool, shown⟩, ran, ends⟩ := Option.map_eq_some_iff.mp both
  obtain ⟨answered, two⟩ := Prod.mk.inj ends
  obtain ⟨flow, answered⟩ := Option.isSome_iff_exists.mp answered
  obtain ⟨task, found, ended⟩ := Option.bind_eq_some_iff.mp answered
  -- The two jobs keep the places they are started at.
  obtain ⟨pool₁, _, _, ⟨⟩, rest, -⟩ := Machine.run_cons_iff.mp ran
  obtain ⟨pool₂, _, _, ⟨⟩, rest, -⟩ := Machine.run_cons_iff.mp rest
  have first := Pool.run_job (j := 0) rest rfl
  have second := Pool.run_job (j := 1) rest rfl
  rw [found] at first
  obtain job : task.job = _ := Option.some.inj first
  refine ⟨pool, shown, task, flow, ran, found, ended, ?_⟩
  refine interleaved_call_apart ran ?_ found ?_ ?_ ended
  · refine Machine.along_of_mem fun mv member s s' elsewhere => ?_
    subst elsewhere
    simp [clientsInTurn] at member
  · rw [job]
    exact tracking_looks (ruledRequest (some Bench.client))
  · intro j other away placed
    have here : j < 2 := by
      rw [← two]
      exact (List.getElem?_eq_some_iff.mp placed).1
    obtain rfl : j = 1 := by omega
    rw [placed] at second
    obtain job' : other.job = _ := Option.some.inj second
    rw [job']
    exact tracking_untouched (by decide)

end TowerGuard
