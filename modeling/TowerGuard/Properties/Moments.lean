import TowerGuard.Properties.Interleaving
import TowerGuard.Walks

/-!
# Decisions at their moments

A call asks its checks at different moments, with other calls in between. Each check rules on the
store as it is when it is asked; what a call has recorded by then is its own. So a ban that holds
throughout a call is not missed, however the call's steps fall.
-/

namespace TowerGuard

open Text Traced

variable {W : World} {E : Engine W} {service : GuardService W} {request : Request W}
  {cs : List Check} {k : Check} {past : List (Event W)} {χ : Locals W}

/-! ### What the passed checks have asked -/

/-- A screen that lets the request pass denies nothing. -/
theorem Trial.screen_let_pass {α : Type} {question : Consult W}
    {decision : Call (Store W) (Option α)} {early : α → Early W} {s : Store W}
    (passes : Verdict.ofRuling ((Trial.screen χ question decision early).ruling s).1 = .passed ∨
      Verdict.ofRuling ((Trial.screen χ question decision early).ruling s).1 = .flagged) :
    (decision s).1 = some none := by
  simp only [Trial.screen_ruling] at passes
  cases said : (decision s).1 with
  | none => simp [said, Verdict.ofRuling] at passes
  | some denial =>
    cases denial with
    | none => rfl
    | some denial => simp [said, Ruling.ofDenial, Verdict.ofRuling] at passes

/-- The locals are as they were behind `k`, in what the checks up to it write. -/
structure Settled (k : Check) (χ χ' : Locals W) : Prop where
  parts : Check.ipGate.position ≤ k.position → χ'.parts = χ.parts
  route : Check.routeCarrier.position ≤ k.position → χ'.route = χ.route
  buffered : Check.bodyBuffering.position ≤ k.position → χ'.buffered = χ.buffered
  verdict : Check.scan.position ≤ k.position → χ'.verdict = χ.verdict

/-- A check further down settles what stands ahead of it. -/
theorem Settled.frame {j : Check} {χ' χ'' : Locals W} (settled : Settled k χ χ')
    (frame : Frame j χ' χ'') (behind : k.position < j.position) : Settled k χ χ'' := by
  have other {writer : Check} (ahead : writer.position ≤ k.position) : j ≠ writer := by
    rintro rfl
    omega
  exact ⟨fun ahead => (frame.parts (other ahead)).trans (settled.parts ahead),
    fun ahead => (frame.route (other ahead)).trans (settled.route ahead),
    fun ahead => (frame.buffered (other ahead)).trans (settled.buffered ahead),
    fun ahead => (frame.verdict (other ahead)).trans (settled.verdict ahead)⟩

/-- A call may arrive at check `k` with these locals, whatever it found the store to be at the
checks ahead. -/
def Check.MayArrive (E : Engine W) (service : GuardService W) (request : Request W) (k : Check)
    (χ : Locals W) : Prop :=
  ∃ front back past, Check.pipeline = front ++ k :: back ∧
    Check.Passed E service request front past χ

theorem Check.MayArrive.of (arrives : k.MayArrive E service request χ) : χ.Of request := by
  obtain ⟨_, _, _, -, passed⟩ := arrives
  exact passed.of

/-- Every check that has been passed was arrived at, and left the locals as they still are. -/
theorem Check.Passed.through (passed : Check.Passed E service request cs past χ)
    (ahead : cs <+: Check.pipeline) (member : k ∈ cs) :
    ∃ χ₁ s χ₂ s' t, k.MayArrive E service request χ₁ ∧
      k.run E service χ₁ s = ⟨.pass χ₂, s', t⟩ ∧ t ⊆ past ∧ Settled k χ₂ χ := by
  induction passed with
  | nil => cases member
  | @snoc cs j past t χ χ' s s' before here ih =>
    rcases List.mem_append.mp member with front | last
    · obtain ⟨χ₁, s₁, χ₂, s₂, t₁, arrives, here₁, seen, settled⟩ :=
        ih ((List.prefix_append _ _).trans ahead) front
      -- The check stands further ahead than the last one.
      have behind : k.position < j.position := by
        obtain ⟨rest, split⟩ := ahead
        rw [List.append_assoc] at split
        exact (Check.position_lt_iff split.symm).mpr front
      exact ⟨χ₁, s₁, χ₂, s₂, t₁, arrives, here₁, List.subset_append_of_subset_left _ seen,
        settled.frame (run_frame here) behind⟩
    · obtain rfl := List.mem_singleton.mp last
      obtain ⟨rest, split⟩ := ahead
      rw [List.append_assoc] at split
      exact ⟨χ, s, χ', s', t, ⟨cs, rest, past, split.symm, before⟩, here,
        List.subset_append_right _ _, fun _ => rfl, fun _ => rfl, fun _ => rfl, fun _ => rfl⟩

/-- A check that has passed either did not apply, or was asked and let the request pass, on the
route the call still goes by. -/
theorem Check.Passed.asked (passed : Check.Passed E service request cs past χ)
    (ahead : cs <+: Check.pipeline) (member : k ∈ cs)
    (behind : Check.routeCarrier.position < k.position) :
    ∃ χ₁ : Locals W, χ₁.Of request ∧ χ₁.route = χ.route ∧
      (k.trial E service χ₁ = none ∨ ∃ trial event, k.trial E service χ₁ = some trial ∧
        event ∈ past ∧ event.consult = trial.question ∧
        (event.verdict = .passed ∨ event.verdict = .flagged)) := by
  obtain ⟨χ₁, s, χ₂, s', t, arrives, here, seen, settled⟩ := passed.through ahead member
  have kept : χ₂.route = χ₁.route := by
    refine (run_frame here).route ?_
    rintro rfl
    exact absurd behind (Nat.lt_irrefl _)
  refine ⟨χ₁, arrives.of, kept.symm.trans (settled.route (Nat.le_of_lt behind)).symm, ?_⟩
  rcases run_pass_iff.mp here with ⟨absent, -⟩ | ⟨trial, ruling, applies, -, passes, rfl⟩
  · exact .inl absent
  · exact .inr ⟨trial, _, applies, seen List.mem_cons_self, rfl, Ruling.shows_passing passes⟩

/-! ### No decision on an earlier store -/

/-- A step that shows a check's question shows its ruling on the store the step found, behind the
checks ahead of it. -/
theorem GuardService.Acts.event {s : Store W} {after : Store W × List (Event W)} {event : Event W}
    (acts : service.Acts E request past s after) (seen : event ∈ after.2)
    (own : event.consult.check = some k) : ∃ (front back : List Check) (χ : Locals W)
      (trial : Trial W), Check.pipeline = front ++ k :: back ∧
      Check.Passed E service request front past χ ∧ k.trial E service χ = some trial ∧
      event = ⟨trial.question, .ofRuling (trial.ruling s).1⟩ := by
  cases acts with
  | @check front back j χ past s split passed =>
    rcases run_event seen with ⟨trial, applies, rfl⟩ | aside
    · obtain rfl : j = k := Option.some.inj ((trial_question applies).symm.trans own)
      exact ⟨front, back, χ, trial, split, passed, applies, rfl⟩
    · rw [aside.1] at own
      cases own
  | inner admitted =>
    obtain rfl := List.mem_singleton.mp seen
    cases own
  | response sound step tells =>
    rw [(tells event seen).aside.1] at own
    cases own

variable {s : Store W} {moves : List (Move (Job W) (Store W))} {pool : Calls W}
  {shown : List (Nat × Event W)}

/-- What a call was asked, one of its steps has shown, with the ruling on the store that step
found, behind the checks the call had passed by then. -/
theorem shown_when (ran : Machine.run (calls E) (.empty s) moves = some (pool, shown)) {i : Nat}
    {task} (found : pool.tasks[i]? = some task) {event : Event W} (seen : event ∈ task.past)
    {k : Check} (own : event.consult.check = some k) :
    ∃ (here : Calls W) (before : List (Nat × Event W)) (front back : List Check) (χ : Locals W)
      (trial : Trial W), Pool.ShownAt (Job.future E) s moves i here before event ∧
      Check.pipeline = front ++ k :: back ∧
      Check.Passed E task.job.service task.job.request front (Pool.own i before) χ ∧
      k.trial E task.job.service χ = some trial ∧
      event = ⟨trial.question, .ofRuling (trial.ruling here.state).1⟩ := by
  obtain ⟨here, before, after, shows, acts, observed⟩ :=
    Pool.run_when (job_ensures E) ran found seen
  obtain ⟨front, back, χ, trial, split, passed, applies, rfl⟩ :=
    GuardService.Acts.event acts observed own
  exact ⟨here, before, front, back, χ, trial, shows, split, passed, applies, rfl⟩

/-- So it was asked at a moment of the run. -/
theorem asked_when (ran : Machine.run (calls E) (.empty s) moves = some (pool, shown)) {i : Nat}
    {task} (found : pool.tasks[i]? = some task) {event : Event W} (seen : event ∈ task.past)
    {k : Check} (own : event.consult.check = some k) :
    ∃ (here : Calls W) (χ : Locals W) (trial : Trial W),
      Pool.Moment (Job.future E) s moves i here ∧
      k.MayArrive E task.job.service task.job.request χ ∧
      k.trial E task.job.service χ = some trial ∧
      event = ⟨trial.question, .ofRuling (trial.ruling here.state).1⟩ := by
  obtain ⟨here, before, front, back, χ, trial, shows, split, passed, applies, rule⟩ :=
    shown_when ran found seen own
  exact ⟨here, χ, trial, shows.moment, ⟨front, back, _, split, passed⟩, applies, rule⟩

/-- In every interleaving each verdict on a request is what its check rules on the store as the
step that shows it has found it, behind the checks that the call has passed by then. -/
theorem interleaved_checks_current
    (ran : Machine.run (calls E) (.empty s) moves = some (pool, shown)) {i : Nat} {task}
    (found : pool.tasks[i]? = some task) {event : Event W} (seen : event ∈ Pool.own i shown)
    {k : Check} (own : event.consult.check = some k) :
    ∃ (here : Calls W) (before : List (Nat × Event W)) (front back : List Check) (χ : Locals W)
      (trial : Trial W), Pool.ShownAt (Job.future E) s moves i here before event ∧
      Check.pipeline = front ++ k :: back ∧
      Check.Passed E task.job.service task.job.request front (Pool.own i before) χ ∧
      k.trial E task.job.service χ = some trial ∧
      event = ⟨trial.question, .ofRuling (trial.ruling here.state).1⟩ := by
  rw [← Pool.past_eq_own ran found] at seen
  exact shown_when ran found seen own

theorem upload_checks_current : ∃ pool shown event here before χ trial,
    Machine.run (calls Bench.engine) (.empty Bench.start) uploadsAnswered = some (pool, shown) ∧
      event ∈ Pool.own 0 shown ∧
      Pool.ShownAt (Job.future Bench.engine) Bench.start uploadsAnswered 0 here before event ∧
      Check.bans.trial Bench.engine (Bench.layer.wrap Bench.engine Bench.ok) χ = some trial ∧
      event = ⟨trial.question, .ofRuling (trial.ruling here.state).1⟩ := by
  have asked : (Machine.run (calls Bench.engine) (.empty Bench.start) uploadsAnswered).map
      (fun run => ((Pool.own 0 run.2).any fun event => event.consult.check = some .bans)) =
        some true := by
    decide +kernel
  obtain ⟨⟨pool, shown⟩, ran, asks⟩ := Option.map_eq_some_iff.mp asked
  obtain ⟨event, seen, own⟩ := List.any_eq_true.mp asks
  obtain ⟨_, _, _, ⟨⟩, rest, -⟩ := Machine.run_cons_iff.mp ran
  have placed := Pool.run_job (j := 0) rest rfl
  obtain ⟨task, found, job⟩ := Option.map_eq_some_iff.mp placed
  obtain ⟨here, before, front, back, χ, trial, shows, -, -, applies, rule⟩ :=
    interleaved_checks_current ran found seen (of_decide_eq_true own)
  rw [job] at applies
  exact ⟨pool, shown, event, here, before, χ, trial, ran, seen, shows, applies, rule⟩

/-- In every interleaving a request is handed over only if its client was not banned when the call
asked: at a moment of the call the ban half let the client pass, unless the path is excluded or
the route bypasses the bans. -/
theorem interleaved_ban_enforced
    (ran : Machine.run (calls E) (.empty s) moves = some (pool, shown)) {i : Nat} {task}
    (found : pool.tasks[i]? = some task) {r : Request W}
    (handed : r ∈ handedOver (Pool.own i shown)) :
    task.job.service.layer.excludePaths.contains task.job.request.uri.path = true ∨
      (∃ earlier χ, earlier <+: Pool.own i shown ∧ Check.Passed E task.job.service
        task.job.request Check.pipeline earlier χ ∧ bypassed χ.route "ip_ban" = true) ∨
      ∃ here observation, Pool.Moment (Job.future E) s moves i here ∧
        (task.job.service.stage.decideBansObserved task.job.request.extensions.clientIp
          observation here.state).1 = some none := by
  rw [← Pool.past_eq_own ran found] at handed ⊢
  have sound := run_sound ran task (List.mem_of_getElem? found)
  cases sound with
  | kept none => rw [none] at handed; cases handed
  | @handed earlier past r' verdict admitted behind =>
    cases admitted with
    | excluded listed => exact .inl listed
    | @cleared past χ passed =>
      obtain ⟨later, whole, -⟩ := behind
      have front : earlier <+: task.past := ⟨_, by rw [whole, List.append_assoc]⟩
      obtain ⟨χ₁, of₁, route, absent | ⟨trial, event, applies, seen, question, verdict⟩⟩ :=
        passed.asked List.prefix_rfl (Check.mem_pipeline .bans) (by decide)
      · refine .inr (.inl ⟨earlier, χ, front, passed, ?_⟩)
        simp only [Check.trial] at absent
        split at absent
        next bypasses => rw [← route]; exact bypasses
        next => cases absent
      · -- The question was put at a moment of the call, to the store as it was then.
        obtain ⟨here, χ₂, trial₂, moment, arrives₂, applies₂, rfl⟩ :=
          asked_when ran found (front.subset seen) (by rw [question]; exact trial_question applies)
        obtain ⟨-, ⟨⟩⟩ := Option.ite_none_left_eq_some.mp applies₂
        refine .inr (.inr ⟨here, some (requestObservation χ₂.parts), moment, ?_⟩)
        rw [← arrives₂.of.client.1]
        exact Trial.screen_let_pass verdict

theorem upload_ban_enforced : ∃ pool shown task,
    Machine.run (calls Bench.engine) (.empty Bench.start) uploadsAnswered = some (pool, shown) ∧
      pool.tasks[0]? = some task ∧
      (task.job.service.layer.excludePaths.contains task.job.request.uri.path = true ∨
        (∃ earlier χ, earlier <+: Pool.own 0 shown ∧ Check.Passed Bench.engine task.job.service
          task.job.request Check.pipeline earlier χ ∧ bypassed χ.route "ip_ban" = true) ∨
        ∃ here observation,
          Pool.Moment (Job.future Bench.engine) Bench.start uploadsAnswered 0 here ∧
          (task.job.service.stage.decideBansObserved task.job.request.extensions.clientIp
            observation here.state).1 = some none) := by
  obtain ⟨pool, shown, task, r, ran, found, member⟩ := uploads_handed
  exact ⟨pool, shown, task, ran, found, interleaved_ban_enforced ran found member⟩

/-! ### A whole call -/

/-- In every interleaving a call that has ended has gone through its checks in their order, each on
the store at its own moment, with the verdict it gives alone there and leaving what it leaves alone
there, up to the first that did not pass; and at the moments behind those it was forwarded or
answered. That is all it has shown. -/
theorem interleaved_call_walks
    (ran : Machine.run (calls E) (.empty s) moves = some (pool, shown)) {i : Nat} {task}
    (found : pool.tasks[i]? = some task) {flow} (finished : Pool.outcome task = some flow) :
    ∃ heres behind ended checked answered,
      Pool.Moments (Job.future E) s i moves (heres ++ behind) ∧
      Checklist.Walks (Check.run E task.job.service) Check.pipeline (.start task.job.request)
        (heres.map Pool.act) checked ended ∧
      (task.job.service.goOn E (.extract task.job.request.toParts) ended).Walks
        (behind.map Pool.act) answered flow ∧
      Pool.own i shown = checked ++ answered := by
  obtain ⟨moments, inOrder, walks⟩ := Pool.run_walks ran found finished
  obtain ⟨ended, front, back, checked, answered, checks, onward, split, past⟩ :=
    future_walks_iff.mp walks
  obtain ⟨heres, behind, rfl, rfl, rfl⟩ := List.map_eq_append_iff.mp split
  rw [Pool.past_eq_own ran found] at past
  exact ⟨heres, behind, ended, checked, answered, inOrder, checks, onward, past⟩

theorem upload_call_walks : ∃ pool shown flow heres behind ended checked answered,
    Machine.run (calls Bench.engine) (.empty Bench.start) uploadsAnswered = some (pool, shown) ∧
      Bench.statusOf (W := Bench.world) flow = some 200 ∧
      Pool.Moments (Job.future Bench.engine) Bench.start 0 uploadsAnswered (heres ++ behind) ∧
      Checklist.Walks (Check.run Bench.engine (Bench.layer.wrap Bench.engine Bench.ok))
        Check.pipeline (.start (Bench.request "POST" "/upload" none
          [.data (bytesOf "he"), .pending, .data (bytesOf "llo")]))
        (heres.map Pool.act) checked ended ∧
      Pool.own 0 shown = checked ++ answered := by
  have answers : (Machine.run (calls Bench.engine) (.empty Bench.start) uploadsAnswered).map
      (fun run => (run.1.tasks[0]?.bind Pool.outcome).map Bench.statusOf) =
        some (some (some 200)) := by
    decide +kernel
  obtain ⟨⟨pool, shown⟩, ran, ended⟩ := Option.map_eq_some_iff.mp answers
  obtain ⟨flow, there, status⟩ := Option.map_eq_some_iff.mp ended
  obtain ⟨task, found, finished⟩ := Option.bind_eq_some_iff.mp there
  obtain ⟨_, _, _, ⟨⟩, rest, -⟩ := Machine.run_cons_iff.mp ran
  have placed := Pool.run_job (j := 0) rest rfl
  obtain ⟨task', found', job⟩ := Option.map_eq_some_iff.mp placed
  obtain rfl : task = task' := Option.some.inj (found.symm.trans found')
  obtain ⟨heres, behind, ended, checked, answered, moments, checks, -, past⟩ :=
    interleaved_call_walks ran found finished
  rw [job] at checks
  exact ⟨pool, shown, flow, heres, behind, ended, checked, answered, ran, status, moments, checks,
    past⟩

end TowerGuard
