import TowerGuard.Properties.Moments
import TowerGuard.Properties.Stacked

/-!
# At once or stage by stage, in any interleaving

One layer, put in front of a service at once or stage by stage, with other requests in between.
What a call of the fused pipeline finds at its checks, the stacked stages may find, and what they
find the pipeline may. So the two come to the same outcomes: a block in the one is a block in the
other, with the same status, body, `Retry-After` and `Location`.
-/

namespace TowerGuard

open Text Traced

variable {W : World} {κ γ : Type}

/-! ### The checks and the row -/

section Rows

variable (bytes : W.ResBody → Bytes) (alone : StageInner W) (request : Request W) in
/-- The checks have ended as the row of decisions has. -/
inductive Kept : Flow (Early W) (Locals W) → StageEnding → Prop
  | forward {χ : Locals W} : χ.Plain request → Kept (.pass χ) .forward
  | blocked {early : Early W} {verdict : StageVerdict} :
      early.outcome = alone.outcome bytes request (.blocked verdict) →
      Kept (.exit early) (.blocked verdict)
  | panicked : Kept .unwound .panicked

variable {f : W.Limits → κ} {g : W.Other → γ} {bytes : W.ResBody → Bytes} {alone : StageInner W}
  {E : Engine W} {layer : GuardLayer W} {inner : InnerService W} {request : Request W}
  {k : Check} {cs : List Check} {χ : Locals W} {acts found : List (Act (Store W))}
  {trace : List (Event W)} {ended : Flow (Early W) (Locals W)} {row : StageEnding}

/-- On one store a check ends as the decision in its place. -/
theorem run_kept (inStep : k.InStep bytes alone request f g E layer inner)
    (plain : χ.Plain request) (s : Store W) :
    Kept bytes alone request (k.run E (layer.wrap E inner) χ s).flow
      (.ofAnswer ((k.decision E layer request request.extensions.rateLimits).getD
        (Call.returning none) s).1) := by
  have here := inStep χ plain s s (.refl s)
  generalize (k.decision E layer request request.extensions.rateLimits).getD
    (Call.returning none) s = came at here ⊢
  unfold Check.comesTo at here
  cases applies : k.trial E (layer.wrap E inner) χ with
  | none =>
    rw [applies] at here
    rw [run_of_absent applies]
    cases here
    exact .forward plain
  | some trial =>
    rw [applies] at here
    dsimp only at here
    rcases ruled : trial.ruling s with ⟨ruling, s'⟩
    rw [ruled] at here
    cases here with
    | passes plain =>
      rw [run_of_ruled applies ruled]
      exact .forward plain
    | blocks alike =>
      rw [run_of_ruled applies ruled]
      exact .blocked alike
    | panics =>
      rw [run_of_panicked applies ruled]
      exact .panicked

/-- A check whose decision passes, or that has none, leaves the row to those behind it. -/
theorem found_cons_of_pass {decisions : List (Call (Store W) (Option StageVerdict))}
    {decision : Option (Call (Store W) (Option StageVerdict))} {s : Store W}
    (passes : (decision.getD (Call.returning none) s).1 = some none)
    (later : StageEnding.Found decisions found row) : ∃ found',
      (found'.map Act.found).Sublist (s :: found.map Act.found) ∧
      StageEnding.Found (decision.toList ++ decisions) found' row := by
  cases decision with
  | none => exact ⟨found, .cons s (.refl _), later⟩
  | some decision => exact ⟨⟨s, _⟩ :: found, .refl _, .pass (Prod.ext passes rfl) later⟩

/-- A decision that blocks or panics ends the row. -/
theorem found_cons_of_stop {decisions : List (Call (Store W) (Option StageVerdict))}
    {decision : Option (Call (Store W) (Option StageVerdict))} {s : Store W}
    {answer : Option (Option StageVerdict)}
    (said : (decision.getD (Call.returning none) s).1 = answer) (stops : answer ≠ some none) :
    StageEnding.Found (decision.toList ++ decisions)
      [⟨s, (decision.getD (Call.returning none) s).2⟩] (.ofAnswer answer) := by
  cases decision with
  | none => exact absurd said.symm stops
  | some decision => exact .stop (Prod.ext said rfl) stops

/-- What the checks have found, the decisions in their place find. -/
theorem row_of_walks (steps : ∀ k ∈ cs, k.InStep bytes alone request f g E layer inner)
    (plain : χ.Plain request)
    (walks : Checklist.Walks (Check.run E (layer.wrap E inner)) cs χ acts trace ended) :
    ∃ found row, (found.map Act.found).Sublist (acts.map Act.found) ∧ StageEnding.Found
        (decisionsWith E layer request request.extensions.rateLimits cs) found row ∧
      Kept bytes alone request ended row := by
  induction walks with
  | nil χ => exact ⟨[], .forward, .slnil, .nil, .forward plain⟩
  | @pass k cs χ χ' s acts trace ended came _ ih =>
    have here := run_kept (steps k List.mem_cons_self) plain s
    rw [came] at here
    rw [decisionsWith_cons]
    rcases said : ((k.decision E layer request request.extensions.rateLimits).getD
      (Call.returning none) s).1 with _ | _ | verdict <;> rw [said] at here <;> cases here
    next plain =>
      obtain ⟨found, row, ahead, later, kept⟩ :=
        ih (fun k member => steps k (List.mem_cons_of_mem _ member)) plain
      obtain ⟨found', fewer, whole⟩ := found_cons_of_pass said later
      exact ⟨found', row, fewer.trans (ahead.cons_cons s), whole, kept⟩
  | @exit k cs χ s early came =>
    have here := run_kept (steps k List.mem_cons_self) plain s
    rw [came] at here
    rw [decisionsWith_cons]
    rcases said : ((k.decision E layer request request.extensions.rateLimits).getD
      (Call.returning none) s).1 with _ | _ | verdict <;> rw [said] at here
    · cases here
    · cases here
    · exact ⟨[⟨s, _⟩], _, List.Sublist.refl [s], found_cons_of_stop said (by simp), here⟩
  | @unwound k cs χ s came =>
    have here := run_kept (steps k List.mem_cons_self) plain s
    rw [came] at here
    rw [decisionsWith_cons]
    rcases said : ((k.decision E layer request request.extensions.rateLimits).getD
      (Call.returning none) s).1 with _ | _ | verdict <;> rw [said] at here
    · exact ⟨[⟨s, _⟩], _, List.Sublist.refl [s], found_cons_of_stop said (by simp), here⟩
    · cases here
    · cases here

/-- A check that ends like a pass has passed, and the rest may be walked from there. -/
theorem walks_cons_of_pass {service : GuardService W} {s : Store W}
    (here : Kept bytes alone request (k.run E service χ s).flow .forward)
    (later : ∀ χ' : Locals W, χ'.Plain request → ∃ acts trace ended,
      Checklist.Walks (Check.run E service) cs χ' acts trace ended ∧
        Kept bytes alone request ended row) :
    ∃ acts trace ended, Checklist.Walks (Check.run E service) (k :: cs) χ acts trace ended ∧
      Kept bytes alone request ended row := by
  cases came : (k.run E service χ s).flow with
  | pass χ' =>
    rw [came] at here
    cases here with
    | forward plain =>
      obtain ⟨acts, trace, ended, walks, kept⟩ := later χ' plain
      exact ⟨_ :: acts, _, ended, .pass came walks, kept⟩
  | exit early => rw [came] at here; cases here
  | unwound => rw [came] at here; cases here

/-- What the decisions may find, the checks in their place may, on this store where they have no
decision. -/
theorem walks_of_row (s : Store W)
    (steps : ∀ k ∈ cs, k.InStep bytes alone request f g E layer inner) (plain : χ.Plain request)
    (whole : StageEnding.Found
      (decisionsWith E layer request request.extensions.rateLimits cs) found row) :
    ∃ acts trace ended,
      Checklist.Walks (Check.run E (layer.wrap E inner)) cs χ acts trace ended ∧
        Kept bytes alone request ended row := by
  induction cs generalizing χ found with
  | nil =>
    cases whole
    exact ⟨[], [], _, .nil χ, .forward plain⟩
  | cons k cs ih =>
    have here := run_kept (steps k List.mem_cons_self) plain
    have later (found : List (Act (Store W))) (rest : StageEnding.Found
        (decisionsWith E layer request request.extensions.rateLimits cs) found row)
        (χ' : Locals W) (plain : χ'.Plain request) :=
      ih (fun k member => steps k (List.mem_cons_of_mem _ member)) plain rest
    rw [decisionsWith_cons] at whole
    cases there : k.decision E layer request request.extensions.rateLimits with
    | none =>
      rw [there] at here whole
      exact walks_cons_of_pass (here s) (later found whole)
    | some decision =>
      rw [there] at here whole
      cases whole with
      | @pass _ _ s₁ s₂ found _ said rest =>
        have here := here s₁
        rw [Option.getD_some, said] at here
        exact walks_cons_of_pass here (later found rest)
      | @stop _ _ s₁ s₂ answer said stops =>
        have here := here s₁
        rw [Option.getD_some, said] at here
        cases came : (k.run E (layer.wrap E inner) χ s₁).flow with
        | pass χ' =>
          rw [came] at here
          rcases answer with _ | _ | verdict
          · cases here
          · exact absurd rfl stops
          · cases here
        | exit early =>
          rw [came] at here
          exact ⟨[_], _, _, .exit came, here⟩
        | unwound =>
          rw [came] at here
          exact ⟨[_], _, _, .unwound came, here⟩

end Rows

/-! ### What is shown -/

/-- A call of the fused pipeline that handed these requests over and ended so has come to the
outcome. What is forwarded has the request's own parts and the content of its body. -/
def GuardService.Shows (service : GuardService W) (request : Request W)
    (handed : List (Request W)) (flow : Flow Empty (Except W.InnerError (Response W))) :
    Outcome W → Prop
  | .forwards parts content => parts = request.toParts ∧ content = request.body.content ∧
      ∃ buffered : Option Bytes, buffered.getD [] = content ∧
        handed = [service.inner.rebuild parts buffered]
  | .blocks block => handed = [] ∧
      ∃ response, flow = .pass (.ok response) ∧ response.block = some block
  | .panics => handed = [] ∧ flow = .unwound

/-- The same of a stacked call, which forwards the request as it came. -/
def StageInner.Shows (bytes : W.ResBody → Bytes) (request : Request W)
    (handed : List (Request W)) (flow : Flow Empty (Except W.InnerError (InnerResponse W))) :
    Outcome W → Prop
  | .forwards parts content => parts = request.toParts ∧ content = request.body.content ∧
      handed = [request]
  | .blocks block => handed = [] ∧
      ∃ response, flow = .pass (.ok response) ∧ response.block bytes = block
  | .panics => handed = [] ∧ flow = .unwound

section Shown

variable {bytes : W.ResBody → Bytes} {alone : StageInner W} {E : Engine W}
  {service : GuardService W} {request : Request W} {handed : List (Request W)}
  {outcome outcome' : Outcome W}

/-- A call shows one outcome. -/
theorem GuardService.Shows.unique {flow : Flow Empty (Except W.InnerError (Response W))}
    (shows₁ : service.Shows request handed flow outcome)
    (shows₂ : service.Shows request handed flow outcome') : outcome = outcome' := by
  cases outcome with
  | forwards parts content =>
    obtain ⟨rfl, rfl, buffered, -, rfl⟩ := shows₁
    cases outcome' with
    | forwards parts content => obtain ⟨rfl, rfl, -⟩ := shows₂; rfl
    | blocks block => cases shows₂.1
    | panics => cases shows₂.1
  | blocks block =>
    obtain ⟨rfl, response, rfl, own⟩ := shows₁
    cases outcome' with
    | forwards parts content => obtain ⟨-, -, _, -, none⟩ := shows₂; cases none
    | blocks block' =>
      obtain ⟨-, response', same, own'⟩ := shows₂
      cases same
      rw [own] at own'
      cases own'
      rfl
    | panics => cases shows₂.2
  | panics =>
    obtain ⟨rfl, rfl⟩ := shows₁
    cases outcome' with
    | forwards parts content => obtain ⟨-, -, _, -, none⟩ := shows₂; cases none
    | blocks block => obtain ⟨-, _, none, -⟩ := shows₂; cases none
    | panics => rfl

theorem StageInner.Shows.unique {flow : Flow Empty (Except W.InnerError (InnerResponse W))}
    (shows₁ : StageInner.Shows bytes request handed flow outcome)
    (shows₂ : StageInner.Shows bytes request handed flow outcome') : outcome = outcome' := by
  cases outcome with
  | forwards parts content =>
    obtain ⟨rfl, rfl, rfl⟩ := shows₁
    cases outcome' with
    | forwards parts content => obtain ⟨rfl, rfl, -⟩ := shows₂; rfl
    | blocks block => cases shows₂.1
    | panics => cases shows₂.1
  | blocks block =>
    obtain ⟨rfl, response, rfl, rfl⟩ := shows₁
    cases outcome' with
    | forwards parts content => cases shows₂.2.2
    | blocks block' => obtain ⟨-, response', ⟨⟩, rfl⟩ := shows₂; rfl
    | panics => cases shows₂.2
  | panics =>
    obtain ⟨rfl, rfl⟩ := shows₁
    cases outcome' with
    | forwards parts content => cases shows₂.2.2
    | blocks block => obtain ⟨-, _, none, -⟩ := shows₂; cases none
    | panics => rfl

/-- A stacked call shows what its row comes to. -/
theorem StageInner.Answers.shows {row : StageEnding} {rest : List (Act (Store W))}
    {flow : Flow Empty (Except W.InnerError (InnerResponse W))}
    (answers : alone.Answers request row rest handed flow) :
    StageInner.Shows bytes request handed flow (alone.outcome bytes request row) := by
  cases answers with
  | called said => exact ⟨rfl, rfl, rfl⟩
  | lost said => exact ⟨rfl, rfl, rfl⟩
  | denied verdict =>
    simp only [outcome, rendered]
    cases alone.renderVerdict verdict with
    | none => exact ⟨rfl, rfl⟩
    | some response => exact ⟨rfl, response, rfl, rfl⟩
  | panicked => exact ⟨rfl, rfl⟩

/-- Behind every row some answer follows. -/
theorem StageInner.exists_answers (alone : StageInner W) (request : Request W) (row : StageEnding)
    (s : Store W) : ∃ rest handed flow, alone.Answers request row rest handed flow := by
  cases row with
  | forward =>
    rcases said : alone.call request s with ⟨_ | answer, s'⟩
    · exact ⟨[⟨s, s'⟩], [request], _, .lost said⟩
    · exact ⟨[⟨s, s'⟩], [request], _, .called said⟩
  | blocked verdict => exact ⟨[], [], _, .denied verdict⟩
  | panicked => exact ⟨[], [], _, .panicked⟩

variable (plain : service.layer.responseProcessor = none)

include plain

/-- Without a response processor an answer has its shape. -/
theorem future_render_of_plain (parts : Parts W) (answer : Answer) :
    (Future.render E service.layer parts answer : Future W Empty (Response W)) =
      Future.shaped answer.shape fun generated => pure generated.response := by
  have pass : ∀ generated : Generated, (Future.passGenerated E service.layer parts generated :
      Future W Empty Generated) = pure generated := by
    intro generated
    simp only [Future.passGenerated, Future.applyResponseProcessor, plain]
    rfl
  have finish : (Future.finishGenerated E service.layer parts :
      Generated → Future W Empty (Response W)) = fun generated => pure generated.response := by
    funext generated
    simp only [Future.finishGenerated, pass]
    rfl
  cases answer with
  | preflight answer => rfl
  | block status body => simp only [Future.render, Answer.shape, finish]
  | gate body =>
    simp only [Future.render, Answer.shape, pass, finish]
    rfl
  | stage response => exact congrFun finish _
  | redirect answer => simp only [Future.render, Answer.shape, finish]
  | oversize => exact congrFun finish _
  | failure => exact congrFun finish _

/-- What follows the checks shows what their row comes to. -/
theorem Kept.shows {ended : Flow (Early W) (Locals W)} {row : StageEnding}
    {acts : List (Act (Store W))} {trace : List (Event W)}
    {flow : Flow Empty (Except W.InnerError (Response W))}
    (kept : Kept bytes alone request ended row)
    (read : ∀ χ, ended = .pass χ → χ.buffered.getD [] = request.body.content)
    (walks : (service.goOn E (.extract request.toParts) ended).Walks acts trace flow) :
    service.Shows request (handedOver trace) flow (alone.outcome bytes request row) := by
  cases kept with
  | @forward χ untouched =>
    refine ⟨rfl, rfl, χ.buffered, read χ rfl, ?_⟩
    rw [(forward_walks walks).1, untouched.parts]
  | @blocked early verdict comes =>
    rw [← comes]
    cases early with
    | excluded parts =>
      -- A blocked row comes to no forward.
      simp only [Early.outcome, StageInner.outcome] at comes
      cases rendered : alone.renderVerdict verdict <;> rw [rendered] at comes <;> cases comes
    | answered parts answer =>
      simp only [GuardService.goOn, Future.conclude, future_render_of_plain plain] at walks
      simp only [Early.outcome]
      cases shape : answer.shape with
      | none =>
        rw [shape] at walks
        cases walks
        exact ⟨rfl, rfl⟩
      | some generated =>
        rw [shape] at walks
        obtain ⟨rfl, rfl, rfl⟩ := Thread.walks_pass_iff.mp walks
        exact ⟨rfl, generated.response, rfl, rfl⟩
  | panicked =>
    cases walks
    exact ⟨rfl, rfl⟩

end Shown

/-! ### In any interleaving -/

/-- In some interleaving from this store a call of the request ends with the outcome. -/
def GuardService.CanShow (E : Engine W) (service : GuardService W) (request : Request W)
    (s : Store W) (outcome : Outcome W) : Prop :=
  ∃ moves pool shown i task flow,
    Machine.run (calls E) (.empty s) moves = some (pool, shown) ∧ pool.tasks[i]? = some task ∧
      task.job = ⟨service, request⟩ ∧ Pool.outcome task = some flow ∧
      service.Shows request (handedOver (Pool.own i shown)) flow outcome

/-- The same of a call of the stacked layers. -/
def StageInner.CanShow (inner : StageInner W) (bytes : W.ResBody → Bytes)
    (layers : List (GuardStageLayer W)) (request : Request W) (s : Store W)
    (outcome : Outcome W) : Prop :=
  ∃ moves pool shown i task flow,
    Machine.run stackedCalls (.empty s) moves = some (pool, shown) ∧ pool.tasks[i]? = some task ∧
      task.job = ⟨inner, layers, request⟩ ∧ Pool.outcome task = some flow ∧
      StageInner.Shows bytes request (handedOver (Pool.own i shown)) flow outcome

section Interleaved

variable {f : W.Limits → κ} {g : W.Other → γ} {bytes : W.ResBody → Bytes} {alone : StageInner W}
  {E : Engine W} {layer : GuardLayer W} {inner : InnerService W} {request : Request W}
  (only : StagesOnly E layer) (steady : StagesSteady f g E layer) (inert : Inert f g E layer)
  (answers : StagesAnswer layer) (holds : HoldsText bytes alone)
  (bare : request.extensions.routeConfig = none) (untiered : request.extensions.rateLimits = none)
  (buffers : ∃ buffered unread, bufferBody request.body layer.bodyCap = (.ok buffered, unread))

/-- A request as it came, that only the stages judge. -/
theorem start_plain (bare : request.extensions.routeConfig = none) :
    (Locals.start request).Plain request :=
  ⟨rfl, rfl, rfl, bare, rfl, rfl⟩

include only steady inert answers holds bare untiered buffers

/-- A walk of the fused call shows what a row of the stacked decisions comes to, on some of the
stores the call has found. -/
theorem fused_shows {acts : List (Act (Store W))} {trace : List (Event W)}
    {flow : Flow Empty (Except W.InnerError (Response W))}
    (walks : ((layer.wrap E inner).future E request).Walks acts trace flow) :
    ∃ found row, (found.map Act.found).Sublist (acts.map Act.found) ∧
      StageEnding.Found (decisionsOn request (layer.providedLayers E)) found row ∧
      (layer.wrap E inner).Shows request (handedOver trace) flow
        (alone.outcome bytes request row) := by
  obtain ⟨ended, s₁, s₂, t₁, t₂, checks, onward, rfl, rfl⟩ := future_walks_iff.mp walks
  obtain ⟨found, row, fewer, whole, kept⟩ := row_of_walks
    (fun k _ => check_inStep only steady inert answers holds bare buffers k) (start_plain bare)
    checks
  have read : ∀ χ, ended = .pass χ → χ.buffered.getD [] = request.body.content := by
    rintro χ rfl
    exact checks_read checks
  rw [List.map_append]
  refine ⟨found, row, fewer.trans (List.sublist_append_left ..), ?_, ?_⟩
  · rw [decisionsOn_providedLayers, ← untiered]
    exact whole
  · rw [handedOver_append, checks_handedOver checks, List.nil_append]
    exact kept.shows only.responseProcessor read onward

variable (inner) in
/-- Whatever row the stacked decisions may find, some walk of the fused call shows what it comes
to. -/
theorem row_shown (s : Store W) {found : List (Act (Store W))} {row : StageEnding}
    (whole : StageEnding.Found (decisionsOn request (layer.providedLayers E)) found row) :
    ∃ acts trace flow, ((layer.wrap E inner).future E request).Walks acts trace flow ∧
      (layer.wrap E inner).Shows request (handedOver trace) flow
        (alone.outcome bytes request row) := by
  rw [decisionsOn_providedLayers, ← untiered] at whole
  have inStep (k : Check) : k.InStep bytes alone request f g E layer inner :=
    check_inStep only steady inert answers holds bare buffers k
  obtain ⟨s₁, t₁, ended, checks, kept⟩ :=
    walks_of_row s (fun k _ => inStep k) (start_plain bare) whole
  obtain ⟨s₂, t₂, flow, onward⟩ := Thread.exists_walks s
    ((layer.wrap E inner).goOn E (.extract request.toParts) ended)
  have walks := future_walks_iff.mpr ⟨ended, s₁, s₂, t₁, t₂, checks, onward, rfl, rfl⟩
  have read : ∀ χ, ended = .pass χ → χ.buffered.getD [] = request.body.content := by
    rintro χ rfl
    exact checks_read checks
  refine ⟨_, _, flow, walks, ?_⟩
  rw [handedOver_append, checks_handedOver checks, List.nil_append]
  exact kept.shows only.responseProcessor read onward

/-- In every interleaving a call of the fused pipeline comes to what the stacked stages come to on
the stores it finds: with their decisions at its own moments, in order, it forwards the request
behind their row of passes, and answers or panics as their first denial or panic does. -/
theorem interleaved_fused_as_stacked {s : Store W} {moves : List (Move (Job W) (Store W))}
    {pool : Calls W} {shown : List (Nat × Event W)}
    (ran : Machine.run (calls E) (.empty s) moves = some (pool, shown)) {i : Nat} {task}
    (found : pool.tasks[i]? = some task) (own : task.job = ⟨layer.wrap E inner, request⟩) {flow}
    (finished : Pool.outcome task = some flow) :
    ∃ heres acts row, Pool.Moments (Job.future E) s i moves heres ∧
      acts.map Act.found = heres.map (fun stepped => stepped.1.state) ∧
      StageEnding.Found (decisionsOn request (layer.providedLayers E)) acts row ∧
      (layer.wrap E inner).Shows request (handedOver (Pool.own i shown)) flow
        (alone.outcome bytes request row) := by
  obtain ⟨moments, inOrder, walks⟩ := Pool.run_walks ran found finished
  rw [Pool.past_eq_own ran found, own] at walks
  obtain ⟨acts, row, fewer, whole, shows⟩ :=
    fused_shows only steady inert answers holds bare untiered buffers walks
  rw [List.map_map] at fewer
  obtain ⟨heres, ahead, same⟩ := List.sublist_map_iff.mp fewer
  exact ⟨heres, acts, row, inOrder.sublist ahead, same, whole, shows⟩

/-- Put in front of a service at once or stage by stage, with whatever else goes on: a request can
come to an outcome in the one exactly where it can in the other. -/
theorem interleaved_composed_alike_iff (s : Store W) (outcome : Outcome W) :
    (layer.wrap E inner).CanShow E request s outcome ↔
      alone.CanShow bytes (layer.providedLayers E) request s outcome := by
  constructor
  · rintro ⟨moves, pool, shown, i, task, flow, ran, found, own, finished, shows⟩
    obtain ⟨moments, -, walks⟩ := Pool.run_walks ran found finished
    rw [Pool.past_eq_own ran found, own] at walks
    obtain ⟨acts, row, -, whole, comes⟩ :=
      fused_shows only steady inert answers holds bare untiered buffers walks
    obtain rfl := shows.unique comes
    obtain ⟨rest, handed, flow', answers⟩ := alone.exists_answers request row s
    obtain ⟨trace, walks, rfl⟩ := found_stacked whole answers
    have walks : (StackedJob.future ⟨alone, layer.providedLayers E, request⟩).Walks _ trace flow' :=
      walks
    obtain ⟨moves', pool', shown', task', ran', found', own', finished', past⟩ :=
      Pool.exists_run_of_walks walks s
    rw [← past] at answers
    exact ⟨moves', pool', shown', 0, task', flow', ran', found', own', finished', answers.shows⟩
  · rintro ⟨moves, pool, shown, i, task, flow, ran, found, own, finished, shows⟩
    obtain ⟨moments, -, walks⟩ := Pool.run_walks ran found finished
    rw [Pool.past_eq_own ran found, own] at walks
    obtain ⟨acts, rest, row, -, whole, answers'⟩ := stacked_walks walks
    obtain rfl := shows.unique answers'.shows
    obtain ⟨acts, trace, flow', walks, comes⟩ :=
      row_shown inner only steady inert answers holds bare untiered buffers s whole
    have walks : (Job.future E ⟨layer.wrap E inner, request⟩).Walks acts trace flow' := walks
    obtain ⟨moves', pool', shown', task', ran', found', own', finished', past⟩ :=
      Pool.exists_run_of_walks walks s
    rw [← past] at comes
    exact ⟨moves', pool', shown', 0, task', flow', ran', found', own', finished', comes⟩

end Interleaved

/-! ### Throttled on the way -/

def roomyJob : Job Metered.world := ⟨roomyLayer.wrap Metered.engine Metered.ok, tieredRequest none⟩

/-- The client's ten requests of the minute come in while the call is under way. -/
def roomyOvertaken : List (Move (Job Metered.world) (Store Metered.world)) :=
  .start roomyJob :: List.replicate 10 (.step 0) ++
    [.elsewhere { Metered.start with
      limits := List.replicate 10 ⟨0, none, Bench.client.display⟩ }] ++
    List.replicate 18 (.step 0)

theorem roomy_overtaken : ∃ pool shown task flow,
    Machine.run (calls Metered.engine) (.empty Metered.start) roomyOvertaken =
        some (pool, shown) ∧
      pool.tasks[0]? = some task ∧ task.job = roomyJob ∧ Pool.outcome task = some flow ∧
      Bench.statusOf flow = some 429 := by
  have throttled : (Machine.run (calls Metered.engine) (.empty Metered.start) roomyOvertaken).map
      (fun run => (run.1.tasks[0]?.bind Pool.outcome).map Bench.statusOf) =
        some (some (some 429)) := by
    decide +kernel
  obtain ⟨⟨pool, shown⟩, ran, ended⟩ := Option.map_eq_some_iff.mp throttled
  obtain ⟨flow, there, status⟩ := Option.map_eq_some_iff.mp ended
  obtain ⟨task, found, finished⟩ := Option.bind_eq_some_iff.mp there
  obtain ⟨_, _, _, ⟨⟩, rest, -⟩ := Machine.run_cons_iff.mp ran
  obtain ⟨task', found', own⟩ := Option.map_eq_some_iff.mp (Pool.run_job (j := 0) rest rfl)
  obtain rfl : task = task' := Option.some.inj (found.symm.trans found')
  exact ⟨pool, shown, task, flow, ran, found, own, finished, status⟩

theorem roomy_fused_as_stacked : ∃ pool shown flow heres acts row,
    Machine.run (calls Metered.engine) (.empty Metered.start) roomyOvertaken =
        some (pool, shown) ∧
      Bench.statusOf (W := Metered.world) flow = some 429 ∧
      Pool.Moments (Job.future Metered.engine) Metered.start 0 roomyOvertaken heres ∧
      acts.map Act.found = heres.map (fun stepped => stepped.1.state) ∧
      StageEnding.Found (decisionsOn roomyJob.request (roomyLayer.providedLayers Metered.engine))
        acts row ∧
      roomyJob.service.Shows roomyJob.request (handedOver (Pool.own 0 shown)) flow
        (meteredInner.outcome id roomyJob.request row) := by
  obtain ⟨pool, shown, task, flow, ran, found, own, finished, status⟩ := roomy_overtaken
  obtain ⟨heres, acts, row, moments, same, whole, shows⟩ :=
    interleaved_fused_as_stacked roomy_only roomy_steady roomy_inert roomy_answers metered_holds
      rfl rfl ⟨none, [], rfl⟩ ran found own finished
  exact ⟨pool, shown, flow, heres, acts, row, ran, status, moments, same, whole, shows⟩

/-- The stacked layers can be overtaken as well. -/
theorem roomy_composed_alike : ∃ outcome,
    roomyJob.service.CanShow Metered.engine roomyJob.request Metered.start outcome ∧
      meteredInner.CanShow id (roomyLayer.providedLayers Metered.engine) roomyJob.request
        Metered.start outcome := by
  obtain ⟨pool, shown, task, flow, ran, found, own, finished, status⟩ := roomy_overtaken
  obtain ⟨moments, -, walks⟩ := Pool.run_walks ran found finished
  rw [Pool.past_eq_own ran found, own] at walks
  obtain ⟨acts, row, -, -, shows⟩ := fused_shows roomy_only roomy_steady roomy_inert
    roomy_answers metered_holds rfl rfl ⟨none, [], rfl⟩ walks
  have can : roomyJob.service.CanShow Metered.engine roomyJob.request Metered.start _ :=
    ⟨roomyOvertaken, pool, shown, 0, task, flow, ran, found, own, finished, shows⟩
  exact ⟨_, can, (interleaved_composed_alike_iff roomy_only roomy_steady roomy_inert roomy_answers
    metered_holds rfl rfl ⟨none, [], rfl⟩ Metered.start _).mp can⟩

end TowerGuard
