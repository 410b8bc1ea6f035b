import TowerGuard.Collaborators
import TowerGuard.Arrival
import TowerGuard.Traced.Agreement

/-!
# Calls that agree

One request, put to a service in two states, or to two services that differ in their engine
stage. The calls run alike where the checks rule alike on the way, and the response side sees
no difference either.
-/

namespace TowerGuard

open Text Traced

variable {W : World} {ε : Type} {R : Store W → Store W → Prop}

/-! ### Views -/

section View

variable {φ γ : Type}

/-- States in which `f` of the counters and `g` of the rest are the same. -/
structure SameView (f : W.Limits → φ) (g : W.Other → γ) (s s' : Store W) : Prop where
  limits : f s.limits = f s'.limits
  other : g s.other = g s'.other

namespace SameView

variable {f : W.Limits → φ} {g : W.Other → γ} {s s' s'' : Store W}

theorem refl (s : Store W) : SameView f g s s := ⟨rfl, rfl⟩

theorem symm (same : SameView f g s s') : SameView f g s' s :=
  ⟨same.limits.symm, same.other.symm⟩

theorem trans (same : SameView f g s s') (same' : SameView f g s' s'') : SameView f g s s'' :=
  ⟨same.limits.trans same'.limits, same.other.trans same'.other⟩

/-- States the same in every respect are one state. -/
theorem eq (same : SameView id id s s') : s = s' := by
  obtain ⟨limits, other⟩ := same
  cases s
  cases s'
  cases limits
  cases other
  rfl

end SameView

theorem agree_self {α : Type} (c : Call (Store W) α) : Call.Agree (SameView id id) Eq c c := by
  refine Call.agree_of_eq fun s s' same => ?_
  cases same.eq
  exact ⟨rfl, .refl _⟩

/-- A call that sees `g` of the state and nothing besides. -/
def Steady {α : Type} (g : W.Other → γ) (c : Call W.Other α) : Prop :=
  ∀ o o', g o = g o' → (c o).1 = (c o').1 ∧ g (c o).2 = g (c o').2

/-- A call that leaves `g` of the state as it is. -/
def Leaves {α : Type} (g : W.Other → γ) (c : Call W.Other α) : Prop := ∀ o, g (c o).2 = g o

theorem Steady.agree {α : Type} {f : W.Limits → φ} {g : W.Other → γ} {c : Call W.Other α}
    (steady : Steady g c) : Call.Agree (SameView f g) Eq (onOther c) (onOther c) := by
  refine Call.agree_of_eq fun s s' same => ?_
  obtain ⟨answers, left⟩ := steady s.other s'.other same.other
  exact ⟨answers, same.limits, left⟩

theorem Steady.returning {α : Type} {g : W.Other → γ} (a : α) : Steady g (Call.returning a) :=
  fun _ _ same => ⟨rfl, same⟩

end View

/-! ### One check -/

/-- The service with another engine stage. -/
def GuardService.withStage (service : GuardService W) (stage : RateLimitStage W) :
    GuardService W where
  inner := service.inner
  layer := { service.layer with stage := some stage }
  built := rfl

theorem GuardService.withStage_stage (service : GuardService W) :
    service.withStage service.stage = service := by
  have kept : { service.layer with stage := some service.stage } = service.layer := by
    rw [← service.layer_stage]
  cases service
  simp only [withStage, kept]

/-- In these states the check rules alike with either stage, if it has anything to ask. -/
def Check.RulesAlike (R : Store W → Store W → Prop) (E : Engine W) (service : GuardService W)
    (stage : RateLimitStage W) (k : Check) (χ : Locals W) (s s' : Store W) : Prop :=
  Option.Rel (fun trial trial' => (trial.ruling s).1 = (trial'.ruling s').1 ∧
      R (trial.ruling s).2 (trial'.ruling s').2)
    (k.trial E service χ) (k.trial E (service.withStage stage) χ)

/-- What the guard asks beyond the checks sees no difference: the block hook, the response side
and the wrapped service. Of the processor's answer the guard reads the view. -/
structure AnswersAlike (R : Store W → Store W → Prop) (E : Engine W) (service : GuardService W) :
    Prop where
  hook : ∀ payload, Call.Agree R Eq (onOther (E.fireBlockHook service.layer.onBlock payload))
    (onOther (E.fireBlockHook service.layer.onBlock payload))
  clock : ∀ s s', R s s' → E.now s.other = E.now s'.other
  process : ∀ processor, service.layer.responseProcessor = some processor →
    ∀ request bits now, Call.Agree R (fun a b => a.1 = b.1)
      (onOther (processor.process request bits now)) (onOther (processor.process request bits now))
  event : ∀ bus, service.layer.events = some bus → ∀ event,
    Call.Agree R Eq (onOther (bus.sendEvent event)) (onOther (bus.sendEvent event))
  modifier : ∀ modifier, service.layer.responseModifier = some modifier → ∀ bits,
    Call.Agree R Eq (onOther (modifier bits)) (onOther (modifier bits))
  onError : ∀ hook, service.layer.onError = some hook → ∀ stage error context,
    Call.Agree R Eq (onOther (hook stage error context)) (onOther (hook stage error context))
  inner : ∀ request, Call.Agree R Eq (service.inner.call request) (service.inner.call request)

variable {E : Engine W} {service : GuardService W} {stage : RateLimitStage W} {k : Check}
  {χ : Locals W} {s s' : Store W}

/-- Two engine stages that agree. -/
structure StagesAgree (R : Store W → Store W → Prop) (stage stage' : RateLimitStage W) : Prop where
  passive : stage'.config.passiveMode = stage.config.passiveMode
  bans : ∀ ip observation, Call.Agree R Eq (stage.decideBansObserved ip observation)
    (stage'.decideBansObserved ip observation)
  tiers : ∀ ip path routeTiers gate finding observation,
    Call.Agree R Eq
      (stage.decideTiersObserved ip path routeTiers gate finding observation)
      (stage'.decideTiersObserved ip path routeTiers gate finding observation)

/-- Beside the two halves of the engine stage a check asks the same of both services. -/
theorem trial_withStage (passive : stage.config.passiveMode = service.stage.config.passiveMode)
    (bans : k ≠ .bans) (tiers : k ≠ .rateLimit) :
    k.trial E (service.withStage stage) χ = k.trial E service χ := by
  have built : (service.withStage stage).stage = stage := rfl
  cases k with
  | bans => exact absurd rfl bans
  | rateLimit => exact absurd rfl tiers
  | detection =>
    simp only [Check.trial, built, passive]
    rfl
  | _ => rfl

section Steady

variable {φ γ : Type} {f : W.Limits → φ} {g : W.Other → γ} {clients : String → Prop}

theorem screen_alike {α : Type} {question : Consult W}
    {decision decision' : Call (Store W) (Option α)} {early : α → Early W}
    (agree : Call.Agree R Eq decision decision') (same : R s s') :
    ((Trial.screen χ question decision early).ruling s).1 =
        ((Trial.screen χ question decision' early).ruling s').1 ∧
      R ((Trial.screen χ question decision early).ruling s).2
        ((Trial.screen χ question decision' early).ruling s').2 := by
  obtain ⟨answers, left⟩ := agree s s' same
  simp only [Trial.screen_ruling]
  exact ⟨congrArg (Option.map _) (eq_of_rel answers), left⟩

/-- Where every collaborator is steady and the stages agree, every check rules alike. -/
theorem rulesAlike_of_steady
    (meets : CollaboratorsMeet E service clients fun _ c => Steady g c)
    (stages : StagesAgree (SameView f g) service.stage stage)
    (agents : ∀ stage, service.layer.userAgent = some stage → ∀ ip gate path userAgent finding,
      Call.Agree (SameView f g) Eq (stage.decide ip gate path userAgent finding)
        (stage.decide ip gate path userAgent finding))
    (told : k = .usageRules → (k.trial E service χ).isSome = true →
      clients ((χ.facts.ip.map IpAddr.display).getD ""))
    (same : SameView f g s s') : k.RulesAlike (SameView f g) E service stage χ s s' := by
  unfold Check.RulesAlike
  cases counts : k.counting with
  | false =>
    rw [trial_withStage stages.passive (by rintro rfl; cases counts) (by rintro rfl; cases counts)]
    cases applies : k.trial E service χ with
    | none => exact .none
    | some trial =>
      obtain ⟨α, c, read, steady, makes⟩ :=
        trial_call meets applies counts fun asks => told asks (by rw [applies]; rfl)
      obtain ⟨answers, left⟩ := steady s.other s'.other same.other
      refine .some ⟨?_, ?_⟩
      · rw [makes s, makes s', answers]
      · rw [makes s, makes s']
        exact ⟨same.limits, left⟩
  | true =>
    cases k with
    | bans =>
      simp only [Check.trial]
      split
      · exact .none
      · exact .some (screen_alike (stages.bans _ _) same)
    | userAgent =>
      have kept : (service.withStage stage).layer.userAgent = service.layer.userAgent := rfl
      simp only [Check.trial, kept]
      cases installed : service.layer.userAgent with
      | none => exact .none
      | some stage => exact .some (screen_alike (agents stage installed _ _ _ _ _) same)
    | rateLimit =>
      simp only [Check.trial]
      split
      · exact .some ⟨rfl, same⟩
      · split
        · exact .none
        · exact .some (screen_alike (stages.tiers _ _ _ _ _ _) same)
    | _ => cases counts

end Steady

theorem notify_agree {α β : Type} {V : α → β → Prop} {c c' : Consult W} {call : Call W.Other α}
    {call' : Call W.Other β} (agree : Call.Agree R V (onOther call) (onOther call')) :
    Prog.Agree R V (notify c call : Prog (Store W) (Event W) ε α) (notify c' call') :=
  .ask agree

section Answers

variable (answers : AnswersAlike R E service)

include answers

theorem fireBlock_agree {payload : Option BlockPayload} :
    Prog.Agree R Eq (fireBlock E service.layer payload : Prog (Store W) (Event W) ε Unit)
      (fireBlock E service.layer payload) := by
  cases payload with
  | none => exact .pure rfl
  | some payload => exact notify_agree (answers.hook payload)

theorem proceed_agree (ruling : Ruling W) :
    Prog.Agree R Eq (Check.proceed E service ruling) (Check.proceed E service ruling) := by
  cases ruling with
  | pass next => exact .pure rfl
  | flag next => exact .pure rfl
  | deny early payload => exact .bind (fireBlock_agree answers) fun _ _ _ => .exit
  | recover early => exact .exit

/-- A check that rules alike runs alike. -/
theorem Check.RulesAlike.run_alike (alike : k.RulesAlike R E service stage χ s s')
    (same : R s s') :
    Run.Alike R Eq (k.run E service χ s) (k.run E (service.withStage stage) χ s') := by
  unfold RulesAlike at alike
  unfold Check.run
  cases alike₁ : k.trial E service χ with
  | none =>
    cases alike₂ : k.trial E (service.withStage stage) χ with
    | none => exact ⟨.pass rfl, same⟩
    | some trial' => rw [alike₁, alike₂] at alike; cases alike
  | some trial =>
    cases alike₂ : k.trial E (service.withStage stage) χ with
    | none => rw [alike₁, alike₂] at alike; cases alike
    | some trial' =>
      rw [alike₁, alike₂] at alike
      obtain ⟨rulings, left⟩ := Option.rel_some_some.mp alike
      refine Prog.alike_bind (Prog.alike_ask (rel_of_eq rulings) left) ?_
      rintro ruling _ s₁ s₁' t - rfl left
      exact proceed_agree answers ruling s₁ s₁' left

/-! ### The response side -/

theorem emitHeadersAppliedEvent_agree {processor : ResponseProcessor W} {input : RequestBits}
    {lane : ResponseLane} : Prog.Agree R Eq
      (emitHeadersAppliedEvent E service.layer processor input lane :
        Prog (Store W) (Event W) ε Unit)
      (emitHeadersAppliedEvent E service.layer processor input lane) := by
  unfold emitHeadersAppliedEvent
  split
  · split
    next _ bus _ installed => exact notify_agree (answers.event bus installed _)
    next => exact .pure rfl
  · exact .pure rfl

theorem runModifier_agree {input : RequestBits} {bits : ResponseBits} : Prog.Agree R Eq
    (runModifier service.layer input bits : Prog (Store W) (Event W) ε ResponseBits)
    (runModifier service.layer input bits) := by
  unfold runModifier
  cases modifies : service.layer.responseModifier with
  | none => exact .pure rfl
  | some modifier =>
    refine .bind (.caught (notify_agree (answers.modifier modifier modifies bits))) ?_
    intro _ _ related
    -- A panic is recovered on both sides, and both report it.
    cases related with
    | some same => cases same; exact .pure rfl
    | none =>
      cases reports : service.layer.onError with
      | none => exact .pure rfl
      | some hook =>
        exact .bind (notify_agree (answers.onError hook reports _ _ _)) fun _ _ _ => .pure rfl

theorem applyResponseProcessor_agree {input : RequestBits} {status : Nat} {headers : HeaderMap}
    {lane : ResponseLane} : Prog.Agree R Eq
      (applyResponseProcessor E service.layer input status headers lane :
        Prog (Store W) (Event W) ε (Option Nat × HeaderMap))
      (applyResponseProcessor E service.layer input status headers lane) := by
  unfold applyResponseProcessor
  cases installed : service.layer.responseProcessor with
  | none => exact .pure rfl
  | some processor =>
    refine .bind (.reads answers.clock) ?_
    rintro now _ rfl
    refine .bind (.ask (answers.process processor installed _ _ _)) ?_
    -- The action is not read, so that it may differ.
    rintro ⟨bits, action⟩ ⟨_, action'⟩ rfl
    refine .bind (emitHeadersAppliedEvent_agree answers) fun _ _ _ => ?_
    refine .bind (runModifier_agree answers) ?_
    rintro modified _ rfl
    exact .pure rfl

theorem passGenerated_agree {parts : Parts W} {generated : Generated} :
    Prog.Agree R Eq (passGenerated E service.layer parts generated :
      Prog (Store W) (Event W) ε Generated) (passGenerated E service.layer parts generated) := by
  refine .bind (applyResponseProcessor_agree answers) ?_
  rintro ⟨modified, headers⟩ _ rfl
  exact .pure rfl

theorem finishGenerated_agree {parts : Parts W} {generated : Generated} :
    Prog.Agree R Eq (finishGenerated E service.layer parts generated :
      Prog (Store W) (Event W) ε (Response W))
      (finishGenerated E service.layer parts generated) := by
  refine .bind (passGenerated_agree answers) ?_
  rintro finished _ rfl
  exact .pure rfl

theorem render_agree {parts : Parts W} (answer : Answer) :
    Prog.Agree R Eq (render E service.layer parts answer :
      Prog (Store W) (Event W) ε (Response W)) (render E service.layer parts answer) := by
  -- Every answer is shaped first, which asks nobody.
  have shaped : ∀ {generated : Option Generated} {f : Generated →
      Prog (Store W) (Event W) ε (Response W)}, (∀ generated, Prog.Agree R Eq (f generated)
        (f generated)) → Prog.Agree R Eq (Prog.expect generated >>= f)
          (Prog.expect generated >>= f) := by
    intro generated f finishes
    refine .bind (.expect (rel_of_eq rfl)) ?_
    rintro generated _ rfl
    exact finishes generated
  cases answer with
  | preflight answer => exact shaped fun _ => .pure rfl
  | block status body => exact shaped fun _ => finishGenerated_agree answers
  | gate body =>
    refine shaped fun _ => .bind (passGenerated_agree answers) ?_
    rintro denial _ rfl
    exact finishGenerated_agree answers
  | stage response => exact finishGenerated_agree answers
  | redirect answer => exact shaped fun _ => finishGenerated_agree answers
  | oversize => exact finishGenerated_agree answers
  | failure => exact finishGenerated_agree answers

theorem forward_agree {facts : RequestFacts} {parts : Parts W} {buffered : Option Bytes} :
    Prog.Agree R Eq (forward E service.layer facts parts buffered service.inner :
      Prog (Store W) (Event W) ε _)
      (forward E service.layer facts parts buffered service.inner) := by
  refine .bind (.ask (answers.inner _)) ?_
  rintro answer _ rfl
  cases answer with
  | error error => exact .pure rfl
  | ok response =>
    refine .bind (applyResponseProcessor_agree answers) ?_
    rintro ⟨modified, headers⟩ _ rfl
    exact .pure rfl

end Answers

/-! ### One call -/

/-- The calls run alike where every check does that the first of them arrives at. -/
theorem call_alike (answers : AnswersAlike R E service) {request : Request W}
    (checks : ∀ (k : Check) χ s₁ s₁', k.Arrives E service request s χ s₁ → R s₁ s₁' →
      k.RulesAlike R E service stage χ s₁ s₁')
    (start : R s s') : Run.Alike R Eq (service.call E request s)
      ((service.withStage stage).call E request s') := by
  have screened : Run.Alike R Eq (service.screening E request s)
      ((service.withStage stage).screening E request s') := by
    rw [screening_eq, screening_eq]
    refine Prog.alike_bind (V := Eq) ?_ ?_
    · exact Checklist.run_alike (fun k χ s₁ s₁' arrives same =>
        (checks k χ s₁ s₁' arrives same).run_alike answers same) start
    · rintro χ _ s₁ s₁' t - rfl same
      exact ⟨.pass rfl, same⟩
  refine Prog.alike_settle screened ?_ ?_
  · rintro ⟨parts, buffered⟩ _ rfl
    exact forward_agree answers
  · intro early
    cases early with
    | excluded parts => exact forward_agree answers
    | answered parts answer =>
      refine .bind (render_agree answers answer) ?_
      rintro response _ rfl
      exact .pure rfl

end TowerGuard
