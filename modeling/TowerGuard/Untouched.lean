import TowerGuard.Exits
import TowerGuard.Collaborators

/-!
# What a call leaves alone

The frame rule of a call. A view of the state that nothing touches of what the service asks on
the request's behalf, the whole call leaves as it was.
-/

namespace TowerGuard

open Text Traced

variable {W : World} {κ : Type}

/-- The client as the behaviour rules are told it. -/
def Request.client (request : Request W) : String :=
  (request.extensions.clientIp.map IpAddr.display).getD ""

/-- The usage rules of its route are put to the request. -/
def GuardService.PutsUsageRules (E : Engine W) (service : GuardService W) (request : Request W)
    (s : Store W) : Prop :=
  ∃ χ s', Check.usageRules.Arrives E service request s χ s' ∧
    (Check.usageRules.trial E service χ).isSome = true

/-- Nothing the service asks on the request's behalf touches `v` of the state, the usage rules
for the clients in question only. -/
structure Untouched (v : Store W → κ) (clients : String → Prop) (E : Engine W)
    (service : GuardService W) (request : Request W) : Prop where
  asked : CollaboratorsMeet E service clients fun _ c =>
    ∀ s, v { s with other := (c s.other).2 } = v s
  bans : ∀ observation s,
    v (service.stage.decideBansObserved request.extensions.clientIp observation s).2 = v s
  tiers : ∀ path routeTiers gate finding observation s,
    v (service.stage.decideTiersObserved request.extensions.clientIp path routeTiers gate finding
      observation s).2 = v s
  agents : ∀ stage, service.layer.userAgent = some stage → ∀ gate path userAgent finding s,
    v (stage.decide request.extensions.clientIp gate path userAgent finding s).2 = v s
  hook : ∀ payload s,
    v { s with other := (E.fireBlockHook service.layer.onBlock payload s.other).2 } = v s
  responseSide : ResponseSideKeeps service.layer (· = request.client) v
  inner : ∀ rebuilt, rebuilt.extensions.clientIp = request.extensions.clientIp →
    ∀ s, v (service.inner.call rebuilt s).2 = v s

variable {v : Store W → κ} {clients : String → Prop} {ε : Type} {E : Engine W}
  {service : GuardService W} {request : Request W} {k : Check} {χ χ' : Locals W}
  {trial : Trial W} {s s₁ s' : Store W} {t : List (Event W)}

theorem Locals.Of.client (of : χ.Of request) :
    χ.facts.ip = request.extensions.clientIp ∧
      χ.parts.extensions.clientIp = request.extensions.clientIp := by
  refine ⟨?_, congrArg (fun parts => parts.extensions.clientIp) of.carried⟩
  rw [of.facts]
  rfl

/-! ### What the checks ask -/

/-- What the checks ask on the request's behalf moves the store along `R`, the usage rules for the
clients in question only. -/
structure AskedAlong (R : Store W → Store W → Prop) (clients : String → Prop) (E : Engine W)
    (service : GuardService W) (request : Request W) : Prop where
  asked : CollaboratorsMeet E service clients fun _ c => ∀ s, R s { s with other := (c s.other).2 }
  bans : ∀ observation s,
    R s (service.stage.decideBansObserved request.extensions.clientIp observation s).2
  tiers : ∀ path routeTiers gate finding observation s,
    R s (service.stage.decideTiersObserved request.extensions.clientIp path routeTiers gate finding
      observation s).2
  agents : ∀ stage, service.layer.userAgent = some stage → ∀ gate path userAgent finding s,
    R s (stage.decide request.extensions.clientIp gate path userAgent finding s).2

/-- So does every trial. -/
theorem AskedAlong.ruling {R : Store W → Store W → Prop}
    (along : AskedAlong R clients E service request) (of : χ.Of request)
    (applies : k.trial E service χ = some trial)
    (asks : k = .usageRules → clients request.client) (s : Store W) : R s (trial.ruling s).2 := by
  have client := of.client.1
  cases counts : k.counting with
  | false =>
    have known : k = .usageRules → clients ((χ.facts.ip.map IpAddr.display).getD "") := by
      rw [client]
      exact asks
    obtain ⟨α, c, read, moves, makes⟩ := trial_call along.asked applies counts known
    rw [makes s]
    exact moves s
  | true =>
    cases k with
    | bans =>
      obtain ⟨-, ⟨⟩⟩ := Option.ite_none_left_eq_some.mp applies
      rw [client]
      exact along.bans _ s
    | userAgent =>
      obtain ⟨stage, installed, rfl⟩ := Option.map_eq_some_iff.mp applies
      rw [client]
      exact along.agents stage installed _ _ _ _ s
    | rateLimit =>
      simp only [Check.trial] at applies
      split at applies
      · cases applies
        -- Tiers that are refused unread ask nothing.
        exact along.asked.returning () s
      · obtain ⟨-, ⟨⟩⟩ := Option.ite_none_left_eq_some.mp applies
        rw [client]
        exact along.tiers _ _ _ _ _ s
    | _ => cases counts

/-! ### The frame rule -/

namespace Untouched

variable (untouched : Untouched v clients E service request)
  (told : service.PutsUsageRules E request s → clients request.client)

include untouched

theorem forward {buffered : Option Bytes} (of : χ.Of request) :
    Prog.Keeps v (TowerGuard.forward E service.layer (.extract request.toParts) χ.parts buffered
      service.inner : Prog (Store W) (Event W) ε _) := by
  intro s
  rw [forward_keeps E service.layer _ _ _ _ _ untouched.responseSide rfl]
  exact untouched.inner _ of.client.2 s

/-- Answering the request does not touch it, -/
theorem answerTo {early : Early W} {payload : Option BlockPayload} (of : χ.Of request)
    (returns : early.Of k χ) (s : Store W) :
    v (service.answerTo E (.extract request.toParts) (.denied k early payload, s)).state = v s := by
  refine Prog.Keeps.bind ?_ (fun _ => ?_) s
  · cases payload with
    | none => exact .pure
    | some payload => exact .ask fun s => untouched.hook payload s
  · cases returns with
    | answered answer =>
      refine .bind (render_keeps E service.layer untouched.responseSide ?_) fun _ => .pure
      simp only [RequestBits.fromParts, of.client.2, Request.client]
    | excluded _ => exact untouched.forward of

omit told in
/-- and neither does what a check asks about it, -/
theorem trial_untouched (of : χ.Of request) (applies : k.trial E service χ = some trial)
    (asks : k = .usageRules → clients request.client) (s₁ : Store W) :
    v (trial.ruling s₁).2 = v s₁ :=
  AskedAlong.ruling (R := fun s s' => v s' = v s)
    ⟨untouched.asked, untouched.bans, untouched.tiers, untouched.agents⟩ of applies asks s₁

include told

theorem trial_keeps (arrives : k.Arrives E service request s χ s')
    (applies : k.trial E service χ = some trial) (s₁ : Store W) :
    v (trial.ruling s₁).2 = v s₁ := by
  refine untouched.trial_untouched arrives.of applies ?_ s₁
  rintro rfl
  exact told ⟨χ, s', arrives, by rw [applies]; rfl⟩

theorem step_keeps (arrives : k.Arrives E service request s χ s₁) (held : v s₁ = v s)
    (passed : Check.step E service k χ s₁ = ⟨.pass χ', s', t⟩) : v s' = v s := by
  rcases run_pass_iff.mp passed with ⟨-, -, rfl, -⟩ | ⟨trial, ruling, applies, ruled, -, -⟩
  · exact held
  · have kept := untouched.trial_keeps told arrives applies s₁
    rw [ruled] at kept
    exact kept.trans held

/-- so that the call does not. -/
theorem call : v (service.call E request s).state = v s := by
  have asked {k : Check} {χ : Locals W} {trial : Trial W} {s₁ : Store W}
      (arrives : k.Arrives E service request s χ s₁)
      (applies : k.trial E service χ = some trial) : v (trial.ruling s₁).2 = v s := by
    have ahead : v s₁ = v s :=
      Checklist.Reaches.invariant (I := fun _ s₁ => v s₁ = v s)
        (fun _ _ _ _ _ _ => untouched.step_keeps told) rfl arrives
    exact (untouched.trial_keeps told arrives applies s₁).trans ahead
  obtain ⟨t, -, answered, -⟩ := call_ending E service request s
  rw [answered, Run.after_state]
  have ends := ending_ends E service Check.pipeline (.start request) s
  generalize Check.ending E service Check.pipeline (.start request) s = ended at ends
  cases ends with
  | forward passed =>
    have ahead := Checklist.run_invariant_of_reached (I := fun _ s₁ => v s₁ = v s)
      (fun _ _ _ _ _ _ => untouched.step_keeps told) rfl passed
    exact (untouched.forward (run_of passed) _).trans ahead
  | denied arrives applies ruled =>
    have kept := asked arrives applies
    rw [ruled] at kept
    exact (untouched.answerTo (Check.Arrives.of arrives) (trial_denies applies ruled) _).trans kept
  | recovered arrives applies ruled =>
    have kept := asked arrives applies
    rw [ruled] at kept
    obtain ⟨rfl, rfl⟩ := trial_recovers applies ruled
    exact (untouched.answerTo (Check.Arrives.of arrives) (.answered _) _).trans kept
  | panicked arrives applies ruled =>
    have kept := asked arrives applies
    rw [ruled] at kept
    exact kept

end Untouched

end TowerGuard
