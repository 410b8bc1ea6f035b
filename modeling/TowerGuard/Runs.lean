import TowerGuard.Arrival
import TowerGuard.Traced.Machine

/-!
# Runs of requests

One service takes requests one after the other, while the clock and everything else behind
the shared state move in between.
-/

namespace TowerGuard

open Text Traced

variable {W : World}

variable (W) in
inductive Turn where
  | request (request : Request W)
  /-- Time passes, or another service has its turn. -/
  | elsewhere (store : Store W)

/-- One turn of a service, with what its call observes. -/
def GuardService.turn (E : Engine W) (service : GuardService W) :
    Machine (Store W) (Turn W) (Event W)
  | s, .request request =>
    let run := service.call E request s
    some (run.state, run.trace)
  | _, .elsewhere s => some (s, [])

/-! ### Bans -/

/-- The client a behaviour rule bans here: a usage rule ahead of the pipeline, or a return
rule in the response-side pass. -/
def Event.issuedBan : Event W → Option String
  | ⟨.usageRules _ client _, .denied⟩ => some client
  | ⟨.process request _, .flagged⟩ => some request.clientIp
  | _ => none

/-- Among all that was observed, the client was banned. -/
def issued (past : List (Event W)) (client : String) : Prop :=
  ∃ event ∈ past, event.issuedBan = some client

instance (past : List (Event W)) (client : String) : Decidable (issued past client) :=
  inferInstanceAs (Decidable (∃ event ∈ past, event.issuedBan = some client))

section Arm

variable {E : Engine W} {service : GuardService W} {request : Request W} {s s' : Store W}

/-- The request arrives at the ban arm in state `s'`, and its route does not bypass it. -/
def GuardService.MeetsBanArm (E : Engine W) (service : GuardService W) (request : Request W)
    (s s' : Store W) : Prop :=
  bypassed (service.carrier request s) "ip_ban" = false ∧
    ∃ χ, Check.bans.Arrives E service request s χ s'

/-- At the arm a request is denied exactly when the stage's ban decision denies it. -/
theorem GuardService.MeetsBanArm.denied_iff (meets : service.MeetsBanArm E request s s') :
    ∃ observation, ⟨.bans request.extensions.clientIp, .denied⟩ ∈
        (service.call E request s).trace ↔
      ∃ denial, (service.stage.decideBansObserved request.extensions.clientIp observation s').1 =
        some (some denial) := by
  obtain ⟨guarded, χ, arrives⟩ := meets
  have open_ : bypassed χ.route "ip_ban" = false := by
    rw [arrives.route (by decide)]
    exact guarded
  -- Where the route does not bypass it, the arm always applies.
  have applies : Check.bans.trial E service χ = some (.screen χ (.bans χ.facts.ip)
      (service.stage.decideBansObserved χ.facts.ip (some (requestObservation χ.parts)))
      fun blocked => .answered χ.parts (.stage blocked)) := by
    simp [Check.trial, open_]
  have client : χ.facts.ip = request.extensions.clientIp := by
    rw [arrives.of.facts]
    rfl
  rw [client] at applies
  refine ⟨some (requestObservation χ.parts), ?_⟩
  rw [call_asks_iff (k := .bans) rfl]
  constructor
  · rintro ⟨χ', s'', trial, again, asks, asked⟩
    -- The arm is reached once, so that the question in the trace is this one.
    obtain ⟨rfl, rfl⟩ := Checklist.Reaches.unique Check.pipeline_nodup arrives again
    obtain rfl := Option.some.inj (applies.symm.trans asks)
    exact Trial.screen_denied_iff.mp (congrArg Event.verdict asked).symm
  · intro denied
    exact ⟨χ, s', _, arrives, applies,
      congrArg (Event.mk _) (Trial.screen_denied_iff.mpr denied).symm⟩

end Arm

end TowerGuard
