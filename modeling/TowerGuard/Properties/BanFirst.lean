import TowerGuard.Exits
import TowerGuard.Collaborators
import TowerGuard.Engine.Metered
import TowerGuard.Properties.FirstBlocking
import TowerGuard.Properties.Views

/-!
# A live ban among the costly steps

The ban arm stands behind the body, the header, referrer, validator and time-window checks, and
the scan. A banned client is answered ahead of them only where none of them has anything to do.
-/

namespace TowerGuard

open Text Traced

variable {W : World}

/-- What a body yields but for the polls that suspend. -/
def Body.frames (body : Body) : List BodyPoll := body.filter (· ≠ .pending)

/-- What the engine does with a live ban. `live` says that a store holds a ban of the client
that has not expired. -/
structure BansLive (E : Engine W)
    (live : W.Other → (store : Nat) → (client : String) → Prop) : Prop where
  /-- The ban arm of an enabled stage answers a banned client. -/
  arm : ∀ parts manager counters, parts.banManager = some (manager, counters) →
    parts.config.ipBan.enableIpBanning = true → parts.config.passiveMode = false →
    ∀ ip observation s, live s.other manager.store ip.display → ∃ response,
      ((E.rateLimitStage parts).decideBansObserved (some ip) observation s).1 =
          some (some response) ∧
        response.status = .forbidden ∧ response.body = bannedMessage
  /-- It counts nothing. -/
  looks : ∀ parts ip observation,
    KeepsLimits ((E.rateLimitStage parts).decideBansObserved ip observation)

section Bans

variable (E : Engine W) (service : GuardService W)
  (live : W.Other → (store : Nat) → (client : String) → Prop)

/-- No collaborator ahead of the ban arm lifts the ban, and the ban outlasts them. -/
def BanLasts (store : Nat) (client : String) : Prop :=
  ∀ k : Check, k.position < Check.bans.position → ∀ (χ : Locals W) (trial : Trial W),
    k.trial E service χ = some trial → ∀ s, live s.other store client →
      live (trial.ruling s).2.other store client

variable {E service live} in
/-- So it is where every collaborator leaves the ban alone. -/
theorem BanLasts.of_meet {store : Nat} {client : String}
    (meets : CollaboratorsMeet E service (fun _ => True) fun _ c =>
      ∀ o, live o store client → live (c o).2 store client) :
    BanLasts E service live store client := by
  intro k ahead χ trial applies s banned
  obtain ⟨α, c, read, keeps, makes⟩ :=
    trial_call meets applies (by revert ahead; cases k <;> decide) fun _ => trivial
  rw [makes s]
  exact keeps s.other banned

/-- The banned `403`, with no frame of the body polled, no scan and nothing counted. -/
structure BannedFirst (request : Request W) (s : Store W) : Prop where
  banned : ∃ response, service.Denies E request s .bans (.stage response) ∧
    response.status = .forbidden ∧ response.body = bannedMessage
  unread : ∀ event ∈ (service.call E request s).trace, ∀ cap unread,
    event.consult = .bodyBuffering cap unread → unread.frames = request.body.frames
  unscanned : ∀ event ∈ (service.call E request s).trace, event.consult.check ≠ some .scan
  uncounted : (service.call E request s).state.limits = s.limits

end Bans

section Arm

variable {E : Engine W} {service : GuardService W} {request : Request W} {s s' : Store W}
  {χ : Locals W}

/-- A body that is read to its end shows so at the question. -/
theorem bodyBuffering_asked_of_passed
    (arrives : Check.bans.Arrives E service request s χ s') :
    ∃ event ∈ (service.call E request s).trace, ∃ cap, event.consult = .bodyBuffering cap [] := by
  obtain ⟨χ₀, s₀, χ₁, s₁, t₁, early, -, here, -⟩ :=
    arrives.written (j := .bodyBuffering) (f := Locals.buffered)
      (fun k other χ χ' frame => frame.buffered other) (by decide)
  rcases run_pass_iff.mp here with ⟨absent, -⟩ | ⟨trial, ruling, applies, ruled, passes, -⟩
  · cases absent
  · refine ⟨_, early.asks applies, ?_⟩
    simp only [Check.trial, Option.some.injEq] at applies
    split at applies
    next buffered unread read =>
      subst applies
      have finished : unread = [] := by
        unfold bufferBody at read
        split at read
        next bytes rest loop =>
          cases read
          exact (bufferFrames_ok loop).2
        · cases read
      exact ⟨_, by rw [finished]; rfl⟩
    · subst applies; cases ruled; cases passes
    · subst applies; cases ruled; cases passes

/-- A body without frames is unread at its question, wherever the request goes on. -/
theorem unread_frames_of_none (none_ : request.body.frames = []) {event : Event W}
    (member : event ∈ (service.call E request s).trace) {cap : Nat} {unread : Body}
    (asked : event.consult = .bodyBuffering cap unread) : unread.frames = [] := by
  obtain ⟨χ, s', trial, arrives, applies, rfl⟩ :=
    (call_asks_iff (k := .bodyBuffering) (by rw [asked]; rfl)).mp member
  -- What is left of the body is a tail of it.
  have left : ∀ (cap : Nat) (buffered : Bytes) (body : Body), body.frames = [] →
      (bufferFrames cap buffered body).2.frames = [] := by
    intro cap buffered body
    induction body generalizing buffered with
    | nil => exact id
    | cons poll rest ih =>
      cases poll with
      | pending => intro quiet; exact ih buffered (by simpa [Body.frames] using quiet)
      | data bytes => intro quiet; simp [Body.frames] at quiet
      | trailers => intro quiet; simp [Body.frames] at quiet
      | failed => intro quiet; simp [Body.frames] at quiet
  have same : unread = (bufferBody χ.body (bodyCap E service.layer χ.route)).2 := by
    simp only [Check.trial, Option.some.injEq] at applies
    split at applies <;> subst applies <;> cases asked <;> simp [*]
  have rest : (bufferBody χ.body (bodyCap E service.layer χ.route)).2 =
      (bufferFrames (bodyCap E service.layer χ.route) [] χ.body).2 := by
    unfold bufferBody
    split <;> simp [*]
  rw [same, rest]
  exact left _ _ _ (by rw [arrives.of.body]; exact none_)

end Arm

/-- The stage of a layer with an enabled ban half bans. -/
theorem banning_stage {E : Engine W} {layer : GuardLayer W} {state : BanState}
    (inner : InnerService W) (fresh : layer.stage = none) (installed : layer.banState = some state)
    (enabled : state.config.enableIpBanning = true) (active : layer.passiveMode = false) :
    ∃ parts, (layer.wrap E inner).stage = E.rateLimitStage parts ∧
      parts.banManager = some (state.manager, state.counters) ∧
      parts.config.ipBan.enableIpBanning = true ∧ parts.config.passiveMode = false := by
  refine ⟨_, layer.wrap_stage E inner fresh, ?_, ?_, active⟩
  · simp only [installed]; rfl
  · simp only [installed]; exact enabled

/-- A client with a live ban is answered first among the costly steps exactly when its body has
no frames, its route has detection off, and the checks ahead of the ban arm let it through. -/
theorem live_ban_answers_first_iff {E : Engine W}
    {live : W.Other → (store : Nat) → (client : String) → Prop} (bans : BansLive E live)
    {layer : GuardLayer W} (fresh : layer.stage = none) {state : BanState}
    (installed : layer.banState = some state) (enabled : state.config.enableIpBanning = true)
    (active : layer.passiveMode = false) (inner : InnerService W) (request : Request W)
    (s : Store W) {ip : IpAddr} (client : request.extensions.clientIp = some ip)
    (banned : live s.other state.manager.store ip.display)
    (lasts : BanLasts E (layer.wrap E inner) live state.manager.store ip.display)
    (guarded : bypassed ((layer.wrap E inner).carrier request s) "ip_ban" = false) :
    BannedFirst E (layer.wrap E inner) request s ↔
      request.body.frames = [] ∧
      detectionOff E layer ((layer.wrap E inner).carrier request s) = true ∧
      ∃ χ s', Check.bans.Arrives E (layer.wrap E inner) request s χ s' := by
  constructor
  · rintro ⟨⟨response, denied, -⟩, unread, unscanned, -⟩
    obtain ⟨parts, payload, s₁, ended⟩ := denies_iff.mp denied
    obtain ⟨χ, s', arrives, -⟩ := ending_exit ended
    refine ⟨?_, ?_, χ, s', arrives⟩
    · -- On the way to the arm the body was read to its end.
      obtain ⟨event, member, cap, asked⟩ := bodyBuffering_asked_of_passed arrives
      exact (unread event member cap [] asked).symm
    · cases off : detectionOff E layer ((layer.wrap E inner).carrier request s) with
      | true => rfl
      | false =>
        -- The scan stands ahead of the arm too, and with detection on it is called.
        obtain ⟨χ₀, s₀, -, -, -, scans, -⟩ :=
          arrives.written (j := .scan) (f := Locals.verdict)
            (fun k other χ χ' frame => frame.verdict other) (by decide)
        obtain ⟨event, member, asked⟩ := scan_asked_of_arrives scans off
        exact absurd asked (unscanned event member)
  · rintro ⟨none_, off, χ, s', arrives⟩
    obtain ⟨parts, built, manager, bansOn, activeOn⟩ :=
      banning_stage (E := E) inner fresh installed enabled active
    have still : live s'.other state.manager.store ip.display :=
      arrives.invariant (I := fun s => live s.other state.manager.store ip.display)
        (fun j before χ χ' trial applies s₁ s₂ ruling ruled _ held => by
          have after := lasts j before χ trial applies s₁ held
          rwa [ruled] at after) banned
    have ahead : s'.limits = s.limits :=
      arrives.invariant (I := fun s' => s'.limits = s.limits)
        (fun j before χ χ' trial applies s₁ s₂ ruling ruled _ held => by
          have kept := trial_keepsLimits applies (by revert before; cases j <;> decide) s₁
          rw [ruled] at kept
          exact kept.trans held) rfl
    have open_ : bypassed χ.route "ip_ban" = false := by
      rw [arrives.route (by decide)]
      exact guarded
    have same : χ.facts.ip = some ip := by rw [arrives.of.facts]; exact client
    obtain ⟨response, said, status, body⟩ := bans.arm parts _ _ manager bansOn activeOn ip
      (some (requestObservation χ.parts)) s' still
    have counted := bans.looks parts (some ip) (some (requestObservation χ.parts)) s'
    rw [← built] at said counted
    -- The arm denies, so that the request ends here.
    obtain ⟨back, ended⟩ := ending_of_reaches arrives
    simp only [Check.ending, Check.trial, open_, Bool.false_eq_true, if_false, same,
      Trial.screen_ruling] at ended
    rcases decided : (layer.wrap E inner).stage.decideBansObserved (some ip)
      (some (requestObservation χ.parts)) s' with ⟨answer, s₁⟩
    rw [decided] at said counted ended
    simp only at said counted
    rw [said] at ended
    simp only [Option.map_some, Ruling.ofDenial] at ended
    refine ⟨⟨response, denies_iff.mpr ⟨_, _, _, ended⟩, status, body⟩, ?_, ?_, ?_⟩
    · intro event member cap unread asked
      rw [unread_frames_of_none none_ member asked, none_]
    · intro event member scans
      obtain ⟨χ', s'', -, on, -⟩ := scan_asked member scans
      have off' : detectionOff E (layer.wrap E inner).layer
          ((layer.wrap E inner).carrier request s) = true := off
      rw [off'] at on
      cases on
    · obtain ⟨t, -, answered, -⟩ := call_ending E (layer.wrap E inner) request s
      rw [answered, Run.after_state, ended, answerTo_limits (by rintro parts ⟨⟩), counted, ahead]

/-! ### A banned client -/

abbrev meteredLive (journal : Metered.Journal) (store : Nat) (client : String) : Prop :=
  journal.bans.contains (store, client) = true

theorem metered_bans : BansLive Metered.engine meteredLive where
  arm := by
    intro parts manager counters installed enabled active ip observation s banned
    refine ⟨Bench.banResponse, ?_, rfl, rfl⟩
    change ((Metered.rateLimitStage parts).decideBansObserved (some ip) observation s).1 = _
    simp only [Metered.rateLimitStage, installed, enabled, active, banned, Bool.not_false,
      Bool.and_self, if_true]
  looks := by
    intro parts ip observation s
    change ((Metered.rateLimitStage parts).decideBansObserved ip observation s).2.limits = _
    simp only [Metered.rateLimitStage]
    split
    · split <;> rfl
    · rfl

/-- A layer that bans, with this body cap. -/
def banningLayer (cap : Nat) : GuardLayer Metered.world :=
  (((Metered.layer.withPenetrationDetection false).withBodyCap cap).withIpBanning ⟨1⟩ ⟨2⟩
    Bench.engine.defaultIpBanConfig)

def banningService (cap : Nat) : GuardService Metered.world :=
  (banningLayer cap).wrap Metered.engine Metered.ok

/-- Nobody is asked who would change the journal. -/
theorem banningService_meets (cap : Nat) (I : Metered.Journal → Prop) :
    CollaboratorsMeet Metered.engine (banningService cap) (fun _ => True) fun _ c =>
      ∀ o, I o → I (c o).2 where
  returning := fun _ _ kept => kept
  clock := fun _ kept => kept
  routeConfigs := fun _ installed => nomatch installed
  usageRules := fun _ installed => nomatch installed
  routeCountries := fun _ installed => nomatch installed
  emergencyMode := fun _ installed => nomatch installed
  https := fun _ installed => nomatch installed
  httpsRoute := fun _ installed => nomatch installed
  requestLogging := fun _ installed => nomatch installed
  countryLog := fun _ installed => nomatch installed
  routeHeadersAuth := fun _ _ _ _ kept => kept
  headersAuth := fun _ installed => nomatch installed
  referrerGate := fun _ installed => nomatch installed
  routeValidators := fun _ _ _ kept => kept
  customValidators := fun _ installed => nomatch installed
  timeWindowGate := fun _ installed => nomatch installed
  scan := fun _ _ _ kept => kept
  geo := fun _ installed => nomatch installed
  cloud := fun _ installed => nomatch installed
  routeCloud := fun _ installed => nomatch installed
  customRequest := fun _ installed => nomatch installed

def bannedStart : Store Metered.world :=
  { Metered.start with
    other := { Metered.start.other with bans := [(1, Bench.client.display)] } }

/-- A banned client without a body, on a layer without detection, is answered first. -/
theorem bodyless_client_answered_first :
    BannedFirst Metered.engine (banningService 1024)
      (Metered.request (some Bench.client) "GET" "/items" none []) bannedStart := by
  have lasts : BanLasts Metered.engine (banningService 1024) meteredLive 1
      Bench.client.display := .of_meet (banningService_meets 1024 _)
  obtain ⟨χ, arrives⟩ := Check.arrives_of_passes Metered.engine (banningService 1024)
    (Metered.request (some Bench.client) "GET" "/items" none []) bannedStart
    (by decide : Check.pipeline = Check.pipeline.take 21 ++ .bans :: Check.pipeline.drop 22)
    (by decide +kernel)
  have installed : (banningLayer 1024).banState =
      some ⟨⟨1⟩, ⟨2⟩, Bench.engine.defaultIpBanConfig⟩ := rfl
  exact (live_ban_answers_first_iff metered_bans rfl installed rfl rfl Metered.ok
    (Metered.request (some Bench.client) "GET" "/items" none []) bannedStart rfl (by decide +kernel)
    lasts rfl).mpr ⟨rfl, rfl, χ, _, arrives⟩

/-- A banned client whose body is beyond the cap has it polled, and is not told of the ban. -/
theorem oversize_body_answered_first :
    let request := Metered.request (some Bench.client) "POST" "/items" none [.data [60, 60]]
    meteredLive bannedStart.other 1 Bench.client.display ∧
      (∃ χ s', Check.requestLogging.Arrives Metered.engine (banningService 1) request bannedStart
        χ s') ∧
      (banningService 1).Denies Metered.engine request bannedStart .bodyBuffering .oversize ∧
      ¬BannedFirst Metered.engine (banningService 1) request bannedStart := by
  intro request
  have oversize : (banningService 1).Denies Metered.engine request bannedStart .bodyBuffering
      .oversize := by
    unfold GuardService.Denies
    decide +kernel
  obtain ⟨χ, arrives⟩ := Check.arrives_of_passes Metered.engine (banningService 1) request
    bannedStart
    (by decide : Check.pipeline =
      Check.pipeline.take 9 ++ .requestLogging :: Check.pipeline.drop 10)
    (by decide +kernel)
  refine ⟨by decide +kernel, ⟨χ, _, arrives⟩, oversize, fun first => ?_⟩
  obtain ⟨response, denied, -⟩ := first.banned
  cases oversize.symm.trans denied

end TowerGuard
