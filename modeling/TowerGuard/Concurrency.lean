import TowerGuard.Arrival
import TowerGuard.Future
import TowerGuard.Untouched

/-!
# Calls under way at once

Requests put to services that share one store, with their calls taking steps in any order.
`future_ensures` follows one call through all of its steps, whatever the others do in between:
which checks it has passed by then, what it holds where it waits, when it may move the counters,
and when it hands its request over.
-/

namespace TowerGuard

open Text Traced Thread

variable {W : World} {ε : Type}

/-! ### Threads of the response side -/

/-- Nothing further but the response side has been observed. -/
def Behind (past past' : List (Event W)) : Prop :=
  ∃ later, past' = past ++ later ∧ ∀ event ∈ later, event.aside

theorem Behind.refl (past : List (Event W)) : Behind past past := ⟨[], by simp, by simp⟩

theorem Behind.trans {past past' past'' : List (Event W)} (first : Behind past past')
    (second : Behind past' past'') : Behind past past'' := by
  obtain ⟨later, rfl, aside⟩ := first
  obtain ⟨later', rfl, aside'⟩ := second
  refine ⟨later ++ later', List.append_assoc .., fun event member => ?_⟩
  rcases List.mem_append.mp member with early | late
  · exact aside event early
  · exact aside' event late

/-- An event of the response side that names no client to the processor but one of these. -/
structure Event.Tells (clients : String → Prop) (event : Event W) : Prop where
  aside : event.aside
  client : ∀ input status, event.consult = .process input status → clients input.clientIp

/-- What is not put to the processor names no client. -/
theorem Event.Tells.unprocessed {clients : String → Prop} {event : Event W}
    (aside : event.aside) (unprocessed : ∀ input status, event.consult ≠ .process input status) :
    event.Tells clients :=
  ⟨aside, fun input status named => absurd named (unprocessed input status)⟩

/-- A step of the response side on the request of such a client: it leaves every view of the state
that nothing it asks touches. -/
def ResponseStep (layer : GuardLayer W) (clients : String → Prop) (s s' : Store W) : Prop :=
  ∀ (κ : Type) (f : Store W → κ), ResponseSideKeeps layer clients f → f s' = f s

section Aside

variable {α β : Type} {U : α → Prop} {V : β → Prop} {layer : GuardLayer W}
  {clients : String → Prop}

/-- Behind `past` the promise allows what the response side does. -/
def AllowsResponse (layer : GuardLayer W) (clients : String → Prop)
    (P : Promise (Store W) (Event W) Waiting) (past : List (Event W)) : Prop :=
  ∀ past', Behind past past' → ∀ (s s' : Store W) seen, ResponseStep layer clients s s' →
    (∀ event ∈ seen, event.Tells clients) → P.acts past' s (s', seen)

/-- The thread is the response side's: it observes that side only, does its steps only, never
waits, and passes with values as `V` says. -/
def Aside (layer : GuardLayer W) (clients : String → Prop) (V : α → Prop) (t : Future W ε α) :
    Prop :=
  ∀ P past, AllowsResponse layer clients P past →
    t.Ensures P (fun past' flow => Behind past past' ∧ ∀ a, flow = .pass a → V a) past

theorem Aside.pure {a : α} (h : U a) : Aside layer clients U (Pure.pure a : Future W ε α) :=
  fun _ past _ => ⟨.refl past, by rintro _ ⟨⟩; exact h⟩

theorem Aside.unwound : Aside layer clients U (.unwound : Future W ε α) :=
  fun _ past _ => ⟨.refl past, by rintro _ ⟨⟩⟩

theorem Aside.bind {t : Future W ε α} {next : α → Future W ε β} (first : Aside layer clients U t)
    (rest : ∀ a, U a → Aside layer clients V (next a)) :
    Aside layer clients V (t >>= next) := by
  intro P past allows
  refine .bind ((first P past allows).mono ?_)
  rintro past' flow ⟨behind, values⟩
  cases flow with
  | pass a =>
    have allows' : AllowsResponse layer clients P past' :=
      fun past'' later => allows past'' (behind.trans later)
    refine (rest a (values a rfl) P past' allows').mono ?_
    rintro past'' flow ⟨later, values'⟩
    exact ⟨behind.trans later, values'⟩
  | exit e => exact ⟨behind, by rintro _ ⟨⟩⟩
  | unwound => exact ⟨behind, by rintro _ ⟨⟩⟩

theorem Aside.atomically {m : Prog (Store W) (Event W) ε α}
    (emits : Prog.Emits (Event.Tells clients) m)
    (keeps : ∀ (κ : Type) (f : Store W → κ), ResponseSideKeeps layer clients f →
      Prog.Keeps f m) :
    Aside layer clients (fun _ => True) (Thread.atomically m : Future W ε α) := by
  intro P past allows
  refine ensures_atomically_iff.mpr fun s =>
    ⟨?_, ⟨_, rfl, fun event member => (emits s event member).aside⟩, fun _ _ => trivial⟩
  exact allows past (.refl past) s _ _ (fun κ f kept => keeps κ f kept s) (emits s)

end Aside

section Response

variable (E : Engine W) (layer : GuardLayer W) {clients : String → Prop}

theorem runModifier_aside (input : RequestBits) (bits : ResponseBits) :
    Aside layer clients (fun _ => True)
      (Future.runModifier layer input bits : Future W ε _) := by
  unfold Future.runModifier
  split
  · exact .pure trivial
  next modifier modifies =>
    refine .bind (.atomically (.caught (notify_emits fun _ => .unprocessed ⟨rfl, rfl⟩
      fun _ _ same => by cases same)) fun κ f keeps =>
      .caught (.ask fun s => keeps.modifier modifier modifies bits s)) fun answer _ => ?_
    split
    · exact .pure trivial
    · split
      next hook reports =>
        exact .bind (.atomically (notify_emits fun _ => .unprocessed ⟨rfl, rfl⟩
          fun _ _ same => by cases same) fun κ f keeps =>
          .ask fun s => keeps.onError hook reports _ _ _ s) fun _ _ => .pure trivial
      · exact .pure trivial

/-- Without a processor nothing is made of status and headers. -/
theorem applyResponseProcessor_aside {input : RequestBits} (told : clients input.clientIp)
    (status : Nat) (headers : HeaderMap) (lane : ResponseLane) :
    Aside layer clients (fun made => layer.responseProcessor = none → made = (none, headers))
      (Future.applyResponseProcessor E layer input status headers lane : Future W ε _) := by
  unfold Future.applyResponseProcessor
  split
  · exact .pure fun _ => rfl
  next processor installed =>
    refine .bind (.atomically (.bind .reads fun _ => .ask fun _ => ⟨⟨rfl, rfl⟩, by
      rintro _ _ ⟨⟩; exact told⟩) fun κ f keeps =>
      .bind .reads fun now => .ask fun s => keeps.process processor installed _ _ now s told)
      fun answer _ => ?_
    refine .bind (.atomically (emitHeadersAppliedEvent_emits E layer fun _ _ =>
      .unprocessed ⟨rfl, rfl⟩ fun _ _ same => by cases same)
      fun κ f keeps => emitHeadersAppliedEvent_keeps E layer keeps) fun _ _ => ?_
    refine .bind (runModifier_aside layer input _) fun _ _ => .pure fun absent => ?_
    rw [installed] at absent
    cases absent

/-- The response is one of the guard's own. -/
def Response.Own (response : Response W) : Prop := ∃ bytes, response.body = .generated bytes

section Generated

variable {parts : Parts W} (told : clients (RequestBits.fromParts parts).clientIp)

include told

theorem passGenerated_aside (generated : Generated) : Aside layer clients (fun _ => True)
    (Future.passGenerated E layer parts generated : Future W ε _) :=
  .bind (applyResponseProcessor_aside E layer told _ _ _) fun _ _ => .pure trivial

theorem finishGenerated_aside (generated : Generated) : Aside layer clients Response.Own
    (Future.finishGenerated E layer parts generated : Future W ε _) :=
  .bind (passGenerated_aside E layer told generated) fun _ _ => .pure ⟨_, rfl⟩

omit told in
theorem shaped_aside {α : Type} {V : α → Prop} {finish : Generated → Future W ε α}
    (generated : Option Generated) (finishes : ∀ generated, Aside layer clients V
      (finish generated)) : Aside layer clients V (Future.shaped generated finish) := by
  cases generated with
  | none => exact .unwound
  | some generated => exact finishes generated

theorem render_aside (answer : Answer) : Aside layer clients Response.Own
    (Future.render E layer parts answer : Future W ε _) := by
  have once : ∀ generated, Aside layer clients Response.Own
      (Future.finishGenerated E layer parts generated : Future W ε _) :=
    finishGenerated_aside E layer told
  cases answer with
  | preflight answer => exact shaped_aside layer _ fun _ => .pure ⟨_, rfl⟩
  | block status body => exact shaped_aside layer _ once
  | gate body =>
    unfold Future.render
    refine shaped_aside layer _ fun generated => ?_
    exact .bind (passGenerated_aside E layer told generated) fun denial _ => once denial
  | stage response => exact once _
  | redirect answer => exact shaped_aside layer _ once
  | oversize => exact once _
  | failure => exact once _

end Generated

/-- What the wrapped service answered is passed on: its error, or its response with the very body,
and without a processor with its status and headers. -/
def Forwarded (layer : GuardLayer W) :
    Except W.InnerError (InnerResponse W) → Except W.InnerError (Response W) → Prop
  | .error error, result => result = .error error
  | .ok answer, result => ∃ response, result = .ok response ∧
      response.body = .passthrough answer.body ∧ (layer.responseProcessor = none →
        response.status = answer.status ∧ response.headers = answer.headers)

theorem passForwarded_aside {facts : RequestFacts} (told : clients facts.ipString)
    (answer : Except W.InnerError (InnerResponse W)) : Aside layer clients (Forwarded layer answer)
      (Future.passForwarded E layer facts answer : Future W ε _) := by
  cases answer with
  | error error => exact .pure rfl
  | ok answer =>
    refine .bind (applyResponseProcessor_aside E layer told _ _ _) fun made kept => .pure ?_
    refine ⟨_, rfl, rfl, fun absent => ?_⟩
    rw [kept absent]
    exact ⟨rfl, rfl⟩

end Response

/-! ### One check -/

section OneCheck

variable {E : Engine W} {service : GuardService W} {request : Request W} {k : Check}
  {χ χ' : Locals W} {s s' : Store W} {t past : List (Event W)} {cs : List Check}

theorem proceed_keeps {ruling : Ruling W} :
    Prog.Keeps Store.limits (Check.proceed E service ruling) := by
  cases ruling with
  | pass next => exact .pure
  | flag next => exact .pure
  | deny early payload => exact .bind (fireBlock_keeps E service.layer) fun _ _ => rfl
  | recover early => exact fun _ => rfl

/-- A check that runs against no counter leaves them, however it ends. -/
theorem run_limits (aside : k.counting = false) :
    Prog.Keeps Store.limits (k.run E service χ) := by
  cases applies : k.trial E service χ with
  | none => rw [run_of_absent applies]; exact .pure
  | some trial =>
    simp only [Check.run, applies]
    exact .bind (.ask (trial_keepsLimits applies aside)) fun _ => proceed_keeps

/-- No check hands a request over. -/
theorem run_handedOver (k : Check) (χ : Locals W) (s : Store W) :
    handedOver (k.run E service χ s).trace = [] := by
  refine handedOver_eq_nil fun event member => ?_
  rcases run_event member with ⟨trial, applies, rfl⟩ | aside
  · exact Event.handed_of_check (trial_question applies)
  · exact Event.handed_of_aside aside

/-- A check that leaves early returns one of its own early answers. -/
theorem run_exit {early : Early W} (left : (k.run E service χ s).flow = .exit early) :
    early.Of k χ := by
  cases applies : k.trial E service χ with
  | none => rw [run_of_absent applies] at left; cases left
  | some trial =>
    rcases ruled : trial.ruling s with ⟨_ | ruling, s₁⟩
    · rw [run_of_panicked applies ruled] at left; cases left
    · rw [run_of_ruled applies ruled, Run.after_flow] at left
      cases ruling with
      | pass next => cases left
      | flag next => cases left
      | recover early =>
        cases left
        obtain ⟨-, rfl⟩ := trial_recovers applies ruled
        exact .answered .failure
      | deny early payload =>
        simp only [Check.proceed] at left
        obtain ⟨s₂, t₂, -, fired | fired⟩ := fireBlock_cases E service.layer payload s₁
        · rw [Prog.bind_pass (fired _)] at left
          cases left
          exact trial_denies applies ruled
        · rw [Prog.bind_unwound (fired _)] at left; cases left

/-- An excluded path is the one question of its call. -/
theorem run_excluded {parts : Parts W}
    (left : (k.run E service χ s).flow = .exit (.excluded parts)) :
    k = .excludePaths ∧ parts = χ.parts ∧ service.layer.excludePaths.contains χ.facts.path = true ∧
      (k.run E service χ s).trace = [⟨.excludePaths χ.facts.path, .denied⟩] := by
  cases run_exit left with
  | excluded first =>
    subst first
    refine ⟨rfl, rfl, ?_⟩
    by_cases listed : service.layer.excludePaths.contains χ.facts.path = true
    · refine ⟨listed, ?_⟩
      simp only [Check.run, Check.trial, Trial.screen, listed, if_true]
      rfl
    · -- A path that is not listed passes.
      simp only [Check.run, Check.trial, Trial.screen, listed] at left
      cases left

/-- A ruling that passes shows as one that does. -/
theorem Ruling.shows_passing {ruling : Ruling W} (passes : ruling.next? = some χ) :
    Verdict.ofRuling (some ruling) = .passed ∨ Verdict.ofRuling (some ruling) = .flagged := by
  cases ruling with
  | pass next => exact .inl rfl
  | flag next => exact .inr rfl
  | deny early payload => cases passes
  | recover early => cases passes

/-! ### The checks passed so far -/

/-- A call has passed the checks `cs`, each in whatever state the shared store was then. -/
abbrev Check.Passed (E : Engine W) (service : GuardService W) (request : Request W) :
    List Check → List (Event W) → Locals W → Prop :=
  Cleared (Check.step E service) (.start request)

/-- The whole body was read, within its cap. -/
def BodyRead (past : List (Event W)) : Prop :=
  ∃ cap unread, ⟨.bodyBuffering cap unread, .passed⟩ ∈ past

namespace Check.Passed

variable (passed : Check.Passed E service request cs past χ)

include passed

theorem of : χ.Of request :=
  passed.invariant (fun _ _ _ _ _ _ held here => held.frame (run_frame here)) ⟨rfl, rfl, rfl⟩

/-- What has been observed are questions of these checks, none of them denied. -/
theorem event {event : Event W} (member : event ∈ past) :
    (∃ k ∈ cs, event.consult.check = some k) ∧
      (event.verdict = .passed ∨ event.verdict = .flagged) := by
  obtain ⟨k, inside, χ₁, s, χ₂, s', t, here, seen⟩ := passed.observed member
  rcases run_pass_iff.mp here with ⟨-, -, -, rfl⟩ | ⟨trial, ruling, applies, -, passes, rfl⟩
  · cases seen
  · obtain rfl := List.mem_singleton.mp seen
    exact ⟨⟨k, inside, trial_question applies⟩, Ruling.shows_passing passes⟩

theorem handedOver : handedOver past = [] := by
  refine handedOver_eq_nil fun event member => ?_
  obtain ⟨⟨k, -, own⟩, -⟩ := passed.event member
  exact Event.handed_of_check own

/-- Behind the body check the whole body has been read. -/
theorem bodyRead (member : .bodyBuffering ∈ cs) : BodyRead past := by
  obtain ⟨front, earlier, χ₁, s, χ₂, s', t, -, here, ahead⟩ := passed.passed member
  rcases run_pass_iff.mp here with ⟨absent, -, -, -⟩ | ⟨trial, ruling, applies, ruled, passes, rfl⟩
  · simp only [Check.trial] at absent
    cases absent
  · simp only [Check.trial, Option.some.injEq] at applies
    split at applies <;> subst applies <;> cases ruled <;> cases passes
    exact ⟨_, _, ahead.subset (List.mem_append_right _ List.mem_cons_self)⟩

/-- Behind the body check the buffer holds the body. -/
theorem buffered (member : .bodyBuffering ∈ cs) : χ.buffered.getD [] = request.body.content := by
  induction passed with
  | nil => cases member
  | @snoc cs k past t χ χ' s s' before here ih =>
    by_cases writes : k = .bodyBuffering
    · subst writes
      rcases run_pass_iff.mp here with ⟨absent, -⟩ | ⟨trial, ruling, applies, ruled, passes, -⟩
      · simp only [Check.trial] at absent
        cases absent
      · simp only [Check.trial, Option.some.injEq] at applies
        split at applies
        next buffered unread read =>
          subst applies
          cases ruled
          cases passes
          rw [← (Check.Passed.of before).body]
          exact (bufferBody_ok read).1
        next => subst applies; cases ruled; cases passes
        next => subst applies; cases ruled; cases passes
    · rw [(run_frame here).buffered writes]
      refine ih ?_
      rcases List.mem_append.mp member with front | last
      · exact front
      · exact absurd (List.mem_singleton.mp last).symm writes

end Check.Passed

/-- A thread of the read loop holds a front of the body within its cap, and reads what the loop
does. -/
theorem bufferFrames_ensures {P : Promise (Store W) (Event W) Waiting} {cap : Nat}
    {content : Bytes} (holds : ∀ buffered, buffered.length ≤ cap → buffered <+: content →
      P.holds past (.frame cap buffered))
    (buffered : Bytes) (body : Body) (within : buffered.length ≤ cap)
    (whole : buffered ++ body.content = content) :
    (Future.bufferFrames cap buffered body : Future W ε _).Ensures P
      (fun past' flow => past' = past ∧ flow = .pass (bufferFrames cap buffered body)) past := by
  induction body generalizing buffered with
  | nil => exact ⟨rfl, rfl⟩
  | cons poll rest ih =>
    cases poll with
    | pending => exact ⟨holds buffered within ⟨_, whole⟩, ih buffered within whole⟩
    | trailers => exact ih buffered within whole
    | failed => exact ⟨rfl, rfl⟩
    | data bytes =>
      simp only [Future.bufferFrames, bufferFrames]
      split
      next => exact ⟨rfl, rfl⟩
      next fits =>
        refine ih (buffered ++ bytes) (by rw [List.length_append]; omega) ?_
        rw [List.append_assoc]
        exact whole

/-- The thread of a check ends as the check does in a state it finds. -/
theorem check_ensures {P : Promise (Store W) (Event W) Waiting}
    (acts : ∀ s, P.acts past s ((k.run E service χ s).state, (k.run E service χ s).trace))
    (holds : k = .bodyBuffering → ∀ buffered : Bytes,
      buffered.length ≤ bodyCap E service.layer χ.route → buffered <+: χ.body.content →
        P.holds past (.frame (bodyCap E service.layer χ.route) buffered)) :
    (k.future E service χ).Ensures P (fun past' flow => ∃ s,
      flow = (k.run E service χ s).flow ∧ past' = past ++ (k.run E service χ s).trace) past := by
  by_cases reads : k = .bodyBuffering
  · subst reads
    rw [run_bodyBuffering] at acts ⊢
    refine .bind (.bind ((bufferFrames_ensures (holds rfl) [] χ.body (Nat.zero_le _) rfl).mono ?_))
    rintro _ _ ⟨rfl, rfl⟩
    simp only [bodyBuffering, bufferBody] at acts ⊢
    -- What was read is judged in one step.
    revert acts
    rcases bufferFrames (bodyCap E service.layer χ.route) [] χ.body with ⟨failure | bytes, unread⟩
    · intro acts
      cases failure <;> exact ensures_atomically_iff.mpr fun s => ⟨acts s, s, rfl, rfl⟩
    · intro acts
      exact ensures_atomically_iff.mpr fun s => ⟨acts s, s, rfl, rfl⟩
  · have atomic : k.future E service χ = Thread.atomically (k.run E service χ) := by
      cases k with
      | bodyBuffering => exact absurd rfl reads
      | _ => rfl
    rw [atomic]
    exact ensures_atomically_iff.mpr fun s => ⟨acts s, s, rfl, rfl⟩

end OneCheck

/-! ### One call among others -/

section OneCall

variable (E : Engine W) (service : GuardService W) (request : Request W)

/-- What may be handed over when: the request as the checks have left it, when all of them have
passed, or the bodiless request of an excluded path. -/
inductive Admitted : List (Event W) → Request W → Prop
  | cleared {past : List (Event W)} {χ : Locals W} :
      Check.Passed E service request Check.pipeline past χ →
      Admitted past (service.inner.rebuild χ.parts χ.buffered)
  | excluded : service.layer.excludePaths.contains request.uri.path = true →
      Admitted [⟨.excludePaths request.uri.path, .denied⟩]
        (service.inner.rebuild request.toParts none)

/-- Nothing has been handed over, or what was admitted, once, with the response side behind it. -/
inductive Sound : List (Event W) → Prop
  | kept {past : List (Event W)} : handedOver past = [] → Sound past
  | handed {earlier past : List (Event W)} {r : Request W} {verdict : Verdict} :
      Admitted E service request earlier r → Behind (earlier ++ [⟨.inner r, verdict⟩]) past →
      Sound past

/-- What a step of a call can be: one check behind those it has passed, the hand-over of what is
admitted, or a step of the response side. -/
inductive GuardService.Acts : List (Event W) → Store W → Store W × List (Event W) → Prop
  | check {front rest : List Check} {k : Check} {χ : Locals W} {past : List (Event W)}
      {s : Store W} : Check.pipeline = front ++ k :: rest →
      Check.Passed E service request front past χ →
      Acts past s ((k.run E service χ s).state, (k.run E service χ s).trace)
  | inner {past : List (Event W)} {r : Request W} {verdict : Verdict} {s : Store W} :
      Admitted E service request past r →
      Acts past s ((service.inner.call r s).2, [⟨.inner r, verdict⟩])
  | response {past seen : List (Event W)} {s s' : Store W} : Sound E service request past →
      ResponseStep service.layer (· = request.client) s s' →
      (∀ event ∈ seen, event.Tells (· = request.client)) →
      Acts past s (s', seen)

/-- What a call promises the others: its steps are such, and it waits for its first poll, for the
body within the cap, or for the wrapped service. -/
def GuardService.promise : Promise (Store W) (Event W) Waiting where
  acts := service.Acts E request
  holds past
    | .poll => past = []
    | .frame cap buffered => ∃ front χ, front ++ [.bodyBuffering] <+: Check.pipeline ∧
        Check.Passed E service request front past χ ∧ cap = bodyCap E service.layer χ.route ∧
        buffered.length ≤ cap ∧ buffered <+: request.body.content
    | .inner => ∃ earlier r, Admitted E service request earlier r ∧
        past = earlier ++ [⟨.inner r, .passed⟩]

/-- How the checks end. -/
def Screened : List (Event W) → Flow (Early W) (Locals W) → Prop
  | past, .pass χ => Check.Passed E service request Check.pipeline past χ
  | past, .exit (.excluded parts) => past = [⟨.excludePaths request.uri.path, .denied⟩] ∧
      parts = request.toParts ∧ service.layer.excludePaths.contains request.uri.path = true
  | past, .exit (.answered parts _) => handedOver past = [] ∧
      parts.extensions.clientIp = request.extensions.clientIp
  | past, .unwound => handedOver past = []

variable {E service request} {past seen : List (Event W)} {r : Request W} {s s' : Store W}

theorem Admitted.fresh (admitted : Admitted E service request past r) : handedOver past = [] := by
  cases admitted with
  | cleared passed => exact passed.handedOver
  | excluded _ => rfl

theorem Admitted.parts (admitted : Admitted E service request past r) :
    r.toParts.withoutDecision = request.toParts.withoutDecision := by
  cases admitted with
  | cleared passed => exact passed.of.carried
  | excluded _ => rfl

theorem handedOver_behind {past past' : List (Event W)} (behind : Behind past past') :
    handedOver past' = handedOver past := by
  obtain ⟨later, rfl, aside⟩ := behind
  rw [handedOver_append, handedOver_eq_nil fun event member => Event.handed_of_aside
    (aside event member), List.append_nil]

theorem Admitted.handedOver {verdict : Verdict} {past' : List (Event W)}
    (admitted : Admitted E service request past r)
    (behind : Behind (past ++ [⟨.inner r, verdict⟩]) past') : handedOver past' = [r] := by
  rw [handedOver_behind behind, handedOver_append, admitted.fresh]
  rfl

theorem Sound.behind {past past' : List (Event W)} (sound : Sound E service request past)
    (behind : Behind past past') : Sound E service request past' := by
  cases sound with
  | kept none => exact .kept ((handedOver_behind behind).trans none)
  | handed admitted first => exact .handed admitted (first.trans behind)

/-- A sound call stays sound. -/
theorem GuardService.Acts.sound (acts : service.Acts E request past s (s', seen)) :
    Sound E service request (past ++ seen) := by
  cases acts with
  | check split passed =>
    exact .kept (by rw [handedOver_append, passed.handedOver, run_handedOver, List.append_nil])
  | inner admitted => exact .handed admitted (.refl _)
  | response sound step tells =>
    exact sound.behind ⟨seen, rfl, fun event member => (tells event member).aside⟩

/-- The counters move behind a body read to its end, or by handing over. -/
theorem GuardService.Acts.limits (acts : service.Acts E request past s (s', seen))
    (moved : s'.limits ≠ s.limits) : BodyRead past ∨ handedOver seen ≠ [] := by
  cases acts with
  | @check front rest k χ past s split passed =>
    -- Only a counting check moves the counters, and those are behind the body check.
    have counts : k.counting = true := by
      by_contra aside
      exact moved (run_limits (Bool.eq_false_iff.mpr aside) s)
    refine .inl (passed.bodyRead ((Check.position_lt_iff split).mp ?_))
    cases k with
    | bans => decide
    | userAgent => decide
    | rateLimit => decide
    | _ => cases counts
  | inner admitted => exact .inr (List.cons_ne_nil _ _)
  | response sound step tells =>
    exact absurd (step _ _ ((ResponseSideKeeps.limits service.layer).mono fun _ _ => trivial)) moved

/-- The response side keeps the promise. -/
theorem promise_allows (sound : Sound E service request past) :
    AllowsResponse service.layer (· = request.client) (service.promise E request) past := by
  intro past' behind s s' seen step aside
  exact .response (sound.behind behind) step aside

/-- The checks keep the promise, whatever states they find. -/
theorem screening_ensures : (Thread.checklist (Check.future E service) Check.pipeline
    (.start request)).Ensures (service.promise E request) (Screened E service request) [] := by
  refine .checklist (I := fun rest χ past => ∃ front, Check.pipeline = front ++ rest ∧
    Check.Passed E service request front past χ) ?_ ?_ ⟨[], rfl, .nil⟩
  · rintro k rest χ past ⟨front, split, passed⟩
    refine (check_ensures (fun s => GuardService.Acts.check split passed) ?_).mono ?_
    · rintro rfl buffered within ahead
      rw [passed.of.body] at ahead
      exact ⟨front, χ, ⟨rest, by rw [split, List.append_assoc]; rfl⟩, passed, rfl, within, ahead⟩
    · rintro _ flow ⟨s, rfl, rfl⟩
      have unmoved : handedOver (past ++ (k.run E service χ s).trace) = [] := by
        rw [handedOver_append, passed.handedOver, run_handedOver, List.append_nil]
      rcases ran : k.run E service χ s with ⟨χ' | early | _, s', t⟩ <;> rw [ran] at unmoved
      · exact ⟨front ++ [k], by rw [split, List.append_assoc]; rfl, passed.snoc ran⟩
      · cases early with
        | answered parts answer =>
          refine ⟨unmoved, ?_⟩
          obtain ⟨client⟩ := run_exit (congrArg Run.flow ran)
          exact passed.of.client.2
        | excluded parts =>
          obtain ⟨rfl, rfl, listed, asked⟩ := run_excluded (congrArg Run.flow ran)
          -- The path is asked about first, with nothing observed yet.
          have first : front.length = 0 := (Check.position_of_split split).symm
          obtain rfl := List.length_eq_zero_iff.mp first
          obtain ⟨rfl, rfl⟩ := cleared_nil_iff.mp passed
          rw [ran] at asked
          obtain rfl : t = _ := asked
          exact ⟨rfl, rfl, listed⟩
      · exact unmoved
  · rintro χ past ⟨front, split, passed⟩
    rw [List.append_nil] at split
    rw [← split] at passed
    exact passed

/-- A forward of what is admitted keeps the promise. -/
theorem forward_ensures {parts : Parts W} {buffered : Option Bytes}
    (admitted : Admitted E service request past (service.inner.rebuild parts buffered)) :
    (Future.forward E service.layer (.extract request.toParts) parts buffered service.inner :
      Future W Empty _).Ensures (service.promise E request) (fun _ _ => True) past := by
  refine .bind (ensures_atomically_iff.mpr fun s => ?_)
  have hands (verdict : Verdict) : service.Acts E request past s
      ((service.inner.call (service.inner.rebuild parts buffered) s).2, [⟨.inner _, verdict⟩]) :=
    .inner admitted
  rcases called : service.inner.call (service.inner.rebuild parts buffered) s with
    ⟨_ | answer, s'⟩ <;> rw [called] at hands
  · -- The wrapped service panicked, with the request in its hands.
    rw [Prog.ask_unwound called]
    exact ⟨hands .panicked, trivial⟩
  · rw [Prog.ask_pass called]
    refine ⟨hands .passed, ⟨past, _, admitted, rfl⟩, ?_⟩
    · have told : (RequestFacts.extract request.toParts).ipString = request.client := rfl
      exact (passForwarded_aside E service.layer told answer _ _
        (promise_allows (.handed admitted (.refl _)))).mono fun _ _ _ => trivial

/-- A call keeps its promise, whatever goes on around it. -/
theorem future_ensures : (service.future E request).Ensures (service.promise E request)
    (fun _ _ => True) [] := by
  refine ⟨rfl, screening_ensures.settle ?_ ?_ fun past unwound => trivial⟩
  · intro past χ passed
    exact forward_ensures (.cleared passed)
  · intro past early left
    cases early with
    | excluded parts =>
      obtain ⟨rfl, rfl, listed⟩ := left
      exact forward_ensures (.excluded listed)
    | answered parts answer =>
      obtain ⟨unmoved, client⟩ := left
      refine .bind ((render_aside E service.layer ?_ answer _ _
        (promise_allows (.kept unmoved))).mono ?_)
      · simp only [RequestBits.fromParts, client, Request.client]
      · rintro past' flow -
        cases flow <;> trivial

end OneCall

/-! ### How many steps a call takes -/

section Steps

variable (E : Engine W) (layer : GuardLayer W)

/-- The polls of a body that find it pending. -/
def Body.pendings (body : Body) : Nat := body.count .pending

theorem bufferFrames_within (cap : Nat) (buffered : Bytes) (body : Body) :
    (Future.bufferFrames cap buffered body : Future W ε _).Within body.pendings := by
  induction body generalizing buffered with
  | nil => trivial
  | cons poll rest ih =>
    cases poll with
    | pending =>
      simp only [Body.pendings, List.count_cons_self]
      exact ih buffered
    | trailers => exact (ih buffered).mono (List.count_le_count_cons ..)
    | failed => trivial
    | data bytes =>
      simp only [Future.bufferFrames]
      split
      · trivial
      · exact (ih _).mono (List.count_le_count_cons ..)

theorem bodyBuffering_within (parts : Parts W) (body : Body) (route : Option (RouteConfig W)) :
    (Future.bodyBuffering E layer parts body route).Within (body.pendings + 1) := by
  refine .bind (bufferFrames_within _ _ _) fun read => ?_
  rcases read with ⟨failure | buffered, unread⟩
  · cases failure <;> exact within_atomically _
  · exact within_atomically _

theorem runModifier_within (input : RequestBits) (bits : ResponseBits) :
    (Future.runModifier layer input bits : Future W ε _).Within 2 := by
  unfold Future.runModifier
  split
  · trivial
  · refine .bind (m := 1) (n := 1) (within_atomically _) fun answer => ?_
    split
    · trivial
    · split
      · exact .bind (n := 0) (within_atomically _) fun _ => trivial
      · trivial

theorem applyResponseProcessor_within (input : RequestBits) (status : Nat) (headers : HeaderMap)
    (lane : ResponseLane) :
    (Future.applyResponseProcessor E layer input status headers lane : Future W ε _).Within 4 := by
  unfold Future.applyResponseProcessor
  split
  · trivial
  · refine .bind (m := 1) (n := 3) (within_atomically _) fun answer => ?_
    refine .bind (m := 1) (n := 2) (within_atomically _) fun _ => ?_
    exact .bind (n := 0) (runModifier_within layer input _) fun _ => trivial

theorem passGenerated_within (parts : Parts W) (generated : Generated) :
    (Future.passGenerated E layer parts generated : Future W ε _).Within 4 :=
  .bind (n := 0) (applyResponseProcessor_within E layer _ _ _ _) fun _ => trivial

theorem finishGenerated_within (parts : Parts W) (generated : Generated) :
    (Future.finishGenerated E layer parts generated : Future W ε _).Within 4 :=
  .bind (n := 0) (passGenerated_within E layer parts generated) fun _ => trivial

theorem shaped_within {α : Type} {n : Nat} {finish : Generated → Future W ε α}
    (generated : Option Generated) (within : ∀ generated, (finish generated).Within n) :
    (Future.shaped generated finish).Within n := by
  cases generated with
  | none => trivial
  | some generated => exact within generated

/-- The gate's denial takes the response-side pass twice, and no answer more. -/
theorem render_within (parts : Parts W) (answer : Answer) :
    (Future.render E layer parts answer : Future W ε _).Within 8 := by
  have once : ∀ generated, (Future.finishGenerated E layer parts generated :
      Future W ε _).Within 8 := fun generated =>
    (finishGenerated_within E layer parts generated).mono (by omega)
  cases answer with
  | preflight answer => exact shaped_within _ fun _ => trivial
  | block status body => exact shaped_within _ once
  | gate body =>
    unfold Future.render
    refine shaped_within _ fun generated => ?_
    exact .bind (n := 4) (passGenerated_within E layer parts generated) fun denial =>
      finishGenerated_within E layer parts denial
  | stage response => exact once _
  | redirect answer => exact shaped_within _ once
  | oversize => exact once _
  | failure => exact once _

theorem forward_within (facts : RequestFacts) (parts : Parts W) (buffered : Option Bytes)
    (inner : InnerService W) :
    (Future.forward E layer facts parts buffered inner : Future W ε _).Within 8 := by
  refine Within.mono (m := 1 + (5 + 1)) (.bind (within_atomically _) fun answer => ?_) (by omega)
  cases answer with
  | error error => trivial
  | ok response =>
    exact .bind (n := 1) (applyResponseProcessor_within E layer _ _ _ _) fun _ => trivial

theorem conclude_within (service : GuardService W) (facts : RequestFacts) (early : Early W) :
    (Future.conclude E service facts early : Future W ε _).Within 8 := by
  cases early with
  | excluded parts => exact forward_within E service.layer facts parts none service.inner
  | answered parts answer =>
    exact .bind (n := 0) (render_within E service.layer parts answer) fun _ => trivial

/-- The most steps a request's call takes: the first poll, one for each check, one for each poll
that finds the body pending, and eight for the answer. -/
def Request.steps (request : Request W) : Nat := request.body.pendings + 38

/-- The most steps one check takes. -/
def Request.checkSteps (request : Request W) : Check → Nat
  | .bodyBuffering => request.body.pendings + 1
  | _ => 1

theorem check_within (service : GuardService W) {request : Request W} {χ : Locals W}
    (own : χ.body = request.body) (k : Check) :
    (k.future E service χ).Within (request.checkSteps k) := by
  cases k with
  | bodyBuffering =>
    refine .bind (n := 0) ?_ fun _ => trivial
    rw [own]
    exact bodyBuffering_within E service.layer _ _ _
  | _ => exact within_atomically _

theorem future_within (service : GuardService W) (request : Request W) :
    (service.future E request).Within request.steps := by
  have each : ∀ (k : Check) (χ : Locals W), χ.body = request.body →
      (k.future E service χ).Within (request.checkSteps k) ∧
      (k.future E service χ).Ensures .vacuous (onward (fun _ χ' => χ'.body = request.body)
        fun _ (_ : Flow (Early W) (Locals W)) => True) [] := by
    intro k χ own
    refine ⟨check_within E service own k, ?_⟩
    refine (check_ensures (fun _ => trivial) fun _ _ _ _ => trivial).mono ?_
    rintro past flow ⟨s, rfl, -⟩
    rcases ran : k.run E service χ s with ⟨χ' | early | _, s', t⟩
    · exact (run_frame ran).body.trans own
    · trivial
    · trivial
  have total : Check.pipeline.foldr (request.checkSteps · + ·) 0 = request.body.pendings + 29 := by
    simp only [Check.pipeline, Request.checkSteps, List.foldr_cons, List.foldr_nil]
    omega
  have steps : request.steps = Check.pipeline.foldr (request.checkSteps · + ·) 0 + 8 + 1 := by
    rw [total]
    unfold Request.steps
    omega
  rw [steps]
  unfold GuardService.future
  exact .wait ((Within.checklist each rfl).settle
    (fun χ => forward_within E service.layer _ _ _ service.inner) (conclude_within E service _))

end Steps

end TowerGuard
