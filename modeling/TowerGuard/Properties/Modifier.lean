import TowerGuard.Headers
import TowerGuard.Rendering
import TowerGuard.Engine.Bench

/-!
# The response modifier

What the modifier is handed, and what becomes of its answer. A panic is recovered from the view
the processor rendered, and reported to a hook that is itself not recovered from. An answer is
merged into headers the modifier has not seen.
-/

namespace TowerGuard

open Text Traced

variable {W : World} {ε : Type}

/-! ### The view -/

/-- The pass up to the modifier's turn: the view the processor rendered. -/
def renderedView (E : Engine W) (layer : GuardLayer W) (processor : ResponseProcessor W)
    (input : RequestBits) (status : Nat) (lane : ResponseLane) :
    Prog (Store W) (Event W) ε ResponseBits := do
  let now ← Prog.reads fun s => E.now s.other
  let (bits, _action) ← Prog.ask (fun answer => ⟨.process input status, .ofAction answer⟩)
    (onOther (processor.process input { status, body := none, headers := [] } now))
  emitHeadersAppliedEvent E layer processor input lane
  pure bits

/-- What the pass makes of a view. -/
def ResponseBits.land (bits : ResponseBits) (status : Nat) (headers : HeaderMap) :
    Option Nat × HeaderMap :=
  (if bits.status ≠ status then some bits.status else none, mergeHeaders headers bits.headers)

section View

variable {E : Engine W} {layer : GuardLayer W} {processor : ResponseProcessor W}
  {input : RequestBits} {status : Nat} {headers : HeaderMap} {lane : ResponseLane}
  {bits : ResponseBits} {s s₁ : Store W} {t : List (Event W)}

theorem applyResponseProcessor_eq (installed : layer.responseProcessor = some processor) :
    (applyResponseProcessor E layer input status headers lane :
        Prog (Store W) (Event W) ε (Option Nat × HeaderMap)) =
      renderedView E layer processor input status lane >>= fun bits =>
        runModifier layer input bits >>= fun modified => pure (modified.land status headers) := by
  unfold applyResponseProcessor renderedView
  rw [installed]
  simp only [bind_assoc, pure_bind]
  rfl

variable (headers) in
/-- From a rendered view the pass goes on with the modifier's turn. -/
theorem applyResponseProcessor_of_view (installed : layer.responseProcessor = some processor)
    (rendered : (renderedView E layer processor input status lane :
      Prog (Store W) (Event W) ε ResponseBits) s = ⟨.pass bits, s₁, t⟩) :
    (applyResponseProcessor E layer input status headers lane :
        Prog (Store W) (Event W) ε (Option Nat × HeaderMap)) s =
      ((runModifier layer input bits >>= fun modified => pure (modified.land status headers) :
        Prog (Store W) (Event W) ε (Option Nat × HeaderMap)) s₁).after t := by
  rw [applyResponseProcessor_eq installed, Prog.bind_pass rendered]

variable (headers) in
/-- Without a modifier the view lands as it is. -/
theorem applyResponseProcessor_unmodified (installed : layer.responseProcessor = some processor)
    (rendered : (renderedView E layer processor input status lane :
      Prog (Store W) (Event W) ε ResponseBits) s = ⟨.pass bits, s₁, t⟩) :
    (applyResponseProcessor E { layer with responseModifier := none } input status headers lane :
        Prog (Store W) (Event W) ε (Option Nat × HeaderMap)) s =
      ⟨.pass (bits.land status headers), s₁, t⟩ := by
  have same : (renderedView E { layer with responseModifier := none } processor input status lane :
      Prog (Store W) (Event W) ε ResponseBits) = renderedView E layer processor input status lane :=
    rfl
  have bare : ({ layer with responseModifier := none } : GuardLayer W).responseProcessor =
      some processor := installed
  rw [applyResponseProcessor_of_view headers bare (same ▸ rendered), runModifier, pure_bind,
    Prog.pure_run, Run.after, List.append_nil]

end View

/-! ### The modifier's turn -/

/-- The report of a panicking modifier to the hook. -/
def GuardLayer.report (layer : GuardLayer W) (input : RequestBits) :
    Prog (Store W) (Event W) ε Unit :=
  match layer.onError with
  | some hook => notify .onError (hook "custom_response_modifier"
      "the response modifier panicked; returning unmodified response" [("path", input.urlPath)])
  | none => pure ()

section Turn

variable {layer : GuardLayer W} {modifier : ResponseModifierFn W} {input : RequestBits}
  {bits modified : ResponseBits} {s : Store W} {o : W.Other}

theorem runModifier_of_return (installed : layer.responseModifier = some modifier)
    (returned : modifier bits s.other = (some modified, o)) :
    (runModifier layer input bits : Prog (Store W) (Event W) ε ResponseBits) s =
      ⟨.pass modified, { s with other := o }, [⟨.responseModifier, .passed⟩]⟩ := by
  unfold runModifier
  rw [installed]
  dsimp only
  rw [Prog.bind_pass (Prog.caught_pass (notify_pass returned))]
  rfl

theorem runModifier_of_panic (installed : layer.responseModifier = some modifier)
    (panicked : modifier bits s.other = (none, o)) :
    (runModifier layer input bits : Prog (Store W) (Event W) ε ResponseBits) s =
      ((layer.report input >>= fun _ => pure bits : Prog (Store W) (Event W) ε ResponseBits)
        { s with other := o }).after [⟨.responseModifier, .panicked⟩] := by
  unfold runModifier GuardLayer.report
  rw [installed]
  dsimp only
  rw [Prog.bind_pass (Prog.caught_unwound (notify_unwound panicked))]
  cases layer.onError <;> rfl

end Turn

/-! ### Modifiers that write in place -/

variable (W) in
/-- A modifier as the source calls it. It writes the view in place, and what it has written is
there whether it returns or panics. -/
def InPlaceModifier := ResponseBits → W.Other → (Option Unit × ResponseBits) × W.Other

namespace InPlaceModifier

variable (modifier : InPlaceModifier W)

def asFn : ResponseModifierFn W := fun bits s =>
  match modifier bits s with
  | ((some (), written), s') => (some written, s')
  | ((none, _), s') => (none, s')

def panics (bits : ResponseBits) (s : W.Other) : Prop := (modifier bits s).1.1 = none

/-- The turn of such a modifier, with the copy the source restores the view from. -/
def run (layer : GuardLayer W) (input : RequestBits) (bits : ResponseBits) :
    Prog (Store W) (Event W) ε ResponseBits := do
  let unmodified := bits
  let (outcome, written) ← Prog.ask
    (fun answer => ⟨.responseModifier,
      if (answer.bind Prod.fst).isSome then .passed else .panicked⟩)
    (onOther fun s => (some (modifier bits s).1, (modifier bits s).2))
  match outcome with
  | some () => pure written
  | none =>
    -- What the modifier wrote before it panicked is dropped with the view.
    layer.report input
    pure unmodified

/-- The turn does not depend on what the modifier has written when it panics. -/
theorem run_eq {layer : GuardLayer W} (installed : layer.responseModifier = some modifier.asFn)
    (input : RequestBits) (bits : ResponseBits) :
    (modifier.run layer input bits : Prog (Store W) (Event W) ε ResponseBits) =
      runModifier layer input bits := by
  funext s
  rcases wrote : modifier bits s.other with ⟨outcome, o⟩
  have answered : (onOther fun s => (some (modifier bits s).1, (modifier bits s).2)) s =
      (some outcome, { s with other := o }) := by
    simp only [onOther, wrote]
  unfold run
  rw [Prog.bind_pass (Prog.ask_pass answered)]
  rcases outcome with ⟨_ | _, written⟩
  · have panicked : modifier.asFn bits s.other = (none, o) := by simp only [asFn, wrote]
    rw [runModifier_of_panic installed panicked]
    rfl
  · have returned : modifier.asFn bits s.other = (some written, o) := by simp only [asFn, wrote]
    rw [runModifier_of_return installed returned]
    rfl

end InPlaceModifier

/-! ### A failing modifier -/

def Event.isOnError : Event W → Bool
  | ⟨.onError, _⟩ => true
  | _ => false

/-- The hook returns when the panic of the modifier is reported to it. -/
def GuardLayer.HookReturns (layer : GuardLayer W) (input : RequestBits) (s : W.Other) : Prop :=
  ∀ hook, layer.onError = some hook → (hook "custom_response_modifier"
    "the response modifier panicked; returning unmodified response"
    [("path", input.urlPath)] s).1.isSome = true

section Failing

variable {E : Engine W} {layer : GuardLayer W} {processor : ResponseProcessor W}
  {modifier : InPlaceModifier W} {input : RequestBits} {status : Nat} {headers : HeaderMap}
  {lane : ResponseLane} {bits : ResponseBits} {s s₁ : Store W} {t : List (Event W)}

/-- Nothing is reported to the hook before the modifier's turn. -/
theorem renderedView_reports (rendered : (renderedView E layer processor input status lane :
    Prog (Store W) (Event W) ε ResponseBits) s = ⟨.pass bits, s₁, t⟩) :
    t.countP Event.isOnError = 0 := by
  have silent : Prog.Emits (fun event => event.isOnError = false)
      (renderedView E layer processor input status lane :
        Prog (Store W) (Event W) ε ResponseBits) := by
    refine .bind .reads fun now => .bind (.ask fun _ => rfl) fun answer => .bind ?_ fun _ => .pure
    unfold emitHeadersAppliedEvent
    split
    · split
      · exact notify_emits fun _ => rfl
      · exact .pure
    · exact .pure
  rw [List.countP_eq_zero]
  intro event member
  have seen := silent s event (by rw [rendered]; exact member)
  simp [seen]

variable (ε) in
/-- The report is made once where a hook is installed, and passes where the hook returns. -/
theorem report_run (layer : GuardLayer W) (input : RequestBits) (s : Store W) :
    (layer.report input s : Run (Store W) (Event W) ε Unit).trace.countP Event.isOnError =
        (if layer.onError.isSome then 1 else 0) ∧
      ((∃ s' t, (layer.report input s : Run (Store W) (Event W) ε Unit) = ⟨.pass (), s', t⟩) ↔
        layer.HookReturns input s.other) := by
  unfold GuardLayer.report GuardLayer.HookReturns
  cases layer.onError with
  | none => exact ⟨rfl, iff_of_true ⟨s, [], rfl⟩ (by simp)⟩
  | some hook =>
    rcases said : hook "custom_response_modifier"
      "the response modifier panicked; returning unmodified response"
      [("path", input.urlPath)] s.other with ⟨_ | _, o⟩
    · simp [notify_unwound said, said, Event.isOnError]
    · simp [notify_pass said, said, Event.isOnError]

variable (headers) in
/-- What the pass does when the modifier it comes to panics: it reports, and lands the view. -/
theorem applyResponseProcessor_of_panic (installed : layer.responseProcessor = some processor)
    (modifies : layer.responseModifier = some modifier.asFn)
    (rendered : (renderedView E layer processor input status lane :
      Prog (Store W) (Event W) ε ResponseBits) s = ⟨.pass bits, s₁, t⟩)
    (panicked : modifier.panics bits s₁.other) :
    (applyResponseProcessor E layer input status headers lane :
        Prog (Store W) (Event W) ε (Option Nat × HeaderMap)) s =
      ((layer.report input >>= fun _ => pure (bits.land status headers) :
        Prog (Store W) (Event W) ε (Option Nat × HeaderMap))
        { s₁ with other := (modifier bits s₁.other).2 }).after
          (t ++ [⟨.responseModifier, .panicked⟩]) := by
  have answered : modifier.asFn bits s₁.other = (none, (modifier bits s₁.other).2) := by
    rcases wrote : modifier bits s₁.other with ⟨⟨_ | _, written⟩, o⟩
    · simp only [InPlaceModifier.asFn, wrote]
    · simp [InPlaceModifier.panics, wrote] at panicked
  rw [applyResponseProcessor_of_view headers installed rendered,
    Prog.bind_after (runModifier_of_panic modifies answered), Run.after_after, bind_assoc]
  simp only [pure_bind]

variable (headers) in
/-- What the pass does when the modifier returns. -/
theorem applyResponseProcessor_of_return (installed : layer.responseProcessor = some processor)
    (modifies : layer.responseModifier = some modifier.asFn)
    (rendered : (renderedView E layer processor input status lane :
      Prog (Store W) (Event W) ε ResponseBits) s = ⟨.pass bits, s₁, t⟩)
    (returned : ¬modifier.panics bits s₁.other) :
    (applyResponseProcessor E layer input status headers lane :
        Prog (Store W) (Event W) ε (Option Nat × HeaderMap)) s =
      ⟨.pass ((modifier bits s₁.other).1.2.land status headers),
        { s₁ with other := (modifier bits s₁.other).2 },
        t ++ [⟨.responseModifier, .passed⟩]⟩ := by
  have answered : modifier.asFn bits s₁.other =
      (some (modifier bits s₁.other).1.2, (modifier bits s₁.other).2) := by
    rcases wrote : modifier bits s₁.other with ⟨⟨_ | _, written⟩, o⟩
    · exact absurd (by simp [InPlaceModifier.panics, wrote]) returned
    · simp only [InPlaceModifier.asFn, wrote]
  rw [applyResponseProcessor_of_view headers installed rendered,
    Prog.bind_pass (runModifier_of_return modifies answered)]
  rfl

end Failing

/-- A panic of the modifier does not show: the pass returns what it returns without a modifier,
and the installed hook is called once, and only then. -/
structure PanicInvisible (E : Engine W) (layer : GuardLayer W) (input : RequestBits)
    (status : Nat) (headers : HeaderMap) (lane : ResponseLane) (s : Store W) (panicked : Prop) :
    Prop where
  lands : panicked → ∃ landed : Option Nat × HeaderMap,
    (applyResponseProcessor E { layer with responseModifier := none } input status headers lane s :
        Run _ (Event W) Empty _).flow = .pass landed ∧
    (applyResponseProcessor E layer input status headers lane s : Run _ (Event W) Empty _).flow =
      .pass landed
  reports : panicked →
    (applyResponseProcessor E layer input status headers lane s :
        Run _ (Event W) Empty _).trace.countP Event.isOnError =
      if layer.onError.isSome then 1 else 0
  silent : ¬panicked →
    (applyResponseProcessor E layer input status headers lane s :
        Run _ (Event W) Empty _).trace.countP Event.isOnError = 0

/-- A panic of the modifier does not show exactly when the hook it is reported to returns. -/
theorem modifier_panic_invisible_iff (E : Engine W) (layer : GuardLayer W)
    (processor : ResponseProcessor W) (modifier : InPlaceModifier W) (input : RequestBits)
    (status : Nat) (headers : HeaderMap) (lane : ResponseLane) (bits : ResponseBits)
    (s s₁ : Store W) (t : List (Event W))
    (installed : layer.responseProcessor = some processor)
    (modifies : layer.responseModifier = some modifier.asFn)
    (rendered : (renderedView E layer processor input status lane :
      Prog (Store W) (Event W) Empty ResponseBits) s = ⟨.pass bits, s₁, t⟩) :
    PanicInvisible E layer input status headers lane s (modifier.panics bits s₁.other) ↔
      (modifier.panics bits s₁.other →
        layer.HookReturns input (modifier bits s₁.other).2) := by
  have before := renderedView_reports rendered
  have unmodified := applyResponseProcessor_unmodified headers installed rendered
  obtain ⟨once, returns⟩ := report_run Empty layer input
    { s₁ with other := (modifier bits s₁.other).2 }
  by_cases panicked : modifier.panics bits s₁.other
  · have ran := applyResponseProcessor_of_panic headers installed modifies rendered panicked
    constructor
    · intro invisible _
      obtain ⟨landed, -, leaves⟩ := invisible.lands panicked
      rw [ran, Run.after_flow] at leaves
      obtain ⟨_, s₂, t₂, _, reported, -, -⟩ := Prog.bind_pass_iff.mp (Run.of_flow leaves)
      exact returns.mp ⟨s₂, t₂, reported⟩
    · intro hook
      obtain ⟨s₂, t₂, reported⟩ := returns.mpr (hook panicked)
      refine ⟨fun _ => ⟨bits.land status headers, by rw [unmodified], ?_⟩, fun _ => ?_,
        fun here => absurd panicked here⟩
      · rw [ran, Prog.bind_pass reported]
        rfl
      · rw [ran, Run.after_trace, Prog.bind_pure_trace, List.countP_append, List.countP_append,
          before, once]
        simp [Event.isOnError]
  · refine iff_of_true ⟨fun here => absurd here panicked, fun here => absurd here panicked,
      fun _ => ?_⟩ fun here => absurd here panicked
    rw [applyResponseProcessor_of_return headers installed modifies rendered panicked]
    simp [before, Event.isOnError]

/-- The view of a 200 with one security header. -/
def sniffView : ResponseBits where
  status := 200
  body := none
  headers := [("x-content-type-options", "nosniff")]

def sniffProcessor : ResponseProcessor Bench.world :=
  { Bench.responseProcessor Bench.plainProcessor with
    process := fun _ bits _ =>
      Call.returning ({ bits with headers := sniffView.headers }, none) }

/-- A modifier that drops the rendered fields and panics. -/
def dropping : InPlaceModifier Bench.world := fun bits s =>
  ((none, { bits with headers := [] }), s)

def droppingLayer (hook : OnErrorHook Bench.world) : GuardLayer Bench.world :=
  ((Bench.layer.withResponseProcessor sniffProcessor).withCustomResponseModifier
    dropping.asFn).withOnError hook

def itemsInput : RequestBits where
  method := "GET"
  urlPath := "/items"
  clientIp := "192.0.2.41"
  origin := none

/-- Where the hook returns the panic does not show. -/
theorem dropping_invisible :
    PanicInvisible Bench.engine (droppingLayer fun _ _ _ => Call.returning ()) itemsInput 200 []
      .forwarded Bench.start (dropping.panics sniffView Bench.start.other) :=
  (modifier_panic_invisible_iff Bench.engine (droppingLayer fun _ _ _ => Call.returning ())
    sniffProcessor dropping itemsInput 200 [] .forwarded sniffView Bench.start Bench.start _ rfl rfl
    rfl).mpr (by rintro - _ ⟨⟩; rfl)

/-- A hook that panics takes the whole pass with it. -/
theorem panicking_hook_visible :
    ¬PanicInvisible Bench.engine (droppingLayer fun _ _ _ s => (none, s)) itemsInput 200 []
      .forwarded Bench.start (dropping.panics sniffView Bench.start.other) := by
  intro invisible
  obtain ⟨landed, -, leaves⟩ := invisible.lands rfl
  cases leaves

/-! ### Modifiers that are a function -/

/-- What a modifier makes of a status and a header map. -/
abbrev HeaderMap.Change := Nat × HeaderMap → Nat × HeaderMap

/-- The modifier makes of every view what `change` does of its status and its fields. -/
def ResponseModifierFn.Applies (modifier : ResponseModifierFn W) (change : HeaderMap.Change) :
    Prop :=
  ∀ bits s, ∃ written, modifier bits s = (some written, s) ∧
    written.status = (change (bits.status, mergeHeaders [] bits.headers)).1 ∧
    ∀ name, (mergeHeaders [] written.headers).getAll name =
      (change (bits.status, mergeHeaders [] bits.headers)).2.getAll name

/-- The status is an HTTP status whatever the response. -/
def HeaderMap.Change.InRange (change : HeaderMap.Change) : Prop :=
  ∀ response, (StatusCode.fromU16 (change response).1).isSome = true

/-- On this response the change comes to the same on the rendered fields alone, its fields laid
over those of the response. -/
structure HeaderMap.Change.SeesRendered (change : HeaderMap.Change) (own : StatusCode)
    (fields : HeaderMap) (rendered : List (String × String)) : Prop where
  status : (change (own.asU16, mergeHeaders fields rendered)).1 =
    ((StatusCode.fromU16 (change (own.asU16, mergeHeaders [] rendered)).1).getD own).asU16
  headers : ∀ name, (change (own.asU16, mergeHeaders fields rendered)).2.getAll name =
    if (change (own.asU16, mergeHeaders [] rendered)).2.getAll name = [] then fields.getAll name
    else (change (own.asU16, mergeHeaders [] rendered)).2.getAll name

/-- The response has this status, and under every name these values. -/
def Response.Is (response : Response W) (result : Nat × HeaderMap) : Prop :=
  response.status.asU16 = result.1 ∧ ∀ name, response.headers.getAll name = result.2.getAll name

/-- A processor that leaves the status of the view alone. -/
def ResponseProcessor.KeepsStatus (processor : ResponseProcessor W) : Prop :=
  ∀ request bits now s answer, (processor.process request bits now s).1 = some answer →
    answer.1.status = bits.status

/-- A status that is set, or kept, is the one the response leaves with where it can be one. -/
theorem overrideStatus_land (status : StatusCode) (bits : ResponseBits) (headers : HeaderMap) :
    overrideStatus status (bits.land status.asU16 headers).1 =
      (StatusCode.fromU16 bits.status).getD status := by
  unfold overrideStatus ResponseBits.land
  by_cases kept : bits.status = status.asU16
  · simp [kept, StatusCode.fromU16_asU16]
  · simp [kept]

section Applied

variable {E : Engine W} {layer : GuardLayer W} {processor : ResponseProcessor W}
  {modifier : ResponseModifierFn W} {change : HeaderMap.Change} {input : RequestBits}
  {status : StatusCode} {headers : HeaderMap} {lane : ResponseLane} {bits : ResponseBits}
  {s s₁ : Store W} {t : List (Event W)}

theorem renderedView_status (keeps : processor.KeepsStatus) {status : Nat} :
    Prog.Yields (fun bits => bits.status = status)
      (renderedView E layer processor input status lane :
        Prog (Store W) (Event W) ε ResponseBits) := by
  refine .bind .any fun now _ => .bind (P := fun answer => answer.1.status = status)
    (.ask fun s answer said => ?_) fun answer kept => .bind .any fun _ _ => .pure kept
  exact keeps input _ now s.other answer said

variable (headers) in
/-- What leaves is the change made on the rendered fields alone, laid over the response. -/
theorem applyResponseProcessor_of_change (installed : layer.responseProcessor = some processor)
    (keeps : processor.KeepsStatus) (applies : modifier.Applies change)
    (rendered : (renderedView E layer processor input status.asU16 lane :
      Prog (Store W) (Event W) ε ResponseBits) s = ⟨.pass bits, s₁, t⟩) :
    ∃ written : ResponseBits,
      (applyResponseProcessor E (layer.withCustomResponseModifier modifier) input status.asU16
          headers lane : Prog (Store W) (Event W) ε (Option Nat × HeaderMap)) s =
        ⟨.pass (written.land status.asU16 headers), s₁, t ++ [⟨.responseModifier, .passed⟩]⟩ ∧
      written.status = (change (status.asU16, mergeHeaders [] bits.headers)).1 ∧
      ∀ name, (mergeHeaders [] written.headers).getAll name =
        (change (status.asU16, mergeHeaders [] bits.headers)).2.getAll name := by
  have same : (renderedView E (layer.withCustomResponseModifier modifier) processor input
      status.asU16 lane : Prog (Store W) (Event W) ε ResponseBits) =
    renderedView E layer processor input status.asU16 lane := rfl
  have own : bits.status = status.asU16 := renderedView_status keeps _ _ _ _ rendered
  obtain ⟨written, answered, set_, put⟩ := applies bits s₁.other
  rw [own] at set_ put
  refine ⟨written, ?_, set_, put⟩
  have there : (layer.withCustomResponseModifier modifier).responseProcessor = some processor :=
    installed
  rw [applyResponseProcessor_of_view headers there (same ▸ rendered),
    Prog.bind_pass (runModifier_of_return rfl answered)]
  rfl

/-- It is what the change makes of the whole response exactly when that comes to the same. -/
theorem leaves_iff {written : ResponseBits} {response : Response W}
    (status_ : response.status = (StatusCode.fromU16 written.status).getD status)
    (headers_ : response.headers = mergeHeaders headers written.headers)
    (set_ : written.status = (change (status.asU16, mergeHeaders [] bits.headers)).1)
    (put : ∀ name, (mergeHeaders [] written.headers).getAll name =
      (change (status.asU16, mergeHeaders [] bits.headers)).2.getAll name) :
    response.Is (change (status.asU16, mergeHeaders headers bits.headers)) ↔
      change.SeesRendered status headers bits.headers := by
  have laid : ∀ name, response.headers.getAll name =
      if (change (status.asU16, mergeHeaders [] bits.headers)).2.getAll name = [] then
        headers.getAll name
      else (change (status.asU16, mergeHeaders [] bits.headers)).2.getAll name := by
    intro name
    rw [headers_, HeaderMap.getAll_mergeHeaders, put]
  constructor
  · rintro ⟨left, fields⟩
    rw [status_, set_] at left
    exact ⟨left.symm, fun name => (fields name).symm.trans (laid name)⟩
  · rintro ⟨left, fields⟩
    refine ⟨?_, fun name => (laid name).trans (fields name).symm⟩
    rw [status_, set_]
    exact left.symm

/-- Every change comes to the same where the response has no fields of its own, and only there. -/
theorem all_changes_iff {leaves : ResponseModifierFn W → HeaderMap.Change → Prop}
    {rendered : List (String × String)}
    (each : ∀ modifier change, ResponseModifierFn.Applies modifier change →
      (leaves modifier change ↔ change.SeesRendered status headers rendered)) :
    (∀ modifier change, ResponseModifierFn.Applies modifier change → change.InRange →
      leaves modifier change) ↔ headers = [] := by
  constructor
  · intro all
    -- A change that leaves nothing but a status cannot take away the response's own fields.
    have applies : ResponseModifierFn.Applies (W := W)
        (fun bits => Call.returning { bits with status := 200, headers := [] })
        (fun _ => (200, [])) :=
      fun bits s => ⟨_, rfl, rfl, fun _ => rfl⟩
    have sees := (each _ _ applies).mp (all _ _ applies fun _ => rfl)
    exact HeaderMap.eq_nil_of_getAll fun name => (sees.headers name).symm
  · rintro rfl modifier change applies range
    refine (each modifier change applies).mpr ⟨?_, fun name => ?_⟩
    · obtain ⟨code, converts⟩ := Option.isSome_iff_exists.mp
        (range (status.asU16, mergeHeaders [] rendered))
      rw [converts, Option.getD_some, StatusCode.asU16_fromU16 converts]
    · split
      next absent => exact absent
      next => rfl

end Applied

/-! ### What leaves -/

/-- The response of the wrapped service leaves as this result. -/
def ForwardLeaves (E : Engine W) (layer : GuardLayer W) (facts : RequestFacts)
    (answered : InnerResponse W) (s : Store W) (result : Nat × HeaderMap) : Prop :=
  ∃ response, (passForwarded E layer facts (.ok answered) s : Run _ (Event W) Empty _).flow =
    .pass (.ok response) ∧ response.Is result

/-- The guard's answer leaves as this result. -/
def AnswerLeaves (E : Engine W) (layer : GuardLayer W) (parts : Parts W) (generated : Generated)
    (s : Store W) (result : Nat × HeaderMap) : Prop :=
  ∃ response, (finishGenerated E layer parts generated s : Run _ (Event W) Empty _).flow =
    .pass response ∧ response.Is result

section Leaving

variable {E : Engine W} {layer : GuardLayer W} {processor : ResponseProcessor W}
  {modifier : ResponseModifierFn W} {change : HeaderMap.Change} {bits : ResponseBits}
  {s s₁ : Store W} {t : List (Event W)}

theorem forwardLeaves_iff (installed : layer.responseProcessor = some processor)
    (keeps : processor.KeepsStatus) (applies : modifier.Applies change) {facts : RequestFacts}
    {answered : InnerResponse W}
    (rendered : (renderedView E layer processor (.fromFacts facts) answered.status.asU16
      .forwarded : Prog (Store W) (Event W) Empty ResponseBits) s = ⟨.pass bits, s₁, t⟩) :
    ForwardLeaves E (layer.withCustomResponseModifier modifier) facts answered s
        (change (answered.status.asU16, mergeHeaders answered.headers bits.headers)) ↔
      change.SeesRendered answered.status answered.headers bits.headers := by
  obtain ⟨written, ran, set_, put⟩ :=
    applyResponseProcessor_of_change answered.headers installed keeps applies rendered
  have left : (passForwarded E (layer.withCustomResponseModifier modifier) facts (.ok answered) s :
      Run _ (Event W) Empty _).flow = .pass (.ok
        { status := overrideStatus answered.status
            (written.land answered.status.asU16 answered.headers).1
          headers := (written.land answered.status.asU16 answered.headers).2
          body := .passthrough answered.body }) := by
    unfold passForwarded
    dsimp only
    rw [Prog.bind_pass ran]
    rfl
  rw [ForwardLeaves, left]
  constructor
  · rintro ⟨_, ⟨⟩, is_⟩
    exact (leaves_iff (overrideStatus_land _ _ _) rfl set_ put).mp is_
  · intro sees
    exact ⟨_, rfl, (leaves_iff (overrideStatus_land _ _ _) rfl set_ put).mpr sees⟩

theorem answerLeaves_iff (installed : layer.responseProcessor = some processor)
    (keeps : processor.KeepsStatus) (applies : modifier.Applies change) {parts : Parts W}
    {generated : Generated}
    (rendered : (renderedView E layer processor (.fromParts parts) generated.status.asU16
      .generated : Prog (Store W) (Event W) Empty ResponseBits) s = ⟨.pass bits, s₁, t⟩) :
    AnswerLeaves E (layer.withCustomResponseModifier modifier) parts generated s
        (change (generated.status.asU16, mergeHeaders generated.headers bits.headers)) ↔
      change.SeesRendered generated.status generated.headers bits.headers := by
  obtain ⟨written, ran, set_, put⟩ :=
    applyResponseProcessor_of_change generated.headers installed keeps applies rendered
  have left : (finishGenerated E (layer.withCustomResponseModifier modifier) parts generated s :
      Run _ (Event W) Empty _).flow = .pass
        { status := overrideStatus generated.status
            (written.land generated.status.asU16 generated.headers).1
          headers := (written.land generated.status.asU16 generated.headers).2
          body := .generated generated.body } := by
    unfold finishGenerated passGenerated
    rw [bind_assoc, Prog.bind_pass ran]
    rfl
  rw [AnswerLeaves, left]
  constructor
  · rintro ⟨_, ⟨⟩, is_⟩
    exact (leaves_iff (overrideStatus_land _ _ _) rfl set_ put).mp is_
  · intro sees
    exact ⟨_, rfl, (leaves_iff (overrideStatus_land _ _ _) rfl set_ put).mpr sees⟩

end Leaving

/-- A forwarded or generated response leaves as a modifier's change of it exactly when the change
comes to the same on the rendered fields alone, and under every change exactly when it has no
headers of its own. -/
theorem modifier_applied_iff (E : Engine W) (layer : GuardLayer W)
    (processor : ResponseProcessor W) (installed : layer.responseProcessor = some processor)
    (keeps : processor.KeepsStatus) :
    (∀ (facts : RequestFacts) (answered : InnerResponse W) (bits : ResponseBits)
      (s s₁ : Store W) (t : List (Event W)),
      (renderedView E layer processor (.fromFacts facts) answered.status.asU16 .forwarded :
        Prog (Store W) (Event W) Empty ResponseBits) s = ⟨.pass bits, s₁, t⟩ →
      (∀ modifier change, ResponseModifierFn.Applies modifier change →
        (ForwardLeaves E (layer.withCustomResponseModifier modifier) facts answered s
            (change (answered.status.asU16, mergeHeaders answered.headers bits.headers)) ↔
          change.SeesRendered answered.status answered.headers bits.headers)) ∧
      ((∀ modifier change, ResponseModifierFn.Applies modifier change → change.InRange →
          ForwardLeaves E (layer.withCustomResponseModifier modifier) facts answered s
            (change (answered.status.asU16, mergeHeaders answered.headers bits.headers))) ↔
        answered.headers = [])) ∧
    (∀ (parts : Parts W) (generated : Generated) (bits : ResponseBits)
      (s s₁ : Store W) (t : List (Event W)),
      (renderedView E layer processor (.fromParts parts) generated.status.asU16 .generated :
        Prog (Store W) (Event W) Empty ResponseBits) s = ⟨.pass bits, s₁, t⟩ →
      (∀ modifier change, ResponseModifierFn.Applies modifier change →
        (AnswerLeaves E (layer.withCustomResponseModifier modifier) parts generated s
            (change (generated.status.asU16, mergeHeaders generated.headers bits.headers)) ↔
          change.SeesRendered generated.status generated.headers bits.headers)) ∧
      ((∀ modifier change, ResponseModifierFn.Applies modifier change → change.InRange →
          AnswerLeaves E (layer.withCustomResponseModifier modifier) parts generated s
            (change (generated.status.asU16, mergeHeaders generated.headers bits.headers))) ↔
        generated.headers = [])) := by
  refine ⟨fun facts answered bits s s₁ t rendered => ?_, fun parts generated bits s s₁ t rendered =>
    ?_⟩
  · exact ⟨fun _ _ applies => forwardLeaves_iff installed keeps applies rendered,
      all_changes_iff fun _ _ applies => forwardLeaves_iff installed keeps applies rendered⟩
  · exact ⟨fun _ _ applies => answerLeaves_iff installed keeps applies rendered,
      all_changes_iff fun _ _ applies => answerLeaves_iff installed keeps applies rendered⟩

/-! ### Changes -/

theorem sniffProcessor_keepsStatus : sniffProcessor.KeepsStatus := by
  rintro request bits now s _ ⟨⟩
  rfl

/-- Whatever the status, it becomes 202. -/
def accepting : ResponseModifierFn Bench.world := fun bits =>
  Call.returning { bits with status := 202 }

/-- No header stays. -/
def stripping : ResponseModifierFn Bench.world := fun bits =>
  Call.returning { bits with headers := [] }

theorem stripping_applies : stripping.Applies fun (status, _) => (status, []) :=
  fun _ _ => ⟨_, rfl, rfl, fun _ => rfl⟩

def itemsFacts : RequestFacts := .extract (Bench.request "GET" "/items" none []).toParts

theorem ok_isStatus : 100 ≤ 200 ∧ 200 < 1000 := by decide

/-- What the wrapped service answers, with these headers. -/
def answeredWith (headers : HeaderMap) : InnerResponse Bench.world where
  status := ⟨200, ok_isStatus⟩
  headers := headers
  body := ()

def sniffLayer : GuardLayer Bench.world := Bench.layer.withResponseProcessor sniffProcessor

/-- A response without headers leaves as it is changed. -/
theorem bare_response_changed :
    ForwardLeaves Bench.engine (sniffLayer.withCustomResponseModifier accepting) itemsFacts
      (answeredWith []) Bench.start (202, mergeHeaders [] sniffView.headers) :=
  ((modifier_applied_iff Bench.engine sniffLayer sniffProcessor rfl
    sniffProcessor_keepsStatus).1 itemsFacts (answeredWith []) sniffView Bench.start Bench.start _
      rfl).2.mpr rfl accepting (fun (_, headers) => (202, headers))
        (fun _ _ => ⟨_, rfl, rfl, fun _ => rfl⟩) fun _ => rfl

/-- Headers of the response's own stay where the modifier strips them all: those of the wrapped
service, and the content type of every answer of the guard. -/
theorem own_headers_not_stripped :
    stripping.Applies (fun (status, _) => (status, [])) ∧
    ¬ForwardLeaves Bench.engine (sniffLayer.withCustomResponseModifier stripping) itemsFacts
      (answeredWith [("server", ⟨bytesOf "inner", by decide +kernel⟩)]) Bench.start (200, []) ∧
    ¬AnswerLeaves Bench.engine (sniffLayer.withCustomResponseModifier stripping)
      (Bench.request "GET" "/items" none []).toParts (.plainText .forbidden forbiddenMessage)
      Bench.start (403, []) := by
  have installed : sniffLayer.responseProcessor = some sniffProcessor := rfl
  refine ⟨stripping_applies, fun leaves => ?_, fun leaves => ?_⟩
  · have sees := (forwardLeaves_iff installed sniffProcessor_keepsStatus stripping_applies
      rfl).mp leaves
    exact absurd (sees.headers "server") (by decide +kernel)
  · have sees := (answerLeaves_iff installed sniffProcessor_keepsStatus stripping_applies
      rfl).mp leaves
    exact absurd (sees.headers "content-type") (by decide +kernel)

end TowerGuard
