import TowerGuard.Agreement

/-!
# Following a run

Where a check of one run passes, the same check of another passes, from related states and to
locals that the one makes of the other's. A request then arrives where the other arrived.
-/

namespace TowerGuard

open Text Traced

variable {W : World}

/-! ### Trials -/

section Follows

variable {E : Engine W} {R : Store W → Store W → Prop} {φ : Locals W → Locals W}

/-- Where the one decision passes, the other does, from related states. -/
def PassesToo {α β : Type} (R : Store W → Store W → Prop)
    (decision : Call (Store W) (Option α)) (decision' : Call (Store W) (Option β)) : Prop :=
  ∀ s s' s₁, R s s' → decision s = (some none, s₁) →
    ∃ s₁', decision' s' = (some none, s₁') ∧ R s₁ s₁'

theorem Call.Agree.passesToo {α : Type} {decision decision' : Call (Store W) (Option α)}
    (agree : Call.Agree R Eq decision decision') : PassesToo R decision decision' := by
  intro s s' s₁ same passed
  obtain ⟨answers, left⟩ := agree s s' same
  rw [passed] at answers left
  exact ⟨(decision' s').2, Prod.ext (eq_of_rel answers).symm rfl, left⟩

theorem PassesToo.returning {α : Type} {a : Option α} :
    PassesToo R (Call.returning a) (Call.returning a) := by
  rintro s s' _ same ⟨⟩
  exact ⟨s', rfl, same⟩

/-- Where the one trial passes, the other does, to the locals `φ` makes of its own. -/
def Trial.Follows (R : Store W → Store W → Prop) (φ : Locals W → Locals W)
    (trial trial' : Trial W) : Prop :=
  ∀ s s' ruling s₁ χ₁, R s s' → trial.ruling s = (some ruling, s₁) → ruling.next? = some χ₁ →
    ∃ ruling' s₁', trial'.ruling s' = (some ruling', s₁') ∧ ruling'.next? = some (φ χ₁) ∧
      R s₁ s₁'

theorem Trial.screen_follows {α β : Type} {next next' : Locals W} {question question' : Consult W}
    {decision : Call (Store W) (Option α)} {decision' : Call (Store W) (Option β)}
    {early : α → Early W} {early' : β → Early W} (passes : PassesToo R decision decision')
    (onward : next' = φ next) :
    Trial.Follows R φ (.screen next question decision early)
      (.screen next' question' decision' early') := by
  intro s s' ruling s₁ χ₁ same ruled passed
  obtain ⟨rfl, said⟩ := Trial.screen_next ruled passed
  have left : (decision s).2 = s₁ := congrArg Prod.snd ruled
  obtain ⟨s₁', said', same'⟩ := passes s s' s₁ same (Prod.ext said left)
  refine ⟨.pass next', s₁', ?_, by rw [onward]; rfl, same'⟩
  rw [Trial.screen_ruling, said']
  rfl

theorem Trial.compose_follows {α β : Type} {question question' : Consult W}
    {call : Call W.Other α} {call' : Call W.Other β} {next : α → Locals W} {next' : β → Locals W}
    {V : α → β → Prop} (agree : Call.Agree R V (onOther call) (onOther call'))
    (onward : ∀ a b, V a b → next' b = φ (next a)) :
    Trial.Follows R φ (.compose question call next) (.compose question' call' next') := by
  intro s s' ruling s₁ χ₁ same ruled passed
  obtain ⟨answers, left⟩ := agree s s' same
  have answered := congrArg Prod.fst ruled
  have left₁ : (onOther call s).2 = s₁ := congrArg Prod.snd ruled
  simp only [Trial.compose_ruling] at answered
  obtain ⟨a, said, rfl⟩ := Option.map_eq_some_iff.mp answered
  cases passed
  rw [said] at answers
  generalize said' : (onOther call' s').1 = answer' at answers
  cases answers with
  | some related =>
    refine ⟨.pass (next' _), (onOther call' s').2, ?_, by rw [onward _ _ related]; rfl, ?_⟩
    · rw [Trial.compose_ruling, said']
      rfl
    · rw [left₁] at left
      exact left

theorem Trial.settled_follows {question question' : Consult W} {ruling ruling' : Ruling W}
    (onward : ∀ χ₁, ruling.next? = some χ₁ → ruling'.next? = some (φ χ₁)) :
    Trial.Follows R φ (.settled question ruling) (.settled question' ruling') := by
  rintro s s' _ _ χ₁ same ⟨⟩ passed
  exact ⟨ruling', s', rfl, onward χ₁ passed, same⟩

theorem Trial.denied_follows {question : Consult W} {early : Early W}
    {payload : Option BlockPayload} {trial' : Trial W} :
    Trial.Follows R φ (.settled question (.deny early payload)) trial' := by
  rintro s s' _ _ χ₁ same ⟨⟩ ⟨⟩

end Follows

/-! ### Options -/

theorem rel_ite {α β : Type} {r : α → β → Prop} {p : Prop} [Decidable p]
    {a a' : Option α} {b b' : Option β} (h : p → Option.Rel r a b) (h' : ¬p → Option.Rel r a' b') :
    Option.Rel r (if p then a else a') (if p then b else b') := by
  split
  next holds => exact h holds
  next fails => exact h' fails

theorem rel_map {ι α β : Type} {r : α → β → Prop} {a : Option ι} {m : ι → α} {m' : ι → β}
    (h : ∀ x, a = some x → r (m x) (m' x)) : Option.Rel r (a.map m) (a.map m') := by
  cases a with
  | none => exact .none
  | some x => exact .some (h x rfl)

/-! ### Runs -/

section Runs

variable {E : Engine W} {service service' : GuardService W} {request request' : Request W}
  {R : Store W → Store W → Prop} {φ : Locals W → Locals W} {k : Check} {χ χ₁ : Locals W}
  {s s' s₁ : Store W} {t : List (Event W)}

/-- A check that passes passes where its trial is followed. -/
theorem run_of_follows
    (follows : Option.Rel (Trial.Follows R φ) (k.trial E service χ) (k.trial E service' (φ χ)))
    (same : R s s') (passed : k.run E service χ s = ⟨.pass χ₁, s₁, t⟩) :
    ∃ s₁' t', k.run E service' (φ χ) s' = ⟨.pass (φ χ₁), s₁', t'⟩ ∧ R s₁ s₁' := by
  rcases run_pass_iff.mp passed with ⟨absent, rfl, rfl, -⟩ |
    ⟨trial, ruling, applies, ruled, onward, -⟩
  · cases applies' : k.trial E service' (φ χ₁) with
    | none => exact ⟨s', [], run_pass_iff.mpr (.inl ⟨applies', rfl, rfl, rfl⟩), same⟩
    | some trial' => rw [absent, applies'] at follows; cases follows
  · cases applies' : k.trial E service' (φ χ) with
    | none => rw [applies, applies'] at follows; cases follows
    | some trial' =>
      rw [applies, applies'] at follows
      obtain ⟨ruling', s₁', ruled', onward', left⟩ :=
        Option.rel_some_some.mp follows s s' ruling s₁ χ₁ same ruled onward
      exact ⟨s₁', _, run_pass_iff.mpr (.inr ⟨trial', ruling', applies', ruled', onward', rfl⟩),
        left⟩

/-- Where the checks ahead are followed, the request arrives as the other did. -/
theorem Check.Arrives.follow (start : Locals.start request' = φ (.start request))
    (related : R s s')
    (follows : ∀ (j : Check) χ s₂, j.position < k.position → j.Arrives E service request s χ s₂ →
      Option.Rel (Trial.Follows R φ) (j.trial E service χ) (j.trial E service' (φ χ)))
    (arrives : k.Arrives E service request s χ s₁) :
    ∃ s₁', k.Arrives E service' request' s' (φ χ) s₁' ∧ R s₁ s₁' := by
  obtain ⟨front, back, t, split, passed⟩ := arrives
  have followed : ∃ s₁' t', Checklist.run (Check.step E service') front (φ (.start request)) s' =
      ⟨.pass (φ χ), s₁', t'⟩ ∧ R s₁ s₁' := by
    refine Checklist.run_followed ?_ related passed
    intro j y s₂ y' s₃ t s₂' reached same here
    have there : j.Arrives E service request s y s₂ := by
      rw [Check.Arrives, split]
      exact reached.append
    have before := (Check.position_lt_iff split).mpr reached.mem
    exact run_of_follows (follows j y s₂ before there) same here
  obtain ⟨s₁', t', passed', left⟩ := followed
  rw [← start] at passed'
  exact ⟨s₁', ⟨front, back, t', split, passed'⟩, left⟩

end Runs

end TowerGuard
