import Mathlib.Order.Bounds.Basic
import TowerGuard.Exits

/-!
# Bounded buffering

What `buffer_body` returns, by the first frame that crosses the cap and the first transport
error, what it holds meanwhile, and the cap a call gives it.
-/

namespace TowerGuard

open Text Traced

variable {W : World}

/-! ### Positions in a body -/

/-- The first position at which the running total of data bytes exceeds the cap. -/
def Body.CrossesAt (body : Body) (cap n : Nat) : Prop :=
  IsLeast {i | cap < (Body.content (body.take (i + 1))).length} n

/-- The position of the first transport error. -/
def Body.FailsAt (body : Body) (e : Nat) : Prop := IsLeast {i | body[i]? = some .failed} e

@[simp] theorem Body.content_append (body rest : Body) :
    Body.content (body ++ rest) = body.content ++ Body.content rest := by
  induction body with
  | nil => rfl
  | cons frame body ih => cases frame <;> simp [Body.content, ih]

/-- A running total is at most the total. -/
theorem Body.content_take_le (body : Body) (i : Nat) :
    (Body.content (body.take i)).length ≤ body.content.length := by
  conv_rhs => rw [← List.take_append_drop i body, Body.content_append, List.length_append]
  omega

/-- Up to the end of the polled frames the running total is at most theirs. -/
theorem Body.content_take_le_of_lt (rest : Body) {polled : Body} {i : Nat}
    (inside : i < polled.length) :
    (Body.content ((polled ++ rest).take (i + 1))).length ≤ polled.content.length := by
  rw [List.take_append_of_le_length (by omega)]
  exact polled.content_take_le (i + 1)

theorem Body.crossesAt_append {cap : Nat} {polled rest : Body} {bytes : Bytes}
    (below : polled.content.length ≤ cap) (above : cap < polled.content.length + bytes.length) :
    Body.CrossesAt (polled ++ .data bytes :: rest) cap polled.length := by
  constructor
  · simpa [List.take_append, List.take_of_length_le, Body.content] using above
  · intro i crossed
    by_contra earlier
    have total := Body.content_take_le_of_lt (.data bytes :: rest)
      (show i < polled.length by omega)
    exact absurd crossed (by simpa using total.trans below)

theorem Body.failsAt_append {polled rest : Body} (clean : .failed ∉ polled) :
    Body.FailsAt (polled ++ .failed :: rest) polled.length := by
  constructor
  · simp
  · intro i failed
    by_contra earlier
    rw [Set.mem_ofPred_eq, List.getElem?_append_left (by omega)] at failed
    exact clean (List.mem_of_getElem? failed)

/-! ### The loop -/

/-- The states of the read loop over a body: what is buffered and what is unread. -/
inductive Buffering (cap : Nat) (body : Body) : Bytes → Body → Prop
  | start : Buffering cap body [] body
  | pending {buffered : Bytes} {unread : Body} :
      Buffering cap body buffered (.pending :: unread) → Buffering cap body buffered unread
  | trailers {buffered : Bytes} {unread : Body} :
      Buffering cap body buffered (.trailers :: unread) → Buffering cap body buffered unread
  | data {buffered bytes : Bytes} {unread : Body} :
      Buffering cap body buffered (.data bytes :: unread) → buffered.length + bytes.length ≤ cap →
      Buffering cap body (buffered ++ bytes) unread

/-- The buffer is the content of the polled frames and stays within the cap. -/
structure HoldsPrefix (cap : Nat) (body : Body) (buffered : Bytes) (unread : Body) : Prop where
  bounded : buffered.length ≤ cap
  polled : ∃ polled, body = polled ++ unread ∧ .failed ∉ polled ∧ buffered = polled.content

theorem HoldsPrefix.polled_one {cap : Nat} {body unread : Body} {buffered : Bytes}
    {frame : BodyPoll} (held : HoldsPrefix cap body buffered (frame :: unread))
    (clean : frame ≠ .failed)
    (bounded : (buffered ++ Body.content [frame]).length ≤ cap) :
    HoldsPrefix cap body (buffered ++ Body.content [frame]) unread := by
  obtain ⟨polled, split, clear, rfl⟩ := held.polled
  refine ⟨bounded, polled ++ [frame], by simp [split], ?_, by simp⟩
  simp [clear, clean.symm]

/-- Every state of the loop holds the prefix it has polled. -/
theorem Buffering.holds {cap : Nat} {body unread : Body} {buffered : Bytes}
    (reads : Buffering cap body buffered unread) : HoldsPrefix cap body buffered unread := by
  induction reads with
  | start => exact ⟨Nat.zero_le _, [], rfl, by simp, rfl⟩
  | pending _ ih =>
    simpa [Body.content] using ih.polled_one (by simp) (by simpa [Body.content] using ih.bounded)
  | trailers _ ih =>
    simpa [Body.content] using ih.polled_one (by simp) (by simpa [Body.content] using ih.bounded)
  | data _ fits ih =>
    simpa [Body.content] using ih.polled_one (by simp) (by simpa [Body.content] using fits)

/-- The loop passes through its states. -/
theorem Buffering.frames {cap : Nat} {body unread : Body} {buffered : Bytes}
    (reads : Buffering cap body buffered unread) :
    bufferFrames cap [] body = bufferFrames cap buffered unread := by
  induction reads with
  | start => rfl
  | pending _ ih => exact ih
  | trailers _ ih => exact ih
  | data _ fits ih => rw [ih, bufferFrames, if_neg (by omega)]

/-- How a loop over a body ends, with what is left unread. -/
inductive BufferingEnds (cap : Nat) (body : Body) : Except BufferFailure Bytes × Body → Prop
  | clean : .failed ∉ body → body.content.length ≤ cap →
      BufferingEnds cap body (.ok body.content, [])
  | crossed {polled rest : Body} {bytes : Bytes} :
      body = polled ++ .data bytes :: rest → .failed ∉ polled → polled.content.length ≤ cap →
      cap < polled.content.length + bytes.length → BufferingEnds cap body (.error .tooLarge, rest)
  | failed {polled rest : Body} :
      body = polled ++ .failed :: rest → .failed ∉ polled → polled.content.length ≤ cap →
      BufferingEnds cap body (.error .read, rest)

/-- From every state the loop ends in one of the three ways. -/
theorem Buffering.ends {cap : Nat} {body unread : Body} {buffered : Bytes}
    (reads : Buffering cap body buffered unread) :
    BufferingEnds cap body (bufferFrames cap buffered unread) := by
  induction unread generalizing buffered with
  | nil =>
    obtain ⟨bounded, polled, split, clear, rfl⟩ := reads.holds
    rw [List.append_nil] at split
    subst split
    exact .clean clear bounded
  | cons frame rest ih =>
    obtain ⟨bounded, polled, split, clear, rfl⟩ := reads.holds
    cases frame with
    | pending => exact ih reads.pending
    | trailers => exact ih reads.trailers
    | failed => exact .failed split clear bounded
    | data bytes =>
      rw [bufferFrames]
      split
      next past => exact .crossed split clear bounded past
      next fits => exact ih (reads.data (by omega))

/-! ### The first frame that decides -/

/-- The running total exceeds the cap at `n`, with no error up to there. -/
def Body.TooLargeAt (body : Body) (cap n : Nat) : Prop :=
  body.CrossesAt cap n ∧ ∀ e, body.FailsAt e → n < e

/-- The body fails at `e`, with the running total within the cap up to there. -/
def Body.ReadFailsAt (body : Body) (cap e : Nat) : Prop :=
  body.FailsAt e ∧ ∀ n, body.CrossesAt cap n → e < n

/-- The two failures exclude each other. -/
theorem Body.TooLargeAt.not_readFails {body : Body} {cap n e : Nat}
    (tooLarge : body.TooLargeAt cap n) : ¬body.ReadFailsAt cap e := by
  intro fails
  have before := tooLarge.2 e fails.1
  have behind := fails.2 n tooLarge.1
  omega

theorem Body.not_crossesAt {body : Body} {cap n : Nat} (below : body.content.length ≤ cap) :
    ¬body.CrossesAt cap n := fun crosses =>
  absurd (crosses.1.trans_le (body.content_take_le (n + 1))) (by omega)

theorem Body.not_failsAt {body : Body} {e : Nat} (clean : .failed ∉ body) : ¬body.FailsAt e :=
  fun fails => clean (List.mem_of_getElem? fails.1)

theorem Body.tooLargeAt_append (rest : Body) {cap : Nat} {polled : Body} {bytes : Bytes}
    (clean : .failed ∉ polled) (below : polled.content.length ≤ cap)
    (above : cap < polled.content.length + bytes.length) :
    Body.TooLargeAt (polled ++ .data bytes :: rest) cap polled.length := by
  refine ⟨Body.crossesAt_append below above, fun e fails => ?_⟩
  by_contra earlier
  have failed := fails.1
  rw [Set.mem_ofPred_eq] at failed
  rcases Nat.lt_or_eq_of_le (Nat.le_of_not_lt earlier) with inside | here
  · rw [List.getElem?_append_left inside] at failed
    exact clean (List.mem_of_getElem? failed)
  · simp [here] at failed

theorem Body.readFailsAt_append (rest : Body) {cap : Nat} {polled : Body}
    (clean : .failed ∉ polled) (below : polled.content.length ≤ cap) :
    Body.ReadFailsAt (polled ++ .failed :: rest) cap polled.length := by
  refine ⟨Body.failsAt_append clean, fun n crosses => ?_⟩
  by_contra earlier
  have crossed := crosses.1
  rw [Set.mem_ofPred_eq] at crossed
  rcases Nat.lt_or_eq_of_le (Nat.le_of_not_lt earlier) with inside | here
  · have total := Body.content_take_le_of_lt (.failed :: rest) inside
    omega
  · rw [here, List.take_append, List.take_of_length_le (by omega)] at crossed
    simp [Body.content] at crossed
    omega

/-- What `buffer_body` is to return over a body, and where it stops reading. -/
structure BuffersAs (cap : Nat) (body : Body)
    (result : Except BufferFailure (Option Bytes) × Body) : Prop where
  tooLarge : result.1 = .error .tooLarge ↔ ∃ n, body.TooLargeAt cap n
  read : result.1 = .error .read ↔ ∃ e, body.ReadFailsAt cap e
  ok : (¬∃ n, body.TooLargeAt cap n) → (¬∃ e, body.ReadFailsAt cap e) →
    result.1 = .ok (if body.content = [] then none else some body.content)
  /-- Nothing behind the frame that decides is polled. -/
  unread : ∀ i, body.TooLargeAt cap i ∨ body.ReadFailsAt cap i → result.2 = body.drop (i + 1)

theorem bufferBody_spec (body : Body) (cap : Nat) : BuffersAs cap body (bufferBody body cap) := by
  have reads : Buffering cap body [] body := .start
  have ends := reads.ends
  unfold bufferBody
  generalize bufferFrames cap [] body = result at ends
  cases ends with
  | clean clear below =>
    have quiet : ¬∃ n, body.TooLargeAt cap n := fun ⟨_, here⟩ => Body.not_crossesAt below here.1
    have sound : ¬∃ e, body.ReadFailsAt cap e := fun ⟨_, here⟩ => Body.not_failsAt clear here.1
    refine ⟨by simpa using quiet, by simpa using sound, fun _ _ => rfl, ?_⟩
    rintro i (here | here)
    · exact absurd ⟨i, here⟩ quiet
    · exact absurd ⟨i, here⟩ sound
  | @crossed polled rest bytes split clear below above =>
    subst split
    have here := Body.tooLargeAt_append rest clear below above
    refine ⟨by simpa using ⟨_, here⟩, ?_, fun quiet => absurd ⟨_, here⟩ quiet, ?_⟩
    · simpa using fun _ => here.not_readFails
    · rintro i (there | there)
      · rw [there.1.unique here.1]
        simp
      · exact absurd there here.not_readFails
  | @failed polled rest split clear below =>
    subst split
    have here := Body.readFailsAt_append rest clear below
    refine ⟨?_, by simpa using ⟨_, here⟩, fun _ sound => absurd ⟨_, here⟩ sound, ?_⟩
    · simpa using fun _ there => Body.TooLargeAt.not_readFails there here
    · rintro i (there | there)
      · exact absurd here there.not_readFails
      · rw [there.1.unique here.1]
        simp

/-! ### The cap of a call -/

/-- Whether a byte sequence of this length can be allocated: at most `isize::MAX` bytes. -/
def Allocates (E : Engine W) (bytes : Bytes) : Prop := bytes.length ≤ E.usizeMax / 2

/-- A state of the loop: one the run passes through, which holds the prefix it has polled and
computes no length past `usize`. -/
structure Buffering.Sound (E : Engine W) (cap : Nat) (body : Body) (buffered : Bytes)
    (unread : Body) : Prop where
  passed : bufferFrames cap [] body = bufferFrames cap buffered unread
  holds : HoldsPrefix cap body buffered unread
  sum : ∀ bytes rest, unread = .data bytes :: rest → Allocates E buffered → Allocates E bytes →
    buffered.length + bytes.length ≤ E.usizeMax

theorem Buffering.sound (E : Engine W) {cap : Nat} {body unread : Body} {buffered : Bytes}
    (reads : Buffering cap body buffered unread) : Buffering.Sound E cap body buffered unread := by
  refine ⟨reads.frames, reads.holds, fun bytes rest _ held given => ?_⟩
  unfold Allocates at held given
  omega

section Cap

variable {E : Engine W} {service : GuardService W} {request : Request W} {s : Store W}

/-- The body a call buffers is the request's own, under the cap of its carrier. -/
theorem bodyBuffering_asked {event : Event W} {cap : Nat} {unread : Body}
    (member : event ∈ (service.call E request s).trace)
    (asked : event.consult = .bodyBuffering cap unread) :
    cap = bodyCap E service.layer (service.carrier request s) ∧
      unread = (bufferBody request.body cap).2 ∧
      (event.verdict = .passed ↔ (bufferBody request.body cap).1.isOk = true) := by
  obtain ⟨χ, s', trial, arrives, applies, rfl⟩ :=
    (call_asks_iff (k := .bodyBuffering) (by rw [asked]; rfl)).mp member
  simp only [Check.trial, Option.some.injEq, arrives.route (by decide), arrives.of.body] at applies
  split at applies <;> subst applies <;> cases asked <;>
    simp [*, Verdict.ofRuling, Except.isOk, Except.toBool]

theorem bodyCap_of_size {layer : GuardLayer W} {route : Option (RouteConfig W)} {size : Nat}
    (limit : route.bind RouteConfig.maxRequestSize = some size) (fits : size ≤ E.usizeMax) :
    bodyCap E layer route = size := by
  rw [bodyCap, limit, Option.filter_some, if_pos (decide_eq_true fits), Option.getD_some]

theorem bodyCap_of_none {layer : GuardLayer W} {route : Option (RouteConfig W)}
    (none_ : ∀ size, route.bind RouteConfig.maxRequestSize = some size → E.usizeMax < size) :
    bodyCap E layer route = layer.bodyCap := by
  cases limit : route.bind RouteConfig.maxRequestSize with
  | none => simp [bodyCap, limit]
  | some size =>
    have large := none_ size limit
    rw [bodyCap, limit, Option.filter_some, if_neg (by simpa using large), Option.getD_none]

end Cap

/-- Buffering is bounded: the result is decided by the first frame that crosses the cap or fails,
nothing behind it is polled, and no state of the loop holds more than the cap. A call reads the
request's body under the carrier's limit where that is a `usize`, else under the layer's cap. -/
theorem body_buffering_bounded (E : Engine W) (service : GuardService W) (request : Request W)
    (s : Store W) :
    (∀ body cap, BuffersAs cap body (bufferBody body cap) ∧
      ∀ buffered unread, Buffering cap body buffered unread →
        Buffering.Sound E cap body buffered unread) ∧
    ∀ event ∈ (service.call E request s).trace, ∀ cap unread,
      event.consult = .bodyBuffering cap unread →
      unread = (bufferBody request.body cap).2 ∧
      (event.verdict = .passed ↔ (bufferBody request.body cap).1.isOk = true) ∧
      (∀ size, (service.carrier request s).bind RouteConfig.maxRequestSize = some size →
        size ≤ E.usizeMax → cap = size) ∧
      ((∀ size, (service.carrier request s).bind RouteConfig.maxRequestSize = some size →
        E.usizeMax < size) → cap = service.layer.bodyCap) := by
  refine ⟨fun body cap => ⟨bufferBody_spec body cap, fun _ _ reads => reads.sound E⟩, ?_⟩
  intro event member cap unread asked
  obtain ⟨rfl, left, passed⟩ := bodyBuffering_asked member asked
  exact ⟨left, passed, fun _ => bodyCap_of_size, bodyCap_of_none⟩

end TowerGuard
