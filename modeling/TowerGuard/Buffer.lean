import TowerGuard.Http

/-!
# Body buffering

`buffer_body` reads a request body frame by frame under a cap. The model keeps what is
left unread, so that how far the body was polled stays visible.
-/

namespace TowerGuard

open Text

inductive BufferFailure where
  | tooLarge
  | read
  deriving DecidableEq

/-- The read loop. A pending poll suspends the loop and trailers are discarded. -/
def bufferFrames (cap : Nat) (buffered : Bytes) : Body → Except BufferFailure Bytes × Body
  | [] => (.ok buffered, [])
  | .pending :: rest | .trailers :: rest => bufferFrames cap buffered rest
  | .failed :: rest => (.error .read, rest)
  | .data bytes :: rest =>
    -- The cap is checked ahead of the copy: a frame that crosses it is not kept.
    if cap < buffered.length + bytes.length then (.error .tooLarge, rest)
    else bufferFrames cap (buffered ++ bytes) rest

/-- `buffer_body`: an empty buffer is `None`. -/
def bufferBody (body : Body) (cap : Nat) : Except BufferFailure (Option Bytes) × Body :=
  match bufferFrames cap [] body with
  | (.ok buffered, rest) => (.ok (if buffered = [] then none else some buffered), rest)
  | (.error failure, rest) => (.error failure, rest)

/-- The read loop succeeds with the buffer and every remaining data frame, in order. -/
theorem bufferFrames_ok {cap : Nat} {body unread : Body} {buffered bytes : Bytes}
    (h : bufferFrames cap buffered body = (.ok bytes, unread)) :
    bytes = buffered ++ body.content ∧ unread = [] := by
  induction body generalizing buffered with
  | nil =>
    simp only [bufferFrames, Prod.mk.injEq, Except.ok.injEq] at h
    exact ⟨by simp [Body.content, h.1], h.2.symm⟩
  | cons frame rest ih =>
    cases frame with
    | pending => simpa [Body.content] using ih h
    | trailers => simpa [Body.content] using ih h
    | failed => simp [bufferFrames] at h
    | data data =>
      simp only [bufferFrames] at h
      split at h
      · simp at h
      · simpa [Body.content, List.append_assoc] using ih h

/-- What is buffered reads back as the client's data, the empty body included. -/
theorem bufferBody_ok {cap : Nat} {body unread : Body} {buffered : Option Bytes}
    (h : bufferBody body cap = (.ok buffered, unread)) :
    buffered.getD [] = body.content ∧ (buffered = none ↔ body.content = []) := by
  unfold bufferBody at h
  rcases loop : bufferFrames cap [] body with ⟨_ | bytes, rest⟩
  · simp [loop] at h
  · obtain ⟨rfl, -⟩ := bufferFrames_ok loop
    simp only [loop, List.nil_append, Prod.mk.injEq, Except.ok.injEq] at h
    obtain ⟨rfl, -⟩ := h
    by_cases empty : body.content = [] <;> simp [empty]

end TowerGuard
