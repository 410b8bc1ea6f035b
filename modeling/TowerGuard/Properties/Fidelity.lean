import TowerGuard.Arrival
import TowerGuard.Engine.Bench

/-!
# Forwarded-request fidelity

What the wrapped service receives is what the client sent: method, URI, headers and
extensions up to the gate's decision, and the bytes of the body. The full pipeline keeps
all of it; the forward of an excluded path drops the body.
-/

namespace TowerGuard

open Text Traced

variable {W : World}

/-- `handed` is the client's request, up to the extension the IP gate inserts. -/
structure Request.Carries (handed request : Request W) : Prop where
  method : handed.method = request.method
  uri : handed.uri = request.uri
  headers : handed.headers = request.headers
  parts : handed.withoutDecision = request.withoutDecision
  body : handed.body.content = request.body.content

/-- The parts but the decision, and the body's bytes, are all there is to carry. -/
theorem Request.carries_iff {handed request : Request W}
    (parts : handed.withoutDecision = request.withoutDecision) :
    handed.Carries request ↔ handed.body.content = request.body.content := by
  refine ⟨Request.Carries.body, fun body => ⟨?_, ?_, ?_, parts, body⟩⟩
  · exact (congrArg Parts.method parts :)
  · exact (congrArg Parts.uri parts :)
  · exact (congrArg Parts.headers parts :)

section Excluded

variable {E : Engine W} {service : GuardService W} {request : Request W} {s s' : Store W}

/-- The path arm in front of the pipeline. -/
theorem ending_of_excluded (excluded : request.uri.path ∈ service.layer.excludePaths) :
    Check.ending E service Check.pipeline (.start request) s =
      (.denied .excludePaths (.excluded request.toParts) none, s) := by
  simp [Check.pipeline, Check.ending, Check.trial, Locals.start, RequestFacts.extract, excluded,
    Ruling.ofDenial]

/-- Nothing else forwards past the pipeline. -/
theorem excluded_of_ending {k : Check} {parts : Parts W} {payload : Option BlockPayload}
    (h : Check.ending E service Check.pipeline (.start request) s =
      (.denied k (.excluded parts) payload, s')) :
    request.uri.path ∈ service.layer.excludePaths := by
  obtain ⟨rfl, rfl⟩ := ending_excluded h
  by_cases listed : request.uri.path ∈ service.layer.excludePaths
  · exact listed
  · have ends := ending_ends E service Check.pipeline (.start request) s
    rw [h] at ends
    cases ends with
    | denied reached applies ruled =>
      cases applies
      have facts := (Check.Arrives.of reached).facts
      simp [facts, RequestFacts.extract, listed, Ruling.ofDenial] at ruled
    | recovered reached applies ruled =>
      cases applies
      simp only [Trial.screen_ruling, Call.returning_run] at ruled
      split at ruled <;> cases ruled

end Excluded

/-- However a request is handed over, its parts are the client's. -/
theorem handed_parts {E : Engine W} {service : GuardService W} {request handed : Request W}
    {s : Store W} (member : handed ∈ handedOver (service.call E request s).trace) :
    handed.withoutDecision = request.withoutDecision := by
  rw [call_handedOver] at member
  rcases ended : Check.ending E service Check.pipeline (.start request) s with
    ⟨final | ⟨k, parts | ⟨parts, answer⟩, payload⟩ | k, s'⟩ <;>
    simp only [ended, GuardService.handsOver, List.mem_singleton, List.not_mem_nil] at member
  · subst member
    obtain ⟨χ, s₁, arrives, frame⟩ := Check.Arrives.of_forward ended
    exact frame.carried.trans arrives.of.carried
  · rw [ending_of_excluded (excluded_of_ending ended)] at ended
    cases ended
    subst member
    rfl

/-- The wrapped service receives the client's request unless the path is excluded and the
request has a body. -/
theorem forwarded_request_faithful_iff (E : Engine W) (service : GuardService W)
    (request : Request W) (s : Store W)
    (fromBytes : ∀ bytes, (service.inner.fromBytes bytes).content = bytes) :
    (∀ handed ∈ handedOver (service.call E request s).trace, handed.Carries request) ↔
      (request.uri.path ∈ service.layer.excludePaths → request.body.content = []) := by
  -- On an excluded path the service gets `B::from` of no bytes, elsewhere of the buffer.
  by_cases excluded : request.uri.path ∈ service.layer.excludePaths
  · have rebuilt : (service.inner.rebuild request.toParts none).Carries request ↔
        (service.inner.fromBytes []).content = request.body.content := Request.carries_iff rfl
    rw [call_handedOver, ending_of_excluded excluded]
    simp only [GuardService.handsOver, List.forall_mem_singleton, rebuilt, fromBytes]
    constructor
    · intro dropped _
      exact dropped.symm
    · intro empty
      exact (empty excluded).symm
  · refine iff_of_true ?_ fun listed => absurd listed excluded
    intro handed member
    apply (Request.carries_iff (handed_parts member)).mpr
    rw [call_handedOver] at member
    rcases ended : Check.ending E service Check.pipeline (.start request) s with
      ⟨final | ⟨k, parts | ⟨parts, answer⟩, payload⟩ | k, s'⟩ <;>
      simp only [ended, GuardService.handsOver, List.mem_singleton, List.not_mem_nil] at member
    · subst member
      -- The last check changes nothing, and the buffer reads back as the client's data.
      obtain ⟨χ, s₁, arrives, frame⟩ := Check.Arrives.of_forward ended
      change (service.inner.fromBytes (final.buffered.getD [])).content = request.body.content
      rw [fromBytes, frame.buffered (by decide), arrives.buffered (by decide)]
    · exact absurd (excluded_of_ending ended) excluded

/-- A posted body comes through the whole pipeline. -/
theorem posted_body_forwarded :
    ∃ handed, handedOver ((Bench.layer.wrap Bench.engine Bench.ok).call Bench.engine
        (Bench.request "POST" "/items" none [.data [123], .data [125]]) Bench.start).trace =
          [handed] ∧
      handed.Carries (Bench.request "POST" "/items" none [.data [123], .data [125]]) := by
  obtain ⟨handed, once⟩ := List.length_eq_one_iff.mp (by decide +kernel :
    (handedOver ((Bench.layer.wrap Bench.engine Bench.ok).call Bench.engine
      (Bench.request "POST" "/items" none [.data [123], .data [125]])
      Bench.start).trace).length = 1)
  refine ⟨handed, once, ?_⟩
  refine (forwarded_request_faithful_iff Bench.engine (Bench.layer.wrap Bench.engine Bench.ok) _
    Bench.start (Bench.answering_fromBytes _)).mpr ?_ handed (by rw [once]; exact .head [])
  exact fun excluded => absurd excluded (by decide)

/-- The same body posted to an excluded path is gone. -/
theorem excluded_path_drops_body :
    ∃ handed ∈ handedOver (((Bench.layer.withExcludePaths ["/hooks"]).wrap Bench.engine
        Bench.ok).call Bench.engine
        (Bench.request "POST" "/hooks" none [.data [123], .data [125]]) Bench.start).trace,
      ¬handed.Carries (Bench.request "POST" "/hooks" none [.data [123], .data [125]]) := by
  rw [call_handedOver, ending_of_excluded (by decide)]
  exact ⟨_, List.mem_singleton.mpr rfl, fun carries => absurd carries.body (by decide)⟩

end TowerGuard
