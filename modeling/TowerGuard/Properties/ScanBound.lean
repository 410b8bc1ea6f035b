import Mathlib.Data.List.TakeDrop
import TowerGuard.Properties.Buffering
import TowerGuard.Properties.Fidelity
import TowerGuard.Properties.Views

/-!
# The scan's body limit

The engine looks at a body up to `max_full_scan_bytes`, and the guard forwards one up to the cap in
force. The two are independent settings. What the engine is shown is the body as a text, which is
longer than the body where that is not UTF-8.
-/

namespace TowerGuard

open Text Traced

variable {W : World}

/-- A body that is read to its end is within the cap. -/
theorem content_le_of_bufferBody_isOk {body : Body} {cap : Nat}
    (read : (bufferBody body cap).1.isOk = true) : body.content.length ≤ cap := by
  have reads : Buffering cap body [] body := .start
  have ends := reads.ends
  unfold bufferBody at read
  generalize bufferFrames cap [] body = result at ends read
  cases ends with
  | clean _ below => exact below
  | crossed => cases read
  | failed => cases read

section Forwarded

variable {E : Engine W} {service : GuardService W} {request handed : Request W} {s : Store W}

/-- A request that came to the scan is not on an excluded path. -/
theorem outside_of_scanned {χ : Locals W} {s' : Store W}
    (arrives : Check.scan.Arrives E service request s χ s') :
    request.uri.path ∉ service.layer.excludePaths := by
  intro listed
  obtain ⟨χ₀, s₀, χ₁, s₁, t₁, early, -, here, -⟩ :=
    arrives.written (j := .excludePaths) (f := fun _ => ()) (fun _ _ _ _ _ => rfl) (by decide)
  rcases run_pass_iff.mp here with ⟨absent, -⟩ | ⟨trial, ruling, applies, ruled, passes, -⟩
  · cases absent
  · cases applies
    obtain ⟨rfl, said⟩ := Trial.screen_next ruled passes
    simp [early.of.facts, RequestFacts.extract, listed] at said

/-- A scanned request is forwarded with the body that was buffered, which fits the cap. -/
theorem handed_of_scanned {event : Event W} (member : event ∈ (service.call E request s).trace)
    (scans : event.consult.check = some .scan)
    (forwarded : handed ∈ handedOver (service.call E request s).trace)
    (fromBytes : ∀ bytes, (service.inner.fromBytes bytes).content = bytes) :
    handed.body.content = request.body.content ∧
      request.body.content.length ≤ bodyCap E service.layer (service.carrier request s) := by
  obtain ⟨χ, s', arrives, -⟩ := scan_asked member scans
  have outside := outside_of_scanned arrives
  rw [call_handedOver] at forwarded
  rcases ended : Check.ending E service Check.pipeline (.start request) s with
    ⟨final | ⟨k, parts | ⟨parts, answer⟩, payload⟩ | k, s₁⟩ <;>
    simp only [ended, GuardService.handsOver, List.mem_singleton, List.not_mem_nil] at forwarded
  · subst forwarded
    constructor
    · obtain ⟨χ₁, s₂, last, frame⟩ := Check.Arrives.of_forward ended
      change (service.inner.fromBytes (final.buffered.getD [])).content = request.body.content
      rw [fromBytes, frame.buffered (by decide), last.buffered (by decide)]
    · -- The body was buffered on the way, to its end.
      obtain ⟨χ₁, s₂, buffering⟩ := Check.arrives_of_forward ended .bodyBuffering
      have route := buffering.route (by decide)
      have body := buffering.of.body
      apply content_le_of_bufferBody_isOk
      rw [← route, ← body]
      obtain ⟨ruling, s₃, next, ruled, passes⟩ := buffering.ruling_of_forward ended rfl
      split at ruled
      next read => rw [read]; rfl
      next => cases ruled; cases passes
      next => cases ruled; cases passes
  · exact absurd (excluded_of_ending ended) outside

end Forwarded

/-! ### What the engine judges -/

/-- The length of the text a body is scanned as. -/
def scannedLength (body : Bytes) : Nat := (bytesOf (fromUtf8Lossy body)).length

theorem scannedLength_of_text (text : String) :
    scannedLength (bytesOf text) = (bytesOf text).length := by
  rw [scannedLength, fromUtf8Lossy_bytesOf]

/-- What an engine that looks at no more than `limit` bytes of a text judges of it. -/
def judged (limit : Nat) (text : String) : Bytes := (bytesOf text).take limit

/-- A body is within the limit of its scan, and not judged by a prefix. -/
structure ScannedWhole (limit : Nat) (surfaces : RequestSurfaces) (body : Bytes) : Prop where
  within : body.length ≤ limit
  whole : judged limit surfaces.rawBody = bytesOf (fromUtf8Lossy body)

/-- A body is scanned whole exactly when the text the scan is shown is within the limit: the text is
no shorter than the body. -/
theorem scannedWhole_iff (limit : Nat) {surfaces : RequestSurfaces} {body : Bytes}
    (shown : surfaces.rawBody = fromUtf8Lossy body) :
    ScannedWhole limit surfaces body ↔ scannedLength body ≤ limit := by
  have whole_iff : judged limit surfaces.rawBody = bytesOf (fromUtf8Lossy body) ↔
      scannedLength body ≤ limit := by
    rw [judged, shown, List.take_eq_self_iff, scannedLength]
  constructor
  · rintro ⟨-, whole⟩
    exact whole_iff.mp whole
  · intro fits
    exact ⟨(length_fromUtf8Lossy body).1.trans fits, whole_iff.mpr fits⟩

/-- Where three times the cap is past the limit, some body that fits the cap is scanned as a longer
text than the limit. -/
theorem exists_scannedLength_gt {limit cap : Nat} (past : limit < 3 * cap) :
    ∃ body : Bytes, body.length ≤ cap ∧ limit < scannedLength body := by
  refine ⟨List.replicate cap 0xFF, List.length_replicate.le, ?_⟩
  rwa [scannedLength, length_fromUtf8Lossy_replicate]

/-- Where the cap is past the limit, some text is. -/
theorem exists_text_gt {limit cap : Nat} (past : limit < cap) :
    ∃ text, (bytesOf text).length ≤ cap ∧ limit < scannedLength (bytesOf text) := by
  have ascii : encode ((List.replicate cap 97).map fun b : UInt8 => Char.ofNat b.toNat) =
      List.replicate cap 97 :=
    encode_ascii _ fun b member => by rw [List.eq_of_mem_replicate member]; decide
  have length : (bytesOf (String.ofList ((List.replicate cap 97).map fun b : UInt8 =>
      Char.ofNat b.toNat))).length = cap := by
    rw [bytesOf, String.toList_ofList, ascii, List.length_replicate]
  exact ⟨_, length.le, by rwa [scannedLength_of_text, length]⟩

/-- A forwarded body is scanned to its end exactly when the text it is scanned as is within the
limit of the scan. It is so for every body where three times the cap in force is within the limit,
and for every text where the cap is; a smaller limit is too small for some body, or some text, that
fits the cap. -/
theorem forwarded_within_scan_limit_iff (E : Engine W) (service : GuardService W)
    (request handed : Request W) (s : Store W) (event : Event W) (surfaces : RequestSurfaces)
    (exclusions : W.ResolvedExclusions)
    (fromBytes : ∀ bytes, (service.inner.fromBytes bytes).content = bytes)
    (member : event ∈ (service.call E request s).trace)
    (scans : event.consult = .scan surfaces exclusions)
    (forwarded : handed ∈ handedOver (service.call E request s).trace) :
    let limit := service.layer.config.maxFullScanBytes
    let cap := bodyCap E service.layer (service.carrier request s)
    (ScannedWhole limit surfaces handed.body.content ↔
      scannedLength request.body.content ≤ limit) ∧
    (3 * cap ≤ limit → ScannedWhole limit surfaces handed.body.content) ∧
    ((∃ text, bytesOf text = request.body.content) → cap ≤ limit →
      ScannedWhole limit surfaces handed.body.content) ∧
    (limit < 3 * cap → ∃ body : Bytes, body.length ≤ cap ∧ limit < scannedLength body) ∧
    (limit < cap → ∃ text, (bytesOf text).length ≤ cap ∧ limit < scannedLength (bytesOf text)) := by
  intro limit cap
  obtain ⟨same, fits⟩ := handed_of_scanned member (by rw [scans]; rfl) forwarded fromBytes
  obtain ⟨χ, s', arrives, -, asked⟩ := scan_asked member (by rw [scans]; rfl)
  obtain ⟨rfl, -⟩ := Consult.scan.inj (scans.symm.trans asked)
  -- The scan is shown the text of the body that is forwarded, which is the request's own.
  have shown : (scanSurfaces χ.parts χ.buffered).rawBody = fromUtf8Lossy request.body.content := by
    rw [scanSurfaces_rawBody, arrives.buffered (by decide)]
  have whole := scannedWhole_iff limit shown
  rw [same]
  refine ⟨whole, fun roomy => whole.mpr ?_, ?_, exists_scannedLength_gt, exists_text_gt⟩
  · have longest := (length_fromUtf8Lossy request.body.content).2
    exact longest.trans ((Nat.mul_le_mul_left 3 fits).trans roomy)
  · rintro ⟨text, own⟩ within
    refine whole.mpr ?_
    rw [← own, scannedLength_of_text, own]
    exact fits.trans within

/-- A layer that scans four bytes of a body and buffers as many as this. -/
def fourByteScan (cap : Nat) : GuardService Bench.world :=
  ((GuardLayer.new Bench.engine { Bench.detectConfig with maxFullScanBytes := 4 }).withBodyCap
    cap).wrap Bench.engine Bench.ok

def sixBytes : Request Bench.world :=
  Bench.request "POST" "/items" none [.data (bytesOf "abcd"), .data (bytesOf "ef")]

def threeBytes : Request Bench.world :=
  Bench.request "POST" "/items" none [.data (bytesOf "abc")]

/-- Two bytes that are no text. -/
def twoIllFormed : Request Bench.world :=
  Bench.request "POST" "/items" none [.data [0xFF, 0xFF]]

theorem fourByteScan_forwards (cap : Nat) (request : Request Bench.world)
    (ran : (((fourByteScan cap).call Bench.engine request Bench.start).trace.any
      fun event => event.consult.check = some .scan) = true)
    (once : (handedOver
      ((fourByteScan cap).call Bench.engine request Bench.start).trace).length = 1) :
    ∃ event ∈ ((fourByteScan cap).call Bench.engine request Bench.start).trace,
      ∃ surfaces exclusions, event.consult = .scan surfaces exclusions ∧
      ∃ handed, handed ∈
        handedOver ((fourByteScan cap).call Bench.engine request Bench.start).trace := by
  obtain ⟨event, member, scans⟩ := List.any_eq_true.mp ran
  obtain ⟨χ, s', -, -, asked⟩ := scan_asked member (of_decide_eq_true scans)
  obtain ⟨handed, only⟩ := List.length_eq_one_iff.mp once
  exact ⟨event, member, _, _, asked, handed, by rw [only]; exact .head []⟩

/-- A short body is scanned to its end and forwarded, through a guard that buffers more than it
scans. -/
theorem short_body_scanned_whole :
    ∃ event ∈ ((fourByteScan 8).call Bench.engine threeBytes Bench.start).trace,
      ∃ surfaces exclusions, event.consult = .scan surfaces exclusions ∧
      ∃ handed ∈ handedOver ((fourByteScan 8).call Bench.engine threeBytes Bench.start).trace,
        ScannedWhole 4 surfaces handed.body.content := by
  obtain ⟨event, member, surfaces, exclusions, scans, handed, forwarded⟩ :=
    fourByteScan_forwards 8 threeBytes (by decide +kernel) (by decide +kernel)
  exact ⟨event, member, surfaces, exclusions, scans, handed, forwarded,
    (forwarded_within_scan_limit_iff Bench.engine (fourByteScan 8) threeBytes handed Bench.start
      event surfaces exclusions (Bench.answering_fromBytes _) member scans forwarded).1.mpr
      (by decide +kernel)⟩

/-- Six bytes go through a guard that scans four, where nothing turns the body surface off; and
where the cap is the scan's own limit, two bytes that are no text are judged by a part of what they
are scanned as. -/
theorem long_body_past_limit :
    (∀ cap, (fourByteScan cap).layer.detectionExclusions = none) ∧
      sixBytes.extensions.detectionExclusions = none ∧
      twoIllFormed.extensions.detectionExclusions = none ∧
      ¬((∃ event ∈ ((fourByteScan 8).call Bench.engine sixBytes Bench.start).trace,
          event.consult.check = some .scan) →
        ∀ handed ∈ handedOver ((fourByteScan 8).call Bench.engine sixBytes Bench.start).trace,
          handed.body.content.length ≤ 4) ∧
      ¬∀ event ∈ ((fourByteScan 4).call Bench.engine twoIllFormed Bench.start).trace,
        ∀ surfaces exclusions, event.consult = .scan surfaces exclusions →
        ∀ handed ∈ handedOver ((fourByteScan 4).call Bench.engine twoIllFormed Bench.start).trace,
          judged 4 surfaces.rawBody = bytesOf (fromUtf8Lossy handed.body.content) := by
  refine ⟨fun _ => rfl, rfl, rfl, fun within => ?_, fun whole => ?_⟩
  · obtain ⟨event, member, surfaces, exclusions, scans, handed, forwarded⟩ :=
      fourByteScan_forwards 8 sixBytes (by decide +kernel) (by decide +kernel)
    have scan : event.consult.check = some .scan := by rw [scans]; rfl
    have short := within ⟨event, member, scan⟩ handed forwarded
    rw [(handed_of_scanned member scan forwarded (Bench.answering_fromBytes _)).1] at short
    exact absurd short (by decide +kernel)
  · obtain ⟨event, member, surfaces, exclusions, scans, handed, forwarded⟩ :=
      fourByteScan_forwards 4 twoIllFormed (by decide +kernel) (by decide +kernel)
    have same := congrArg List.length
      (whole event member surfaces exclusions scans handed forwarded)
    rw [(handed_of_scanned member (by rw [scans]; rfl) forwarded
      (Bench.answering_fromBytes _)).1, judged, List.length_take] at same
    exact absurd (same ▸ Nat.min_le_left 4 _) (by decide +kernel)

end TowerGuard
