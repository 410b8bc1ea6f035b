import TowerGuard.Config
import TowerGuard.Engine.Metered
import TowerGuard.Properties.Views

/-!
# The detection knobs of a configuration

What the scan of a configured layer leaves out, against what the configuration says. An empty
set of categories disables them all in the configuration, and reaches the scan as no set.
-/

namespace TowerGuard

open Text Traced

variable {W : World}

/-- What a scan can leave out by name. -/
inductive ScanSurface where
  | header | param | bodyField
  deriving DecidableEq

def DetectionExclusionConfig.excluded (view : DetectionExclusionConfig) :
    ScanSurface → List String
  | .header => view.excludedDetectionHeaders
  | .param => view.excludedDetectionParams
  | .bodyField => view.excludedDetectionBodyFields

/-- The configuration's own values, as the view of a layer. -/
def SecurityConfig.detectionView (config : SecurityConfig W) : DetectionExclusionConfig where
  excludedDetectionHeaders := config.excludedDetectionHeaders
  excludedDetectionParams := config.excludedDetectionParams
  excludedDetectionBodyFields := config.excludedDetectionBodyFields
  enabledDetectionCategories := some config.enabledDetectionCategories
  detectionScanBody := some config.detectionScanBody

variable (W) in
/-- How resolved exclusions read, over the names that every scan leaves out. -/
structure ExclusionReading where
  excludes : W.ResolvedExclusions → ScanSurface → String → Prop
  scansBody : W.ResolvedExclusions → Prop
  enables : W.ResolvedExclusions → String → Prop
  defaults : ScanSurface → String → Prop

/-- Without a route view, `resolve` reads as the global one. What is absent excludes nothing
beyond the defaults, scans the body and enables every category. -/
structure ResolvesGlobal (E : Engine W) (reading : ExclusionReading W) : Prop where
  excludes : ∀ global surface name, reading.excludes (E.resolve global none) surface name ↔
    reading.defaults surface name ∨
      name ∈ (global.map (DetectionExclusionConfig.excluded · surface)).getD []
  scansBody : ∀ global, reading.scansBody (E.resolve global none) ↔
    (global.bind DetectionExclusionConfig.detectionScanBody).getD true = true
  enables : ∀ global category, reading.enables (E.resolve global none) category ↔
    ∀ enabled, global.bind DetectionExclusionConfig.enabledDetectionCategories = some enabled →
      category ∈ enabled

/-- The exclusions are the resolved values of the configuration, and read as it says: an empty
set of categories enables none. -/
structure ReadsConfig (E : Engine W) (reading : ExclusionReading W) (config : SecurityConfig W)
    (exclusions : W.ResolvedExclusions) : Prop where
  resolved : exclusions = E.resolve (some config.detectionView) none
  excludes : ∀ surface name, reading.excludes exclusions surface name ↔
    reading.defaults surface name ∨ name ∈ config.detectionView.excluded surface
  scansBody : reading.scansBody exclusions ↔ config.detectionScanBody = true
  enables : ∀ category, reading.enables exclusions category ↔
    category ∈ config.enabledDetectionCategories

section Knobs

variable {E : Engine W} {C : Constructors W} {stores : Allocation} {config : SecurityConfig W}
  {layer : GuardLayer W} {reading : ExclusionReading W}

/-- With categories the layer has the configuration's own view. -/
theorem detectionExclusions_of_categories
    (built : fromSecurityConfig E C stores config = .ok layer)
    (named : config.enabledDetectionCategories ≠ []) :
    layer.detectionExclusions = some config.detectionView := by
  have filled : config.enabledDetectionCategories.isEmpty = false := by simpa using named
  rw [fromSecurityConfig_detectionExclusions built]
  simp only [SecurityConfig.installDetectionExclusions, filled, Bool.not_false, Bool.or_true,
    if_true, Bool.false_eq_true, if_false]
  rfl

/-- Without categories it has no set of them, whatever else is installed. -/
theorem no_categories_of_empty (built : fromSecurityConfig E C stores config = .ok layer)
    (empty : config.enabledDetectionCategories = []) :
    layer.detectionExclusions.bind DetectionExclusionConfig.enabledDetectionCategories = none := by
  rw [fromSecurityConfig_detectionExclusions built]
  unfold SecurityConfig.installDetectionExclusions
  rw [empty]
  split <;> rfl

/-- The global view of a configured layer reads as the configuration when categories are named. -/
theorem reads_config_iff (resolves : ResolvesGlobal E reading)
    (built : fromSecurityConfig E C stores config = .ok layer) :
    ReadsConfig E reading config (E.resolve layer.detectionExclusions none) ↔
      config.enabledDetectionCategories ≠ [] := by
  constructor
  · intro reads empty
    -- All categories are enabled in the scan, and none in the configuration.
    have enabled : reading.enables (E.resolve layer.detectionExclusions none) "xss" := by
      rw [resolves.enables, no_categories_of_empty built empty]
      intro _ absent
      cases absent
    rw [reads.enables, empty] at enabled
    cases enabled
  · intro named
    rw [detectionExclusions_of_categories built named]
    refine ⟨rfl, fun surface name => ?_, ?_, fun category => ?_⟩
    · rw [resolves.excludes]
      rfl
    · rw [resolves.scansBody]
      rfl
    · rw [resolves.enables]
      constructor
      · intro enabled
        exact enabled _ rfl
      · rintro member _ ⟨⟩
        exact member

/-- Every scan of a configured layer, for a request without exclusions of its own, reads as the
configuration says exactly when the configuration names a category. -/
theorem scan_reads_config_iff (resolves : ResolvesGlobal E reading)
    (built : fromSecurityConfig E C stores config = .ok layer) (inner : InnerService W)
    (request : Request W) (s : Store W) (plain : request.extensions.detectionExclusions = none)
    {event : Event W} {surfaces : RequestSurfaces} {exclusions : W.ResolvedExclusions}
    (member : event ∈ ((layer.wrap E inner).call E request s).trace)
    (asked : event.consult = .scan surfaces exclusions) :
    ReadsConfig E reading config exclusions ↔ config.enabledDetectionCategories ≠ [] := by
  obtain ⟨χ, s', -, -, own⟩ := scan_asked member (by rw [asked]; rfl)
  rw [asked, Consult.scan.injEq, plain] at own
  rw [own.2]
  change ReadsConfig E reading config (E.resolve layer.detectionExclusions none) ↔ _
  exact reads_config_iff resolves built

end Knobs

/-! ### A set of categories, and none -/

def meteredReading : ExclusionReading Metered.world where
  excludes := fun resolved surface name => match surface with
    | .header => name ∈ resolved.headers
    | .param => name ∈ resolved.params
    | .bodyField => name ∈ resolved.bodyFields
  scansBody := fun resolved => resolved.scansBody = true
  enables := fun resolved category =>
    ∀ enabled, resolved.categories = some enabled → category ∈ enabled
  defaults := fun _ _ => False

theorem metered_resolves : ResolvesGlobal Metered.engine meteredReading where
  excludes := by
    intro global surface name
    change meteredReading.excludes (Metered.resolve global none) surface name ↔ _
    cases global <;> cases surface <;>
      simp [meteredReading, Metered.resolve, DetectionExclusionConfig.excluded]
  scansBody := fun _ => Iff.rfl
  enables := fun _ _ => Iff.rfl

/-- A configuration of these categories, with the body left out of the scan. -/
def headersOnly (categories : List String) : SecurityConfig Metered.world :=
  { Metered.config with enabledDetectionCategories := categories, detectionScanBody := false }

def headersOnlyLayer (categories : List String) : GuardLayer Metered.world :=
  (fromSecurityConfig Metered.engine Metered.constructors Bench.stores
    (headersOnly categories)).toOption.getD Metered.layer

/-- The scan of a plain request behind the layer has these exclusions. -/
def headersOnlyTrace (categories : List String) : List (Event Metered.world) :=
  (((headersOnlyLayer categories).wrap Metered.engine Metered.ok).call Metered.engine
    (Metered.request none "GET" "/items" none []) Metered.start).trace

/-- The exclusions a trace scans with. -/
def scannedWith {W : World} (trace : List (Event W)) : List W.ResolvedExclusions :=
  trace.filterMap fun event => match event.consult with
    | .scan _ exclusions => some exclusions
    | _ => none

theorem mem_scannedWith {W : World} {trace : List (Event W)} {exclusions : W.ResolvedExclusions} :
    exclusions ∈ scannedWith trace ↔
      ∃ event ∈ trace, ∃ surfaces, event.consult = .scan surfaces exclusions := by
  unfold scannedWith
  rw [List.mem_filterMap]
  constructor
  · rintro ⟨event, member, read⟩
    split at read
    next surfaces _ asked => cases read; exact ⟨event, member, surfaces, asked⟩
    · cases read
  · rintro ⟨event, member, surfaces, asked⟩
    exact ⟨event, member, by rw [asked]⟩

/-- One category in the configuration is the one category of the scan. -/
theorem named_category_scanned :
    ∃ exclusions ∈ scannedWith (headersOnlyTrace ["xss"]),
      ReadsConfig Metered.engine meteredReading (headersOnly ["xss"]) exclusions := by
  have scanned : (scannedWith (headersOnlyTrace ["xss"])).length = 1 := by decide +kernel
  obtain ⟨exclusions, only⟩ := List.length_eq_one_iff.mp scanned
  have member : exclusions ∈ scannedWith (headersOnlyTrace ["xss"]) := by rw [only]; simp
  obtain ⟨event, asked, surfaces, own⟩ := mem_scannedWith.mp member
  exact ⟨exclusions, member, (scan_reads_config_iff metered_resolves
    (rfl : fromSecurityConfig Metered.engine Metered.constructors Bench.stores
      (headersOnly ["xss"]) = .ok (headersOnlyLayer ["xss"]))
    Metered.ok (Metered.request none "GET" "/items" none []) Metered.start rfl asked own).mpr
    (by decide)⟩

/-- No category in the configuration is every category of the scan, and the body is scanned. -/
theorem empty_categories_scan_everything :
    ∃ exclusions ∈ scannedWith (headersOnlyTrace []),
      meteredReading.enables exclusions "xss" ∧ meteredReading.scansBody exclusions ∧
      ¬ReadsConfig Metered.engine meteredReading (headersOnly []) exclusions := by
  have scanned : scannedWith (headersOnlyTrace []) = [⟨[], [], [], none, true⟩] := by
    decide +kernel
  refine ⟨⟨[], [], [], none, true⟩, by rw [scanned]; simp, ?_, rfl, fun reads => ?_⟩
  · rintro _ ⟨⟩
  · have scansBody := reads.scansBody.mp rfl
    cases scansBody

end TowerGuard
