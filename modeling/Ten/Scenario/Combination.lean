import Ten.Scenario.CalibrationVocabulary
import Ten.Scenario.GeometryRounding

namespace Ten.Scenario

open Data MarketState Quant Synthesis

/-! # Combining the scenarios of two timeframes -/

namespace ScenarioForecastingEngine

variable (engine : ScenarioForecastingEngine) {m5 m15 : ForwardMarketScenario}

/-- A combination that does not raise, expires after its cutoff and has no geometry but one
in the order of its direction. -/
def Combines (m5 m15 : ForwardMarketScenario) : Prop :=
  ∃ combined, engine.combine m5 m15 = .ok combined ∧
    combined.marketCutoffTime < combined.expiry ∧
    ∀ geometry ∈ combined.geometry, geometry.OrderedFor combined.combinedDirection

def Confident (m5 m15 : ForwardMarketScenario) : Prop :=
  engine.config.minimumScenarioConfidence ≤ m5.confidence * (2 / 5) + m15.confidence * (3 / 5)

/-- The M5 scenario is still open at the M15 cutoff, and the geometry that a confident pair
takes over is in the order of the M15 direction. -/
structure Combinable (m5 m15 : ForwardMarketScenario) : Prop where
  open5 : m15.marketCutoffTime < m5.expiry
  aligned : m5.primaryDirection = m15.primaryDirection → engine.Confident m5 m15 →
    ∀ geometry ∈ m15.geometry, geometry.OrderedFor m15.primaryDirection
  pullback : pullbackCompatible m5 m15 → engine.Confident m5 m15 →
    ∀ geometry ∈ m5.geometry, geometry.OrderedFor m15.primaryDirection

variable {engine}

/-! ## What a validated scenario satisfies -/

theorem checks_of_validated {scenario : ForwardMarketScenario}
    (valid : scenario.validated = .ok scenario) : ∀ check ∈ scenario.checks, check.1 = true :=
  (checked_eq_ok_iff.mp valid).2

theorem confidence_bounded {scenario : ForwardMarketScenario}
    (valid : scenario.validated = .ok scenario) :
    0 ≤ scenario.confidence ∧ scenario.confidence ≤ 100 := by
  have checks := checks_of_validated valid
  simp only [ForwardMarketScenario.checks, List.forall_mem_cons, decide_eq_true_eq] at checks
  tauto

theorem cutoff_lt_expiry {scenario : ForwardMarketScenario}
    (valid : scenario.validated = .ok scenario) : scenario.marketCutoffTime < scenario.expiry := by
  have checks := checks_of_validated valid
  simp only [ForwardMarketScenario.checks, List.forall_mem_cons, decide_eq_true_eq] at checks
  tauto

theorem tradeable_of_geometry {scenario : ForwardMarketScenario}
    (valid : scenario.validated = .ok scenario) {geometry : ScenarioGeometry}
    (given : geometry ∈ scenario.geometry) :
    scenario.primaryDirection = .bullish ∨ scenario.primaryDirection = .bearish := by
  have checks := checks_of_validated valid
  simp only [ForwardMarketScenario.checks, List.forall_mem_cons, decide_eq_true_eq] at checks
  have some : scenario.geometry.isNone = false := by
    rw [Option.mem_def.mp given]
    rfl
  cases direction : scenario.primaryDirection with
  | bullish => exact .inl rfl
  | bearish => exact .inr rfl
  | range => simp [direction, some] at checks
  | inconclusive => simp [direction, some] at checks

/-! ## What a combination returns -/

def Compatible (m5 m15 : ForwardMarketScenario) : Prop :=
  agreement m5 m15 = .aligned ∨ agreement m5 m15 = .pullbackCompatible

instance (m5 m15 : ForwardMarketScenario) : Decidable (Compatible m5 m15) :=
  inferInstanceAs (Decidable (_ ∨ _))

def preferredGeometry (m5 m15 : ForwardMarketScenario) : Option ScenarioGeometry :=
  if agreement m5 m15 = .pullbackCompatible then m5.geometry else m15.geometry

/-- The parts of a combination before its validation. -/
structure Combined (engine : ScenarioForecastingEngine) (m5 m15 : ForwardMarketScenario)
    (built : CombinedForwardScenario) : Prop where
  returned : engine.combine m5 m15 = built.validated
  cutoff : built.marketCutoffTime = m15.marketCutoffTime
  expiry : built.expiry = min m5.expiry m15.expiry
  agreement : built.agreement = agreement m5 m15
  direction : Compatible m5 m15 → built.combinedDirection = m15.primaryDirection
  bounded : 0 ≤ built.confidence ∧ built.confidence ≤ 100
  geometry : ∀ geometry, geometry ∈ built.geometry ↔
    Compatible m5 m15 ∧ engine.Confident m5 m15 ∧ geometry ∈ preferredGeometry m5 m15
  valid : built.executionGeometryValidity = .valid ↔ built.geometry.isSome
  reason : built.geometry = none → built.geometryRejectionReason.getD "" ≠ ""

theorem rounded_percentage {value : ℚ} (lower : 0 ≤ value) (upper : value ≤ 100) :
    0 ≤ rounded 4 value ∧ rounded 4 value ≤ 100 := by
  constructor
  · exact_mod_cast @le_rounded 4 value 0 (by exact_mod_cast lower)
  · exact_mod_cast @rounded_le 4 value 100 (by exact_mod_cast upper)

theorem agreement_ne_conflict (compatible : Compatible m5 m15) : agreement m5 m15 ≠ .conflict := by
  rcases compatible with aligned | pullback
  · simp [aligned]
  · simp [pullback]

/-- The test that `combine` puts its geometry to. -/
def Accepted (engine : ScenarioForecastingEngine) (m5 m15 : ForwardMarketScenario) : Prop :=
  Compatible m5 m15 ∧ (preferredGeometry m5 m15).isSome ∧
    engine.config.minimumScenarioConfidence ≤
      if agreement m5 m15 ≠ .conflict then m5.confidence * (2 / 5) + m15.confidence * (3 / 5)
      else min m5.confidence m15.confidence * (1 / 2)

instance : Decidable (engine.Accepted m5 m15) := inferInstanceAs (Decidable (_ ∧ _))

theorem accepted_iff : engine.Accepted m5 m15 ↔
    Compatible m5 m15 ∧ (preferredGeometry m5 m15).isSome ∧ engine.Confident m5 m15 := by
  refine and_congr_right fun compatible => and_congr_right fun _ => ?_
  rw [if_pos (agreement_ne_conflict compatible)]
  rfl

theorem exists_combined (engine : ScenarioForecastingEngine)
    (valid5 : m5.validated = .ok m5) (valid15 : m15.validated = .ok m15)
    (sameInstrument : m5.instrument = m15.instrument)
    (notAfter : m5.marketCutoffTime ≤ m15.marketCutoffTime) :
    ∃ built, Combined engine m5 m15 built := by
  obtain ⟨lower5, upper5⟩ := confidence_bounded valid5
  obtain ⟨lower15, upper15⟩ := confidence_bounded valid15
  have entered : ¬ m5.instrument ≠ m15.instrument := not_not.mpr sameInstrument
  refine ⟨_, ⟨(if_neg entered).trans (if_neg (not_lt.mpr notAfter)), rfl, rfl, rfl, ?_, ?_, ?_, ?_,
    ?_⟩⟩
  · intro compatible
    exact if_pos compatible
  · apply rounded_percentage
    · split
      · linarith
      · have := le_min lower5 lower15
        linarith
    · split
      · linarith
      · have := min_le_left m5.confidence m15.confidence
        linarith
  · intro geometry
    change geometry ∈ (if engine.Accepted m5 m15 then preferredGeometry m5 m15 else none) ↔ _
    by_cases taken : engine.Accepted m5 m15
    · have ⟨compatible, _, confident⟩ := accepted_iff.mp taken
      rw [if_pos taken]
      simp only [compatible, confident, true_and]
    · rw [if_neg taken]
      refine iff_of_false (by simp) ?_
      rintro ⟨compatible, confident, given⟩
      exact taken (accepted_iff.mpr ⟨compatible, Option.isSome_of_mem given, confident⟩)
  · change (if engine.Accepted m5 m15 then GeometryValidity.valid else .unavailable) = .valid ↔
      (if engine.Accepted m5 m15 then preferredGeometry m5 m15 else none).isSome = true
    by_cases taken : engine.Accepted m5 m15
    · simp only [if_pos taken, taken.2.1]
    · simp [if_neg taken]
  · change (if engine.Accepted m5 m15 then preferredGeometry m5 m15 else none) = none →
      (if engine.Accepted m5 m15 then none else _ : Option String).getD "" ≠ ""
    by_cases taken : engine.Accepted m5 m15
    · rw [if_pos taken]
      intro absent
      have given := taken.2.1
      rw [absent] at given
      cases given
    · rw [if_neg taken, if_neg taken]
      intro _
      split
      · simp
      · split <;> simp

theorem Combined.returned_iff {built : CombinedForwardScenario} (combined : Combined engine m5 m15 built)
    (value : CombinedForwardScenario) :
    engine.combine m5 m15 = .ok value ↔
      value = built ∧ built.marketCutoffTime < built.expiry := by
  rw [combined.returned, CombinedForwardScenario.validated, checked_eq_ok_iff]
  refine and_congr_right fun _ => ?_
  simp only [CombinedForwardScenario.checks, List.forall_mem_cons, decide_eq_true_eq]
  constructor
  · intro checks
    exact checks.2.1
  · intro later
    refine ⟨combined.bounded, later, ?_, ?_, by simp⟩
    · intro valid
      have some := combined.valid.mp valid
      obtain ⟨geometry, given⟩ := Option.isSome_iff_exists.mp some
      refine ⟨some, ?_⟩
      rw [combined.agreement]
      exact agreement_ne_conflict ((combined.geometry geometry).mp given).1
    · intro invalid
      have none : built.geometry = none :=
        Option.not_isSome_iff_eq_none.mp fun some => invalid (combined.valid.mpr some)
      exact ⟨by rw [none]; rfl, combined.reason none⟩

theorem aligned_iff (later : m15.marketCutoffTime < m5.expiry) :
    agreement m5 m15 = .aligned ↔ m5.primaryDirection = m15.primaryDirection ∧
      (m15.primaryDirection = .bullish ∨ m15.primaryDirection = .bearish) := by
  unfold agreement
  rw [if_neg (not_le.mpr later)]
  split
  · rename_i aligned
    exact iff_of_true rfl aligned
  · rename_i apart
    refine iff_of_false ?_ apart
    split
    · simp
    · split <;> simp

theorem pullbackCompatible_apart (pullback : pullbackCompatible m5 m15 = true) :
    m5.primaryDirection ≠ m15.primaryDirection := by
  unfold pullbackCompatible at pullback
  split at pullback
  · rename_i up
    have down : m5.primaryDirection = .bearish := by
      simp at pullback
      exact pullback.1
    simp [up, down]
  · rename_i down
    have up : m5.primaryDirection = .bullish := by
      simp at pullback
      exact pullback.1
    simp [up, down]
  · cases pullback

theorem pullback_iff (later : m15.marketCutoffTime < m5.expiry) :
    agreement m5 m15 = .pullbackCompatible ↔ pullbackCompatible m5 m15 = true := by
  unfold agreement
  rw [if_neg (not_le.mpr later)]
  by_cases pullback : pullbackCompatible m5 m15 = true
  · have apart := pullbackCompatible_apart pullback
    simp [apart, pullback]
  · refine iff_of_false ?_ pullback
    rw [if_neg pullback]
    split
    · simp
    · split <;> simp

theorem combines_iff (engine : ScenarioForecastingEngine) (m5 m15 : ForwardMarketScenario)
    (valid5 : m5.validated = .ok m5) (valid15 : m15.validated = .ok m15)
    (sameInstrument : m5.instrument = m15.instrument)
    (notAfter : m5.marketCutoffTime ≤ m15.marketCutoffTime) :
    engine.Combines m5 m15 ↔ engine.Combinable m5 m15 := by
  obtain ⟨built, combined⟩ :=
    exists_combined engine valid5 valid15 sameInstrument notAfter
  constructor
  · rintro ⟨value, returned, _, ordered⟩
    obtain ⟨rfl, unexpired⟩ := (combined.returned_iff value).mp returned
    have later : m15.marketCutoffTime < m5.expiry := by
      rw [combined.cutoff, combined.expiry] at unexpired
      exact (lt_min_iff.mp unexpired).1
    refine ⟨later, ?_, ?_⟩
    · intro same confident geometry given
      have aligned := (aligned_iff later).mpr ⟨same, tradeable_of_geometry valid15 given⟩
      have taken : geometry ∈ value.geometry := by
        refine (combined.geometry geometry).mpr ⟨.inl aligned, confident, ?_⟩
        simpa [preferredGeometry, aligned] using given
      rw [← combined.direction (.inl aligned)]
      exact ordered geometry taken
    · intro opposite confident geometry given
      have pullback := (pullback_iff later).mpr opposite
      have taken : geometry ∈ value.geometry := by
        refine (combined.geometry geometry).mpr ⟨.inr pullback, confident, ?_⟩
        simpa [preferredGeometry, pullback] using given
      rw [← combined.direction (.inr pullback)]
      exact ordered geometry taken
  · intro combinable
    have unexpired : built.marketCutoffTime < built.expiry := by
      rw [combined.cutoff, combined.expiry]
      exact lt_min combinable.open5 (cutoff_lt_expiry valid15)
    refine ⟨built, (combined.returned_iff built).mpr ⟨rfl, unexpired⟩, unexpired, ?_⟩
    intro geometry taken
    obtain ⟨compatible, confident, given⟩ := (combined.geometry geometry).mp taken
    rw [combined.direction compatible]
    rcases compatible with aligned | pullback
    · refine combinable.aligned ((aligned_iff combinable.open5).mp aligned).1 confident geometry ?_
      simpa [preferredGeometry, aligned] using given
    · refine combinable.pullback ((pullback_iff combinable.open5).mp pullback) confident geometry ?_
      simpa [preferredGeometry, pullback] using given

/-! ## What the engine itself forecasts -/

theorem orderedFor_of_geometry {prediction : HorizonPrediction} {signal : TimeframeAnalyticalSignal}
    {direction : ScenarioDirection} {supporting : List String} {validity : ScenarioValidity}
    {verdict : GeometryVerdict}
    (returned : engine.geometry prediction signal direction supporting validity = .ok verdict)
    {geometry : ScenarioGeometry} (given : geometry ∈ verdict.geometry) :
    geometry.OrderedFor direction := by
  have notRejected {status : GeometryValidity} {reason : String}
      (rejects : (.ok (.rejected status reason) : Except PythonException GeometryVerdict) =
        .ok verdict) : False := by
    cases rejects
    cases given
  unfold ScenarioForecastingEngine.geometry at returned
  dsimp only at returned
  split at returned
  · exact (notRejected returned).elim
  · split at returned
    · exact (notRejected returned).elim
    · split at returned
      · exact (notRejected returned).elim
      · split at returned
        · obtain ⟨zone, _, validated⟩ := bind_eq_ok_iff.mp returned
          exact GeometryCandidate.orderedFor_of_validated validated given
        · split at returned
          · obtain ⟨zone, _, validated⟩ := bind_eq_ok_iff.mp returned
            exact GeometryCandidate.orderedFor_of_validated validated given
          · obtain ⟨zone, _, validated⟩ := bind_eq_ok_iff.mp returned
            exact GeometryCandidate.orderedFor_of_validated validated given
          · exact (notRejected returned).elim

theorem emitted_ordered {scenario : ForwardMarketScenario} (emitted : Emitted scenario) :
    scenario.validated = .ok scenario ∧
      ∀ geometry ∈ scenario.geometry, geometry.OrderedFor scenario.primaryDirection := by
  obtain ⟨engine, state, quant, synthesis, timeframe, probability, returned⟩ := emitted
  unfold ScenarioForecastingEngine.forecast at returned
  obtain ⟨⟨prediction, signal⟩, _, returned⟩ := bind_eq_ok_iff.mp returned
  obtain ⟨ranges, _, returned⟩ := bind_eq_ok_iff.mp returned
  obtain ⟨verdict, judged, returned⟩ := bind_eq_ok_iff.mp returned
  obtain ⟨expiry, _, returned⟩ := bind_eq_ok_iff.mp returned
  obtain ⟨isBuilt, passes⟩ := checked_eq_ok_iff.mp returned
  constructor
  · refine checked_of_passes ?_
    rw [isBuilt]
    exact passes
  · intro geometry given
    rw [isBuilt] at given ⊢
    exact orderedFor_of_geometry judged given

theorem not_orderedFor_opposite {geometry : ScenarioGeometry} {one other : ScenarioDirection}
    (ordered : geometry.OrderedFor one) (apart : one ≠ other) : ¬ geometry.OrderedFor other := by
  cases one <;> cases other <;>
    first
    | exact absurd rfl apart
    | exact fun opposite => lt_asymm ordered.1 opposite.2
    | exact ordered.elim
    | exact id

theorem combines_emitted_iff (engine : ScenarioForecastingEngine)
    (emitted5 : Emitted m5) (emitted15 : Emitted m15)
    (sameInstrument : m5.instrument = m15.instrument)
    (notAfter : m5.marketCutoffTime ≤ m15.marketCutoffTime) :
    engine.Combines m5 m15 ↔ m15.marketCutoffTime < m5.expiry ∧
      ¬ (pullbackCompatible m5 m15 = true ∧ engine.Confident m5 m15 ∧ m5.geometry.isSome) := by
  obtain ⟨valid5, ordered5⟩ := emitted_ordered emitted5
  obtain ⟨valid15, ordered15⟩ := emitted_ordered emitted15
  rw [combines_iff engine m5 m15 valid5 valid15 sameInstrument notAfter]
  constructor
  · intro combinable
    refine ⟨combinable.open5, ?_⟩
    rintro ⟨pullback, confident, some⟩
    obtain ⟨geometry, given⟩ := Option.isSome_iff_exists.mp some
    exact not_orderedFor_opposite (ordered5 geometry given) (pullbackCompatible_apart pullback)
      (combinable.pullback pullback confident geometry given)
  · rintro ⟨later, noPullback⟩
    refine ⟨later, fun _ _ geometry given => ordered15 geometry given, ?_⟩
    intro pullback confident geometry given
    exact (noPullback ⟨pullback, confident, Option.isSome_of_mem given⟩).elim

/-- When two scenarios of one instrument combine, for any two and for two of the engine's. -/
theorem forecasts_combine_iff (engine : ScenarioForecastingEngine) (m5 m15 : ForwardMarketScenario)
    (valid5 : m5.validated = .ok m5) (valid15 : m15.validated = .ok m15)
    (sameInstrument : m5.instrument = m15.instrument)
    (notAfter : m5.marketCutoffTime ≤ m15.marketCutoffTime) :
    (engine.Combines m5 m15 ↔ engine.Combinable m5 m15) ∧
      (Emitted m5 → Emitted m15 →
        (engine.Combines m5 m15 ↔ m15.marketCutoffTime < m5.expiry ∧
          ¬ (pullbackCompatible m5 m15 = true ∧ engine.Confident m5 m15 ∧ m5.geometry.isSome))) :=
  ⟨combines_iff engine m5 m15 valid5 valid15 sameInstrument notAfter,
    fun emitted5 emitted15 => combines_emitted_iff engine emitted5 emitted15 sameInstrument notAfter⟩

/-! ## The scenarios of 10:15 -/

def risingForecastM5 : Except PythonException ForwardMarketScenario :=
  standardForecasting.forecast sampleState risingQuant plainSynthesis "M5" none

theorem risingForecastM5_isSome : risingForecastM5.toOption.isSome = true := by decide +kernel

def risingM5 : ForwardMarketScenario := risingForecastM5.toOption.get risingForecastM5_isSome

theorem risingM5_passes : ∀ check ∈ risingM5.checks, check.1 = true := by decide +kernel

theorem risingScenario_passes : ∀ check ∈ risingScenario.checks, check.1 = true := by
  decide +kernel

theorem risingPair_enters : risingM5.instrument = risingScenario.instrument ∧
    risingM5.marketCutoffTime ≤ risingScenario.marketCutoffTime ∧
    risingScenario.marketCutoffTime < risingM5.expiry := by decide +kernel

theorem risingPair_without_geometry : risingM5.geometry.isNone ∧ risingScenario.geometry.isNone := by
  decide +kernel

/-- The two scenarios of one cycle combine. -/
theorem risingPair_combines : standardForecasting.Combines risingM5 risingScenario :=
  (forecasts_combine_iff standardForecasting risingM5 risingScenario
    (checked_of_passes risingM5_passes) (checked_of_passes risingScenario_passes)
    risingPair_enters.1 risingPair_enters.2.1).1.mpr
    { open5 := risingPair_enters.2.2
      aligned := by
        intro _ _ geometry given
        have none := risingPair_without_geometry.2
        rw [Option.mem_def.mp given] at none
        cases none
      pullback := by
        intro _ _ geometry given
        have none := risingPair_without_geometry.1
        rw [Option.mem_def.mp given] at none
        cases none }

def earlierM5 : ForwardMarketScenario :=
  { risingM5 with
    marketCutoffTime := risingM5.marketCutoffTime - 600000000
    expiry := risingM5.expiry - 600000000 }

theorem earlierM5_passes : ∀ check ∈ earlierM5.checks, check.1 = true := by decide +kernel

theorem earlierM5_enters : earlierM5.instrument = risingScenario.instrument ∧
    earlierM5.marketCutoffTime ≤ risingScenario.marketCutoffTime ∧
    ¬ risingScenario.marketCutoffTime < earlierM5.expiry := by decide +kernel

/-- An M5 scenario that expired before the M15 cutoff makes the combination raise. -/
theorem expired_pair_raises :
    ¬ ∀ (engine : ScenarioForecastingEngine) (m5 m15 : ForwardMarketScenario),
      m5.validated = .ok m5 → m15.validated = .ok m15 → m5.instrument = m15.instrument →
        m5.marketCutoffTime ≤ m15.marketCutoffTime → engine.Combines m5 m15 := by
  intro combines
  have valid5 : earlierM5.validated = .ok earlierM5 := checked_of_passes earlierM5_passes
  have valid15 : risingScenario.validated = .ok risingScenario :=
    checked_of_passes risingScenario_passes
  have combined := combines standardForecasting earlierM5 risingScenario valid5 valid15
    earlierM5_enters.1 earlierM5_enters.2.1
  have combinable := (combines_iff standardForecasting earlierM5 risingScenario valid5 valid15
    earlierM5_enters.1 earlierM5_enters.2.1).mp combined
  exact earlierM5_enters.2.2 combinable.open5

end ScenarioForecastingEngine

end Ten.Scenario
