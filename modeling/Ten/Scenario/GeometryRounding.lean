import Ten.Scenario.Geometry

namespace Ten.Scenario

open Data

/-! # Geometry after rounding

The gates of a candidate look at its prices as they are, and the geometry holds them
rounded to six decimals.  Rounding keeps an order, but it can close a gap or leave a zone. -/

def ScenarioGeometry.OrderedFor (geometry : ScenarioGeometry) : ScenarioDirection → Prop
  | .bullish => geometry.stopLoss < geometry.entry ∧ geometry.entry < geometry.takeProfit
  | .bearish => geometry.takeProfit < geometry.entry ∧ geometry.entry < geometry.stopLoss
  | _ => False

def Beyond (direction : ScenarioDirection) (entry target : ℚ) : Prop :=
  (direction = .bullish → entry < target) ∧ (direction = .bearish → target < entry)

structure ScenarioGeometry.Executable (geometry : ScenarioGeometry)
    (direction : ScenarioDirection) (minimumRiskReward : ℚ) : Prop where
  ordered : geometry.OrderedFor direction
  secondary : ∀ target ∈ geometry.secondaryTarget, Beyond direction geometry.entry target
  entryInZone : geometry.entryZone.low ≤ geometry.entry ∧ geometry.entry ≤ geometry.entryZone.high
  ratio : minimumRiskReward ≤ geometry.riskRewardRatio
  pricesRatio : minimumRiskReward ≤
    |geometry.takeProfit - geometry.entry| / |geometry.entry - geometry.stopLoss|

namespace GeometryCandidate

variable (candidate : GeometryCandidate)

/-- A validation that does not raise and rejects with a reason or returns what it promises. -/
def Answered (result : Except PythonException GeometryVerdict) : Prop :=
  ∃ verdict, result = .ok verdict ∧ (verdict.geometry = none → verdict.reason.isSome) ∧
    ∀ geometry ∈ verdict.geometry,
      geometry.Executable candidate.direction candidate.minimumRiskReward

def Refused : Prop := ∃ gate ∈ candidate.gates, gate.1 = false

/-- Six decimals keep the prices positive and apart and the entry in its zone. -/
structure Separated : Prop where
  stopPositive : 0 < rounded 6 candidate.stopLoss
  targetPositive : 0 < rounded 6 candidate.takeProfit
  secondaryPositive : ∀ target ∈ candidate.secondaryTarget, 0 < rounded 6 target
  ratioPositive : 0 < rounded 6 (candidate.reward / candidate.risk)
  stopApart : rounded 6 candidate.stopLoss ≠ rounded 6 candidate.entry
  targetApart : rounded 6 candidate.takeProfit ≠ rounded 6 candidate.entry
  entryInZone : candidate.entryZone.low ≤ rounded 6 candidate.entry ∧
    rounded 6 candidate.entry ≤ candidate.entryZone.high

/-- Six decimals keep the risk and reward, and the secondary target is one. -/
structure Rewarding : Prop where
  secondary : ∀ target ∈ candidate.secondaryTarget,
    Beyond candidate.direction (rounded 6 candidate.entry) (rounded 6 target)
  ratio : candidate.minimumRiskReward ≤ rounded 6 (candidate.reward / candidate.risk)
  pricesRatio : candidate.minimumRiskReward ≤
    |rounded 6 candidate.takeProfit - rounded 6 candidate.entry| /
      |rounded 6 candidate.entry - rounded 6 candidate.stopLoss|

variable {candidate}

theorem ordered_of_passed (passed : ¬ candidate.Refused) :
    (candidate.direction = .bullish ∧ candidate.stopLoss < candidate.entry ∧
        candidate.entry < candidate.takeProfit) ∨
      (candidate.direction = .bearish ∧ candidate.takeProfit < candidate.entry ∧
        candidate.entry < candidate.stopLoss) := by
  have passes : ∀ gate ∈ candidate.gates, gate.1 = true := by
    simpa [Refused] using passed
  simp only [gates, List.forall_mem_cons, decide_eq_true_eq] at passes
  obtain ⟨tradeable, -, -, -, buy, -, -, sell, -⟩ := passes
  rcases tradeable with isBuy | isSell
  · exact .inl ⟨isBuy, buy isBuy⟩
  · exact .inr ⟨isSell, sell isSell⟩

theorem basis_of_passed (passed : ¬ candidate.Refused) : candidate.basisFactIdentifiers ≠ [] := by
  have passes : ∀ gate ∈ candidate.gates, gate.1 = true := by
    simpa [Refused] using passed
  simp only [gates, List.forall_mem_cons, decide_eq_true_eq] at passes
  exact passes.2.1

theorem orderedFor_of_apart (passed : ¬ candidate.Refused)
    (stopApart : rounded 6 candidate.stopLoss ≠ rounded 6 candidate.entry)
    (targetApart : rounded 6 candidate.takeProfit ≠ rounded 6 candidate.entry) :
    candidate.geometry.OrderedFor candidate.direction := by
  rcases ordered_of_passed passed with ⟨isBuy, below, above⟩ | ⟨isSell, below, above⟩
  · rw [isBuy]
    exact ⟨lt_of_le_of_ne (rounded_mono 6 below.le) stopApart,
      lt_of_le_of_ne (rounded_mono 6 above.le) targetApart.symm⟩
  · rw [isSell]
    exact ⟨lt_of_le_of_ne (rounded_mono 6 below.le) targetApart,
      lt_of_le_of_ne (rounded_mono 6 above.le) stopApart.symm⟩

theorem coherent_iff_separated (passed : ¬ candidate.Refused) :
    candidate.geometry.Coherent ↔ candidate.Separated := by
  constructor
  · intro coherent
    have apart : rounded 6 candidate.stopLoss ≠ rounded 6 candidate.entry ∧
        rounded 6 candidate.takeProfit ≠ rounded 6 candidate.entry := by
      rcases coherent.ordered with buy | sell
      · exact ⟨buy.1.ne, buy.2.ne'⟩
      · exact ⟨sell.2.ne', sell.1.ne⟩
    have secondary : ∀ target ∈ candidate.secondaryTarget, 0 < rounded 6 target := by
      intro target isSecondary
      exact coherent.secondaryTargetPositive _ (Option.mem_map_of_mem _ isSecondary)
    exact ⟨coherent.stopLossPositive, coherent.takeProfitPositive, secondary,
      coherent.riskRewardPositive, apart.1, apart.2, coherent.entryInZone⟩
  · intro separated
    have ordered := orderedFor_of_apart passed separated.stopApart separated.targetApart
    have entryPositive : 0 < rounded 6 candidate.entry :=
      candidate.entryZone.lowPositive.trans_le separated.entryInZone.1
    refine ⟨entryPositive, separated.stopPositive, separated.targetPositive, ?_,
      separated.ratioPositive, basis_of_passed passed, rfl, ?_, separated.entryInZone⟩
    · intro target isSecondary
      obtain ⟨exact, given, rfl⟩ := Option.mem_map.mp isSecondary
      exact separated.secondaryPositive exact given
    · rcases ordered_of_passed passed with ⟨isBuy, _⟩ | ⟨isSell, _⟩
      · rw [isBuy] at ordered
        exact .inl ordered
      · rw [isSell] at ordered
        exact .inr ordered

theorem executable_iff_rewarding (passed : ¬ candidate.Refused) (separated : candidate.Separated) :
    candidate.geometry.Executable candidate.direction candidate.minimumRiskReward ↔
      candidate.Rewarding := by
  constructor
  · intro executable
    refine ⟨fun target isSecondary => ?_, executable.ratio, executable.pricesRatio⟩
    exact executable.secondary _ (Option.mem_map_of_mem _ isSecondary)
  · intro rewarding
    refine ⟨orderedFor_of_apart passed separated.stopApart separated.targetApart, ?_,
      separated.entryInZone, rewarding.ratio, rewarding.pricesRatio⟩
    intro target isSecondary
    obtain ⟨exact, given, rfl⟩ := Option.mem_map.mp isSecondary
    exact rewarding.secondary exact given

theorem refused_iff : candidate.Refused ↔ firstFailure candidate.gates ≠ none := by
  rw [ne_eq, firstFailure_eq_none_iff]
  simp [Refused]

theorem answered_rejected (status : GeometryValidity) (reason : String) :
    candidate.Answered (.ok (.rejected status reason)) :=
  ⟨_, rfl, fun _ => rfl, fun _ absent => by cases absent⟩

theorem answered_valid_iff {status : GeometryValidity} {geometry : ScenarioGeometry} :
    candidate.Answered (.ok ⟨status, some geometry, none⟩) ↔
      geometry.Executable candidate.direction candidate.minimumRiskReward := by
  constructor
  · rintro ⟨_, ⟨⟩, _, executable⟩
    exact executable geometry rfl
  · intro executable
    refine ⟨_, rfl, ?_, ?_⟩
    · intro absent
      cases absent
    · rintro _ ⟨⟩
      exact executable

theorem validateGeometry_cases (candidate : GeometryCandidate) :
    (candidate.Refused ∧ ∃ status reason,
        validateGeometry candidate = .ok (.rejected status reason)) ∨
      (¬ candidate.Refused ∧ ¬ candidate.Separated ∧
        ∃ raised, validateGeometry candidate = .error raised) ∨
      (¬ candidate.Refused ∧ candidate.Separated ∧
        validateGeometry candidate = .ok ⟨.valid, some candidate.geometry, none⟩) := by
  unfold validateGeometry
  cases failed : firstFailure candidate.gates with
  | some failure =>
      have refused : candidate.Refused := refused_iff.mpr (by simp [failed])
      exact .inl ⟨refused, failure.1, failure.2, rfl⟩
  | none =>
      have passed : ¬ candidate.Refused := by simp [refused_iff, failed]
      by_cases separated : candidate.Separated
      · have coherent := (coherent_iff_separated passed).mpr separated
        refine .inr (.inr ⟨passed, separated, ?_⟩)
        simp only [ScenarioGeometry.validated, if_pos coherent]
        rfl
      · have incoherent : ¬ candidate.geometry.Coherent :=
          fun coherent => separated ((coherent_iff_separated passed).mp coherent)
        refine .inr (.inl ⟨passed, separated, validationError "scenario geometry is incoherent", ?_⟩)
        simp only [ScenarioGeometry.validated, if_neg incoherent]
        rfl

theorem orderedFor_of_validated {verdict : GeometryVerdict}
    (validated : validateGeometry candidate = .ok verdict) {geometry : ScenarioGeometry}
    (returned : geometry ∈ verdict.geometry) : geometry.OrderedFor candidate.direction := by
  rcases validateGeometry_cases candidate with
    ⟨_, status, reason, rejects⟩ | ⟨_, _, raised, raises⟩ | ⟨passed, separated, accepts⟩
  · rw [validated] at rejects
    cases rejects
    cases returned
  · rw [validated] at raises
    cases raises
  · rw [validated] at accepts
    cases accepts
    cases returned
    exact orderedFor_of_apart passed separated.stopApart separated.targetApart

theorem validateGeometry_answered_iff (candidate : GeometryCandidate) :
    candidate.Answered (validateGeometry candidate) ↔
      candidate.Refused ∨ candidate.Separated ∧ candidate.Rewarding := by
  rcases validateGeometry_cases candidate with
    ⟨refused, status, reason, rejects⟩ | ⟨passed, collapsed, raised, raises⟩ |
    ⟨passed, separated, accepts⟩
  · rw [rejects]
    exact iff_of_true (answered_rejected status reason) (.inl refused)
  · rw [raises]
    refine iff_of_false ?_ ?_
    · rintro ⟨_, ⟨⟩, _⟩
    · rintro (refused | kept)
      · exact passed refused
      · exact collapsed kept.1
  · rw [accepts, answered_valid_iff, executable_iff_rewarding passed separated]
    simp [passed, separated]

end GeometryCandidate

/-! ## What is displayed -/

namespace InstrumentSpecification

def displayed (specification : InstrumentSpecification) (price : ℚ) : ℚ :=
  quantized specification.displayPrecision (rounded 6 price)

def Displays (specification : InstrumentSpecification) (candidate : GeometryCandidate) : Prop :=
  specification.Displayable (rounded 6 candidate.entry) ∧
    specification.Displayable (rounded 6 candidate.stopLoss) ∧
    specification.Displayable (rounded 6 candidate.takeProfit)

def TooNear (specification : InstrumentSpecification) (candidate : GeometryCandidate)
    (spread : ℚ) : Prop :=
  ∃ gate ∈ distanceGates candidate spread specification, gate.1 = false

def Blurs (specification : InstrumentSpecification) (candidate : GeometryCandidate) : Prop :=
  ∃ gate ∈ displayGates candidate.direction candidate.minimumRiskReward
    (specification.displayed candidate.entry) (specification.displayed candidate.stopLoss)
    (specification.displayed candidate.takeProfit), gate.1 = false

end InstrumentSpecification

namespace GeometryCandidate

variable {candidate : GeometryCandidate}

theorem answered_error (raised : PythonException) : ¬ candidate.Answered (.error raised) := by
  rintro ⟨_, ⟨⟩, _⟩

theorem exists_failed_iff {checks : List (Bool × String)} :
    (∃ check ∈ checks, check.1 = false) ↔ firstFailure checks ≠ none := by
  rw [ne_eq, firstFailure_eq_none_iff]
  simp

variable {specification : InstrumentSpecification} {spread : ℚ}

theorem roundPrice_displayable {price : ℚ} (fits : specification.Displayable (rounded 6 price)) :
    specification.roundPrice (rounded 6 price) = .ok (specification.displayed price) :=
  if_pos fits

theorem validateDisplay_raises (apart : ¬ specification.TooNear candidate spread)
    (accepted : validateGeometry candidate = .ok ⟨.valid, some candidate.geometry, none⟩)
    (unfit : ¬ specification.Displays candidate) :
    ∃ raised, validateDisplayGeometry candidate spread specification = .error raised := by
  have distances : firstFailure (distanceGates candidate spread specification) = none := by
    by_contra failed
    exact apart (exists_failed_iff.mpr failed)
  refine ⟨⟨"InvalidOperation", "[<class 'decimal.InvalidOperation'>]"⟩, ?_⟩
  unfold validateDisplayGeometry
  simp only [distances, accepted, bind, Except.bind, geometry]
  by_cases entry : specification.Displayable (rounded 6 candidate.entry)
  · simp only [roundPrice_displayable entry]
    by_cases stop : specification.Displayable (rounded 6 candidate.stopLoss)
    · simp only [roundPrice_displayable stop]
      have target : ¬ specification.Displayable (rounded 6 candidate.takeProfit) :=
        fun target => unfit ⟨entry, stop, target⟩
      simp only [InstrumentSpecification.roundPrice, if_neg target]
    · simp only [InstrumentSpecification.roundPrice, if_neg stop]
  · simp only [InstrumentSpecification.roundPrice, if_neg entry]

theorem validateDisplay_accepted (apart : ¬ specification.TooNear candidate spread)
    (accepted : validateGeometry candidate = .ok ⟨.valid, some candidate.geometry, none⟩)
    (displays : specification.Displays candidate) :
    (specification.Blurs candidate ∧ ∃ reason,
        validateDisplayGeometry candidate spread specification =
          .ok (.rejected .unavailable reason)) ∨
      (¬ specification.Blurs candidate ∧
        validateDisplayGeometry candidate spread specification =
          .ok ⟨.valid, some candidate.geometry, none⟩) := by
  have distances : firstFailure (distanceGates candidate spread specification) = none := by
    by_contra failed
    exact apart (exists_failed_iff.mpr failed)
  obtain ⟨entry, stop, target⟩ := displays
  unfold validateDisplayGeometry
  simp only [distances, accepted, bind, Except.bind, geometry, roundPrice_displayable entry,
    roundPrice_displayable stop, roundPrice_displayable target]
  cases failed : firstFailure (displayGates candidate.direction candidate.minimumRiskReward
      (specification.displayed candidate.entry) (specification.displayed candidate.stopLoss)
      (specification.displayed candidate.takeProfit)) with
  | some reason =>
      have blurs : specification.Blurs candidate := exists_failed_iff.mpr (by simp [failed])
      exact .inl ⟨blurs, reason, rfl⟩
  | none =>
      have clear : ¬ specification.Blurs candidate := fun blurs =>
        exists_failed_iff.mp blurs failed
      exact .inr ⟨clear, rfl⟩

theorem validateDisplay_tooNear (tooNear : specification.TooNear candidate spread) :
    ∃ reason, validateDisplayGeometry candidate spread specification =
      .ok (.rejected .unavailable reason) := by
  obtain ⟨reason, failed⟩ := Option.ne_none_iff_exists'.mp (exists_failed_iff.mp tooNear)
  refine ⟨reason, ?_⟩
  unfold validateDisplayGeometry
  rw [failed]

theorem validateDisplay_passes_on (apart : ¬ specification.TooNear candidate spread) :
    (∀ status reason, validateGeometry candidate = .ok (.rejected status reason) →
        validateDisplayGeometry candidate spread specification = .ok (.rejected status reason)) ∧
      ∀ raised, validateGeometry candidate = .error raised →
        validateDisplayGeometry candidate spread specification = .error raised := by
  have distances : firstFailure (distanceGates candidate spread specification) = none := by
    by_contra failed
    exact apart (exists_failed_iff.mpr failed)
  unfold validateDisplayGeometry
  rw [distances]
  constructor
  · intro status reason rejects
    rw [rejects]
    rfl
  · intro raised raises
    rw [raises]
    rfl

theorem validateDisplayGeometry_answered_iff (candidate : GeometryCandidate) (spread : ℚ)
    (specification : InstrumentSpecification) :
    candidate.Answered (validateDisplayGeometry candidate spread specification) ↔
      specification.TooNear candidate spread ∨ candidate.Refused ∨
        candidate.Separated ∧ specification.Displays candidate ∧
          (specification.Blurs candidate ∨ candidate.Rewarding) := by
  by_cases tooNear : specification.TooNear candidate spread
  · obtain ⟨reason, rejects⟩ := validateDisplay_tooNear tooNear
    rw [rejects]
    exact iff_of_true (answered_rejected .unavailable reason) (.inl tooNear)
  · rcases validateGeometry_cases candidate with
      ⟨refused, status, reason, rejects⟩ | ⟨passed, collapsed, raised, raises⟩ |
      ⟨passed, separated, accepts⟩
    · rw [(validateDisplay_passes_on tooNear).1 status reason rejects]
      exact iff_of_true (answered_rejected status reason) (.inr (.inl refused))
    · rw [(validateDisplay_passes_on tooNear).2 raised raises]
      refine iff_of_false (answered_error raised) ?_
      simp [tooNear, passed, collapsed]
    · by_cases displays : specification.Displays candidate
      · rcases validateDisplay_accepted tooNear accepts displays with
          ⟨blurs, reason, rejects⟩ | ⟨clear, returns⟩
        · rw [rejects]
          exact iff_of_true (answered_rejected .unavailable reason)
            (.inr (.inr ⟨separated, displays, .inl blurs⟩))
        · rw [returns, answered_valid_iff, executable_iff_rewarding passed separated]
          simp [tooNear, passed, separated, displays, clear]
      · obtain ⟨raised, raises⟩ := validateDisplay_raises tooNear accepts displays
        rw [raises]
        refine iff_of_false (answered_error raised) ?_
        simp [tooNear, passed, displays]

def sevenDecimals : GeometryCandidate where
  direction := .bullish
  referencePrice := 20001234567 / 10 ^ 7
  entryZone :=
    { low := 20001234567 / 10 ^ 7
      high := 20001234567 / 10 ^ 7
      lowPositive := by norm_num
      ordered := le_refl _ }
  entry := 20001234567 / 10 ^ 7
  stopLoss := 1999
  takeProfit := 2003
  secondaryTarget := none
  expectedMove := 3
  maximumEntryDistance := 1
  minimumRiskReward := 2
  basisFactIdentifiers := ["order-block-1"]

theorem sevenDecimals_pass : ∀ gate ∈ sevenDecimals.gates, gate.1 = true := by decide +kernel

theorem sevenDecimals_leave_zone :
    ¬ rounded 6 sevenDecimals.entry ≤ sevenDecimals.entryZone.high := by decide +kernel

end GeometryCandidate

end Ten.Scenario
