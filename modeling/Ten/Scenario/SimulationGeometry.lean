import Ten.Scenario.SimulationPrices

namespace Ten.Scenario

open Data

/-! # When the geometry of a candidate can be validated -/

/-- A verdict that says either valid, with a geometry, or why not. -/
structure GeometryVerdict.Decided (verdict : GeometryVerdict) : Prop where
  accepted : verdict.status = .valid → verdict.geometry.isSome ∧ verdict.reason = none
  refused : verdict.status ≠ .valid → verdict.geometry.isNone ∧ verdict.reason.getD "" ≠ ""
  coherent : ∀ geometry ∈ verdict.geometry, geometry.Coherent

theorem GeometryVerdict.decided_rejected {status : GeometryValidity} {reason : String}
    (invalid : status ≠ .valid) (explained : reason ≠ "") :
    (GeometryVerdict.rejected status reason).Decided where
  accepted := fun valid => absurd valid invalid
  refused := fun _ => ⟨rfl, explained⟩
  coherent := fun _ present => by cases present

theorem GeometryCandidate.gate_report (candidate : GeometryCandidate) :
    ∀ gate ∈ candidate.gates, gate.2.1 ≠ .valid ∧ gate.2.2 ≠ "" := by
  have reports : ∀ report ∈ candidate.gates.map Prod.snd, report.1 ≠ .valid ∧ report.2 ≠ "" := by
    simp only [GeometryCandidate.gates, List.map_cons, List.map_nil]
    decide
  intro gate present
  exact reports gate.2 (List.mem_map_of_mem present)

/-- The prices of a candidate are far enough from each other, from its zone and from
zero to be rounded to six digits. -/
structure GeometryCandidate.Spaced (candidate : GeometryCandidate) : Prop where
  zoneBelow : candidate.entryZone.low + 3 / 100 ≤ candidate.entry
  zoneAbove : candidate.entry + 3 / 100 ≤ candidate.entryZone.high
  stopPositive : 1 < candidate.stopLoss
  targetPositive : 1 < candidate.takeProfit
  secondaryPositive : ∀ target ∈ candidate.secondaryTarget, 1 < target
  basis : candidate.basisFactIdentifiers ≠ []
  spaced : (candidate.stopLoss + 1 / 10 ≤ candidate.entry ∧
      candidate.entry + 1 / 5 ≤ candidate.takeProfit) ∨
    (candidate.takeProfit + 1 / 5 ≤ candidate.entry ∧
      candidate.entry + 1 / 10 ≤ candidate.stopLoss)
  rewarding : 2 * candidate.risk ≤ candidate.reward

private theorem rounded_near (value : ℚ) :
    value - 1 / 1000000 ≤ rounded 6 value ∧ rounded 6 value ≤ value + 1 / 1000000 := by
  have near := abs_le.mp (abs_rounded_sub_le 6 value)
  norm_num at near
  constructor <;> linarith

namespace GeometryCandidate

variable {candidate : GeometryCandidate}

theorem Spaced.risk_pos (spaced : candidate.Spaced) : 0 < candidate.risk := by
  apply abs_pos.mpr
  intro same
  rcases spaced.spaced with rising | falling
  · linarith
  · linarith

theorem Spaced.coherent (spaced : candidate.Spaced) : candidate.geometry.Coherent := by
  have entry := rounded_near candidate.entry
  have stop := rounded_near candidate.stopLoss
  have target := rounded_near candidate.takeProfit
  have ratio := rounded_near (candidate.reward / candidate.risk)
  have rewarding : 2 ≤ candidate.reward / candidate.risk :=
    (le_div_iff₀ spaced.risk_pos).mpr spaced.rewarding
  have below := spaced.zoneBelow
  have above := spaced.zoneAbove
  have stopPositive := spaced.stopPositive
  have targetPositive := spaced.targetPositive
  constructor
  · change 0 < rounded 6 candidate.entry
    rcases spaced.spaced with rising | falling <;> linarith
  · change 0 < rounded 6 candidate.stopLoss
    linarith
  · change 0 < rounded 6 candidate.takeProfit
    linarith
  · intro rounding present
    obtain ⟨target, given, rfl⟩ := Option.mem_map.mp present
    have near := rounded_near target
    have positive := spaced.secondaryPositive target given
    linarith
  · change 0 < rounded 6 (candidate.reward / candidate.risk)
    linarith
  · exact spaced.basis
  · rfl
  · change (rounded 6 candidate.stopLoss < rounded 6 candidate.entry ∧
        rounded 6 candidate.entry < rounded 6 candidate.takeProfit) ∨
      (rounded 6 candidate.takeProfit < rounded 6 candidate.entry ∧
        rounded 6 candidate.entry < rounded 6 candidate.stopLoss)
    rcases spaced.spaced with rising | falling
    · left
      constructor <;> linarith
    · right
      constructor <;> linarith
  · change candidate.entryZone.low ≤ rounded 6 candidate.entry ∧
      rounded 6 candidate.entry ≤ candidate.entryZone.high
    constructor <;> linarith

theorem Spaced.validateGeometry_eq (spaced : candidate.Spaced) :
    validateGeometry candidate =
      match firstFailure candidate.gates with
      | some report => .ok (.rejected report.1 report.2)
      | none => .ok ⟨.valid, some candidate.geometry, none⟩ := by
  unfold validateGeometry ScenarioGeometry.validated
  rw [if_pos spaced.coherent]
  cases firstFailure candidate.gates <;> rfl

end GeometryCandidate

/-- The displayed prices of a candidate that passes its gates fit the decimal
context. -/
def Displays (candidate : GeometryCandidate) (spread : ℚ)
    (specification : InstrumentSpecification) : Prop :=
  firstFailure (distanceGates candidate spread specification) = none →
    firstFailure candidate.gates = none →
      specification.Displayable (rounded 6 candidate.entry) ∧
        specification.Displayable (rounded 6 candidate.stopLoss) ∧
        specification.Displayable (rounded 6 candidate.takeProfit)

section Display

variable {candidate : GeometryCandidate} {spread : ℚ} {specification : InstrumentSpecification}

theorem roundPrice_ok_iff {value : ℚ} :
    (∃ price, specification.roundPrice value = .ok price) ↔ specification.Displayable value := by
  unfold InstrumentSpecification.roundPrice
  split <;> simp_all

theorem distanceGate_report :
    ∀ gate ∈ distanceGates candidate spread specification, gate.2 ≠ "" := by
  simp [distanceGates]

theorem displayGate_report {direction : ScenarioDirection} {minimum entry stop target : ℚ} :
    ∀ gate ∈ displayGates direction minimum entry stop target, gate.2 ≠ "" := by
  simp [displayGates]

theorem GeometryCandidate.Spaced.display (spaced : candidate.Spaced) :
    ((∃ verdict, validateDisplayGeometry candidate spread specification = .ok verdict) ↔
      Displays candidate spread specification) ∧
    ∀ verdict, validateDisplayGeometry candidate spread specification = .ok verdict →
      verdict.Decided := by
  unfold validateDisplayGeometry Displays
  cases distant : firstFailure (distanceGates candidate spread specification) with
  | some reason =>
      obtain ⟨gate, listed, _, reported⟩ := exists_of_firstFailure distant
      constructor
      · simp
      · intro verdict returned
        cases returned
        exact GeometryVerdict.decided_rejected (by decide)
          (reported ▸ distanceGate_report gate listed)
  | none =>
      simp only [spaced.validateGeometry_eq]
      cases gated : firstFailure candidate.gates with
      | some report =>
          obtain ⟨gate, listed, _, reported⟩ := exists_of_firstFailure gated
          have described := candidate.gate_report gate listed
          rw [reported] at described
          constructor
          · simp [bind, Except.bind, GeometryVerdict.rejected]
          · intro verdict returned
            cases returned
            exact GeometryVerdict.decided_rejected described.1 described.2
      | none =>
          constructor
          · constructor
            · intro accepted _ _
              obtain ⟨verdict, returned⟩ := accepted
              obtain ⟨_, built, returned⟩ := bind_eq_ok_iff.mp returned
              cases built
              obtain ⟨entry, entryShown, returned⟩ := bind_eq_ok_iff.mp returned
              obtain ⟨stop, stopShown, returned⟩ := bind_eq_ok_iff.mp returned
              obtain ⟨target, targetShown, _⟩ := bind_eq_ok_iff.mp returned
              exact ⟨roundPrice_ok_iff.mp ⟨entry, entryShown⟩, roundPrice_ok_iff.mp ⟨stop, stopShown⟩,
                roundPrice_ok_iff.mp ⟨target, targetShown⟩⟩
            · intro displays
              obtain ⟨entryFits, stopFits, targetFits⟩ := displays trivial rfl
              obtain ⟨entry, entryShown⟩ := roundPrice_ok_iff.mpr entryFits
              obtain ⟨stop, stopShown⟩ := roundPrice_ok_iff.mpr stopFits
              obtain ⟨target, targetShown⟩ := roundPrice_ok_iff.mpr targetFits
              simp only [bind, Except.bind, GeometryCandidate.geometry, entryShown, stopShown,
                targetShown]
              split
              · exact ⟨_, rfl⟩
              · exact ⟨_, rfl⟩
          · intro verdict returned
            obtain ⟨_, built, returned⟩ := bind_eq_ok_iff.mp returned
            cases built
            obtain ⟨entry, _, returned⟩ := bind_eq_ok_iff.mp returned
            obtain ⟨stop, _, returned⟩ := bind_eq_ok_iff.mp returned
            obtain ⟨target, _, returned⟩ := bind_eq_ok_iff.mp returned
            cases shown : firstFailure (displayGates candidate.direction
                candidate.minimumRiskReward entry stop target) with
            | some reason =>
                obtain ⟨gate, listed, _, reported⟩ := exists_of_firstFailure shown
                rw [shown] at returned
                cases returned
                exact GeometryVerdict.decided_rejected (by decide)
                  (reported ▸ displayGate_report gate listed)
            | none =>
                rw [shown] at returned
                cases returned
                constructor
                · intro _
                  exact ⟨rfl, rfl⟩
                · intro invalid
                  exact absurd rfl invalid
                · intro geometry present
                  cases present
                  exact spaced.coherent

end Display

end Ten.Scenario
