import Mathlib.Data.List.Sort
import Ten.Data.Except
import Ten.MarketData.Models

namespace Ten.MarketData

open Data

/-! # Validation of candles -/

inductive DataQualityLevel where
  | native | verified | recovered | interpolated | minorAnomaly | majorAnomaly | corrupted
deriving DecidableEq

/-- A candle with the metadata that storage keeps of it. -/
structure MarketCandle extends Candle where
  provider : String
  qualityLevel : DataQualityLevel
  ingestionTimestamp : Timestamp
deriving DecidableEq

structure ValidationConfig where
  futureToleranceSeconds : Nat := 5
  clockDriftToleranceSeconds : Nat := 30
  clockDriftRecencyWindowSeconds : Nat := 3600
  volatilitySpikeMultiplier : ℚ := 8
  crossSourceTolerance : ℚ := 1 / 100
  crossSourceQuarantineTolerance : ℚ := 1 / 20

inductive AnomalyType where
  | marketGap | weekendGap | holidayGap | clockDrift | volatilitySpike | providerInconsistency
deriving DecidableEq

inductive AnomalySeverity where
  | minor | major | critical
deriving DecidableEq

structure DataAnomaly where
  type : AnomalyType
  timestamp : Timestamp
  severity : AnomalySeverity
  detail : String
  missingCount : Nat := 0

structure ValidationReport where
  candles : List MarketCandle
  anomalies : List DataAnomaly
  valid : Bool

/-- The validator; a holiday is the number of its day since the epoch. -/
structure MarketDataValidator where
  host : Host
  config : ValidationConfig
  holidays : List Int

def dateOf (moment : Timestamp) : Int := Int.fdiv moment (Timestamp.seconds 86400)

def weekday (moment : Timestamp) : Int := Int.fmod (dateOf moment + 3) 7

/-- `statistics.median` of a list that is not empty. -/
def median (values : List ℚ) : ℚ :=
  let sorted := values.insertionSort (· ≤ ·)
  let middle := sorted.length / 2
  if sorted.length % 2 = 1 then sorted.getD middle 0
  else (sorted.getD (middle - 1) 0 + sorted.getD middle 0) / 2

def MarketCandle.identity (candle : MarketCandle) : String × Timeframe × Timestamp :=
  (candle.symbol, candle.timeframe, candle.timestamp)

namespace MarketDataValidator

variable (validator : MarketDataValidator)

/-- `model_copy(update={"quality_score": .., "quality_level": ..})`. -/
def scored (candle : MarketCandle) (score : Percentage) (level : DataQualityLevel) :
    MarketCandle :=
  { candle with qualityScore := score, qualityLevel := level }

/-- `score` without the flags that no caller sets. -/
def score (candle : MarketCandle) (anomalies : List DataAnomaly) (recovered : Bool) :
    MarketCandle :=
  if recovered then scored candle ⟨95, by norm_num, by norm_num⟩ .recovered
  else if anomalies.isEmpty then
    if candle.qualityLevel ≠ .native then candle
    else scored candle ⟨100, by norm_num, by norm_num⟩ .native
  else if anomalies.any (·.severity = .critical) then
    scored candle ⟨40, by norm_num, by norm_num⟩ .corrupted
  else if anomalies.any (·.severity = .major) then
    scored candle ⟨60, by norm_num, by norm_num⟩ .majorAnomaly
  else scored candle ⟨80, by norm_num, by norm_num⟩ .minorAnomaly

def gapType (start finish : Timestamp) : AnomalyType :=
  let days := (dateOf finish - dateOf start).toNat
  if (List.range days).any fun passed => validator.holidays.contains (dateOf start + 1 + passed) then
    .holidayGap
  else if 4 ≤ weekday start ∧ weekday finish ≤ 1 then .weekendGap
  else .marketGap

def gapAnomaly (previous candle : MarketCandle) : Option DataAnomaly :=
  let duration := candle.timeframe.duration
  let expected := previous.timestamp + duration
  if candle.timestamp ≤ expected then none
  else
    let missing := max 1 ((candle.timestamp - previous.timestamp) / duration - 1).toNat
    let type := validator.gapType previous.timestamp candle.timestamp
    some { type := type
           timestamp := expected
           severity := if type = .marketGap then .major else .minor
           detail := toString missing ++ " expected candle(s) absent"
           missingCount := missing }

def driftAnomaly (current : Timestamp) (candle : MarketCandle) : Option DataAnomaly :=
  let drift := |candle.ingestionTimestamp - candle.timestamp|
  if current - candle.timestamp ≤
        Timestamp.seconds validator.config.clockDriftRecencyWindowSeconds ∧
      Timestamp.seconds validator.config.clockDriftToleranceSeconds < drift then
    some { type := .clockDrift
           timestamp := candle.timestamp
           severity := .minor
           detail := "ingestion clock drift " ++
             validator.host.fixedPoint 3 (((drift : Int) : ℚ) / 1000000) ++ "s" }
  else none

def spikeAnomaly (typicalRange : ℚ) (candle : MarketCandle) : Option DataAnomaly :=
  if 0 < typicalRange ∧
      typicalRange * validator.config.volatilitySpikeMultiplier < candle.high - candle.low then
    some { type := .volatilitySpike
           timestamp := candle.timestamp
           severity := .major
           detail := "range exceeded deterministic spike threshold" }
  else none

/-- The candles that `validate` raises on, among the ones seen and after the previous one. -/
def accept (current : Timestamp) (seen : List MarketCandle) (previous : Option MarketCandle)
    (candle : MarketCandle) : Except PythonException Unit :=
  let refuse (reason : String) : Except PythonException Unit :=
    .error ⟨"MarketDataValidationError",
      reason ++ " candle at " ++ validator.host.isoformat candle.timestamp⟩
  if seen.any (·.identity = candle.identity) then refuse "duplicate"
  else if current + Timestamp.seconds validator.config.futureToleranceSeconds < candle.timestamp then
    refuse "future"
  else if previous.any (candle.timestamp ≤ ·.timestamp) then refuse "non-monotonic"
  else .ok ()

/-- The loop of `validate` over the candles. -/
def inspect (current : Timestamp) (typicalRange : ℚ) :
    List MarketCandle → List MarketCandle → Option MarketCandle →
      Except PythonException (List DataAnomaly)
  | [], _, _ => .ok []
  | candle :: rest, seen, previous => do
      validator.accept current seen previous candle
      let later ← inspect current typicalRange rest (candle :: seen) (some candle)
      .ok ((validator.driftAnomaly current candle).toList ++
        (previous.bind (validator.gapAnomaly · candle)).toList ++
        (validator.spikeAnomaly typicalRange candle).toList ++ later)

/-- `validate` at a moment. -/
def validate (current : Timestamp) (candles : List MarketCandle) :
    Except PythonException ValidationReport := do
  let typicalRange := median (candles.map fun item => item.high - item.low)
  let anomalies ← validator.inspect current typicalRange candles [] none
  .ok { candles := candles.map fun candle =>
          score candle (anomalies.filter (·.timestamp = candle.timestamp)) false
        anomalies := anomalies
        valid := !anomalies.any (·.severity = .critical) }

/-- What `compare` says of one candle and its peer. -/
def comparison (candle peer : MarketCandle) : Option DataAnomaly :=
  let deviation := |candle.close - peer.close| / max candle.close peer.close
  let percent (value : ℚ) : String := validator.host.fixedPoint 4 (value * 100) ++ "%"
  if validator.config.crossSourceQuarantineTolerance < deviation then
    some { type := .providerInconsistency
           timestamp := candle.timestamp
           severity := .critical
           detail := "quarantined: " ++ candle.provider ++ " close deviates " ++ percent deviation ++
             " from " ++ peer.provider ++ " (exceeds " ++
             percent validator.config.crossSourceQuarantineTolerance ++ ")"
           missingCount := 1 }
  else if validator.config.crossSourceTolerance < deviation then
    some { type := .providerInconsistency
           timestamp := candle.timestamp
           severity := .major
           detail := candle.provider ++ " close differs from " ++ peer.provider ++ " by " ++
             percent deviation }
  else none

/-- `compare`: the inconsistencies, and the moments of the quarantined candles. -/
def compare (primary secondary : List MarketCandle) : List DataAnomaly × List Timestamp :=
  let inconsistencies := primary.filterMap fun candle =>
    (secondary.reverse.find? (·.timestamp = candle.timestamp)).bind (validator.comparison candle)
  (inconsistencies, (inconsistencies.filter (·.severity = .critical)).map (·.timestamp))

/-! ## What validation accepts -/

variable {validator}

/-- The candles of a batch come in the order of time, and none lies beyond the tolerance. -/
structure InTime (validator : MarketDataValidator) (current : Timestamp)
    (candles : List MarketCandle) : Prop where
  increasing : (candles.map (·.timestamp)).Pairwise (· < ·)
  notFuture : ∀ candle ∈ candles,
    candle.timestamp ≤ current + Timestamp.seconds validator.config.futureToleranceSeconds

/-- The anomalies of a candle itself, without the gap before it. -/
def ownAnomalies (validator : MarketDataValidator) (current : Timestamp) (typicalRange : ℚ)
    (candle : MarketCandle) : List DataAnomaly :=
  (validator.driftAnomaly current candle).toList ++
    (validator.spikeAnomaly typicalRange candle).toList

section Accepts

variable {current : Timestamp} {typicalRange : ℚ} {candles seen : List MarketCandle}
  {previous : Option MarketCandle} {candle : MarketCandle} {anomalies : List DataAnomaly}

theorem accept_eq_ok_iff : validator.accept current seen previous candle = .ok () ↔
    (∀ earlier ∈ seen, earlier.identity ≠ candle.identity) ∧
      candle.timestamp ≤ current + Timestamp.seconds validator.config.futureToleranceSeconds ∧
        ∀ before ∈ previous, before.timestamp < candle.timestamp := by
  simp only [accept]
  split_ifs with duplicate future early
  · simp only [false_iff]
    rintro ⟨fresh, -⟩
    simp only [List.any_eq_true, decide_eq_true_eq] at duplicate
    obtain ⟨earlier, listed, same⟩ := duplicate
    exact fresh earlier listed same
  · simp [not_le.mpr future]
  · simp only [false_iff]
    rintro ⟨-, -, later⟩
    simp only [Option.any_eq_true, decide_eq_true_eq] at early
    obtain ⟨before, isBefore, late⟩ := early
    exact absurd (later before isBefore) (not_lt.mpr late)
  · simp only [true_iff]
    refine ⟨?_, not_lt.mp future, ?_⟩
    · intro earlier listed same
      exact duplicate (List.any_eq_true.mpr ⟨earlier, listed, decide_eq_true same⟩)
    · intro before isBefore
      by_contra late
      exact early ((Option.any_eq_true _ _).mpr ⟨before, isBefore,
        decide_eq_true (not_lt.mp late)⟩)

theorem inTime_of_inspect
    (accepted : validator.inspect current typicalRange candles seen previous = .ok anomalies) :
    validator.InTime current candles ∧
      ∀ before ∈ previous, ∀ candle ∈ candles, before.timestamp < candle.timestamp := by
  induction candles generalizing seen previous anomalies with
  | nil => exact ⟨⟨.nil, by simp⟩, by simp⟩
  | cons candle rest ih =>
      unfold inspect at accepted
      obtain ⟨_, guarded, accepted⟩ := bind_eq_ok_iff.mp accepted
      obtain ⟨later, inspected, _⟩ := bind_eq_ok_iff.mp accepted
      obtain ⟨-, present, monotone⟩ := accept_eq_ok_iff.mp guarded
      obtain ⟨inTime, next⟩ := ih inspected
      have after := next candle rfl
      refine ⟨⟨?_, List.forall_mem_cons.mpr ⟨present, inTime.notFuture⟩⟩, ?_⟩
      · exact .cons (List.forall_mem_map.mpr after) inTime.increasing
      · intro before isBefore
        have first := monotone before isBefore
        exact List.forall_mem_cons.mpr ⟨first, fun other listed => first.trans (after other listed)⟩

theorem exists_inspect (inTime : validator.InTime current candles)
    (past : ∀ earlier ∈ seen, ∀ candle ∈ candles, earlier.timestamp < candle.timestamp)
    (isSeen : ∀ before ∈ previous, before ∈ seen) :
    ∃ anomalies, validator.inspect current typicalRange candles seen previous = .ok anomalies := by
  induction candles generalizing seen previous with
  | nil => exact ⟨[], rfl⟩
  | cons candle rest ih =>
      obtain ⟨after, increasing⟩ := List.pairwise_cons.mp inTime.increasing
      obtain ⟨present, notFuture⟩ := List.forall_mem_cons.mp inTime.notFuture
      have guarded : validator.accept current seen previous candle = .ok () := by
        refine accept_eq_ok_iff.mpr ⟨?_, present, ?_⟩
        · intro earlier listed same
          have apart := past earlier listed candle List.mem_cons_self
          exact apart.ne (congrArg (·.2.2) same)
        · exact fun before isBefore => past before (isSeen before isBefore) candle List.mem_cons_self
      have later : ∀ earlier ∈ candle :: seen, ∀ other ∈ rest, earlier.timestamp < other.timestamp :=
        List.forall_mem_cons.mpr ⟨List.forall_mem_map.mp after,
          fun earlier listed other there => past earlier listed other (List.mem_cons_of_mem _ there)⟩
      have last : ∀ before ∈ some candle, before ∈ candle :: seen := by simp
      obtain ⟨anomalies, inspected⟩ := ih ⟨increasing, notFuture⟩ later last
      rw [inspect, guarded, ok_bind, inspected]
      exact ⟨_, rfl⟩

theorem drift_placed {anomaly : DataAnomaly}
    (drifts : anomaly ∈ (validator.driftAnomaly current candle).toList) :
    anomaly.timestamp = candle.timestamp ∧ anomaly.severity ≠ .critical := by
  rw [Option.mem_toList, driftAnomaly] at drifts
  split at drifts <;> cases drifts
  simp

theorem spike_placed {anomaly : DataAnomaly}
    (spikes : anomaly ∈ (validator.spikeAnomaly typicalRange candle).toList) :
    anomaly.timestamp = candle.timestamp ∧ anomaly.severity ≠ .critical := by
  rw [Option.mem_toList, spikeAnomaly] at spikes
  split at spikes <;> cases spikes
  simp

/-- A gap is reported between its two candles, where no candle is. -/
theorem gap_placed {anomaly : DataAnomaly}
    (gaps : anomaly ∈ (previous.bind (validator.gapAnomaly · candle)).toList) :
    anomaly.timestamp < candle.timestamp ∧ anomaly.severity ≠ .critical ∧
      ∀ before ∈ previous, before.timestamp < anomaly.timestamp := by
  rw [Option.mem_toList] at gaps
  obtain ⟨before, isBefore, found⟩ := Option.bind_eq_some_iff.mp gaps
  simp only [gapAnomaly] at found
  split at found
  · cases found
  · rename_i gap
    cases found
    refine ⟨not_le.mp gap, ?_, ?_⟩
    · dsimp only
      split_ifs <;> simp
    · intro other isOther
      cases isBefore.symm.trans isOther
      exact lt_add_of_pos_right _ candle.timeframe.duration_pos

theorem inspect_placed
    (accepted : validator.inspect current typicalRange candles seen previous = .ok anomalies) :
    (∀ anomaly ∈ anomalies, anomaly.severity ≠ .critical ∧
      ∀ before ∈ previous, before.timestamp < anomaly.timestamp) ∧
    ∀ candle ∈ candles, anomalies.filter (·.timestamp = candle.timestamp) =
      validator.ownAnomalies current typicalRange candle := by
  induction candles generalizing seen previous anomalies with
  | nil =>
      cases accepted
      exact ⟨by simp, by simp⟩
  | cons candle rest ih =>
      obtain ⟨inTime, after⟩ := inTime_of_inspect accepted
      unfold inspect at accepted
      obtain ⟨_, -, accepted⟩ := bind_eq_ok_iff.mp accepted
      obtain ⟨later, inspected, returned⟩ := bind_eq_ok_iff.mp accepted
      cases returned
      obtain ⟨placed, own⟩ := ih inspected
      have rest_after := List.forall_mem_map.mp (List.pairwise_cons.mp inTime.increasing).1
      constructor
      · intro anomaly listed
        simp only [List.mem_append] at listed
        rcases listed with ((drifts | gaps) | spikes) | listed
        · obtain ⟨here, mild⟩ := drift_placed drifts
          exact ⟨mild, fun before isBefore => here ▸ after before isBefore _ List.mem_cons_self⟩
        · exact (gap_placed gaps).2
        · obtain ⟨here, mild⟩ := spike_placed spikes
          exact ⟨mild, fun before isBefore => here ▸ after before isBefore _ List.mem_cons_self⟩
        · obtain ⟨mild, past⟩ := placed anomaly listed
          exact ⟨mild, fun before isBefore =>
            (after before isBefore _ List.mem_cons_self).trans (past candle rfl)⟩
      · intro other listed
        rw [List.filter_append, List.filter_append, List.filter_append]
        rcases List.mem_cons.mp listed with rfl | listed
        · have gap : (previous.bind (validator.gapAnomaly · other)).toList.filter
              (·.timestamp = other.timestamp) = [] := List.filter_eq_nil_iff.mpr fun anomaly gaps =>
            by simp [(gap_placed gaps).1.ne]
          have past : later.filter (·.timestamp = other.timestamp) = [] :=
            List.filter_eq_nil_iff.mpr fun anomaly there => by
              simp [((placed anomaly there).2 other rfl).ne']
          have drifts := List.filter_eq_self.mpr fun anomaly drifts =>
            decide_eq_true (@drift_placed validator current other anomaly drifts).1
          have spikes := List.filter_eq_self.mpr fun anomaly spikes =>
            decide_eq_true (@spike_placed validator typicalRange other anomaly spikes).1
          rw [gap, past, drifts, spikes, List.append_nil, List.append_nil, ownAnomalies]
        · have apart := rest_after other listed
          have none : ∀ {early : List DataAnomaly},
              (∀ anomaly ∈ early, anomaly.timestamp ≤ candle.timestamp) →
                early.filter (·.timestamp = other.timestamp) = [] := fun early =>
            List.filter_eq_nil_iff.mpr fun anomaly there => by
              simp [((early anomaly there).trans_lt apart).ne]
          rw [none fun anomaly drifts => (drift_placed drifts).1.le,
            none fun anomaly gaps => (gap_placed gaps).1.le,
            none fun anomaly spikes => (spike_placed spikes).1.le]
          exact own other listed

end Accepts

/-- Validation accepts exactly the batches in the order of time that do not run ahead.  It never
finds an accepted batch invalid, and a gap costs no candle its quality. -/
theorem validate_exact (validator : MarketDataValidator) (current : Timestamp)
    (candles : List MarketCandle) :
    ((∃ report, validator.validate current candles = .ok report) ↔
        validator.InTime current candles) ∧
      ∀ report, validator.validate current candles = .ok report → report.valid = true ∧
        report.candles = candles.map fun candle => score candle (validator.ownAnomalies current
          (median (candles.map fun item => item.high - item.low)) candle) false := by
  constructor
  · constructor
    · rintro ⟨report, validated⟩
      obtain ⟨anomalies, inspected, -⟩ := bind_eq_ok_iff.mp validated
      exact (inTime_of_inspect inspected).1
    · intro inTime
      have nothing : ∀ earlier ∈ ([] : List MarketCandle), ∀ candle ∈ candles,
          earlier.timestamp < candle.timestamp := by simp
      have unseen : ∀ before ∈ (none : Option MarketCandle), before ∈ ([] : List MarketCandle) := by
        simp
      obtain ⟨anomalies, inspected⟩ := exists_inspect inTime nothing unseen
      exact ⟨_, bind_eq_ok_iff.mpr ⟨anomalies, inspected, rfl⟩⟩
  · intro report validated
    obtain ⟨anomalies, inspected, returned⟩ := bind_eq_ok_iff.mp validated
    obtain ⟨placed, own⟩ := inspect_placed inspected
    cases returned
    constructor
    · simp only [Bool.not_eq_true', List.any_eq_false, decide_eq_true_eq]
      exact fun anomaly listed => (placed anomaly listed).1
    · exact List.map_congr_left fun candle listed => by rw [own candle listed]

end MarketDataValidator

end Ten.MarketData
