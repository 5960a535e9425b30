import Ten.MarketData.Delivery

namespace Ten.MarketData

open Control Data

/-! # Quarantine and the recovery of gaps

A call of `history` reads its environment through the replies it awaits.  The provider
that a candle comes from is its field `provider`: each adapter writes its own name there,
and neither validation nor recovery changes it. -/

abbrev MarketEvents := List (Event MarketCall MarketCall.Reply PythonError)

namespace MarketEvents

def fetched (events : MarketEvents) : List (List MarketCandle) :=
  events.filterMap fun
    | ⟨.managerHistory _, .ok candles⟩ => some candles
    | _ => none

def alternates (purpose : AlternatePurpose) (events : MarketEvents) : List (List MarketCandle) :=
  events.filterMap fun
    | ⟨.historyFrom asked _ _, .ok candles⟩ => if asked = purpose then some candles else none
    | _ => none

def written (events : MarketEvents) : List (List MarketCandle) :=
  events.filterMap fun
    | ⟨.upsertHistorical candles, _⟩ => some candles
    | _ => none

variable (first second : MarketEvents) (purpose : AlternatePurpose)

@[simp] theorem fetched_append : fetched (first ++ second) = fetched first ++ fetched second :=
  List.filterMap_append

@[simp] theorem alternates_append :
    alternates purpose (first ++ second) = alternates purpose first ++ alternates purpose second :=
  List.filterMap_append

@[simp] theorem written_append : written (first ++ second) = written first ++ written second :=
  List.filterMap_append

@[simp] theorem fetched_nil : fetched [] = [] := rfl

@[simp] theorem alternates_nil : alternates purpose [] = [] := rfl

@[simp] theorem written_nil : written [] = [] := rfl

end MarketEvents

def MarketCall.internal : MarketCall → Prop
  | .managerHistory _ | .historyFrom _ _ _ | .upsertHistorical _ => False
  | _ => True

namespace MarketDataService

variable (service : MarketDataService)

/-! ## What the two passes promise -/

/-- The peer that `compare` sets against a candle: the last of its moment. -/
def peer (alternate : List MarketCandle) (candle : MarketCandle) : Option MarketCandle :=
  alternate.reverse.find? (·.timestamp = candle.timestamp)

def disagree (candle other : MarketCandle) : Prop :=
  service.validator.config.crossSourceQuarantineTolerance <
    |candle.close - other.close| / max candle.close other.close

instance (candle other : MarketCandle) : Decidable (service.disagree candle other) :=
  inferInstanceAs (Decidable (_ < _))

def disagreements (raw alternate : List MarketCandle) : List (MarketCandle × MarketCandle) :=
  (service.normalizedCandles raw).filterMap fun candle =>
    ((peer alternate candle).filter (service.disagree candle ·)).map (candle, ·)

def quarantined (events : MarketEvents) : List (MarketCandle × MarketCandle) :=
  events.fetched.flatMap fun raw =>
    (events.alternates .crossCheck).flatMap (service.disagreements raw)

def FromThird (pair : MarketCandle × MarketCandle) (candle : MarketCandle) : Prop :=
  candle.provider ≠ pair.1.provider ∧ candle.provider ≠ pair.2.provider

instance (pair : MarketCandle × MarketCandle) (candle : MarketCandle) :
    Decidable (FromThird pair candle) := inferInstanceAs (Decidable (_ ∧ _))

/-- No stored candle of a quarantined moment comes from a provider of the pair. -/
def KeepsOut (events : MarketEvents) (stored : List MarketCandle) : Prop :=
  ∀ pair ∈ service.quarantined events, ∀ candle ∈ stored,
    candle.timestamp = pair.1.timestamp → FromThird pair candle

/-- The alternate that answers the recovery has no candle of a quarantined moment, or the
first it has comes from a third provider. -/
def ThirdSource (events : MarketEvents) : Prop :=
  ∀ pair ∈ service.quarantined events, ∀ alternate ∈ events.alternates .recovery,
    ∀ candle ∈ alternate.find? (·.timestamp = pair.1.timestamp), FromThird pair candle

instance (events : MarketEvents) (stored : List MarketCandle) :
    Decidable (service.KeepsOut events stored) :=
  inferInstanceAs (Decidable (∀ pair ∈ _, ∀ candle ∈ _, _ → _))

instance (events : MarketEvents) : Decidable (service.ThirdSource events) :=
  inferInstanceAs (Decidable (∀ pair ∈ _, ∀ alternate ∈ _, ∀ candle ∈ List.find? _ _, _))

/-! ## Quarantine -/

section Quarantine

variable {service}

theorem score_eq_scored (candle : MarketCandle) (anomalies : List DataAnomaly) (recovered : Bool) :
    ∃ quality level, MarketDataValidator.score candle anomalies recovered =
      MarketDataValidator.scored candle quality level := by
  unfold MarketDataValidator.score
  split
  · exact ⟨_, _, rfl⟩
  · split
    · split
      · exact ⟨candle.qualityScore, candle.qualityLevel, rfl⟩
      · exact ⟨_, _, rfl⟩
    · split
      · exact ⟨_, _, rfl⟩
      · split <;> exact ⟨_, _, rfl⟩

theorem mem_disagreements {raw alternate : List MarketCandle} {pair : MarketCandle × MarketCandle} :
    pair ∈ service.disagreements raw alternate ↔
      pair.1 ∈ service.normalizedCandles raw ∧ peer alternate pair.1 = some pair.2 ∧
        service.disagree pair.1 pair.2 := by
  simp only [disagreements, List.mem_filterMap, Option.map_eq_some_iff, Option.filter_eq_some_iff,
    decide_eq_true_eq]
  constructor
  · rintro ⟨candle, listed, other, ⟨found, apart⟩, rfl⟩
    exact ⟨listed, found, apart⟩
  · rintro ⟨listed, found, apart⟩
    exact ⟨pair.1, listed, pair.2, ⟨found, apart⟩, rfl⟩

theorem comparison_of_disagree {candle other : MarketCandle} (apart : service.disagree candle other) :
    ∃ found, service.validator.comparison candle other = some found ∧
      found.severity = .critical ∧ found.timestamp = candle.timestamp := by
  unfold MarketDataValidator.comparison
  exact ⟨_, if_pos apart, rfl, rfl⟩

theorem validated_of_mem {now : Timestamp} {candles : List MarketCandle} {report : ValidationReport}
    (validated : service.validator.validate now candles = .ok report) {candle : MarketCandle}
    (listed : candle ∈ candles) :
    ∃ quality level, MarketDataValidator.scored candle quality level ∈ report.candles := by
  obtain ⟨anomalies, _, returned⟩ := bind_eq_ok_iff.mp validated
  cases returned
  obtain ⟨quality, level, same⟩ := score_eq_scored candle
    (anomalies.filter (·.timestamp = candle.timestamp)) false
  exact ⟨quality, level, List.mem_map.mpr ⟨candle, listed, same⟩⟩

theorem absent_of_disagreement {now : Timestamp} {raw alternate : List MarketCandle}
    {report : ValidationReport} {pair : MarketCandle × MarketCandle}
    (validated : service.validator.validate now (service.normalizedCandles raw) = .ok report)
    (present : pair ∈ service.disagreements raw alternate) :
    ∀ candle ∈ (service.compared report alternate).1.candles,
      candle.timestamp ≠ pair.1.timestamp := by
  obtain ⟨listed, found, apart⟩ := mem_disagreements.mp present
  obtain ⟨quality, level, kept⟩ := validated_of_mem validated listed
  obtain ⟨anomaly, flagged, critical, moment⟩ :=
    @comparison_of_disagree service (MarketDataValidator.scored pair.1 quality level) pair.2 apart
  have inconsistent : anomaly ∈ (service.validator.compare report.candles alternate).1 := by
    refine List.mem_filterMap.mpr ⟨_, kept, ?_⟩
    exact Option.bind_eq_some_iff.mpr ⟨pair.2, found, flagged⟩
  have quarantined : pair.1.timestamp ∈
      (service.validator.compare report.candles alternate).2 := by
    refine List.mem_map.mpr ⟨anomaly, List.mem_filter.mpr ⟨inconsistent, ?_⟩, moment⟩
    simpa using critical
  intro candle survives same
  have nonempty : (service.validator.compare report.candles alternate).2 ≠ [] :=
    List.ne_nil_of_mem quarantined
  simp only [compared, if_neg nonempty] at survives
  have unlisted := (List.mem_filter.mp survives).2
  simp [same, quarantined] at unlisted

end Quarantine

/-! ## Recovery -/

section Recovery

def fill (held : Dict Timestamp MarketCandle) (item : MarketCandle) :
    Dict Timestamp MarketCandle :=
  if (held.get item.timestamp).isSome then held
  else held.insert item.timestamp (MarketDataValidator.score item [] true)

theorem get_foldl_fill (alternate : List MarketCandle) (held : Dict Timestamp MarketCandle)
    (moment : Timestamp) :
    (alternate.foldl fill held).get moment =
      (held.get moment).or ((alternate.find? (·.timestamp = moment)).map
        (MarketDataValidator.score · [] true)) := by
  induction alternate generalizing held with
  | nil => simp
  | cons item rest ih =>
      rw [List.foldl_cons, ih, fill]
      by_cases same : item.timestamp = moment
      · subst same
        cases found : held.get item.timestamp with
        | none => simp
        | some candle => simp [found]
      · cases found : held.get item.timestamp with
        | none =>
            rw [Option.isSome_none, if_neg Bool.false_ne_true,
              Dict.get_insert_of_ne _ _ (Ne.symm same)]
            simp [same]
        | some candle => simp [same]

theorem timed_foldl_fill {held : Dict Timestamp MarketCandle} (timed : Timed held)
    (alternate : List MarketCandle) : Timed (alternate.foldl fill held) := by
  induction alternate generalizing held with
  | nil => exact timed
  | cons item rest ih =>
      apply ih
      unfold fill
      split
      · exact timed
      · exact timed.insert (MarketDataValidator.score item [] true)

theorem mem_merged_iff {candles alternate : List MarketCandle} {candle : MarketCandle}
    (absent : ∀ other ∈ candles, other.timestamp ≠ candle.timestamp) :
    candle ∈ merged candles alternate ↔
      ∃ item ∈ alternate.find? (·.timestamp = candle.timestamp),
        candle = MarketDataValidator.score item [] true := by
  have nothing : Timed (.empty : Dict Timestamp MarketCandle) := fun item listed => by cases listed
  have timed := timed_foldl_fill (timed_foldl nothing candles) alternate
  have missing : (candles.foldl (fun held item => held.insert item.timestamp item)
      (Dict.empty : Dict Timestamp MarketCandle)).get candle.timestamp = none := by
    apply Dict.get_eq_none_of_named (fun other : MarketCandle => other.timestamp)
      (timed_foldl nothing candles)
    intro other present
    rcases mem_values_foldl present with listed | held
    · exact absent other listed
    · cases held
  have looked := get_foldl_fill alternate (candles.foldl
    (fun held item => held.insert item.timestamp item) .empty) candle.timestamp
  rw [missing, Option.none_or] at looked
  have merges : candle ∈ merged candles alternate ↔
      (alternate.foldl fill (candles.foldl (fun held item => held.insert item.timestamp item)
        .empty)).get candle.timestamp = some candle := by
    refine mem_inOrder.trans ⟨fun present => ?_, Dict.mem_values_of_get⟩
    exact Dict.get_of_mem_values (fun other : MarketCandle => other.timestamp) timed present
  rw [merges, looked, Option.map_eq_some_iff]
  exact exists_congr fun item => and_congr_right fun _ => eq_comm

end Recovery

/-! ## What a run reads and writes -/

/-- A stretch of a run that writes nothing, and that reads at most one answer of an
alternate: for the purpose, and the one found. -/
structure Reads (events : MarketEvents) (purpose : AlternatePurpose)
    (found : Option (List MarketCandle)) : Prop where
  fetched : events.fetched = []
  written : events.written = []
  alternates : ∀ other, events.alternates other = if other = purpose then found.toList else []

section Reads

variable {first second events : MarketEvents} {purpose : AlternatePurpose}
  {found : Option (List MarketCandle)}

theorem Reads.after (left : Reads first purpose none) (right : Reads second purpose found) :
    Reads (first ++ second) purpose found where
  fetched := by simp [left.fetched, right.fetched]
  written := by simp [left.written, right.written]
  alternates other := by simp [left.alternates, right.alternates]

theorem Reads.before (left : Reads first purpose found) (right : Reads second purpose none) :
    Reads (first ++ second) purpose found where
  fetched := by simp [left.fetched, right.fetched]
  written := by simp [left.written, right.written]
  alternates other := by simp [left.alternates, right.alternates]

theorem Reads.nil : Reads [] purpose none where
  fetched := rfl
  written := rfl
  alternates other := by simp

theorem reads_none (all : ∀ event ∈ events, event.op.internal) : Reads events purpose none := by
  induction events with
  | nil => exact .nil
  | cons event rest ih =>
      have later := ih fun other listed => all other (List.mem_cons_of_mem _ listed)
      have here : Reads [event] purpose none := by
        obtain ⟨op, reply⟩ := event
        have isInternal := all ⟨op, reply⟩ List.mem_cons_self
        cases op with
        | managerHistory _ => cases isInternal
        | historyFrom _ _ _ => cases isInternal
        | upsertHistorical _ => cases isInternal
        | _ => exact ⟨rfl, rfl, fun other => by simp [MarketEvents.alternates]⟩
      exact here.after later

end Reads

section Runs

variable {service} {σ : Type} {answers : Answers σ MarketCall MarketCall.Reply PythonError}
  {before after : σ} {events : MarketEvents} {symbol : String} {timeframe : Timeframe}
  {limit : Nat} {purpose : AlternatePurpose}

theorem exec_internal {α : Type} {task : MarketTask α} {outcome : Except PythonError α}
    (within : task.Within MarketCall.internal)
    (run : Exec answers task before events outcome after) : Reads events purpose none :=
  reads_none (run.within within)

theorem exec_ask {call : MarketCall} {outcome : Except PythonError call.Reply}
    (run : Exec answers (ask call) before events outcome after) (isInternal : call.internal) :
    Reads events purpose none :=
  exec_internal (Task.Within.perform isInternal) run

theorem exec_tryHistoryFrom {provider : String} {request : ProviderRequest}
    {found : Option (List MarketCandle)}
    (run : Exec answers (tryHistoryFrom purpose provider request) before events (.ok found)
      after) : Reads events purpose found := by
  unfold tryHistoryFrom checkedRequest at run
  split at run
  · obtain ⟨reply, middle, rest, answered, continued, rfl⟩ := Exec.awaiting_iff.mp run
    cases reply with
    | ok candles =>
        obtain ⟨rfl, same, rfl⟩ := Exec.finished_iff.mp continued
        cases same
        refine ⟨rfl, rfl, fun other => ?_⟩
        by_cases asked : other = purpose
        · simp [MarketEvents.alternates, asked]
        · simp [MarketEvents.alternates, asked, Ne.symm asked]
    | error raised =>
        cases raised with
        | exception _ =>
            obtain ⟨rfl, same, rfl⟩ := Exec.finished_iff.mp continued
            cases same
            exact ⟨rfl, rfl, fun other => by simp [MarketEvents.alternates]⟩
        | cancelled =>
            obtain ⟨_, same, _⟩ := Exec.finished_iff.mp continued
            cases same
  · obtain ⟨rfl, same, rfl⟩ := Exec.finished_iff.mp run
    cases same
    exact .nil

theorem exec_validate {candles : List MarketCandle} {report : ValidationReport}
    (run : Exec answers (service.validate candles) before events (.ok report) after) :
    Reads events purpose none ∧ ∃ now, service.validator.validate now candles = .ok report := by
  have within : (service.validate candles).Within MarketCall.internal := by
    refine (Task.Within.perform trivial).bind fun now => ?_
    cases service.validator.validate now candles with
    | ok report => exact .finished _
    | error raised => exact .finished _
  refine ⟨exec_internal within run, ?_⟩
  obtain ⟨reply, middle, rest, answered, continued, rfl⟩ := Exec.awaiting_iff.mp run
  cases reply with
  | error raised =>
      obtain ⟨_, same, _⟩ := Exec.finished_iff.mp continued
      cases same
  | ok now =>
      refine ⟨now, ?_⟩
      simp only [Task.finished_ok_bind] at continued
      cases validated : service.validator.validate now candles with
      | error raised =>
          rw [validated] at continued
          obtain ⟨_, same, _⟩ := Exec.finished_iff.mp continued
          cases same
      | ok other =>
          rw [validated] at continued
          obtain ⟨_, same, _⟩ := Exec.finished_iff.mp continued
          cases same
          rfl

theorem compared_nil (report : ValidationReport) : service.compared report [] = (report, []) := by
  simp [compared, MarketDataValidator.compare]

theorem exec_applyCrossValidation {report : ValidationReport}
    {checked : ValidationReport × List DataAnomaly}
    (run : Exec answers (service.applyCrossValidation symbol timeframe report limit) before events
      (.ok checked) after) :
    ∃ found, Reads events .crossCheck found ∧ checked = service.compared report (found.getD []) := by
  unfold applyCrossValidation at run
  split at run
  · obtain ⟨rfl, same, rfl⟩ := Exec.finished_iff.mp run
    cases same
    exact ⟨none, .nil, (compared_nil report).symm⟩
  · obtain ⟨primary, _, first, _, asked, ranking, rfl⟩ := Exec.of_bind_ok run
    obtain ⟨names, _, second, last, ranked, choosing, rfl⟩ := Exec.of_bind_ok ranking
    have early : Reads first .crossCheck none := exec_ask asked trivial
    have later : Reads second .crossCheck none := exec_ask ranked trivial
    split at choosing
    · obtain ⟨rfl, same, rfl⟩ := Exec.finished_iff.mp choosing
      cases same
      exact ⟨none, early.after (later.after .nil), (compared_nil report).symm⟩
    · obtain ⟨found, _, third, _, answered, comparing, rfl⟩ := Exec.of_bind_ok choosing
      refine ⟨found, early.after (later.after ?_), ?_⟩
      · have reads := exec_tryHistoryFrom answered
        rcases found with _ | _ | ⟨candle, rest⟩ <;>
          · obtain ⟨rfl, _, _⟩ := Exec.finished_iff.mp comparing
            exact reads.before .nil
      · rcases found with _ | _ | ⟨candle, rest⟩
        · obtain ⟨_, same, _⟩ := Exec.finished_iff.mp comparing
          cases same
          exact (compared_nil report).symm
        · obtain ⟨_, same, _⟩ := Exec.finished_iff.mp comparing
          cases same
          exact (compared_nil report).symm
        · obtain ⟨_, same, _⟩ := Exec.finished_iff.mp comparing
          cases same
          rfl

def refilled (candles : List MarketCandle) (found : Option (List MarketCandle)) :
    List MarketCandle :=
  found.elim candles (merged candles)

theorem exec_recoverFrom {candles recovered : List MarketCandle} {primary : Option String}
    {names : List String}
    (run : Exec answers (recoverFrom symbol timeframe candles limit primary names) before events
      (.ok recovered) after) :
    ∃ found, Reads events .recovery found ∧ recovered = refilled candles found := by
  induction names generalizing before events with
  | nil =>
      obtain ⟨rfl, same, rfl⟩ := Exec.finished_iff.mp run
      cases same
      exact ⟨none, .nil, rfl⟩
  | cons name rest ih =>
      unfold recoverFrom at run
      split at run
      · exact ih run
      · obtain ⟨found, _, first, second, answered, remaining, rfl⟩ := Exec.of_bind_ok run
        have reads := exec_tryHistoryFrom answered
        cases found with
        | none =>
            obtain ⟨found, later, same⟩ := ih remaining
            exact ⟨found, reads.after later, same⟩
        | some alternate =>
            obtain ⟨rfl, same, rfl⟩ := Exec.finished_iff.mp remaining
            cases same
            exact ⟨some alternate, reads.before .nil, rfl⟩

theorem exec_recoverGaps {candles recovered : List MarketCandle}
    (run : Exec answers (recoverGaps symbol timeframe candles limit) before events
      (.ok recovered) after) :
    ∃ found, Reads events .recovery found ∧ recovered = refilled candles found := by
  unfold recoverGaps at run
  split at run
  · obtain ⟨rfl, same, rfl⟩ := Exec.finished_iff.mp run
    cases same
    exact ⟨none, .nil, rfl⟩
  · obtain ⟨primary, _, first, _, asked, ranking, rfl⟩ := Exec.of_bind_ok run
    obtain ⟨names, _, second, _, ranked, asking, rfl⟩ := Exec.of_bind_ok ranking
    have early : Reads first .recovery none := exec_ask asked trivial
    have later : Reads second .recovery none := exec_ask ranked trivial
    obtain ⟨found, reads, same⟩ := exec_recoverFrom asking
    exact ⟨found, early.after (later.after reads), same⟩

def sources (candles : List MarketCandle) : List (Timestamp × String) :=
  candles.map fun candle => (candle.timestamp, candle.provider)

theorem validated_sources {now : Timestamp} {candles : List MarketCandle}
    {report : ValidationReport}
    (validated : service.validator.validate now candles = .ok report) :
    sources report.candles = sources candles := by
  obtain ⟨anomalies, _, returned⟩ := bind_eq_ok_iff.mp validated
  cases returned
  simp only [sources, List.map_map]
  refine List.map_congr_left fun candle _ => ?_
  obtain ⟨quality, level, same⟩ := score_eq_scored candle
    (anomalies.filter (·.timestamp = candle.timestamp)) false
  simp only [Function.comp_apply, same]
  rfl

theorem exec_recoveredReport {report final : ValidationReport} {crossCheck : List DataAnomaly}
    (run : Exec answers (service.recoveredReport symbol timeframe limit report crossCheck) before
      events (.ok final) after) :
    ∃ found, Reads events .recovery found ∧
      sources final.candles = sources (refilled report.candles found) := by
  unfold recoveredReport at run
  split at run
  · obtain ⟨recovered, _, first, second, ran, validating, rfl⟩ := Exec.of_bind_ok run
    obtain ⟨found, reads, rfl⟩ := exec_recoverGaps ran
    refine ⟨found, ?_⟩
    split at validating
    · rename_i unchanged
      obtain ⟨rfl, same, rfl⟩ := Exec.finished_iff.mp validating
      cases same
      exact ⟨reads.before .nil, by rw [unchanged]⟩
    · obtain ⟨quiet, now, validated⟩ := exec_validate validating
      exact ⟨reads.before quiet, validated_sources validated⟩
  · obtain ⟨rfl, same, rfl⟩ := Exec.finished_iff.mp run
    cases same
    exact ⟨none, .nil, rfl⟩

/-- The candles are made of what the run has read: the answer of the manager without the
moments in quarantine, and the candles of the alternate that answered the recovery. -/
inductive Assembled (service : MarketDataService) (events : MarketEvents)
    (candles : List MarketCandle) : Prop
  | of (raw : List MarketCandle) (crossChecked recovered : Option (List MarketCandle))
      (now : Timestamp) (validated : ValidationReport)
      (fetched : events.fetched = [raw])
      (compares : events.alternates .crossCheck = crossChecked.toList)
      (recovers : events.alternates .recovery = recovered.toList)
      (valid : service.validator.validate now (service.normalizedCandles raw) = .ok validated)
      (same : sources candles =
        sources (refilled (service.compared validated (crossChecked.getD [])).1.candles recovered)) :
      Assembled service events candles

theorem Assembled.between {first second third : MarketEvents} {candles : List MarketCandle}
    (assembled : service.Assembled second candles) (before : Reads first .crossCheck none)
    (fetched : third.fetched = []) (alternates : ∀ purpose, third.alternates purpose = []) :
    service.Assembled (first ++ (second ++ third)) candles := by
  obtain ⟨raw, crossChecked, recovered, now, validated, asked, compares, recovers, valid, same⟩ :=
    assembled
  refine ⟨raw, crossChecked, recovered, now, validated, ?_, ?_, ?_, valid, same⟩
  · simp [before.fetched, fetched, asked]
  · simp [before.alternates, alternates, compares]
  · simp [before.alternates, alternates, recovers]

theorem exec_fetchReport {range : HistoryRange} {report : ValidationReport}
    (run : Exec answers (service.fetchReport symbol timeframe range) before events (.ok report)
      after) : service.Assembled events report.candles := by
  obtain ⟨request, _, first, _, checked, asking, rfl⟩ := Exec.of_bind_ok run
  obtain ⟨raw, _, second, _, asked, answered, rfl⟩ := Exec.of_bind_ok asking
  obtain ⟨validated, _, third, _, validates, comparable, rfl⟩ := Exec.of_bind_ok answered
  obtain ⟨compared, _, fourth, _, compares, recoverable, rfl⟩ := Exec.of_bind_ok comparable
  obtain ⟨final, _, fifth, _, recovers, publishing, rfl⟩ := Exec.of_bind_ok recoverable
  obtain ⟨_, _, sixth, _, published, returning, rfl⟩ := Exec.of_bind_ok publishing
  obtain ⟨rfl, returned, rfl⟩ := Exec.finished_iff.mp returning
  cases returned
  have opening : Reads first .crossCheck none := by
    refine exec_internal ?_ checked
    unfold checkedRequest
    split <;> exact .finished _
  obtain ⟨_, single⟩ := Exec.perform_iff.mp asked
  have answering : MarketEvents.fetched second = [raw] := by
    rw [single]
    rfl
  have alone : ∀ purpose, MarketEvents.alternates purpose second = [] := by
    intro purpose
    rw [single]
    rfl
  obtain ⟨validating, now, valid⟩ := @exec_validate _ _ _ _ _ _ .crossCheck _ _ validates
  obtain ⟨crossChecked, comparing, rfl⟩ := exec_applyCrossValidation compares
  obtain ⟨recovered, recovering, same⟩ := exec_recoveredReport recovers
  have announcing : Reads sixth .crossCheck none := by
    refine exec_internal (Task.Within.performAll fun call listed => ?_) published
    obtain ⟨anomaly, _, rfl⟩ := List.mem_map.mp listed
    trivial
  refine ⟨raw, crossChecked, recovered, now, validated, ?_, ?_, ?_, valid, same⟩
  · simp [opening.fetched, answering, validating.fetched, comparing.fetched, recovering.fetched,
      announcing.fetched]
  · simp [opening.alternates, alone, validating.alternates, comparing.alternates,
      recovering.alternates, announcing.alternates]
  · simp [opening.alternates, alone, validating.alternates, comparing.alternates,
      recovering.alternates, announcing.alternates]

theorem exec_unwritten {α : Type} {task : MarketTask α} {outcome : Except PythonError α}
    (within : task.Within MarketCall.observes)
    (run : Exec answers task before events outcome after) : events.written = [] := by
  have all := run.within within
  refine List.filterMap_eq_nil_iff.mpr fun event listed => ?_
  obtain ⟨op, reply⟩ := event
  have observes := all _ listed
  cases op with
  | upsertHistorical _ => cases observes
  | _ => rfl

theorem exec_storeReport {range : HistoryRange} {report : ValidationReport}
    {outcome : Except PythonError (List MarketCandle)}
    (run : Exec answers (service.storeReport symbol timeframe range report) before events outcome
      after) :
    events.fetched = [] ∧ (∀ purpose, events.alternates purpose = []) ∧
      events.written = [report.candles] := by
  obtain ⟨reply, middle, rest, answered, continued, rfl⟩ := Exec.awaiting_iff.mp run
  have quiet : Reads rest .crossCheck none := by
    refine exec_internal ?_ continued
    cases reply with
    | error raised => exact .finished _
    | ok _ =>
        refine (Task.Within.perform trivial).bind fun _ => ?_
        exact (Task.Within.perform trivial).bind fun _ => .finished _
  refine ⟨quiet.fetched, fun purpose => ?_, ?_⟩
  · have nothing : MarketEvents.alternates purpose rest = [] := by
      simpa using quiet.alternates purpose
    exact nothing
  · exact congrArg (report.candles :: ·) quiet.written

theorem exec_history {range : HistoryRange} {refresh : Bool}
    {outcome : Except PythonError (List MarketCandle)}
    (run : Exec answers (service.history symbol timeframe range refresh) before events outcome
      after) {stored : List MarketCandle} (written : stored ∈ events.written) :
    service.Assembled events stored := by
  unfold history at run
  split at run
  · obtain ⟨rfl, _, _⟩ := Exec.finished_iff.mp run
    cases written
  · rename_i canonical _
    have reading : ∀ {first : MarketEvents} {outcome : Except PythonError _} {middle : σ},
        Exec answers (if refresh then .finished (.ok none)
          else service.storedAnswer canonical timeframe range) before first outcome middle →
        Reads first .crossCheck none := by
      intro first outcome middle ran
      refine exec_internal ?_ ran
      split
      · exact .finished _
      · refine (Task.Within.perform trivial).bind fun cached => ?_
        cases cached with
        | some candles => exact .finished _
        | none =>
            refine (Task.Within.perform trivial).bind fun held => ?_
            rcases held with _ | ⟨candle, rest⟩
            · exact .finished _
            · exact (Task.Within.perform trivial).bind fun _ => .finished _
    rcases Exec.bind_iff.mp run with ⟨_, failed, _⟩ | ⟨answer, _, first, second, ran, fetching, rfl⟩
    · rw [(reading failed).written] at written
      cases written
    · rw [MarketEvents.written_append, (reading ran).written, List.nil_append] at written
      cases answer with
      | some candles =>
          obtain ⟨rfl, _, _⟩ := Exec.finished_iff.mp fetching
          cases written
      | none =>
          rcases Exec.bind_iff.mp fetching with
            ⟨_, failed, _⟩ | ⟨report, _, third, fourth, fetches, stores, rfl⟩
          · rw [exec_unwritten fetchReport_observes failed] at written
            cases written
          · obtain ⟨fetched, alternates, writes⟩ := exec_storeReport stores
            rw [MarketEvents.written_append, exec_unwritten fetchReport_observes fetches, writes,
              List.nil_append] at written
            rw [List.mem_singleton.mp written]
            exact (exec_fetchReport fetches).between (reading ran) fetched alternates

end Runs

/-! ## Where a quarantined moment is refilled from -/

theorem fromThird_congr {candles others : List MarketCandle} (same : sources candles = sources others)
    (pair : MarketCandle × MarketCandle) (moment : Timestamp) :
    (∀ candle ∈ candles, candle.timestamp = moment → FromThird pair candle) ↔
      ∀ candle ∈ others, candle.timestamp = moment → FromThird pair candle := by
  have bySource : ∀ list : List MarketCandle,
      (∀ candle ∈ list, candle.timestamp = moment → FromThird pair candle) ↔
        ∀ source ∈ sources list, source.1 = moment →
          source.2 ≠ pair.1.provider ∧ source.2 ≠ pair.2.provider := by
    intro list
    simp [sources, FromThird]
  rw [bySource candles, same, ← bySource others]

end MarketDataService

/-! ## Three candles of an afternoon -/

theorem outlierPrices :
    (0 : ℚ) < 3000 ∧ (0 : ℚ) < 3001 ∧ (0 : ℚ) < 2999 ∧ (0 : ℚ) < 3000 := by
  norm_num

theorem outlierBody : max (3000 : ℚ) 3000 ≤ 3001 ∧ (2999 : ℚ) ≤ min 3000 3000 := by norm_num

def outlier (provider : String) : MarketCandle where
  timestamp := 1768225500000000
  symbol := "XAUUSD"
  timeframe := .m5
  openPrice := 3000
  high := 3001
  low := 2999
  close := 3000
  volume := 0
  spread := 0
  qualityScore := (flatCandle 1768225500000000).qualityScore
  pricesPositive := outlierPrices
  containsBody := outlierBody
  volumesNonneg := noVolume
  provider := provider
  qualityLevel := .native
  ingestionTimestamp := 1768225500000000

def twoProviders : MarketReplies :=
  { polling 0 (flatCandle 1768225800000000) with
    fetched := fun _ => [flatCandle 1768225200000000, flatCandle 1768225500000000,
      flatCandle 1768225800000000]
    fetchedFrom := fun _ name => [outlier name]
    ranked := fun _ => ["twelve_data", "polygon"]
    current := fun _ => some "twelve_data" }

def threeProviders : MarketReplies :=
  { twoProviders with
    ranked := fun _ => ["twelve_data", "polygon", "oanda"]
    fate := fun call =>
      match call with
      | .historyFrom .recovery "polygon" _ =>
          .failedBefore (.exception ⟨"ProviderError", "rate limit"⟩)
      | _ => .performed }

def MarketReplies.refreshed (replies : MarketReplies) : MarketEvents :=
  (plainService.history "XAUUSD" .m5 {} true).trace replies.answer afternoon

def MarketReplies.answers (replies : MarketReplies) :
    Answers (MarketWorld plainService.repository) MarketCall MarketCall.Reply PythonError :=
  fun world call reply after => replies.answer world call = (reply, after)

theorem MarketReplies.exec_refreshed (replies : MarketReplies) :
    Exec replies.answers (plainService.history "XAUUSD" .m5 {} true) afternoon replies.refreshed
      ((plainService.history "XAUUSD" .m5 {} true).run replies.answer afternoon).1
      ((plainService.history "XAUUSD" .m5 {} true).run replies.answer afternoon).2 :=
  Task.exec_trace (fun _ _ => rfl) _ _

end Ten.MarketData
