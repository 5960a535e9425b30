import Ten.MarketData.CacheFiles
import Ten.MarketData.CircuitBreaker

namespace Ten.MarketData

open Data

/-! # What the cache reads from its files

A file that a key wrote is read as the entry of that key.  Anything else under its name is
another key's entry, or contents of unknown origin, which `get` survives only where it does
not use them. -/

theorem accepted_fields {candle : MarketCandle} {host : Host} (validated : candle.Validated host) :
    candle.fields.accepted host = some candle := by
  have body := candle.containsBody
  simp only [max_le_iff, le_min_iff] at body
  simp [CandleFields.accepted, MarketCandle.fields, validated.symbol, candle.pricesPositive, body,
    candle.volumesNonneg]

theorem not_overflows_fields {candle : MarketCandle} {host : Host}
    (validated : candle.Validated host) : candle.fields.overflows = false := by
  simp [CandleFields.overflows, MarketCandle.fields, validated.timestamp,
    validated.ingestionTimestamp]

namespace CacheCodec

variable {codec : CacheCodec} {now : Timestamp}

theorem modelValidate_modelDump {candle : MarketCandle} (validated : candle.Validated codec.host) :
    codec.modelValidate (codec.modelDump candle) = .ok candle := by
  unfold modelValidate
  rw [codec.candleReadBack candle validated]
  simp [not_overflows_fields validated, accepted_fields validated]

theorem load_written {entry : CacheEntry} (representable : Representable entry.expires)
    (validated : ∀ candle ∈ entry.candles, candle.Validated codec.host) :
    codec.load now (codec.written entry) =
      .ok (if now < entry.expires then some entry else none) := by
  have moment := codec.expiryReadBack entry.expires representable
  have candles : (entry.candles.map codec.modelDump).mapM codec.modelValidate =
      .ok entry.candles := by
    apply mapM_of_forall₂
    rw [List.forall₂_map_left_iff, List.forall₂_same]
    intro candle present
    exact modelValidate_modelDump (validated candle present)
  by_cases fresh : now < entry.expires
  · simp [load, written, getItem, parseMoment, moment, unexpired, fresh, iterated, candles,
      bind, Except.bind, pure, Except.pure]
  · simp [load, written, getItem, parseMoment, moment, unexpired, fresh,
      bind, Except.bind, pure, Except.pure]

/-- Contents that `get` makes nothing of: they are no JSON, their expiry or their candles are
missing or refused in a way that is caught, or they are expired. -/
inductive Unread (codec : CacheCodec) (now : Timestamp) : FileContents → Prop where
  | unreadable {raised : PythonException} (caught : PythonException.caughtByGet raised = true) :
      Unread codec now (.unreadable raised)
  | noExpiry {payload : Value} {name : String}
      (absent : getItem payload "expires" = .error ⟨"KeyError", name⟩) :
      Unread codec now (.document payload)
  | badExpiry {payload : Value} {text : String}
      (expiry : getItem payload "expires" = .ok (.text text))
      (refused : codec.fromisoformat text = none) : Unread codec now (.document payload)
  | expired {payload : Value} {text : String} {instant : Timestamp}
      (expiry : getItem payload "expires" = .ok (.text text))
      (read : codec.fromisoformat text = some (some instant)) (passed : instant ≤ now) :
      Unread codec now (.document payload)
  | noCandles {payload : Value} {text name : String} {instant : Timestamp}
      (expiry : getItem payload "expires" = .ok (.text text))
      (read : codec.fromisoformat text = some (some instant)) (fresh : now < instant)
      (absent : getItem payload "candles" = .error ⟨"KeyError", name⟩) :
      Unread codec now (.document payload)
  | badCandle {payload candles item : Value} {text : String} {instant : Timestamp}
      {before after : List Value} {raised : PythonException}
      (expiry : getItem payload "expires" = .ok (.text text))
      (read : codec.fromisoformat text = some (some instant)) (fresh : now < instant)
      (listed : getItem payload "candles" = .ok candles)
      (items : iterated candles = .ok (before ++ item :: after))
      (good : ∀ earlier ∈ before, ∃ candle, codec.modelValidate earlier = .ok candle)
      (bad : codec.modelValidate item = .error raised)
      (caught : PythonException.caughtByGet raised = true) : Unread codec now (.document payload)

/-- An outcome of reading a file that `get` takes for an absent one. -/
def Dismissed (outcome : Except PythonException (Option CacheEntry)) : Prop :=
  outcome = .ok none ∨
    ∃ raised, outcome = .error raised ∧ PythonException.caughtByGet raised = true

@[simp] theorem caughtByGet_keyError (message : String) :
    PythonException.caughtByGet ⟨"KeyError", message⟩ = true := by
  simp [PythonException.caughtByGet]

@[simp] theorem caughtByGet_valueError (message : String) :
    PythonException.caughtByGet ⟨"ValueError", message⟩ = true := by
  simp [PythonException.caughtByGet]

@[simp] theorem caughtByGet_typeError (message : String) :
    PythonException.caughtByGet ⟨"TypeError", message⟩ = false := by
  simp [PythonException.caughtByGet]

theorem not_dismissed_some {entry : CacheEntry} : ¬ Dismissed (.ok (some entry)) := by
  rintro (absent | ⟨raised, absent, _⟩) <;> cases absent

theorem dismissed_error_iff {raised : PythonException} :
    Dismissed (.error raised) ↔ PythonException.caughtByGet raised = true := by
  constructor
  · rintro (absent | ⟨other, same, caught⟩)
    · cases absent
    · cases same
      exact caught
  · intro caught
    exact .inr ⟨raised, rfl, caught⟩

theorem load_fresh {payload : Value} {text : String} {instant : Timestamp}
    (expiry : getItem payload "expires" = .ok (.text text))
    (read : codec.fromisoformat text = some (some instant)) (fresh : now < instant) :
    codec.load now (.document payload) = (do
      let candles ← (← iterated (← getItem payload "candles")).mapM codec.modelValidate
      pure (some ⟨instant, candles⟩)) := by
  simp [load, expiry, parseMoment, read, unexpired, fresh, bind, Except.bind, pure, Except.pure]

theorem dismissed_of_unread {contents : FileContents} (unread : codec.Unread now contents) :
    Dismissed (codec.load now contents) := by
  cases unread with
  | unreadable caught => exact dismissed_error_iff.mpr caught
  | noExpiry absent =>
      simp [load, absent, bind, Except.bind, dismissed_error_iff]
  | badExpiry expiry refused =>
      simp [load, expiry, parseMoment, refused, bind, Except.bind, dismissed_error_iff]
  | expired expiry read passed =>
      left
      simp [load, expiry, parseMoment, read, unexpired, not_lt.mpr passed, bind, Except.bind,
        pure, Except.pure]
  | noCandles expiry read fresh absent =>
      simp [load_fresh expiry read fresh, absent, bind, Except.bind, dismissed_error_iff]
  | @badCandle _ _ item _ _ before after raised expiry read fresh listed items good bad caught =>
      have refused : (before ++ item :: after).mapM codec.modelValidate = .error raised :=
        mapM_error_iff.mpr ⟨before, item, after, rfl, good, bad⟩
      simp [load_fresh expiry read fresh, listed, items, refused, bind, Except.bind,
        dismissed_error_iff, caught]

end CacheCodec

/-! ## One `get` -/

namespace FileCache

/-- The ways a `get` can go, with what it returns and the cache it leaves. -/
inductive Got (cache : FileCache) (codec : CacheCodec) (now : Timestamp) (key : String) :
    Except PythonException (Option (List MarketCandle)) × FileCache → Prop where
  | hit {entry : CacheEntry} (present : (key, entry) ∈ cache.memory) (fresh : now < entry.expires)
      (remembered : (cache.remembered now key).isSome) :
      Got cache codec now key (.ok (some entry.candles),
        { cache with memory := cache.memory.filter (·.1 ≠ key) ++ [(key, entry)] })
  | absent (forgotten : (cache.remembered now key).isNone)
      (noFile : cache.files (safeName codec.host key) = none) :
      Got cache codec now key
        (.ok none, { cache with memory := cache.memory.filter (·.1 ≠ key) })
  | dismissed {contents : FileContents} (forgotten : (cache.remembered now key).isNone)
      (filed : cache.files (safeName codec.host key) = some contents)
      (dismissed : CacheCodec.Dismissed (codec.load now contents)) :
      Got cache codec now key (.ok none,
        { cache with memory := cache.memory.filter (·.1 ≠ key) }.unlink (safeName codec.host key))
  | loaded {contents : FileContents} {entry : CacheEntry}
      (forgotten : (cache.remembered now key).isNone)
      (filed : cache.files (safeName codec.host key) = some contents)
      (loaded : codec.load now contents = .ok (some entry)) :
      Got cache codec now key (.ok (some entry.candles),
        { cache with memory := cache.memory.filter (·.1 ≠ key) }.storeMemory key entry)
  | raised {contents : FileContents} {raised : PythonException}
      (forgotten : (cache.remembered now key).isNone)
      (filed : cache.files (safeName codec.host key) = some contents)
      (failed : codec.load now contents = .error raised)
      (uncaught : PythonException.caughtByGet raised = false) :
      Got cache codec now key
        (.error raised, { cache with memory := cache.memory.filter (·.1 ≠ key) })

variable {cache : FileCache} {codec : CacheCodec} {now : Timestamp} {key : String}

theorem got_readFile (forgotten : (cache.remembered now key).isNone) :
    Got cache codec now key (cache.readFile codec now key) := by
  unfold readFile
  simp only
  cases filed : cache.files (safeName codec.host key) with
  | none => exact .absent forgotten filed
  | some contents =>
      simp only
      cases outcome : codec.load now contents with
      | ok entry =>
          cases entry with
          | none => exact .dismissed forgotten filed (.inl outcome)
          | some entry => exact .loaded forgotten filed outcome
      | error raised =>
          simp only
          cases caught : PythonException.caughtByGet raised with
          | true => exact .dismissed forgotten filed (.inr ⟨raised, outcome, caught⟩)
          | false => exact .raised forgotten filed outcome caught

theorem got_get : Got cache codec now key (cache.get codec now key) := by
  unfold get
  cases remembered : cache.remembered now key with
  | none => exact got_readFile (by rw [remembered]; rfl)
  | some item =>
      have answers := remembered
      unfold FileCache.remembered at answers
      obtain ⟨found, fresh⟩ := Option.filter_eq_some_iff.mp answers
      have named : item.1 = key := by simpa using List.find?_some found
      have present : (key, item.2) ∈ cache.memory := named ▸ List.mem_of_find?_eq_some found
      exact .hit present (by simpa using fresh) (by rw [remembered]; rfl)

theorem mem_storeMemory {entry : CacheEntry} {item : String × CacheEntry}
    (present : item ∈ (cache.storeMemory key entry).memory) :
    item = (key, entry) ∨ (item ∈ cache.memory ∧ item.1 ≠ key) := by
  rcases List.mem_append.mp (List.mem_of_mem_drop present) with kept | added
  · obtain ⟨earlier, other⟩ := List.mem_filter.mp kept
    exact .inr ⟨earlier, by simpa using other⟩
  · exact .inl (List.mem_singleton.mp added)

end FileCache

/-! ## Sequences of calls -/

/-- A call of the cache.  The candles of a `set` have passed their validators. -/
inductive CacheCall (codec : CacheCodec) where
  | set (key : String) (candles : List MarketCandle) (ttlSeconds : Int)
      (validated : ∀ candle ∈ candles, candle.Validated codec.host)
  | get (key : String)

/-- A cache with the entry last set under each key and the key that last wrote each file. -/
structure CacheRun where
  cache : FileCache
  lastSet : String → Option CacheEntry
  writer : String → Option String

namespace CacheRun

variable (codec : CacheCodec)

def start (maxEntries : Nat) (files : String → Option FileContents) : CacheRun :=
  ⟨⟨maxEntries, [], files⟩, fun _ => none, fun _ => none⟩

def next (run : CacheRun) (timed : Timestamp × CacheCall codec) : CacheRun :=
  match timed.2 with
  | .get key => { run with cache := (run.cache.get codec timed.1 key).2 }
  | .set key candles ttlSeconds _ =>
      match expiryAfter timed.1 ttlSeconds with
      | .error _ => run
      | .ok expires =>
          { cache := (run.cache.set codec timed.1 key candles ttlSeconds).2
            lastSet := Function.update run.lastSet key (some ⟨expires, candles⟩)
            writer := Function.update run.writer (safeName codec.host key) (some key) }

/-- A `get` returns nothing or the unexpired candles last set under its key. -/
def Exact (run : CacheRun) (timed : Timestamp × CacheCall codec) : Prop :=
  match timed.2 with
  | .set _ _ _ _ => True
  | .get key => ∃ answer, (run.cache.get codec timed.1 key).1 = .ok answer ∧
      ∀ candles, answer = some candles →
        ∃ entry, run.lastSet key = some entry ∧ timed.1 < entry.expires ∧ entry.candles = candles

/-- Where the memory does not answer, the file that the key names was last written under that
key, or `get` makes nothing of it. -/
def Foreseen (run : CacheRun) (timed : Timestamp × CacheCall codec) : Prop :=
  match timed.2 with
  | .set _ _ _ _ => True
  | .get key => (run.cache.remembered timed.1 key).isSome ∨
      ∀ contents, run.cache.files (safeName codec.host key) = some contents →
        run.writer (safeName codec.host key) = some key ∨ codec.Unread timed.1 contents

/-- The memory holds what was last set under its keys, and so does a file for the key that
last wrote it. -/
structure Faithful (run : CacheRun) : Prop where
  memory : ∀ item ∈ run.cache.memory, run.lastSet item.1 = some item.2
  files : ∀ key contents, run.writer (safeName codec.host key) = some key →
    run.cache.files (safeName codec.host key) = some contents →
      ∃ entry, run.lastSet key = some entry ∧ contents = codec.written entry
  readable : ∀ key entry, run.lastSet key = some entry →
    Representable entry.expires ∧ ∀ candle ∈ entry.candles, candle.Validated codec.host

variable {codec} {run : CacheRun} {now : Timestamp} {key : String}

theorem faithful_start (maxEntries : Nat) (files : String → Option FileContents) :
    Faithful codec (start maxEntries files) where
  memory := by simp [start]
  files := by simp [start]
  readable := by simp [start]

theorem Faithful.load_of_foreseen (faithful : Faithful codec run) {contents : FileContents}
    (foreseen : Foreseen codec run (now, .get key))
    (forgotten : (run.cache.remembered now key).isNone)
    (filed : run.cache.files (safeName codec.host key) = some contents) :
    CacheCodec.Dismissed (codec.load now contents) ∨ ∃ entry, run.lastSet key = some entry ∧
      now < entry.expires ∧ codec.load now contents = .ok (some entry) := by
  rcases foreseen with remembered | written
  · rw [Option.isNone_iff_eq_none.mp forgotten] at remembered
    cases remembered
  · rcases written contents filed with byKey | unread
    · obtain ⟨entry, wasSet, rfl⟩ := faithful.files key contents byKey filed
      obtain ⟨representable, validated⟩ := faithful.readable key entry wasSet
      have outcome : codec.load now (codec.written entry) =
          .ok (if now < entry.expires then some entry else none) :=
        CacheCodec.load_written representable validated
      by_cases fresh : now < entry.expires
      · rw [if_pos fresh] at outcome
        exact .inr ⟨entry, wasSet, fresh, outcome⟩
      · rw [if_neg fresh] at outcome
        exact .inl (.inl outcome)
    · exact .inl (CacheCodec.dismissed_of_unread unread)

theorem exact_of_foreseen (faithful : Faithful codec run) {timed : Timestamp × CacheCall codec}
    (foreseen : Foreseen codec run timed) : Exact codec run timed := by
  obtain ⟨now, call⟩ := timed
  cases call with
  | set => trivial
  | get key =>
      have got := @FileCache.got_get run.cache codec now key
      simp only [Exact]
      generalize run.cache.get codec now key = outcome at got ⊢
      cases got with
      | @hit entry present fresh remembered =>
          refine ⟨some entry.candles, rfl, fun candles same => ?_⟩
          cases same
          exact ⟨entry, faithful.memory _ present, fresh, rfl⟩
      | absent | dismissed => exact ⟨none, rfl, fun candles some => nomatch some⟩
      | @loaded contents entry forgotten filed loaded =>
          refine ⟨some entry.candles, rfl, fun candles same => ?_⟩
          cases same
          have outcome := faithful.load_of_foreseen foreseen forgotten filed
          rw [loaded] at outcome
          rcases outcome with absurd | ⟨wanted, wasSet, fresh, same⟩
          · exact (CacheCodec.not_dismissed_some absurd).elim
          · cases same
            exact ⟨entry, wasSet, fresh, rfl⟩
      | @raised contents raised forgotten filed failed uncaught =>
          have outcome := faithful.load_of_foreseen foreseen forgotten filed
          rw [failed] at outcome
          rcases outcome with absurd | ⟨wanted, _, _, same⟩
          · rw [CacheCodec.dismissed_error_iff.mp absurd] at uncaught
            cases uncaught
          · cases same

theorem Faithful.weaken (faithful : Faithful codec run) {cache : FileCache}
    (memory : ∀ item ∈ cache.memory, run.lastSet item.1 = some item.2)
    (files : ∀ stem contents, cache.files stem = some contents →
      run.cache.files stem = some contents) : Faithful codec { run with cache := cache } where
  memory := memory
  files := fun key contents byKey filed => faithful.files key contents byKey (files _ _ filed)
  readable := faithful.readable

theorem faithful_get (faithful : Faithful codec run)
    (foreseen : Foreseen codec run (now, .get key)) :
    Faithful codec { run with cache := (run.cache.get codec now key).2 } := by
  have got := @FileCache.got_get run.cache codec now key
  have others : ∀ item ∈ run.cache.memory.filter (·.1 ≠ key), run.lastSet item.1 = some item.2 :=
    fun item present => faithful.memory item (List.mem_of_mem_filter present)
  generalize run.cache.get codec now key = outcome at got ⊢
  cases got with
  | @hit entry present fresh remembered =>
      refine faithful.weaken (fun item kept => ?_) fun _ _ filed => filed
      rcases List.mem_append.mp kept with other | moved
      · exact others item other
      · cases List.mem_singleton.mp moved
        exact faithful.memory _ present
  | absent forgotten noFile => exact faithful.weaken others fun _ _ filed => filed
  | dismissed forgotten filed dismissed =>
      refine faithful.weaken others fun stem contents kept => ?_
      by_cases same : stem = safeName codec.host key
      · simp [FileCache.unlink, same] at kept
      · simpa [FileCache.unlink, same] using kept
  | @loaded contents entry forgotten filed loaded =>
      refine faithful.weaken (fun item kept => ?_) fun _ _ filed => filed
      rcases FileCache.mem_storeMemory kept with rfl | ⟨other, _⟩
      · have outcome := faithful.load_of_foreseen foreseen forgotten filed
        rw [loaded] at outcome
        rcases outcome with absurd | ⟨wanted, wasSet, _, same⟩
        · exact (CacheCodec.not_dismissed_some absurd).elim
        · cases same
          exact wasSet
      · exact others item other
  | raised forgotten filed failed uncaught => exact faithful.weaken others fun _ _ filed => filed

theorem faithful_set (faithful : Faithful codec run) {candles : List MarketCandle}
    {ttlSeconds : Int} {validated : ∀ candle ∈ candles, candle.Validated codec.host} :
    Faithful codec (next codec run (now, .set key candles ttlSeconds validated)) := by
  simp only [next]
  cases expiry : expiryAfter now ttlSeconds with
  | error raised => exact faithful
  | ok expires =>
      have representable : Representable expires := by
        unfold expiryAfter at expiry
        split at expiry <;> cases expiry
        assumption
      simp only [FileCache.set, expiry]
      refine ⟨fun item present => ?_, fun other contents byOther filed => ?_,
        fun other entry wasSet => ?_⟩
      · rcases FileCache.mem_storeMemory present with rfl | ⟨earlier, apart⟩
        · simp
        · simpa [apart] using faithful.memory item earlier
      · by_cases sameFile : safeName codec.host other = safeName codec.host key
        · simp only [sameFile, Function.update_self, Option.some.injEq] at byOther filed
          subst byOther
          exact ⟨⟨expires, candles⟩, by simp, filed.symm⟩
        · have apart : other ≠ key := fun same => sameFile (congrArg _ same)
          simp only [ne_eq, sameFile, not_false_eq_true, Function.update_of_ne] at byOther filed
          simpa [apart] using faithful.files other contents byOther filed
      · by_cases same : other = key
        · simp only [same, Function.update_self, Option.some.injEq] at wasSet
          subst wasSet
          exact ⟨representable, validated⟩
        · simp only [ne_eq, same, not_false_eq_true, Function.update_of_ne] at wasSet
          exact faithful.readable other entry wasSet

theorem faithful_next (timed : Timestamp × CacheCall codec) (faithful : Faithful codec run)
    (foreseen : Foreseen codec run timed) : Faithful codec (next codec run timed) := by
  obtain ⟨now, call⟩ := timed
  cases call with
  | set key candles ttlSeconds validated => exact faithful_set faithful
  | get key => exact faithful_get faithful foreseen

/-- Over any directory, a cache is exact as long as every file it reads was last written under
the key, or is one that it makes nothing of. -/
theorem reads_exact (codec : CacheCodec) (maxEntries : Nat) (files : String → Option FileContents)
    (calls : List (Timestamp × CacheCall codec))
    (foreseen : EachStep (next codec) (Foreseen codec) (start maxEntries files) calls) :
    EachStep (next codec) (Exact codec) (start maxEntries files) calls :=
  EachStep.imp (fun _ timed faithful foreseen => faithful_next timed faithful foreseen)
    (fun _ _ faithful foreseen => exact_of_foreseen faithful foreseen)
    (faithful_start maxEntries files) foreseen

end CacheRun

/-! ## Two ranges under one file name -/

def tally (moment : Timestamp) : String :=
  String.ofList ((if 0 ≤ moment then '+' else '-') :: List.replicate moment.natAbs '1')

def tallied (text : String) : Option Timestamp :=
  match text.toList with
  | '+' :: marks => some marks.length
  | '-' :: marks => some (-marks.length)
  | _ => none

theorem tallied_tally (moment : Timestamp) : tallied (tally moment) = some moment := by
  unfold tallied tally
  by_cases positive : 0 ≤ moment
  · simp [positive]
  · simp only [positive, if_false, String.toList_ofList, List.length_replicate]
    have negative : -(moment.natAbs : Int) = moment := by
      have := Int.ofNat_natAbs_of_nonpos (not_le.mp positive).le
      omega
    rw [negative]

theorem tally_ne {text : String} (noTally : tallied text = none) (moment : Timestamp) :
    tally moment ≠ text := by
  rintro rfl
  rw [tallied_tally] at noTally
  cases noTally

def expiryText (moment : Timestamp) : String :=
  if moment = 1777626300000000 then "2026-05-01T09:05:00+00:00" else tally moment

def expiryOf (text : String) : Option Timestamp :=
  if text = "2026-05-01T09:05:00+00:00" then some 1777626300000000 else tallied text

def candleText (moment : Timestamp) : String :=
  if moment = 1777622400000000 then "2026-05-01T08:00:00Z"
  else if moment = 1777622700000000 then "2026-05-01T08:05:00Z" else tally moment

def candleMoment (text : String) : Option Timestamp :=
  if text = "2026-05-01T08:00:00Z" then some 1777622400000000
  else if text = "2026-05-01T08:05:00Z" then some 1777622700000000 else tallied text

theorem expiryOf_expiryText (moment : Timestamp) : expiryOf (expiryText moment) = some moment := by
  have apart := @tally_ne "2026-05-01T09:05:00+00:00" (by decide +kernel) moment
  unfold expiryOf expiryText
  by_cases known : moment = 1777626300000000
  · simp [known]
  · simp [known, apart, tallied_tally]

theorem candleMoment_candleText (moment : Timestamp) :
    candleMoment (candleText moment) = some moment := by
  have first := @tally_ne "2026-05-01T08:00:00Z" (by decide +kernel) moment
  have second := @tally_ne "2026-05-01T08:05:00Z" (by decide +kernel) moment
  unfold candleMoment candleText
  by_cases opens : moment = 1777622400000000
  · simp [opens]
  · by_cases closes : moment = 1777622700000000
    · simp [closes]
    · simp [opens, closes, first, second, tallied_tally]

def textField (payload : Value) (name : String) : Option String :=
  match getItem payload name with
  | .ok (.text text) => some text
  | _ => none

def numberField (payload : Value) (name : String) : Option ℚ :=
  match getItem payload name with
  | .ok (.number value) => some value
  | _ => none

def timeframeOf (text : String) : Option Timeframe :=
  [.m1, .m5, .m15, .m30, .h1, .h4, .d1].find? (·.value = text)

def qualityText : DataQualityLevel → String
  | .native => "native"
  | .verified => "verified"
  | .recovered => "recovered"
  | .interpolated => "interpolated"
  | .minorAnomaly => "minor_anomaly"
  | .majorAnomaly => "major_anomaly"
  | .corrupted => "corrupted"

def qualityOf (text : String) : Option DataQualityLevel :=
  [.native, .verified, .recovered, .interpolated, .minorAnomaly, .majorAnomaly, .corrupted].find?
    (qualityText · = text)

def percentageOf (value : ℚ) : Option Percentage :=
  if bounds : 0 ≤ value ∧ value ≤ 100 then some ⟨value, bounds.1, bounds.2⟩ else none

theorem timeframeOf_value (timeframe : Timeframe) : timeframeOf timeframe.value = some timeframe := by
  cases timeframe <;> decide +kernel

theorem qualityOf_qualityText (level : DataQualityLevel) :
    qualityOf (qualityText level) = some level := by
  cases level <;> decide +kernel

def candleCodec : CacheCodec where
  host := { plainHost with upper := id, isoformat := expiryText }
  fromisoformat text := (expiryOf text).map some
  modelDump candle := .mapping [
    ("timestamp", .text (candleText candle.timestamp)), ("symbol", .text candle.symbol),
    ("timeframe", .text candle.timeframe.value), ("open", .number candle.openPrice),
    ("high", .number candle.high), ("low", .number candle.low), ("close", .number candle.close),
    ("volume", .number candle.volume), ("spread", .number candle.spread),
    ("provider", .text candle.provider), ("quality_score", .number candle.qualityScore.value),
    ("quality_level", .text (qualityText candle.qualityLevel)),
    ("ingestion_timestamp", .text (candleText candle.ingestionTimestamp))]
  parseFields payload := some {
    timestamp := (textField payload "timestamp").bind fun text => (candleMoment text).map some
    symbol := textField payload "symbol"
    timeframe := (textField payload "timeframe").bind timeframeOf
    openPrice := numberField payload "open"
    high := numberField payload "high"
    low := numberField payload "low"
    close := numberField payload "close"
    volume := numberField payload "volume"
    spread := numberField payload "spread"
    provider := textField payload "provider"
    qualityScore := (numberField payload "quality_score").bind percentageOf
    qualityLevel := (textField payload "quality_level").bind qualityOf
    ingestionTimestamp := (textField payload "ingestion_timestamp").bind fun text =>
      (candleMoment text).map some }
  expiryReadBack moment _ := by simp [expiryOf_expiryText]
  candleReadBack candle _ := by
    simp [textField, numberField, getItem, candleMoment_candleText, timeframeOf_value,
      qualityOf_qualityText, percentageOf, candle.qualityScore.nonneg,
      candle.qualityScore.le_hundred, MarketCandle.fields]

def eightOClock : MarketCandle where
  timestamp := 1777622400000000
  symbol := "XAUUSD"
  timeframe := .m5
  openPrice := 2650
  high := 2651
  low := 2649
  close := 2650
  volume := 0
  spread := 0
  qualityScore := 0
  pricesPositive := by norm_num
  containsBody := by norm_num
  volumesNonneg := ⟨le_rfl, le_rfl⟩
  provider := "twelve_data"
  qualityLevel := .native
  ingestionTimestamp := 1777622700000000

theorem eightOClock_validated : ∀ candle ∈ [eightOClock], candle.Validated candleCodec.host := by
  intro candle present
  obtain rfl := List.mem_singleton.mp present
  exact ⟨by decide +kernel, by decide, by decide⟩

def keyAhead : String := "history:XAUUSD:M5:2026-05-01T08:00:00+05:00::100"

def keyBehind : String := "history:XAUUSD:M5:2026-05-01T08:00:00-05:00::100"

def settingAt (key : String) : Timestamp × CacheCall candleCodec :=
  (1777622700000000, .set key [eightOClock] 3600 eightOClock_validated)

/-- A memory of one entry loses the first range, whose file still has it. -/
theorem evicted_range_read_back :
    EachStep (CacheRun.next candleCodec) (CacheRun.Exact candleCodec)
      (CacheRun.start 1 fun _ => none)
      [settingAt keyAhead, settingAt "history:EURUSD:M5:::100", (1777622701000000, .get keyAhead)] := by
  apply CacheRun.reads_exact
  refine ⟨trivial, trivial, .inr fun contents _ => .inl ?_, trivial⟩
  decide +kernel

theorem other_range_answered :
    ((((CacheRun.start 1 fun _ => none).next candleCodec (settingAt keyAhead)).cache.get candleCodec
      1777622701000000 keyBehind).1.toOption.join).isSome = true ∧
    (((CacheRun.start 1 fun _ => none).next candleCodec (settingAt keyAhead)).lastSet
      keyBehind).isNone = true := by
  decide +kernel

theorem colliding_keys_share_entry :
    ¬ ∀ (codec : CacheCodec) (maxEntries : Nat) (files : String → Option FileContents)
      (calls : List (Timestamp × CacheCall codec)),
        EachStep (CacheRun.next codec) (CacheRun.Exact codec) (CacheRun.start maxEntries files)
          calls := by
  intro exact
  obtain ⟨_, ⟨answer, returned, own⟩, _⟩ := exact candleCodec 1 (fun _ => none)
    [settingAt keyAhead, (1777622701000000, .get keyBehind)]
  obtain ⟨answered, neverSet⟩ := other_range_answered
  rw [returned] at answered
  obtain ⟨candles, same⟩ := Option.isSome_iff_exists.mp answered
  obtain ⟨entry, wasSet, _⟩ := own candles same
  rw [wasSet] at neverSet
  cases neverSet

end Ten.MarketData
