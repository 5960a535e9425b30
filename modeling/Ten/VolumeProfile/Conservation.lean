import Ten.VolumeProfile.Allocation

namespace Ten.VolumeProfile

open Data MarketData

/-! # The allocation conserves volume

Where the grid holds the candles, and where it loses them. -/

namespace PriceGrid

variable {grid : PriceGrid} {candle : Candle} {price : ℚ} {index : Nat}

def rowOf (grid : PriceGrid) (price : ℚ) : Int := ⌊(price - grid.base) / grid.row⌋

def finish (grid : PriceGrid) : ℚ := grid.base + grid.row * grid.count

/-- A price that belongs to a row: the upper bound does for the last one only. -/
def Holds (grid : PriceGrid) (index : Nat) (price : ℚ) : Prop :=
  grid.lower index ≤ price ∧
    (price < grid.upper index ∨ index + 1 = grid.count ∧ price = grid.upper index)

theorem le_rowOf_iff (positive : 0 < grid.row) {row : Int} :
    row ≤ grid.rowOf price ↔ grid.base + grid.row * row ≤ price := by
  rw [rowOf, Int.le_floor, le_div_iff₀ positive]
  constructor <;> intro below <;> linarith

theorem lower_le_iff (positive : 0 < grid.row) :
    grid.lower index ≤ price ↔ (index : Int) ≤ grid.rowOf price := by
  rw [le_rowOf_iff positive, lower]
  push_cast
  exact Iff.rfl

theorem lt_upper_iff (positive : 0 < grid.row) :
    price < grid.upper index ↔ grid.rowOf price ≤ index := by
  rw [← not_iff_not, not_lt, not_le, ← Int.add_one_le_iff, le_rowOf_iff positive, upper]
  push_cast
  exact Iff.rfl

theorem lt_finish_iff (positive : 0 < grid.row) :
    price < grid.finish ↔ grid.rowOf price < grid.count := by
  rw [← not_iff_not, not_lt, not_lt, le_rowOf_iff positive, finish]
  push_cast
  exact Iff.rfl

theorem rowOf_mono (positive : 0 < grid.row) {low high : ℚ} (ordered : low ≤ high) :
    grid.rowOf low ≤ grid.rowOf high :=
  (le_rowOf_iff positive).mpr (((le_rowOf_iff positive).mp le_rfl).trans ordered)

theorem rowOf_nonneg (positive : 0 < grid.row) (above : grid.base ≤ price) :
    0 ≤ grid.rowOf price :=
  (le_rowOf_iff positive).mpr (by simpa using above)

theorem indexOf_eq (positive : 0 < grid.row) (some : 0 < grid.count) (above : grid.base ≤ price) :
    (grid.indexOf price : Int) = min ((grid.count : Int) - 1) (grid.rowOf price) := by
  have nonneg : 0 ≤ (price - grid.base) / grid.row :=
    div_nonneg (sub_nonneg.mpr above) positive.le
  have inRow := rowOf_nonneg positive above
  rw [indexOf, truncated, if_pos nonneg, ← rowOf]
  omega

theorem indexOf_mono (positive : 0 < grid.row) (some : 0 < grid.count) {low high : ℚ}
    (above : grid.base ≤ low) (ordered : low ≤ high) : grid.indexOf low ≤ grid.indexOf high := by
  have first := indexOf_eq positive some above
  have last := indexOf_eq positive some (above.trans ordered)
  have rows := rowOf_mono positive ordered
  omega

theorem indexOf_lt (some : 0 < grid.count) : grid.indexOf price < grid.count := by
  rw [indexOf]
  omega

theorem holds_indexOf (positive : 0 < grid.row) (some : 0 < grid.count)
    (above : grid.base ≤ price) (below : price ≤ grid.finish) :
    grid.Holds (grid.indexOf price) price := by
  have index := indexOf_eq positive some above
  refine ⟨(lower_le_iff positive).mpr (by omega), ?_⟩
  rcases lt_or_eq_of_le below with within | last
  · have row := (lt_finish_iff positive).mp within
    exact .inl ((lt_upper_iff positive).mpr (by omega))
  · have row : ¬ grid.rowOf price < grid.count := by
      rw [← lt_finish_iff positive]
      exact last.not_lt
    have isLast : grid.indexOf price + 1 = grid.count := by omega
    have ends : grid.finish = grid.upper (grid.indexOf price) := by
      rw [finish, upper, ← isLast]
      push_cast
      rfl
    exact .inr ⟨isLast, last.trans ends⟩

theorem mem_span : index ∈ grid.span candle ↔
    grid.indexOf candle.low ≤ index ∧ index ≤ grid.indexOf candle.high := by
  rw [span, List.mem_range'_1]
  omega

theorem exists_held (positive : 0 < grid.row) (some : 0 < grid.count)
    (above : grid.base ≤ candle.low) (below : candle.high ≤ grid.finish)
    (present : index ∈ grid.span candle) :
    ∃ price, candle.low ≤ price ∧ price ≤ candle.high ∧ grid.Holds index price := by
  have ordered := candle.low_le_high
  obtain ⟨first, last⟩ := mem_span.mp present
  have lowIndex := indexOf_eq positive some above
  have highIndex := indexOf_eq positive some (above.trans ordered)
  rcases Nat.eq_or_lt_of_le first with isFirst | after
  · rw [← isFirst]
    exact ⟨candle.low, le_rfl, ordered,
      holds_indexOf positive some above (ordered.trans below)⟩
  · have beyond : candle.low < grid.lower index := by
      rw [← not_le, lower_le_iff positive]
      omega
    have reached : grid.lower index ≤ candle.high := (lower_le_iff positive).mpr (by omega)
    refine ⟨grid.lower index, beyond.le, reached, le_rfl, .inl ?_⟩
    rw [lower, upper]
    linarith

theorem mem_body (positive : 0 < grid.row) : index ∈ grid.body candle ↔
    index ∈ grid.span candle ∧
      grid.rowOf (min candle.openPrice candle.close) ≤ index ∧
      (index : Int) ≤ grid.rowOf (max candle.openPrice candle.close) := by
  rw [body, List.mem_filter, Bool.and_eq_true, decide_eq_true_eq, decide_eq_true_eq,
    lt_upper_iff positive, lower_le_iff positive]

theorem mem_wick : index ∈ grid.wick candle ↔
    index ∈ grid.span candle ∧ index ∉ grid.body candle := by
  rw [wick, List.mem_filter, Bool.not_eq_true', List.contains_eq_mem, decide_eq_false_iff_not]

/-- The body starts before the end of the grid, and does not fill the rows of its candle. -/
def HasBodyAndWick (grid : PriceGrid) (candle : Candle) : Prop :=
  min candle.openPrice candle.close < grid.finish ∧
    (grid.indexOf candle.low < grid.indexOf (min candle.openPrice candle.close) ∨
      grid.indexOf (max candle.openPrice candle.close) < grid.indexOf candle.high)

theorem body_and_wick_iff (positive : 0 < grid.row) (some : 0 < grid.count)
    (above : grid.base ≤ candle.low) :
    grid.body candle ≠ [] ∧ grid.wick candle ≠ [] ↔ grid.HasBodyAndWick candle := by
  have bodyAbove := candle.containsBody.2
  have bodyBelow := candle.containsBody.1
  have bodyOrdered : min candle.openPrice candle.close ≤ max candle.openPrice candle.close :=
    min_le_max
  have lowIndex := indexOf_eq positive some above
  have highIndex := indexOf_eq positive some (above.trans candle.low_le_high)
  have bodyLowIndex := indexOf_eq positive some (above.trans bodyAbove)
  have bodyHighIndex := indexOf_eq positive some (above.trans (bodyAbove.trans bodyOrdered))
  have lowRow := rowOf_mono positive bodyAbove
  have bodyRow := rowOf_mono positive bodyOrdered
  have highRow := rowOf_mono positive bodyBelow
  have nonneg := rowOf_nonneg positive above
  constructor
  · rintro ⟨hasBody, hasWick⟩
    obtain ⟨inBody, isBody⟩ := List.exists_mem_of_ne_nil _ hasBody
    obtain ⟨inWick, isWick⟩ := List.exists_mem_of_ne_nil _ hasWick
    obtain ⟨bodySpan, fromLow, toHigh⟩ := (mem_body positive).mp isBody
    obtain ⟨wickSpan, notBody⟩ := mem_wick.mp isWick
    rw [mem_body positive] at notBody
    have bodyEnds := mem_span.mp bodySpan
    have wickEnds := mem_span.mp wickSpan
    refine ⟨(lt_finish_iff positive).mpr (by omega), ?_⟩
    by_contra filled
    exact notBody ⟨wickSpan, by omega, by omega⟩
  · rintro ⟨starts, apart⟩
    have inside := (lt_finish_iff positive).mp starts
    constructor
    · apply List.ne_nil_of_mem (a := grid.indexOf (min candle.openPrice candle.close))
      rw [mem_body positive, mem_span]
      omega
    · rcases apart with below | beyond
      · apply List.ne_nil_of_mem (a := grid.indexOf candle.low)
        rw [mem_wick, mem_body positive, mem_span]
        omega
      · apply List.ne_nil_of_mem (a := grid.indexOf candle.high)
        rw [mem_wick, mem_body positive, mem_span]
        omega

end PriceGrid

/-! ## The shares of a candle -/

structure SharesOf (grid : PriceGrid) (candle : Candle) (shares : List (Nat × ℚ)) : Prop where
  within : ∀ share ∈ shares, share.1 ∈ grid.span candle
  nonneg : ∀ share ∈ shares, 0 ≤ share.2
  whole : (shares.map Prod.snd).sum = 1

theorem sum_map_pair (indexes : List Nat) (weight : ℚ) :
    ((indexes.map fun index => (index, weight)).map Prod.snd).sum = indexes.length * weight := by
  induction indexes with
  | nil => simp
  | cons index rest ih =>
      rw [List.map_cons, List.map_cons, List.sum_cons, ih]
      push_cast [List.length_cons]
      ring

namespace VolumeProfileAnalyzer

variable {analyzer : VolumeProfileAnalyzer} {grid : PriceGrid} {candle : Candle}

theorem evenShares_sound {indexes : List Nat} (some : indexes ≠ [])
    (within : ∀ index ∈ indexes, index ∈ grid.span candle) :
    ∃ shares, evenShares indexes = .ok shares ∧ SharesOf grid candle shares := by
  have positive : (0 : ℚ) < indexes.length := by exact_mod_cast List.length_pos_of_ne_nil some
  refine ⟨indexes.map fun index => (index, 1 / (indexes.length : ℚ)), ?_, ?_, ?_, ?_⟩
  · rw [evenShares, quotient, if_neg positive.ne']
    rfl
  · intro share present
    obtain ⟨index, listed, rfl⟩ := List.mem_map.mp present
    exact within index listed
  · intro share present
    obtain ⟨index, _, rfl⟩ := List.mem_map.mp present
    exact (one_div_pos.mpr positive).le
  · rw [sum_map_pair]
    field_simp

theorem weighted_of_ne_nil {indexes : List Nat} {weight total : ℚ} (some : indexes ≠ [])
    (positive : 0 < total) : weighted indexes weight total =
      .ok (indexes.map fun index => (index, weight / total / indexes.length)) := by
  have long : (indexes.length : ℚ) ≠ 0 := by exact_mod_cast (List.length_pos_of_ne_nil some).ne'
  rw [weighted, quotient, if_neg positive.ne', ok_bind, quotient, if_neg long]
  rfl

theorem weighted_nil (weight total : ℚ) : ∃ raised, weighted [] weight total = .error raised := by
  rw [weighted, quotient]
  split
  · exact ⟨_, rfl⟩
  · exact ⟨_, rfl⟩

theorem span_ne_nil (positive : 0 < grid.row) (some : 0 < grid.count)
    (above : grid.base ≤ candle.low) : grid.span candle ≠ [] := by
  apply List.ne_nil_of_mem (a := grid.indexOf candle.low)
  rw [PriceGrid.mem_span]
  exact ⟨le_rfl, PriceGrid.indexOf_mono positive some above candle.low_le_high⟩

theorem indexOf_mem_span (positive : 0 < grid.row) (some : 0 < grid.count)
    (above : grid.base ≤ candle.low) {price : ℚ} (low : candle.low ≤ price)
    (high : price ≤ candle.high) : grid.indexOf price ∈ grid.span candle :=
  PriceGrid.mem_span.mpr ⟨PriceGrid.indexOf_mono positive some above low,
    PriceGrid.indexOf_mono positive some (above.trans low) high⟩

theorem single_sound {index : Nat} (present : index ∈ grid.span candle) :
    SharesOf grid candle [(index, 1)] := by
  refine ⟨?_, ?_, by simp⟩
  · intro share listed
    rw [List.mem_singleton.mp listed]
    exact present
  · intro share listed
    rw [List.mem_singleton.mp listed]
    exact zero_le_one

theorem bodyWick_sound (bodyWick : analyzer.config.allocation.method = .bodyWick)
    (moves : candle.low < candle.high) (hasBody : grid.body candle ≠ [])
    (hasWick : grid.wick candle ≠ []) :
    ∃ shares, analyzer.shares grid candle = .ok shares ∧ SharesOf grid candle shares := by
  have weights := analyzer.config.allocation.weightsNonneg
  have positive := analyzer.config.allocation.weightsPositive
  have bodyLong : (0 : ℚ) < (grid.body candle).length := by
    exact_mod_cast List.length_pos_of_ne_nil hasBody
  have wickLong : (0 : ℚ) < (grid.wick candle).length := by
    exact_mod_cast List.length_pos_of_ne_nil hasWick
  simp only [shares, bodyWick, if_pos moves, if_pos hasBody, if_pos hasWick,
    weighted_of_ne_nil hasBody positive, weighted_of_ne_nil hasWick positive, ok_bind]
  refine ⟨_, rfl, ?_, ?_, ?_⟩
  · intro share present
    rcases List.mem_append.mp present with inBody | inWick
    · obtain ⟨index, listed, rfl⟩ := List.mem_map.mp inBody
      exact (List.mem_filter.mp listed).1
    · obtain ⟨index, listed, rfl⟩ := List.mem_map.mp inWick
      exact (List.mem_filter.mp listed).1
  · intro share present
    rcases List.mem_append.mp present with inBody | inWick
    · obtain ⟨index, _, rfl⟩ := List.mem_map.mp inBody
      exact div_nonneg (div_nonneg weights.1 positive.le) bodyLong.le
    · obtain ⟨index, _, rfl⟩ := List.mem_map.mp inWick
      exact div_nonneg (div_nonneg weights.2 positive.le) wickLong.le
  · rw [List.map_append, List.sum_append, sum_map_pair, sum_map_pair]
    field_simp

theorem bodyWick_fails (bodyWick : analyzer.config.allocation.method = .bodyWick)
    (moves : candle.low < candle.high)
    (lacks : ¬ (grid.body candle ≠ [] ∧ grid.wick candle ≠ [])) :
    ∃ raised, analyzer.shares grid candle = .error raised := by
  simp only [shares, bodyWick, if_pos moves]
  rw [not_and_or, not_not, not_not] at lacks
  rcases lacks with noBody | noWick
  · rw [noBody]
    obtain ⟨raised, fails⟩ := weighted_nil (if ([] : List Nat) ≠ [] then
      analyzer.config.allocation.bodyWeight else 0) ((if ([] : List Nat) ≠ [] then
        analyzer.config.allocation.bodyWeight else 0) + if grid.wick candle ≠ [] then
          analyzer.config.allocation.wickWeight else 0)
    rw [fails]
    exact ⟨raised, rfl⟩
  · rw [noWick]
    obtain ⟨raised, fails⟩ := weighted_nil (if ([] : List Nat) ≠ [] then
      analyzer.config.allocation.wickWeight else 0) ((if grid.body candle ≠ [] then
        analyzer.config.allocation.bodyWeight else 0) + if ([] : List Nat) ≠ [] then
          analyzer.config.allocation.wickWeight else 0)
    rw [fails]
    cases weighted (grid.body candle) _ _ with
    | error other => exact ⟨other, rfl⟩
    | ok _ => exact ⟨raised, rfl⟩

def Divisible (analyzer : VolumeProfileAnalyzer) (grid : PriceGrid) (candle : Candle) : Prop :=
  analyzer.config.allocation.method = .bodyWick → candle.low < candle.high →
    grid.HasBodyAndWick candle

theorem shares_sound (positive : 0 < grid.row) (some : 0 < grid.count)
    (above : grid.base ≤ candle.low) (divisible : analyzer.Divisible grid candle) :
    ∃ shares, analyzer.shares grid candle = .ok shares ∧ SharesOf grid candle shares := by
  have span := span_ne_nil positive some above
  have body := candle.containsBody
  have closeAbove := body.2.trans (min_le_right _ _)
  have closeBelow := (le_max_right candle.openPrice candle.close).trans body.1
  have ordered := candle.low_le_high
  cases method : analyzer.config.allocation.method with
  | close =>
      simp only [shares, method]
      exact ⟨_, rfl, single_sound (indexOf_mem_span positive some above closeAbove closeBelow)⟩
  | typicalPrice =>
      simp only [shares, method]
      exact ⟨_, rfl, single_sound
        (indexOf_mem_span positive some above (by linarith) (by linarith))⟩
  | uniformRange =>
      simp only [shares, method]
      exact evenShares_sound span fun _ present => present
  | bodyWick =>
      by_cases moves : candle.low < candle.high
      · have both := (PriceGrid.body_and_wick_iff positive some above).mpr (divisible method moves)
        exact bodyWick_sound method moves both.1 both.2
      · simp only [shares, method, if_neg moves]
        exact evenShares_sound span fun _ present => present

theorem shares_fails (positive : 0 < grid.row) (some : 0 < grid.count)
    (above : grid.base ≤ candle.low) (indivisible : ¬ analyzer.Divisible grid candle) :
    ∃ raised, analyzer.shares grid candle = .error raised := by
  simp only [Divisible, Classical.not_imp] at indivisible
  obtain ⟨bodyWick, moves, lacks⟩ := indivisible
  rw [← PriceGrid.body_and_wick_iff positive some above] at lacks
  exact bodyWick_fails bodyWick moves lacks

end VolumeProfileAnalyzer

/-! ## The loop over the candles -/

section Modify

variable {α : Type} {change : α → α} {value : α → ℚ} {added : ℚ} {items : List α} {index : Nat}

theorem sum_map_modify (adds : ∀ item, value (change item) = value item + added)
    (inside : index < items.length) :
    ((items.modify index change).map value).sum = (items.map value).sum + added := by
  induction items generalizing index with
  | nil => cases inside
  | cons item rest ih =>
      cases index with
      | zero =>
          rw [List.modify_zero_cons, List.map_cons, List.map_cons, List.sum_cons, List.sum_cons,
            adds]
          ring
      | succ index =>
          rw [List.modify_succ_cons, List.map_cons, List.map_cons, List.sum_cons, List.sum_cons,
            ih (Nat.lt_of_succ_lt_succ inside)]
          ring

theorem forall_mem_modify {holds : α → Prop} (keeps : ∀ item, holds item → holds (change item))
    (initially : ∀ item ∈ items, holds item) : ∀ item ∈ items.modify index change, holds item := by
  induction items generalizing index with
  | nil => simp
  | cons item rest ih =>
      obtain ⟨here, later⟩ := List.forall_mem_cons.mp initially
      cases index with
      | zero => exact List.forall_mem_cons.mpr ⟨keeps item here, later⟩
      | succ index => exact List.forall_mem_cons.mpr ⟨here, ih later⟩

end Modify

structure Tallied (grid : PriceGrid) (tallies : List Tally) : Prop where
  length : tallies.length = grid.count
  bounded : ∀ tally ∈ tallies, 0 ≤ tally.buys ∧ tally.buys ≤ tally.volume

namespace VolumeProfileAnalyzer

variable {analyzer : VolumeProfileAnalyzer} {grid : PriceGrid} {candle : Candle}
  {tallies : List Tally}

theorem buyRatio_bounded (analyzer : VolumeProfileAnalyzer) (candle : Candle) :
    0 ≤ analyzer.buyRatio candle ∧ analyzer.buyRatio candle ≤ 1 := by
  rw [buyRatio]
  split
  · exact ⟨le_min zero_le_one (le_max_left _ _), min_le_left _ _⟩
  · constructor <;> norm_num

theorem record_sound (analyzer : VolumeProfileAnalyzer) (candle : Candle)
    (tallied : Tallied grid tallies) {share : Nat × ℚ} (inside : share.1 < grid.count)
    (nonneg : 0 ≤ share.2) :
    Tallied grid (analyzer.record candle tallies share) ∧
      ((analyzer.record candle tallies share).map (·.volume)).sum =
        (tallies.map (·.volume)).sum + candle.volume * share.2 := by
  have allocated : 0 ≤ candle.volume * share.2 := mul_nonneg candle.volumesNonneg.1 nonneg
  have ratio := analyzer.buyRatio_bounded candle
  refine ⟨⟨?_, ?_⟩, ?_⟩
  · rw [record, List.length_modify]
    exact tallied.length
  · apply forall_mem_modify _ tallied.bounded
    intro tally bounded
    constructor
    · exact add_nonneg bounded.1 (mul_nonneg allocated ratio.1)
    · exact add_le_add bounded.2 (mul_le_of_le_one_right allocated ratio.2)
  · apply sum_map_modify
    · intro tally
      rfl
    · rw [tallied.length]
      exact inside

theorem foldl_record_sound (analyzer : VolumeProfileAnalyzer) (candle : Candle)
    {shares : List (Nat × ℚ)} (tallied : Tallied grid tallies)
    (inside : ∀ share ∈ shares, share.1 < grid.count) (nonneg : ∀ share ∈ shares, 0 ≤ share.2) :
    Tallied grid (shares.foldl (analyzer.record candle) tallies) ∧
      ((shares.foldl (analyzer.record candle) tallies).map (·.volume)).sum =
        (tallies.map (·.volume)).sum + candle.volume * (shares.map Prod.snd).sum := by
  induction shares generalizing tallies with
  | nil => exact ⟨tallied, by simp⟩
  | cons share rest ih =>
      obtain ⟨isInside, restInside⟩ := List.forall_mem_cons.mp inside
      obtain ⟨isNonneg, restNonneg⟩ := List.forall_mem_cons.mp nonneg
      obtain ⟨next, here⟩ := record_sound analyzer candle tallied isInside isNonneg
      obtain ⟨last, later⟩ := ih next restInside restNonneg
      refine ⟨last, ?_⟩
      rw [List.foldl_cons, later, here, List.map_cons, List.sum_cons]
      ring

theorem allocateCandle_sound (positive : 0 < grid.row) (some : 0 < grid.count)
    (above : grid.base ≤ candle.low) (divisible : analyzer.Divisible grid candle)
    (tallied : Tallied grid tallies) :
    ∃ next, analyzer.allocateCandle grid tallies candle = .ok next ∧ Tallied grid next ∧
      (next.map (·.volume)).sum = (tallies.map (·.volume)).sum + candle.volume := by
  obtain ⟨shares, returned, sound⟩ := shares_sound positive some above divisible
  have inside : ∀ share ∈ shares, share.1 < grid.count := by
    intro share present
    have last := (PriceGrid.mem_span.mp (sound.within share present)).2
    exact last.trans_lt (PriceGrid.indexOf_lt some)
  obtain ⟨next, sum⟩ := foldl_record_sound analyzer candle tallied inside sound.nonneg
  refine ⟨_, ?_, next, ?_⟩
  · rw [allocateCandle, returned]
    rfl
  · rw [sum, sound.whole, mul_one]

theorem tallied_replicate (grid : PriceGrid) :
    Tallied grid (List.replicate grid.count ⟨0, 0, 0⟩) := by
  refine ⟨List.length_replicate, ?_⟩
  intro tally present
  rw [List.eq_of_mem_replicate present]
  exact ⟨le_rfl, le_rfl⟩

theorem foldlM_sound {candles : List Candle} (positive : 0 < grid.row) (some : 0 < grid.count)
    (above : ∀ candle ∈ candles, grid.base ≤ candle.low)
    (divisible : ∀ candle ∈ candles, analyzer.Divisible grid candle)
    (tallied : Tallied grid tallies) :
    ∃ final, candles.foldlM (analyzer.allocateCandle grid) tallies = .ok final ∧
      Tallied grid final ∧ (final.map (·.volume)).sum =
        (tallies.map (·.volume)).sum + (candles.map (·.volume)).sum := by
  induction candles generalizing tallies with
  | nil => exact ⟨tallies, rfl, tallied, by simp⟩
  | cons candle rest ih =>
      obtain ⟨isAbove, restAbove⟩ := List.forall_mem_cons.mp above
      obtain ⟨isDivisible, restDivisible⟩ := List.forall_mem_cons.mp divisible
      obtain ⟨next, stepped, nextTallied, here⟩ :=
        allocateCandle_sound positive some isAbove isDivisible tallied
      obtain ⟨final, returned, finalTallied, later⟩ := ih restAbove restDivisible nextTallied
      refine ⟨final, ?_, finalTallied, ?_⟩
      · rw [List.foldlM_cons, stepped, ok_bind, returned]
      · rw [later, here, List.map_cons, List.sum_cons]
        ring

theorem foldlM_fails {candles : List Candle} (positive : 0 < grid.row) (some : 0 < grid.count)
    (above : ∀ candle ∈ candles, grid.base ≤ candle.low)
    (indivisible : ¬ ∀ candle ∈ candles, analyzer.Divisible grid candle) :
    ∃ raised, candles.foldlM (analyzer.allocateCandle grid) tallies = .error raised := by
  induction candles generalizing tallies with
  | nil => exact absurd (fun _ present => absurd present List.not_mem_nil) indivisible
  | cons candle rest ih =>
      obtain ⟨isAbove, restAbove⟩ := List.forall_mem_cons.mp above
      rw [List.foldlM_cons]
      cases stepped : analyzer.allocateCandle grid tallies candle with
      | error raised => exact ⟨raised, rfl⟩
      | ok next =>
          have isDivisible : analyzer.Divisible grid candle := by
            by_contra fails
            obtain ⟨raised, failed⟩ := shares_fails positive some isAbove fails
            rw [allocateCandle, failed] at stepped
            cases stepped
          rw [ok_bind]
          apply ih restAbove
          intro others
          exact indivisible (List.forall_mem_cons.mpr ⟨isDivisible, others⟩)

/-! ## The buckets -/

theorem validated_of_bounded (first : Candle) {index : Nat} {tally : Tally}
    (positive : 0 < grid.row) (bounded : 0 ≤ tally.buys ∧ tally.buys ≤ tally.volume) :
    ∃ bucket, (analyzer.bucketFields first grid index tally).validated = .ok bucket := by
  have volumesNonneg : 0 ≤ tally.volume ∧ 0 ≤ tally.buys ∧ 0 ≤ tally.volume - tally.buys :=
    ⟨bounded.1.trans bounded.2, bounded.1, sub_nonneg.mpr bounded.2⟩
  have boundsValid : grid.lower index < grid.upper index ∧
      grid.lower index ≤ grid.base + grid.row * (index + 1 / 2) ∧
        grid.base + grid.row * (index + 1 / 2) ≤ grid.upper index := by
    rw [PriceGrid.lower, PriceGrid.upper]
    refine ⟨?_, ?_, ?_⟩ <;> linarith
  have conserved : |tally.buys + (tally.volume - tally.buys) - tally.volume| ≤
      max (1 / 10 ^ 8) (tally.volume / 10 ^ 9) := by
    rw [add_sub_cancel, sub_self, abs_zero]
    exact le_max_of_le_left (by norm_num)
  exact ⟨_, by
    rw [BucketFields.validated]
    exact (dif_pos volumesNonneg).trans ((dif_pos boundsValid).trans (dif_pos conserved))⟩

theorem fields_of_validated {fields : BucketFields} {bucket : VolumeProfileBucket}
    (returned : fields.validated = .ok bucket) : bucket.toBucketFields = fields := by
  rw [BucketFields.validated] at returned
  split at returned
  · split at returned
    · split at returned
      · cases returned
        rfl
      · cases returned
    · cases returned
  · cases returned

end VolumeProfileAnalyzer

/-! ## The grid over the candles -/

theorem truncated_intCast (value : Int) : truncated value = value := by
  rw [truncated, Int.floor_intCast, Int.ceil_intCast, ite_self]

namespace VolumeProfileAnalyzer

variable (analyzer : VolumeProfileAnalyzer) (first : Candle) (rest : List Candle)
  (context : VolumeProfileContext)

theorem tickSize_pos : 0 < analyzer.tickSize context := by
  have standard := analyzer.config.priceGrid.tickBounded.1
  rw [tickSize]
  split
  · rename_i size given
    split
    · exact standard
    · rename_i nonzero
      exact lt_of_le_of_ne (context.tickNonneg size given) (Ne.symm nonzero)
  · exact standard

theorem alignedTo_pos {tick value : ℚ} (tickPos : 0 < tick) (positive : 0 < value) :
    0 < alignedTo tick value := by
  have ticks : (0 : ℚ) < ⌈value / tick⌉ := by
    exact_mod_cast Int.ceil_pos.mpr (div_pos positive tickPos)
  exact mul_pos ticks tickPos

theorem rowSize_pos : 0 < analyzer.rowSize first rest context := by
  have tickPos := analyzer.tickSize_pos context
  have bins := analyzer.config.priceGrid.maximumBounded.1
  have binsPos : (0 : ℚ) < analyzer.config.priceGrid.maximumBins := by
    exact_mod_cast (by omega : 0 < analyzer.config.priceGrid.maximumBins)
  simp only [rowSize]
  split
  · exact alignedTo_pos tickPos
      (div_pos (lt_max_of_lt_right analyzer.config.priceGrid.tickBounded.1) binsPos)
  · exact alignedTo_pos tickPos (lt_max_of_lt_right tickPos)

/-- The rows from the one below the least price to the one above the greatest. -/
def rowsNeeded : Int :=
  ⌈greatestOf (·.high) first rest / analyzer.rowSize first rest context⌉ -
    ⌊leastOf (·.low) first rest / analyzer.rowSize first rest context⌋

theorem grid_row :
    (analyzer.grid first rest context).row = analyzer.rowSize first rest context := rfl

theorem grid_base : (analyzer.grid first rest context).base =
    ⌊leastOf (·.low) first rest / analyzer.rowSize first rest context⌋ *
      analyzer.rowSize first rest context := rfl

theorem least_le_greatest : leastOf (·.low) first rest ≤ greatestOf (·.high) first rest :=
  (leastOf_le _ first rest first List.mem_cons_self).trans
    (first.low_le_high.trans (le_greatestOf _ first rest first List.mem_cons_self))

theorem rowsNeeded_nonneg : 0 ≤ analyzer.rowsNeeded first rest context := by
  have positive := analyzer.rowSize_pos first rest context
  have ordered := div_le_div_of_nonneg_right (least_le_greatest first rest) positive.le
  have rows := (Int.floor_mono ordered).trans (Int.floor_le_ceil _)
  rw [rowsNeeded]
  omega

theorem grid_count : ((analyzer.grid first rest context).count : Int) =
    min (max (analyzer.config.priceGrid.minimumBins : Int) (analyzer.rowsNeeded first rest context))
      analyzer.config.priceGrid.maximumBins := by
  have positive := analyzer.rowSize_pos first rest context
  have minimum := analyzer.config.priceGrid.minimumBounded.1
  have rows : (⌈greatestOf (·.high) first rest / analyzer.rowSize first rest context⌉ *
      analyzer.rowSize first rest context -
        ⌊leastOf (·.low) first rest / analyzer.rowSize first rest context⌋ *
          analyzer.rowSize first rest context) / analyzer.rowSize first rest context =
            (analyzer.rowsNeeded first rest context : ℚ) := by
    rw [rowsNeeded]
    push_cast
    field_simp
  simp only [grid, rows, truncated_intCast]
  rw [Int.toNat_of_nonneg]
  omega

theorem grid_count_pos : 0 < (analyzer.grid first rest context).count := by
  have count := analyzer.grid_count first rest context
  have minimum := analyzer.config.priceGrid.minimumBounded.1
  have maximum := analyzer.config.priceGrid.maximumBounded.1
  omega

theorem grid_base_le_least :
    (analyzer.grid first rest context).base ≤ leastOf (·.low) first rest :=
  (le_div_iff₀ (analyzer.rowSize_pos first rest context)).mp (Int.floor_le _)

theorem grid_base_le : ∀ candle ∈ first :: rest,
    (analyzer.grid first rest context).base ≤ candle.low := by
  intro candle present
  exact (analyzer.grid_base_le_least first rest context).trans
    (leastOf_le _ first rest candle present)

theorem reaches_iff : greatestOf (·.high) first rest ≤ (analyzer.grid first rest context).finish ↔
    analyzer.rowsNeeded first rest context ≤ analyzer.config.priceGrid.maximumBins := by
  have positive := analyzer.rowSize_pos first rest context
  have count := analyzer.grid_count first rest context
  have nonneg := analyzer.rowsNeeded_nonneg first rest context
  have finish : (analyzer.grid first rest context).finish =
      ((⌊leastOf (·.low) first rest / analyzer.rowSize first rest context⌋ +
        (analyzer.grid first rest context).count : Int) : ℚ) *
          analyzer.rowSize first rest context := by
    rw [PriceGrid.finish, grid_row, grid_base]
    push_cast
    ring
  rw [finish, ← div_le_iff₀ positive, ← Int.ceil_le, rowsNeeded] at *
  omega

end VolumeProfileAnalyzer

/-! ## The allocation -/

namespace VolumeProfileAnalyzer

variable {analyzer : VolumeProfileAnalyzer} {first : Candle} {rest : List Candle}
  {context : VolumeProfileContext} {buckets : List VolumeProfileBucket} {included : ℚ}

/-- What is expected of the buckets of an allocation. -/
structure Allocates (analyzer : VolumeProfileAnalyzer) (first : Candle) (rest : List Candle)
    (context : VolumeProfileContext) (buckets : List VolumeProfileBucket) (included : ℚ) :
    Prop where
  covers : ∀ price, leastOf (·.low) first rest ≤ price → price ≤ greatestOf (·.high) first rest →
    ∃ bucket ∈ buckets, bucket.Holds price
  conserves : (buckets.map (·.volume)).sum = ((first :: rest).map (·.volume)).sum ∧
    included = (buckets.map (·.volume)).sum
  within : ∀ candle ∈ first :: rest, ∀ shares,
    analyzer.shares (analyzer.grid first rest context) candle = .ok shares →
      ∀ share ∈ shares, ∃ bucket, buckets[share.1]? = some bucket ∧ bucket.Intersects candle

/-- Where the rows of the candles fit into the grid, and each candle can be divided. -/
def Allocatable (analyzer : VolumeProfileAnalyzer) (first : Candle) (rest : List Candle)
    (context : VolumeProfileContext) : Prop :=
  analyzer.rowsNeeded first rest context ≤ analyzer.config.priceGrid.maximumBins ∧
    ∀ candle ∈ first :: rest, analyzer.Divisible (analyzer.grid first rest context) candle

theorem exists_tallies {method : PriceGridMethod}
    (returned : analyzer.allocate (first :: rest) context = .ok (buckets, included, method)) :
    ∃ tallies, (first :: rest).foldlM
        (analyzer.allocateCandle (analyzer.grid first rest context))
        (List.replicate (analyzer.grid first rest context).count ⟨0, 0, 0⟩) = .ok tallies ∧
      buckets.map (·.toBucketFields) = tallies.zipIdx.map (fun item =>
        analyzer.bucketFields first (analyzer.grid first rest context) item.2 item.1) ∧
      included = (tallies.map (·.volume)).sum := by
  simp only [allocate] at returned
  obtain ⟨tallies, folded, returned⟩ := bind_eq_ok_iff.mp returned
  obtain ⟨found, mapped, returned⟩ := bind_eq_ok_iff.mp returned
  cases returned
  refine ⟨tallies, folded, ?_, rfl⟩
  have fields := (forall₂_of_mapM mapped).imp fun _ _ same => fields_of_validated same
  rw [← List.forall₂_eq_eq_eq, List.forall₂_map_left_iff, List.forall₂_map_right_iff]
  exact fields.flip

theorem bucket_of_row {tallies : List Tally}
    (fields : buckets.map (·.toBucketFields) = tallies.zipIdx.map (fun item =>
      analyzer.bucketFields first (analyzer.grid first rest context) item.2 item.1))
    {index : Nat} (inside : index < tallies.length) :
    ∃ bucket, buckets[index]? = some bucket ∧
      bucket.lower = (analyzer.grid first rest context).lower index ∧
      bucket.upper = (analyzer.grid first rest context).upper index ∧
      bucket.upperInclusive = decide (index + 1 = (analyzer.grid first rest context).count) := by
  have here := congrArg (·[index]?) fields
  simp only [List.getElem?_map, List.getElem?_zipIdx, List.getElem?_eq_getElem inside,
    Option.map_some, Nat.zero_add] at here
  obtain ⟨bucket, found, same⟩ := Option.map_eq_some_iff.mp here
  refine ⟨bucket, found, ?_, ?_, ?_⟩ <;> rw [same] <;> rfl

theorem held_by_bucket {tallies : List Tally}
    (fields : buckets.map (·.toBucketFields) = tallies.zipIdx.map (fun item =>
      analyzer.bucketFields first (analyzer.grid first rest context) item.2 item.1))
    {index : Nat} {price : ℚ} (inside : index < tallies.length)
    (held : (analyzer.grid first rest context).Holds index price) :
    ∃ bucket, buckets[index]? = some bucket ∧ bucket.Holds price := by
  obtain ⟨bucket, found, lower, upper, inclusive⟩ := bucket_of_row fields inside
  refine ⟨bucket, found, ?_⟩
  rw [VolumeProfileBucket.Holds, lower, upper, inclusive, decide_eq_true_eq]
  exact held

theorem covers_of_reaches {tallies : List Tally}
    (tallied : Tallied (analyzer.grid first rest context) tallies)
    (fields : buckets.map (·.toBucketFields) = tallies.zipIdx.map (fun item =>
      analyzer.bucketFields first (analyzer.grid first rest context) item.2 item.1))
    (reaches : greatestOf (·.high) first rest ≤ (analyzer.grid first rest context).finish)
    (price : ℚ) (low : leastOf (·.low) first rest ≤ price)
    (high : price ≤ greatestOf (·.high) first rest) : ∃ bucket ∈ buckets, bucket.Holds price := by
  have positive := analyzer.rowSize_pos first rest context
  have some := analyzer.grid_count_pos first rest context
  have base := (analyzer.grid_base_le_least first rest context).trans low
  have inside : (analyzer.grid first rest context).indexOf price < tallies.length := by
    rw [tallied.length]
    exact PriceGrid.indexOf_lt some
  obtain ⟨bucket, found, holds⟩ := held_by_bucket fields inside
    (PriceGrid.holds_indexOf positive some base (high.trans reaches))
  exact ⟨bucket, List.mem_of_getElem? found, holds⟩

theorem within_of_reaches {tallies : List Tally}
    (tallied : Tallied (analyzer.grid first rest context) tallies)
    (fields : buckets.map (·.toBucketFields) = tallies.zipIdx.map (fun item =>
      analyzer.bucketFields first (analyzer.grid first rest context) item.2 item.1))
    (reaches : greatestOf (·.high) first rest ≤ (analyzer.grid first rest context).finish)
    (divisible : ∀ candle ∈ first :: rest,
      analyzer.Divisible (analyzer.grid first rest context) candle)
    (candle : Candle) (present : candle ∈ first :: rest) (shares : List (Nat × ℚ))
    (shared : analyzer.shares (analyzer.grid first rest context) candle = .ok shares)
    (share : Nat × ℚ) (listed : share ∈ shares) :
    ∃ bucket, buckets[share.1]? = some bucket ∧ bucket.Intersects candle := by
  have positive := analyzer.rowSize_pos first rest context
  have some := analyzer.grid_count_pos first rest context
  have above := analyzer.grid_base_le first rest context candle present
  have below : candle.high ≤ (analyzer.grid first rest context).finish :=
    le_trans (le_greatestOf (·.high) first rest candle present) reaches
  obtain ⟨found, again, sound⟩ := shares_sound positive some above (divisible candle present)
  have same : found = shares := Except.ok.inj (again.symm.trans shared)
  have inSpan := sound.within share (same ▸ listed)
  have inside : share.1 < tallies.length := by
    rw [tallied.length]
    exact (PriceGrid.mem_span.mp inSpan).2.trans_lt (PriceGrid.indexOf_lt some)
  obtain ⟨price, low, high, held⟩ := PriceGrid.exists_held positive some above below inSpan
  obtain ⟨bucket, bucketFound, holds⟩ := held_by_bucket fields inside held
  exact ⟨bucket, bucketFound, price, low, high, holds⟩

theorem volumes_of_fields {tallies : List Tally}
    (fields : buckets.map (·.toBucketFields) = tallies.zipIdx.map (fun item =>
      analyzer.bucketFields first (analyzer.grid first rest context) item.2 item.1)) :
    buckets.map (·.volume) = tallies.map (·.volume) := by
  have volumes := congrArg (List.map (·.volume)) fields
  rw [List.map_map, List.map_map] at volumes
  calc buckets.map (·.volume)
      = tallies.zipIdx.map (fun item => item.1.volume) := volumes
    _ = (tallies.zipIdx.map Prod.fst).map (·.volume) := by rw [List.map_map]; rfl
    _ = tallies.map (·.volume) := by rw [List.zipIdx_map_fst]

theorem exists_buckets {tallies : List Tally}
    (tallied : Tallied (analyzer.grid first rest context) tallies)
    (folded : (first :: rest).foldlM (analyzer.allocateCandle (analyzer.grid first rest context))
      (List.replicate (analyzer.grid first rest context).count ⟨0, 0, 0⟩) = .ok tallies) :
    ∃ buckets, analyzer.allocate (first :: rest) context =
      .ok (buckets, (tallies.map (·.volume)).sum, analyzer.config.priceGrid.method) := by
  obtain ⟨buckets, mapped⟩ := mapM_ok_iff.mpr
    (fun (item : Tally × Nat) (present : item ∈ tallies.zipIdx) =>
      @validated_of_bounded analyzer (analyzer.grid first rest context) first item.2 item.1
        (analyzer.rowSize_pos first rest context)
        (tallied.bounded item.1 (List.fst_mem_of_mem_zipIdx present)))
  refine ⟨buckets, ?_⟩
  simp only [allocate]
  rw [folded, ok_bind, mapped]
  rfl

/-- The allocation returns buckets that cover the candles, conserve their volume and stay within
their ranges, exactly where it has room for their rows and can divide each of them. -/
theorem allocate_conserves_iff (analyzer : VolumeProfileAnalyzer) (first : Candle)
    (rest : List Candle) (context : VolumeProfileContext) :
    (∃ buckets included method,
        analyzer.allocate (first :: rest) context = .ok (buckets, included, method) ∧
          Allocates analyzer first rest context buckets included) ↔
      Allocatable analyzer first rest context := by
  have positive := analyzer.rowSize_pos first rest context
  have some := analyzer.grid_count_pos first rest context
  have above := analyzer.grid_base_le first rest context
  constructor
  · rintro ⟨buckets, included, method, returned, allocates⟩
    obtain ⟨tallies, folded, fields, -⟩ := exists_tallies returned
    have divisible : ∀ candle ∈ first :: rest,
        analyzer.Divisible (analyzer.grid first rest context) candle := by
      by_contra indivisible
      obtain ⟨raised, failed⟩ := @foldlM_fails _ _ (List.replicate
        (analyzer.grid first rest context).count ⟨0, 0, 0⟩) _ positive some above indivisible
      rw [failed] at folded
      cases folded
    refine ⟨(analyzer.reaches_iff first rest context).mp ?_, divisible⟩
    obtain ⟨final, returned, tallied, -⟩ := foldlM_sound positive some above divisible
      (tallied_replicate (analyzer.grid first rest context))
    cases returned.symm.trans folded
    -- The bucket of the greatest price ends within the grid.
    obtain ⟨bucket, present, held⟩ := allocates.covers _ (least_le_greatest first rest) le_rfl
    obtain ⟨index, inside, isBucket⟩ := List.getElem_of_mem present
    have long := congrArg List.length fields
    rw [List.length_map, List.length_map, List.length_zipIdx] at long
    obtain ⟨other, found, -, upper, -⟩ := bucket_of_row fields (long ▸ inside)
    rw [List.getElem?_eq_getElem inside, Option.some_inj, isBucket] at found
    have below : greatestOf (·.high) first rest ≤ bucket.upper := by
      rcases held.2 with before | last
      · exact before.le
      · exact last.2.le
    rw [found, upper] at below
    have place : ((index : ℚ)) + 1 ≤ (analyzer.grid first rest context).count := by
      exact_mod_cast (by rw [← tallied.length, ← long]; exact inside :
        index + 1 ≤ (analyzer.grid first rest context).count)
    have scaled := mul_le_mul_of_nonneg_left place positive.le
    rw [PriceGrid.upper] at below
    rw [PriceGrid.finish]
    exact below.trans (add_le_add_right scaled _)
  · rintro ⟨room, divisible⟩
    have reaches := (analyzer.reaches_iff first rest context).mpr room
    obtain ⟨tallies, folded, tallied, sum⟩ := foldlM_sound positive some above divisible
      (tallied_replicate (analyzer.grid first rest context))
    obtain ⟨buckets, returned⟩ := exists_buckets tallied folded
    obtain ⟨others, again, fields, -⟩ := exists_tallies returned
    cases again.symm.trans folded
    have volumes := volumes_of_fields fields
    have empty : ((List.replicate (analyzer.grid first rest context).count
        (⟨0, 0, 0⟩ : Tally)).map (·.volume)).sum = 0 := by
      rw [List.map_replicate, List.sum_replicate, nsmul_zero]
    exact ⟨buckets, _, _, returned, covers_of_reaches tallied fields reaches,
      ⟨by rw [volumes, sum, empty, zero_add], by rw [volumes]⟩,
      within_of_reaches tallied fields reaches divisible⟩

end VolumeProfileAnalyzer

/-! ## What the grid and the division lose -/

theorem quality_nonneg : (0 : ℚ) ≤ 100 := by norm_num

theorem quality_full : (100 : ℚ) ≤ 100 := le_refl 100

theorem tenTraded : (0 : ℚ) ≤ 10 ∧ (0 : ℚ) ≤ 0 := by norm_num

def hourCandle (openPrice high low close : ℚ)
    (pricesPositive : 0 < openPrice ∧ 0 < high ∧ 0 < low ∧ 0 < close)
    (containsBody : max openPrice close ≤ high ∧ low ≤ min openPrice close) : Candle where
  timestamp := 0
  symbol := "XAUUSD"
  timeframe := .h1
  openPrice := openPrice
  high := high
  low := low
  close := close
  volume := 10
  spread := 0
  qualityScore := ⟨100, quality_nonneg, quality_full⟩
  pricesPositive := pricesPositive
  containsBody := containsBody
  volumesNonneg := tenTraded

theorem unitIncrement : (0 : ℚ) < 1 ∧ (1 : ℚ) ≤ 1000 := by norm_num

theorem fourBins : 4 ≤ 4 ∧ 4 ≤ 5000 := by norm_num

theorem fourRows_bounds : PriceGridConfig.standard.minimumBins ≤ 4 := le_refl 4

theorem standardPercent : (0 : ℚ) < 7 / 10 ∧ (7 / 10 : ℚ) < 1 := by norm_num

theorem insideOneRow_prices : ((0 : ℚ) < 1003 / 10 ∧ (0 : ℚ) < 1008 / 10 ∧ (0 : ℚ) < 1002 / 10 ∧
      (0 : ℚ) < 1006 / 10) ∧
    max (1003 / 10 : ℚ) (1006 / 10) ≤ 1008 / 10 ∧ 1002 / 10 ≤ min (1003 / 10 : ℚ) (1006 / 10) := by
  norm_num

theorem overFiveRows_prices : ((0 : ℚ) < 1012 / 10 ∧ (0 : ℚ) < 1045 / 10 ∧ (0 : ℚ) < 1005 / 10 ∧
      (0 : ℚ) < 1024 / 10) ∧
    max (1012 / 10 : ℚ) (1024 / 10) ≤ 1045 / 10 ∧ 1005 / 10 ≤ min (1012 / 10 : ℚ) (1024 / 10) := by
  norm_num

def narrowConfig : VolumeProfileConfig where
  priceGrid := { PriceGridConfig.standard with
    method := .fixed
    fixedIncrement := 1
    maximumBins := 4
    incrementBounded := unitIncrement
    maximumBounded := fourBins
    bounds := fourRows_bounds }
  allocation := { AllocationConfig.standard with method := .bodyWick }
  percentBounded := standardPercent

def narrowAnalyzer : VolumeProfileAnalyzer := ⟨narrowConfig, fun _ => ⟨0⟩⟩

def insideOneRow : Candle :=
  hourCandle (1003 / 10) (1008 / 10) (1002 / 10) (1006 / 10) insideOneRow_prices.1
    insideOneRow_prices.2

def overFiveRows : Candle :=
  hourCandle (1012 / 10) (1045 / 10) (1005 / 10) (1024 / 10) overFiveRows_prices.1
    overFiveRows_prices.2

/-- A candle inside one row has no wick to divide by.  One over five rows goes into a grid of
four, and the price of its high into none of its buckets. -/
theorem inside_row_fails_and_high_uncovered :
    (VolumeProfileAnalyzer.isUsableCandle insideOneRow = true ∧
      (narrowAnalyzer.allocate [insideOneRow] .untold).toOption.isNone = true) ∧
    (VolumeProfileAnalyzer.isUsableCandle overFiveRows = true ∧
      (narrowAnalyzer.allocate [overFiveRows] .untold).toOption.map (fun result =>
        result.1.all fun bucket => bucket.upper < overFiveRows.high) = some true) := by
  decide +kernel

end Ten.VolumeProfile
