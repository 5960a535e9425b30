import Ten.MarketData.Validation

namespace Ten.MarketData

/-! # The market data cache

A bounded memory over a directory of files.  Its counters are left out. -/

structure CacheEntry where
  expires : Timestamp
  candles : List MarketCandle

/-- The entries of the memory, the one used longest ago first, and the files by the stems
of their names. -/
structure MarketDataCache where
  maxEntries : Nat
  memory : List (String × CacheEntry)
  files : String → Option CacheEntry

/-- `_safe`.  The host knows the letters and digits beyond ASCII. -/
def safeName (host : Host) (key : String) : String :=
  String.ofList (key.toList.map fun character =>
    if character.isAlphanum || host.isalnum character then character else '_')

def startsWith (text start : String) : Bool := start.toList.isPrefixOf text.toList

namespace MarketDataCache

variable (cache : MarketDataCache) (host : Host) (now : Timestamp)

def empty (maxEntries : Nat) : MarketDataCache := ⟨maxEntries, [], fun _ => none⟩

def storeMemory (key : String) (entry : CacheEntry) : MarketDataCache :=
  let memory := cache.memory.filter (·.1 ≠ key) ++ [(key, entry)]
  { cache with memory := memory.drop (memory.length - cache.maxEntries) }

/-- Reads the file of a key that the memory does not answer; an expired file goes. -/
def readFile (key : String) : Option (List MarketCandle) × MarketDataCache :=
  let forgotten := { cache with memory := cache.memory.filter (·.1 ≠ key) }
  match cache.files (safeName host key) with
  | none => (none, forgotten)
  | some entry =>
      if now < entry.expires then (some entry.candles, forgotten.storeMemory key entry)
      else (none, { forgotten with files := Function.update cache.files (safeName host key) none })

def get (key : String) : Option (List MarketCandle) × MarketDataCache :=
  match cache.memory.find? (·.1 = key) with
  | none => cache.readFile host now key
  | some item =>
      if now < item.2.expires then
        (some item.2.candles,
          { cache with memory := cache.memory.filter (·.1 ≠ key) ++ [(key, item.2)] })
      else cache.readFile host now key

def set (key : String) (candles : List MarketCandle) (ttlSeconds : Nat) : MarketDataCache :=
  let entry : CacheEntry := ⟨now + Timestamp.seconds ttlSeconds, candles⟩
  { cache.storeMemory key entry with
    files := Function.update cache.files (safeName host key) (some entry) }

def invalidate (start : String) : MarketDataCache :=
  { cache with
    memory := cache.memory.filter fun item => !startsWith item.1 start
    files := fun stem =>
      if start = "" ∨ startsWith stem (safeName host start) then none else cache.files stem }

/-! ## What a cache holds -/

/-- An unexpired entry for the key, in memory or in the file that the key names. -/
def Holds (key : String) (candles : List MarketCandle) : Prop :=
  (∃ entry, (key, entry) ∈ cache.memory ∧ now < entry.expires ∧ entry.candles = candles) ∨
    (∃ entry, cache.files (safeName host key) = some entry ∧ now < entry.expires ∧
      entry.candles = candles)

variable {cache host now} {later : Timestamp} {key other start : String}
  {candles held : List MarketCandle}

theorem not_holds_empty {maxEntries : Nat} :
    ¬ (empty maxEntries).Holds host now key candles := by
  rintro (⟨entry, absent, _⟩ | ⟨entry, absent, _⟩) <;> cases absent

theorem Holds.earlier (holds : cache.Holds host later key candles) (passed : now ≤ later) :
    cache.Holds host now key candles := by
  rcases holds with ⟨entry, present, fresh, same⟩ | ⟨entry, present, fresh, same⟩
  · exact .inl ⟨entry, present, passed.trans_lt fresh, same⟩
  · exact .inr ⟨entry, present, passed.trans_lt fresh, same⟩

theorem mem_storeMemory {entry : CacheEntry} {item : String × CacheEntry}
    (present : item ∈ (cache.storeMemory key entry).memory) :
    item = (key, entry) ∨ item ∈ cache.memory := by
  rcases List.mem_append.mp (List.mem_of_mem_drop present) with kept | added
  · exact .inr (List.mem_of_mem_filter kept)
  · exact .inl (List.mem_singleton.mp added)

theorem readFile_holds (read : (cache.readFile host now key).1 = some candles) :
    cache.Holds host now key candles := by
  unfold readFile at read
  simp only at read
  split at read
  · cases read
  · rename_i entry filed
    split at read
    · cases read
      exact .inr ⟨entry, filed, ‹_›, rfl⟩
    · cases read

theorem get_holds (read : (cache.get host now key).1 = some candles) :
    cache.Holds host now key candles := by
  unfold get at read
  split at read
  · exact readFile_holds read
  · rename_i item found
    split at read
    · cases read
      have named : item.1 = key := by simpa using List.find?_some found
      refine .inl ⟨item.2, ?_, ‹_›, rfl⟩
      rw [← named]
      exact List.mem_of_find?_eq_some found
    · exact readFile_holds read

theorem holds_of_readFile
    (holds : (cache.readFile host now key).2.Holds host later other candles) :
    cache.Holds host later other candles := by
  unfold readFile at holds
  simp only at holds
  split at holds
  · rcases holds with ⟨entry, present, fresh, same⟩ | filed
    · exact .inl ⟨entry, List.mem_of_mem_filter present, fresh, same⟩
    · exact .inr filed
  · rename_i loaded filed
    split at holds
    · rcases holds with ⟨entry, present, fresh, same⟩ | filed
      · rcases mem_storeMemory present with isLoaded | earlier
        · cases isLoaded
          exact .inr ⟨_, filed, fresh, same⟩
        · exact .inl ⟨entry, List.mem_of_mem_filter earlier, fresh, same⟩
      · exact .inr filed
    · rcases holds with ⟨entry, present, fresh, same⟩ | ⟨entry, present, fresh, same⟩
      · exact .inl ⟨entry, List.mem_of_mem_filter present, fresh, same⟩
      · refine .inr ⟨entry, ?_, fresh, same⟩
        by_cases named : safeName host other = safeName host key
        · simp [named] at present
        · simpa [named] using present

theorem holds_of_get (holds : (cache.get host now key).2.Holds host later other candles) :
    cache.Holds host later other candles := by
  unfold get at holds
  split at holds
  · exact holds_of_readFile holds
  · rename_i item found
    split at holds
    · rcases holds with ⟨entry, present, fresh, same⟩ | filed
      · refine .inl ⟨entry, ?_, fresh, same⟩
        rcases List.mem_append.mp present with kept | moved
        · exact List.mem_of_mem_filter kept
        · have named : item.1 = key := by simpa using List.find?_some found
          rw [List.mem_singleton.mp moved, ← named]
          exact List.mem_of_find?_eq_some found
      · exact .inr filed
    · exact holds_of_readFile holds

theorem holds_of_set {ttlSeconds : Nat}
    (holds : (cache.set host now key candles ttlSeconds).Holds host later other held) :
    (other ≠ key ∧ cache.Holds host later other held) ∨
      (safeName host other = safeName host key ∧ held = candles) := by
  rcases holds with ⟨entry, present, fresh, same⟩ | ⟨entry, present, fresh, same⟩
  · rcases List.mem_append.mp (List.mem_of_mem_drop present) with kept | isNew
    · obtain ⟨earlier, different⟩ := List.mem_filter.mp kept
      exact .inl ⟨by simpa using different, .inl ⟨entry, earlier, fresh, same⟩⟩
    · cases List.mem_singleton.mp isNew
      exact .inr ⟨rfl, same.symm⟩
  · by_cases named : safeName host other = safeName host key
    · simp only [set, named, Function.update_self, Option.some.injEq] at present
      subst present
      exact .inr ⟨named, same.symm⟩
    · simp only [set, ne_eq, named, not_false_eq_true, Function.update_of_ne] at present
      have different : other ≠ key := fun isKey => named (congrArg (safeName host) isKey)
      exact .inl ⟨different, .inr ⟨entry, present, fresh, same⟩⟩

theorem holds_of_invalidate (holds : (cache.invalidate host start).Holds host now key candles) :
    cache.Holds host now key candles ∧
      (startsWith key start = false ∨
        startsWith (safeName host key) (safeName host start) = false) := by
  rcases holds with ⟨entry, present, fresh, same⟩ | ⟨entry, present, fresh, same⟩
  · obtain ⟨earlier, kept⟩ := List.mem_filter.mp present
    exact ⟨.inl ⟨entry, earlier, fresh, same⟩, .inl (by simpa using kept)⟩
  · simp only [invalidate] at present
    split at present
    · cases present
    · rename_i kept
      exact ⟨.inr ⟨entry, present, fresh, same⟩, .inr (by simpa using fun found => kept (.inr found))⟩

end MarketDataCache

end Ten.MarketData
