import ObjectRelay.Batch.Run
import ObjectRelay.Proofs.Number.Decimal
import ObjectRelay.Proofs.Settings.RuleDocument
import ObjectRelay.Relay
/-!
# What the settings ask of the machine

The relay starts with a counter of permits and a queue of batches, whose sizes come from two settings.  The machine can
count to `countLimit`, and the size of the queue is computed in 64 bits; asked for more, the program panics
(`Settings.starts_iff_launch`).  Reading the settings makes sure that both numbers have 64 bits and of nothing else, so
whether the relay starts is decided by the two numbers alone (`Settings.ofEnvironment_starts`).
-/
namespace ObjectRelay

/-! ## Numbers among blanks -/

theorem isBlank_of_isDigit {c : Char} (h : c.isDigit = true) : isBlank c = false := by
  have hrange : 48 ≤ c.toNat ∧ c.toNat ≤ 57 := by
    simp only [Char.isDigit, Bool.and_eq_true, decide_eq_true_eq, ge_iff_le, UInt32.le_iff_toNat_le] at h
    exact h
  simp [isBlank]
  omega

theorem trimBlank_toString (n : Nat) : trimBlank (toString n) = toString n := by
  have hself : trimBy isBlank (toString n).toList = (toString n).toList := by
    rw [toList_toString]
    exact trimBy_eq_self
      (fun c hc => isBlank_of_isDigit (Unsigned.isDigit_of_mem (List.mem_of_mem_head? hc)))
      (fun c hc => isBlank_of_isDigit (Unsigned.isDigit_of_mem (List.mem_of_getLast? hc)))
  rw [trimBlank, hself, String.ofList_toList]

namespace Environment

variable {env : Environment} {name : String} {default n : Nat}

theorem number_lt (hdefault : default < UInt64.size) (h : env.number name default = .ok n) : n < UInt64.size := by
  rw [number, number?, read?] at h
  cases htext : env.text? name with
  | none =>
    rw [htext] at h
    cases h
    exact hdefault
  | some value =>
    rw [htext] at h
    dsimp only at h
    cases hread : Unsigned.read (UInt64.size - 1) value.toList with
    | error e =>
      rw [hread] at h
      cases h
    | ok m =>
      rw [hread] at h
      cases h
      exact Nat.lt_of_le_sub_one (by decide) (Unsigned.read_le hread)

/-- **A number under a name is read back**, whatever the default is. -/
theorem number_of_lookup (h : env.lookup name = some (toString n)) (hn : n < UInt64.size) (default : Nat) :
    env.number name default = .ok n := by
  have hread : Unsigned.read (UInt64.size - 1) (toString n).toList = .ok n := by
    rw [toList_toString]
    exact Unsigned.read_toDigits (by omega)
  have hne : trimBlank (toString n) ≠ "" := by
    intro hempty
    have hdigits := toList_toString n
    rw [← trimBlank_toString, hempty] at hdigits
    exact Nat.toDigits_ne_nil hdigits.symm
  rw [number, number?, read?, text?_of_lookup h hne, trimBlank_toString]
  simp only [hread]
  rfl

/-! ## Other sizes -/

/-- The settings with these two numbers in front of them. -/
def withSizes (env : Environment) (tasks concurrency : Nat) : Environment :=
  ("MAX_CONCURRENT_TASKS", toString tasks) :: ("MAX_BATCH_CONCURRENCY", toString concurrency) :: env

variable {tasks concurrency : Nat}

theorem text?_withSizes (htasks : name ≠ "MAX_CONCURRENT_TASKS") (hconcurrency : name ≠ "MAX_BATCH_CONCURRENCY") :
    (env.withSizes tasks concurrency).text? name = env.text? name := by
  have hlookup : (env.withSizes tasks concurrency).lookup name = env.lookup name := by
    rw [withSizes, List.lookup_cons, beq_eq_false_iff_ne.2 htasks, List.lookup_cons,
      beq_eq_false_iff_ne.2 hconcurrency]
  rw [text?, text?, hlookup]

theorem target_withSizes : (env.withSizes tasks concurrency).target = env.target := by
  simp (disch := decide) only [target, deliverySettings, gzipLevel, retryPolicy, number, number?, flag, read?,
    text?_withSizes]

theorem objectFilter_withSizes : (env.withSizes tasks concurrency).objectFilter = env.objectFilter := by
  simp (disch := decide) only [objectFilter, items?, text?_withSizes]

theorem ruleSets_withSizes (presets : PresetLibrary) :
    (env.withSizes tasks concurrency).ruleSets presets = env.ruleSets presets := by
  simp (disch := decide) only [ruleSets, items?, text?_withSizes]

theorem number_withSizes (htasks : name ≠ "MAX_CONCURRENT_TASKS") (hconcurrency : name ≠ "MAX_BATCH_CONCURRENCY") :
    (env.withSizes tasks concurrency).number name default = env.number name default := by
  simp only [number, number?, read?, text?_withSizes htasks hconcurrency]

/-- What the limits of batches are read from. -/
theorem batchLimits_cases {limits : BatchLimits} (h : env.batchLimits = .ok limits) :
    env.number "MAX_RECORD_SIZE" 4000000 = .ok limits.maxRecordSize ∧
      env.number "MAX_BATCH_SIZE" 10000000 = .ok limits.maxBatchSize ∧
      env.number "MAX_BATCH_CONCURRENCY" 4 = .ok limits.maxConcurrency ∧ limits.maxBatchSize ≠ 0 := by
  rw [batchLimits] at h
  cases hrecord : env.number "MAX_RECORD_SIZE" 4000000 with
  | error e => rw [hrecord] at h; cases h
  | ok recordSize =>
    cases hbatch : env.number "MAX_BATCH_SIZE" 10000000 with
    | error e => rw [hrecord, hbatch] at h; cases h
    | ok batchSize =>
      cases hconcurrency : env.number "MAX_BATCH_CONCURRENCY" 4 with
      | error e => rw [hrecord, hbatch, hconcurrency] at h; cases h
      | ok concurrency =>
        rw [hrecord, hbatch, hconcurrency] at h
        replace h : (if batchSize == 0 then
            throw { name := "MAX_BATCH_SIZE", value := "0", reason := "must be positive" }
          else .ok ⟨recordSize, batchSize, concurrency⟩ : Except InvalidSetting BatchLimits) = .ok limits := h
        split at h
        · cases h
        · rename_i hzero
          cases h
          exact ⟨rfl, rfl, rfl, by simpa using hzero⟩

theorem batchLimits_withSizes {limits : BatchLimits} (h : env.batchLimits = .ok limits)
    (hconcurrency : concurrency < UInt64.size) :
    (env.withSizes tasks concurrency).batchLimits = .ok { limits with maxConcurrency := concurrency } := by
  obtain ⟨hrecord, hbatch, -, hzero⟩ := batchLimits_cases h
  have hnumber : (env.withSizes tasks concurrency).number "MAX_BATCH_CONCURRENCY" 4 = .ok concurrency :=
    number_of_lookup rfl hconcurrency 4
  rw [batchLimits, number_withSizes (by decide) (by decide), number_withSizes (by decide) (by decide), hrecord, hbatch,
    hnumber]
  exact if_neg (by simpa using hzero)

/-- What settings are made of once the sets are known. -/
theorem withSets_cases {target : ObjectUri × Option DeliverySettings} {filter : ObjectFilter} {sets : RuleSets}
    {s : Settings} (h : env.withSets target filter sets = .ok s) :
    env.batchLimits = .ok s.limits ∧ env.number "MAX_FILE_SIZE" 0 = .ok s.maxFileSize ∧
      env.number "MAX_CONCURRENT_TASKS" 0 = .ok s.maxConcurrentTasks := by
  rw [withSets] at h
  cases hlimits : env.batchLimits with
  | error e => rw [hlimits] at h; cases h
  | ok limits =>
    cases hsize : env.number "MAX_FILE_SIZE" 0 with
    | error e => rw [hlimits, hsize] at h; cases h
    | ok size =>
      cases htasks : env.number "MAX_CONCURRENT_TASKS" 0 with
      | error e => rw [hlimits, hsize, htasks] at h; cases h
      | ok tasks =>
        rw [hlimits, hsize, htasks] at h
        cases h
        exact ⟨rfl, rfl, rfl⟩

theorem withSets_withSizes {target : ObjectUri × Option DeliverySettings} {filter : ObjectFilter} {sets : RuleSets}
    {s : Settings} (h : env.withSets target filter sets = .ok s) (htasks : tasks < UInt64.size)
    (hconcurrency : concurrency < UInt64.size) :
    (env.withSizes tasks concurrency).withSets target filter sets =
      .ok { s with limits := { s.limits with maxConcurrency := concurrency }, maxConcurrentTasks := tasks } := by
  obtain ⟨hlimits, hsize, hold⟩ := withSets_cases h
  have hnumber : (env.withSizes tasks concurrency).number "MAX_CONCURRENT_TASKS" 0 = .ok tasks :=
    number_of_lookup rfl htasks 0
  rw [withSets, hlimits, hsize, hold] at h
  rw [withSets, batchLimits_withSizes hlimits hconcurrency, number_withSizes (by decide) (by decide), hsize, hnumber,
    text?_withSizes (by decide) (by decide)]
  exact congrArg (fun s' : Settings => (.ok { s' with
    limits := { s.limits with maxConcurrency := concurrency }, maxConcurrentTasks := tasks } :
    Except SettingsError Settings)) (Except.ok.inj h)

end Environment

theorem reserve_eq_ok {count : Nat} : reserve count = .ok () ↔ count ≤ countLimit := by
  unfold reserve
  split
  · rename_i h
    exact iff_of_true rfl h
  · rename_i h
    exact iff_of_false nofun h

namespace BatchLimits

theorem reserveSlots_eq_ok {limits : BatchLimits} :
    limits.reserveSlots = .ok () ↔ limits.slotsWord.toNat = limits.slots ∧ limits.slots ≤ countLimit := by
  unfold reserveSlots
  split
  · rename_i h
    exact reserve_eq_ok.trans (and_iff_right h).symm
  · rename_i h
    exact iff_of_false nofun fun hroom => h hroom.1

/-- **The size of the queue is lost** from the first number of consumers on whose double 64 bits do not hold. -/
theorem slotsWord_eq_iff {limits : BatchLimits} (h : limits.maxConcurrency < UInt64.size) :
    limits.slotsWord.toNat = limits.slots ↔ limits.maxConcurrency < 0x8000000000000000 := by
  have hsize : UInt64.size = 0x10000000000000000 := rfl
  have hslots : limits.slots = 2 * max 1 limits.maxConcurrency := rfl
  have hword : (max 1 limits.maxConcurrency).toUInt64.toNat = max 1 limits.maxConcurrency := by
    rw [Nat.toUInt64, UInt64.toNat_ofNat']
    exact Nat.mod_eq_of_lt (by omega)
  have htwo : (2 : UInt64).toNat = 2 := rfl
  rw [slotsWord, UInt64.toNat_mul, hword, htwo, hslots]
  omega

end BatchLimits

namespace Settings

/-- **What it takes for the relay to start** on a machine: permits that the machine can count, and a queue whose size is
what it is meant to be and can be counted as well. -/
structure Starts (s : Settings) (parallelism : Nat) : Prop where
  permits : (Relay.ofSettings s).permits parallelism ≤ countLimit
  exact : s.limits.slotsWord.toNat = s.limits.slots
  slots : s.limits.slots ≤ countLimit

/-- **A relay starts where the program does not panic**, neither when the relay is started nor when a run is. -/
theorem starts_iff_launch (s : Settings) (parallelism : Nat) : s.Starts parallelism ↔
    (Relay.ofSettings s).launch parallelism = .ok (Relay.ofSettings s) ∧
      ∀ pool input, BatchRun.launch s.limits pool input = .ok (BatchRun.start s.limits pool input) := by
  have hmap : ∀ {α : Type} {room : Except CountPanic Unit} {a : α},
      room.map (fun _ => a) = .ok a ↔ room = .ok () := by
    intro α room a
    cases room with
    | error fault => exact iff_of_false nofun nofun
    | ok u => exact iff_of_true rfl rfl
  have hrelay : (Relay.ofSettings s).launch parallelism = .ok (Relay.ofSettings s) ↔
      (Relay.ofSettings s).permits parallelism ≤ countLimit := hmap.trans reserve_eq_ok
  have hrun : ∀ pool input, BatchRun.launch s.limits pool input = .ok (BatchRun.start s.limits pool input) ↔
      s.limits.slotsWord.toNat = s.limits.slots ∧ s.limits.slots ≤ countLimit := fun _ _ =>
    hmap.trans BatchLimits.reserveSlots_eq_ok
  rw [hrelay]
  constructor
  · rintro ⟨hpermits, hexact, hslots⟩
    exact ⟨hpermits, fun pool input => (hrun pool input).2 ⟨hexact, hslots⟩⟩
  · rintro ⟨hpermits, hruns⟩
    obtain ⟨hexact, hslots⟩ := (hrun {} ⟨[], none⟩).1 (hruns _ _)
    exact ⟨hpermits, hexact, hslots⟩

theorem starts_iff (s : Settings) {parallelism : Nat} (h : parallelism ≤ countLimit) :
    s.Starts parallelism ↔ s.maxConcurrentTasks ≤ countLimit ∧ s.limits.maxConcurrency ≤ countLimit / 2 := by
  have hlimit : countLimit = 0x1FFFFFFFFFFFFFFF := rfl
  have hslots : s.limits.slots = 2 * max 1 s.limits.maxConcurrency := rfl
  have hpermits : (Relay.ofSettings s).permits parallelism =
      if s.maxConcurrentTasks = 0 then max 1 parallelism else s.maxConcurrentTasks := rfl
  constructor
  · rintro ⟨htasks, -, hqueue⟩
    rw [hpermits] at htasks
    rw [hslots] at hqueue
    constructor
    · split at htasks <;> omega
    · omega
  · rintro ⟨htasks, hconcurrency⟩
    refine ⟨?_, ?_, ?_⟩
    · rw [hpermits]
      split <;> omega
    · have hsize : UInt64.size = 0x10000000000000000 := rfl
      exact (BatchLimits.slotsWord_eq_iff (by omega)).2 (by omega)
    · omega

/-- **Whether accepted settings start a relay** is decided by two numbers: how many messages are handled side by side,
and how many batches are delivered side by side.  Both have 64 bits, and nothing more is made sure of: settings with any
two such numbers are accepted if settings with others are. -/
theorem ofEnvironment_starts {presets : PresetLibrary} {env : Environment} {s : Settings}
    (h : ofEnvironment presets env = .ok s) {parallelism : Nat} (hparallelism : parallelism ≤ countLimit) :
    s.maxConcurrentTasks < UInt64.size ∧ s.limits.maxConcurrency < UInt64.size ∧
    (s.Starts parallelism ↔ s.maxConcurrentTasks ≤ countLimit ∧ s.limits.maxConcurrency ≤ countLimit / 2) ∧
    ∀ tasks < UInt64.size, ∀ concurrency < UInt64.size, ofEnvironment presets (env.withSizes tasks concurrency) =
      .ok { s with limits := { s.limits with maxConcurrency := concurrency }, maxConcurrentTasks := tasks } := by
  rw [ofEnvironment_eq] at h
  cases htarget : env.target with
  | error e => rw [htarget] at h; cases h
  | ok target =>
    cases hfilter : env.objectFilter with
    | error e => rw [htarget, hfilter] at h; cases h
    | ok filter =>
      cases hsets : env.ruleSets presets with
      | error e => rw [htarget, hfilter, hsets] at h; cases h
      | ok sets =>
        rw [htarget, hfilter, hsets] at h
        replace h : env.withSets target filter sets = .ok s := h
        obtain ⟨hlimits, -, htasks⟩ := Environment.withSets_cases h
        obtain ⟨-, -, hconcurrency, -⟩ := Environment.batchLimits_cases hlimits
        refine ⟨Environment.number_lt (by decide) htasks, Environment.number_lt (by decide) hconcurrency,
          s.starts_iff hparallelism, fun tasks htasks concurrency hconcurrency => ?_⟩
        rw [ofEnvironment_eq, Environment.target_withSizes, Environment.objectFilter_withSizes,
          Environment.ruleSets_withSizes, htarget, hfilter, hsets]
        exact Environment.withSets_withSizes h htasks hconcurrency

/-- Settings that name a destination, and no rules. -/
def bare : Environment := [("DESTINATION_URI", "s3://out"), ("PRESET_OVERRIDES", ",")]

theorem exists_of_sizes {env : Environment} {tasks concurrency : Nat}
    (h : (ofEnvironment .builtin env).toOption.map (fun s => (s.maxConcurrentTasks, s.limits.maxConcurrency)) =
      some (tasks, concurrency)) :
    ∃ s, ofEnvironment .builtin env = .ok s ∧ s.maxConcurrentTasks = tasks ∧ s.limits.maxConcurrency = concurrency := by
  cases hs : ofEnvironment .builtin env with
  | error e => rw [hs] at h; cases h
  | ok s =>
    rw [hs] at h
    obtain ⟨htasks, hconcurrency⟩ := Prod.mk.inj (Option.some.inj h)
    exact ⟨s, rfl, htasks, hconcurrency⟩

theorem ofEnvironment_starts_bare : ∃ s, ofEnvironment .builtin bare = .ok s ∧ 2 ≤ countLimit ∧ s.Starts 2 ∧
    ∃ crowded, ofEnvironment .builtin (bare.withSizes 0 0xFFFFFFFFFFFFFFFF) = .ok crowded ∧ ¬crowded.Starts 2 := by
  have hlimit : 2 ≤ countLimit := by decide
  obtain ⟨s, hs, htasks, hconcurrency⟩ : ∃ s, ofEnvironment .builtin bare = .ok s ∧ s.maxConcurrentTasks = 0 ∧
      s.limits.maxConcurrency = 4 := exists_of_sizes (by decide)
  obtain ⟨-, -, hstarts, hothers⟩ := ofEnvironment_starts hs hlimit
  have hcrowded := hothers 0 (by decide) 0xFFFFFFFFFFFFFFFF (by decide)
  obtain ⟨-, -, hcrowdedStarts, -⟩ := ofEnvironment_starts hcrowded hlimit
  have hmany : ¬0xFFFFFFFFFFFFFFFF ≤ countLimit / 2 := by decide
  refine ⟨s, hs, hlimit, hstarts.2 ?_, _, hcrowded, fun h => hmany (hcrowdedStarts.1 h).2⟩
  rw [htasks, hconcurrency]
  decide

/-- **Accepted settings from which no machine starts a relay**: permits that cannot be counted, a queue that cannot be,
and one whose size is lost. -/
theorem ofEnvironment_starts_crowded : ∃ manyTasks manyBatches lostSize,
    ofEnvironment .builtin (bare.withSizes 0x2000000000000000 1) = .ok manyTasks ∧
    (∀ parallelism, countLimit < (Relay.ofSettings manyTasks).permits parallelism) ∧
    ofEnvironment .builtin (bare.withSizes 1 0x1000000000000000) = .ok manyBatches ∧
    countLimit < manyBatches.limits.slots ∧
    ofEnvironment .builtin (bare.withSizes 1 0x8000000000000000) = .ok lostSize ∧
    lostSize.limits.slotsWord.toNat ≠ lostSize.limits.slots ∧ ∀ parallelism,
      ¬manyTasks.Starts parallelism ∧ ¬manyBatches.Starts parallelism ∧ ¬lostSize.Starts parallelism := by
  obtain ⟨manyTasks, hmanyTasks, htasks, -⟩ : ∃ s, ofEnvironment .builtin (bare.withSizes 0x2000000000000000 1) =
      .ok s ∧ s.maxConcurrentTasks = 0x2000000000000000 ∧ s.limits.maxConcurrency = 1 :=
    exists_of_sizes (by decide)
  obtain ⟨manyBatches, hmanyBatches, -, hbatches⟩ : ∃ s, ofEnvironment .builtin (bare.withSizes 1 0x1000000000000000) =
      .ok s ∧ s.maxConcurrentTasks = 1 ∧ s.limits.maxConcurrency = 0x1000000000000000 :=
    exists_of_sizes (by decide)
  obtain ⟨lostSize, hlostSize, -, hlost⟩ : ∃ s, ofEnvironment .builtin (bare.withSizes 1 0x8000000000000000) =
      .ok s ∧ s.maxConcurrentTasks = 1 ∧ s.limits.maxConcurrency = 0x8000000000000000 :=
    exists_of_sizes (by decide)
  have hpermits : ∀ parallelism, countLimit < (Relay.ofSettings manyTasks).permits parallelism := by
    intro parallelism
    have hrelay : (Relay.ofSettings manyTasks).maxConcurrentTasks = 0x2000000000000000 := htasks
    rw [Relay.permits, hrelay, if_neg (by decide)]
    decide
  have hslots : countLimit < manyBatches.limits.slots := by
    rw [BatchLimits.slots, BatchLimits.consumers, hbatches]
    decide
  have hword : lostSize.limits.slotsWord.toNat ≠ lostSize.limits.slots := by
    rw [Ne, BatchLimits.slotsWord_eq_iff (by rw [hlost]; decide), hlost]
    decide
  exact ⟨manyTasks, manyBatches, lostSize, hmanyTasks, hpermits, hmanyBatches, hslots, hlostSize, hword,
    fun parallelism => ⟨fun h => Nat.not_lt.2 h.permits (hpermits parallelism), fun h => Nat.not_lt.2 h.slots hslots,
      fun h => hword h.exact⟩⟩

end Settings
end ObjectRelay
