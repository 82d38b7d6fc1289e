import Rewind.Command.Execute
import Rewind.Proofs.Json.Form
import Rewind.Proofs.Readers
import Rewind.Proofs.TargetLine

/-!
What can be wrong with a command.

The checks of a command are spread over its options, its files and its setup, and they are made one
after the other. Here the faults that they look for are told one by one: if a command has any of them it
can not be prepared, whichever else it has, and without a fault it can.

Main statements: `exists_prepareBatch_iff` and `exists_prepareReset_iff`.
-/

namespace Rewind

open Json (bind_eq_ok mapError_eq_ok)

/-! ### Parts of a setup -/

theorem Text.trimmed_eq_empty_iff {text : String} : trimmed text = "" ↔ allBlank text = true := by
  rw [trimmed, String.ofList_eq_empty_iff, trim_eq_nil_iff, allBlank, List.all_eq_true]

/-- A bad binary has to be told by a checksum that is not blank. -/
def ResetType.LacksChecksum (type : ResetType) (checksum : Option String) : Prop :=
  type = .badBinary ∧ ∀ text ∈ checksum, Text.allBlank text = true

theorem Strategy.exists_ofParts_iff {type : ResetType} {checksum : Option String} :
    (∃ strategy, ofParts type checksum = .ok strategy) ↔ ¬ type.LacksChecksum checksum := by
  cases type with
  | lastWorkflowTask | firstWorkflowTask | lastContinuedAsNew =>
      simp [ofParts, ResetType.LacksChecksum]
  | badBinary =>
      cases checksum with
      | none => simp [ofParts, ResetType.LacksChecksum]
      | some text =>
          by_cases hblank : Text.trimmed text = ""
          · simp [ofParts, ResetType.LacksChecksum, hblank, Text.trimmed_eq_empty_iff.mp hblank]
          · simp [ofParts, ResetType.LacksChecksum, hblank, mt Text.trimmed_eq_empty_iff.mpr hblank]

theorem BatchConfig.validate_eq_ok_iff {config : BatchConfig} :
    config.validate = .ok () ↔
      Text.allBlank config.reason = false ∧ config.parallelism ≠ 0 ∧ config.domain ≠ "" := by
  unfold validate
  split
  · next hblank => simp [hblank]
  · next hblank =>
      split
      · next hworkers => simp [hworkers]
      · next hworkers => split <;> simp_all

theorem Plan.of_eq_ok_iff {config : BatchConfig} {settings : Settings} {operator : String}
    {requestIds : Nat → String} {randoms : Nat → UInt64} {stamp : Timestamp} {plan : Plan} :
    Plan.of config settings operator requestIds randoms stamp = .ok plan ↔
      config.validate = .ok () ∧ plan = ⟨config, settings, operator, requestIds, randoms, stamp⟩ := by
  rw [Plan.of, Json.map_eq_ok]
  constructor
  · rintro ⟨⟨⟩, hvalid, rfl⟩
    exact ⟨hvalid, rfl⟩
  · rintro ⟨hvalid, rfl⟩
    exact ⟨(), hvalid, rfl⟩

namespace Command

variable {around : Surroundings} {invocation : Invocation}

/-! ### Faults -/

/-- What any command may have wrong: its reason, its namespace or its fixture. -/
inductive SetupFault (around : Surroundings) (invocation : Invocation) (reason : String) : Prop where
  | blankReason (hblank : Text.allBlank reason = true)
  | noNamespace (hdomain : invocation.domain = "")
  | noFixture (hnone : invocation.fixture = none)
  | badFixture (path : String) (error : ResetError) (hpath : invocation.fixture = some path)
      (hload : Fixture.load around.files path = .error error)

/-- What a batch may have wrong. -/
inductive BatchFault (around : Surroundings) (invocation : Invocation) (options : BatchOptions) :
    Prop where
  | setup (hsetup : SetupFault around invocation options.reason)
  | noChecksum (hlacks : options.resetType.LacksChecksum options.checksum)
  | noWorkers (hnone : options.parallelism = 0)
  | noAttempts (hnone : options.maxAttempts = 0)
  | noInput (hfile : options.inputFile = none)
      (hquery : ∀ query ∈ options.query, Text.allBlank query = true)
  | twoInputs (path query : String) (hfile : options.inputFile = some path)
      (hquery : options.query = some query) (hfilled : Text.allBlank query = false)
  | emptySeparator (path : String) (hfile : options.inputFile = some path)
      (hempty : options.separator = "")
  | unreadableExclusions (path : String) (hpath : options.excludeFile = some path)
      (hread : ∀ content, around.files path ≠ .ok (.bytes content))
  | refusedExclusions (path : String) (content : List UInt8) (held : List TargetLine)
      (error : ResetError) (hpath : options.excludeFile = some path)
      (hread : around.files path = .ok (.bytes content))
      (hrefused : ReadsAs path options.separator content held (some error))
  | unopenableInput (path : String) (fault : FileFault) (hfile : options.inputFile = some path)
      (hopen : around.files path = .error fault)

/-- What a single reset may have wrong. -/
inductive ResetFault (around : Surroundings) (invocation : Invocation) (options : ResetOptions) :
    Prop where
  | setup (hsetup : SetupFault around invocation options.reason)
  | noChecksum (type : ResetType) (htype : options.resetType = some type)
      (hlacks : type.LacksChecksum options.checksum)
  | badEvent (eventId : Int) (hevent : options.eventId = some eventId) (hlow : eventId < 1)

/-! ### The checks one by one -/

theorem connect_eq_ok_iff {service : Service} :
    connect around invocation = .ok service ↔
      ∃ path fixture, invocation.fixture = some path ∧
        Fixture.load around.files path = .ok fixture ∧
        service = { Service.ofStore (fixture.store around.naming) with
          deadline := some (.ofSeconds invocation.contextTimeout) } := by
  unfold connect
  cases hpath : invocation.fixture with
  | none => simp
  | some path => cases hload : Fixture.load around.files path <;> simp [hload, eq_comm]

theorem not_setupFault_iff {reason : String} :
    ¬ SetupFault around invocation reason ↔
      Text.allBlank reason = false ∧ invocation.domain ≠ "" ∧
        ∃ service, connect around invocation = .ok service := by
  constructor
  · intro hnone
    refine ⟨Bool.eq_false_iff.mpr fun h => hnone (.blankReason h), fun h => hnone (.noNamespace h), ?_⟩
    cases hpath : invocation.fixture with
    | none => exact absurd (.noFixture hpath) hnone
    | some path =>
        cases hload : Fixture.load around.files path with
        | error error => exact absurd (.badFixture path error hpath hload) hnone
        | ok fixture => exact ⟨_, connect_eq_ok_iff.mpr ⟨path, fixture, hpath, hload, rfl⟩⟩
  · rintro ⟨hreason, hdomain, service, hservice⟩ hfault
    obtain ⟨path, fixture, hpath, hload, -⟩ := connect_eq_ok_iff.mp hservice
    cases hfault with
    | blankReason hblank => simp [hblank] at hreason
    | noNamespace hempty => exact hdomain hempty
    | noFixture hnone => simp [hnone] at hpath
    | badFixture path' error hpath' hload' =>
        obtain rfl := Option.some.inj (hpath.symm.trans hpath')
        simp [hload] at hload'

theorem BatchOptions.config_eq_ok_iff {options : BatchOptions} {domain : String}
    {config : BatchConfig} :
    options.config domain = .ok config ↔
      options.maxAttempts ≠ 0 ∧ ∃ strategy,
        Strategy.ofParts options.resetType options.checksum = .ok strategy ∧
        (options.setup domain strategy).validate = .ok () ∧ config = options.setup domain strategy := by
  unfold BatchOptions.config
  split
  · next hnone => simp [hnone, throw, throwThe, MonadExceptOf.throw, bind, Except.bind]
  · next hsome =>
      simp only [bind_eq_ok]
      constructor
      · rintro ⟨strategy, hstrategy, ⟨⟩, hvalid, hconfig⟩
        exact ⟨hsome, strategy, hstrategy, hvalid, (Except.ok.inj hconfig).symm⟩
      · rintro ⟨-, strategy, hstrategy, hvalid, rfl⟩
        exact ⟨strategy, hstrategy, (), hvalid, rfl⟩

theorem BatchOptions.exists_config_iff {options : BatchOptions} {domain : String} :
    (∃ config, options.config domain = .ok config) ↔
      options.maxAttempts ≠ 0 ∧ ¬ options.resetType.LacksChecksum options.checksum ∧
        Text.allBlank options.reason = false ∧ options.parallelism ≠ 0 ∧ domain ≠ "" := by
  simp only [config_eq_ok_iff, BatchConfig.validate_eq_ok_iff, ← Strategy.exists_ofParts_iff]
  constructor
  · rintro ⟨config, hattempts, strategy, hstrategy, hvalid, -⟩
    exact ⟨hattempts, ⟨strategy, hstrategy⟩, hvalid⟩
  · rintro ⟨hattempts, ⟨strategy, hstrategy⟩, hvalid⟩
    exact ⟨_, hattempts, strategy, hstrategy, hvalid, rfl⟩

/-- A file with a separator is an input, and so is a query that is not blank, but not both. -/
theorem BatchOptions.input_eq_ok_iff {options : BatchOptions} {input : TargetInput} :
    options.input = .ok input ↔
      (∃ path, options.inputFile = some path ∧ options.separator ≠ "" ∧
        (∀ query ∈ options.query, Text.allBlank query = true) ∧
        input = .file path options.separator) ∨
      ∃ query, options.inputFile = none ∧
        (options.query = some query ∧ Text.allBlank query = false) ∧ input = .query query := by
  have hnone : options.query.filter (fun query => !Text.allBlank query) = none ↔
      ∀ query ∈ options.query, Text.allBlank query = true := by
    simp [Option.filter_eq_none_iff]
  have hsome (query : String) : options.query.filter (fun query => !Text.allBlank query) = some query ↔
      options.query = some query ∧ Text.allBlank query = false := by
    simp [Option.filter_eq_some_iff]
  unfold BatchOptions.input TargetInput.ofOptions
  simp only [← hnone, ← hsome]
  cases options.inputFile with
  | none =>
      cases options.query.filter fun query => !Text.allBlank query with
      | none => simp
      | some query => simp [@eq_comm _ input]
  | some path =>
      cases options.query.filter fun query => !Text.allBlank query with
      | none => by_cases hempty : options.separator = "" <;> simp [hempty, @eq_comm _ input]
      | some query => simp

/-- An exclude file has to be there, and all of its lines have to be read. -/
theorem BatchOptions.exists_exclusions_iff {options : BatchOptions}
    {files : String → Except FileFault FileContent} :
    (∃ exclusions, options.exclusions files = .ok exclusions) ↔
      ∀ path ∈ options.excludeFile, ∃ content held, files path = .ok (.bytes content) ∧
        ReadsAs path options.separator content held none := by
  unfold BatchOptions.exclusions
  cases options.excludeFile with
  | none => simp
  | some path =>
      simp only [Option.mem_def, Option.some.injEq, forall_eq']
      constructor
      · rintro ⟨exclusions, hload⟩
        cases hread : files path with
        | error fault => simp [ExclusionSet.load, hread] at hload
        | ok found =>
            cases found with
            | directory =>
                simp [ExclusionSet.load, ExclusionSet.read, LineFeed.ofContent, hread] at hload
            | bytes content =>
                obtain ⟨held, failure, hreads⟩ := exists_readsAs path options.separator content
                rw [ExclusionSet.load_of_readsAs hread hreads] at hload
                cases failure with
                | some error => exact absurd hload (by simp)
                | none => exact ⟨content, held, rfl, hreads⟩
      · rintro ⟨content, held, hread, hreads⟩
        exact ⟨_, ExclusionSet.load_of_readsAs hread hreads⟩

/-- A file has to be opened before it can be a source. -/
theorem exists_start_iff {files : String → Except FileFault FileContent} {input : TargetInput}
    {domain : String} {exclusions : ExclusionSet} :
    (∃ source, Source.start files input domain exclusions = .ok source) ↔
      ∀ path separator, input = .file path separator → ∃ content, files path = .ok content := by
  cases input with
  | query query => simp [Source.start]
  | file path separator =>
      cases hread : files path <;> simp [Source.start, hread]

/-! ### All checks together -/

theorem prepareBatch_eq_ok_iff {options : BatchOptions} {batch : PreparedBatch} :
    prepareBatch around invocation options = .ok batch ↔
      ∃ config input exclusions service source,
        options.config invocation.domain = .ok config ∧ options.input = .ok input ∧
        options.exclusions around.files = .ok exclusions ∧
        connect around invocation = .ok service ∧
        Source.start around.files input invocation.domain exclusions = .ok source ∧
        batch = ⟨⟨config, options.settings invocation.contextTimeout, around.operator,
          around.requestIds, around.randoms, around.stamp⟩, service, source⟩ := by
  simp only [prepareBatch, bind_eq_ok, mapError_eq_ok, Plan.of_eq_ok_iff]
  constructor
  · rintro ⟨config, hconfig, input, hinput, exclusions, hexclusions, service, hservice, plan,
      ⟨-, rfl⟩, source, hsource, hbatch⟩
    exact ⟨config, input, exclusions, service, source, hconfig, hinput, hexclusions, hservice,
      hsource, (Except.ok.inj hbatch).symm⟩
  · rintro ⟨config, input, exclusions, service, source, hconfig, hinput, hexclusions, hservice,
      hsource, rfl⟩
    obtain ⟨-, strategy, -, hvalid, rfl⟩ := BatchOptions.config_eq_ok_iff.mp hconfig
    exact ⟨_, hconfig, input, hinput, exclusions, hexclusions, service, hservice, _,
      ⟨hvalid, rfl⟩, source, hsource, rfl⟩

/-- A batch with something wrong can not be prepared. -/
theorem BatchFault.not_prepareBatch {options : BatchOptions} {batch : PreparedBatch}
    (h : BatchFault around invocation options) :
    prepareBatch around invocation options ≠ .ok batch := by
  intro hbatch
  obtain ⟨config, input, exclusions, service, source, hconfig, hinput, hexclusions, hservice,
    hsource, -⟩ := prepareBatch_eq_ok_iff.mp hbatch
  obtain ⟨hattempts, hchecksum, hreason, hworkers, hdomain⟩ :=
    BatchOptions.exists_config_iff.mp ⟨config, hconfig⟩
  have hread := BatchOptions.exists_exclusions_iff.mp ⟨exclusions, hexclusions⟩
  have hopens := exists_start_iff.mp ⟨source, hsource⟩
  have hgiven := BatchOptions.input_eq_ok_iff.mp hinput
  -- All checks were made, so whichever fault there is, the check that looks for it has passed.
  cases h with
  | setup hsetup => exact not_setupFault_iff.mpr ⟨hreason, hdomain, service, hservice⟩ hsetup
  | noChecksum hlacks => exact hchecksum hlacks
  | noWorkers hnone => exact hworkers hnone
  | noAttempts hnone => exact hattempts hnone
  | noInput hfile hquery =>
      rcases hgiven with ⟨path, hpath, -⟩ | ⟨query, -, ⟨hsome, hfilled⟩, -⟩
      · simp [hfile] at hpath
      · simp [hquery query hsome] at hfilled
  | twoInputs path query hfile hquery hfilled =>
      rcases hgiven with ⟨-, -, -, hblank, -⟩ | ⟨-, hnone, -⟩
      · simp [hblank query hquery] at hfilled
      · simp [hfile] at hnone
  | emptySeparator path hfile hempty =>
      rcases hgiven with ⟨-, -, hseparator, -⟩ | ⟨-, hnone, -⟩
      · exact hseparator hempty
      · simp [hfile] at hnone
  | unreadableExclusions path hpath hnone =>
      obtain ⟨content, held, hcontent, -⟩ := hread path hpath
      exact hnone content hcontent
  | refusedExclusions path content held error hpath hcontent hrefused =>
      obtain ⟨content', held', hcontent', hreads⟩ := hread path hpath
      obtain rfl := FileContent.bytes.inj (Except.ok.inj (hcontent.symm.trans hcontent'))
      have hboth := (ExclusionSet.load_of_readsAs hcontent hrefused).symm.trans
        (ExclusionSet.load_of_readsAs hcontent hreads)
      exact absurd hboth (by simp)
  | unopenableInput path fault hfile hopen =>
      rcases hgiven with ⟨path', hpath, -, -, rfl⟩ | ⟨-, hnone, -⟩
      · obtain rfl := Option.some.inj (hfile.symm.trans hpath)
        obtain ⟨content, hcontent⟩ := hopens _ _ rfl
        simp [hopen] at hcontent
      · simp [hfile] at hnone

/-- Without a fault there is an input, and if it is a file it can be opened. -/
theorem exists_input_of_not_batchFault {options : BatchOptions}
    (h : ¬ BatchFault around invocation options) :
    ∃ input, options.input = .ok input ∧
      ∀ path separator, input = .file path separator →
        ∃ content, around.files path = .ok content := by
  by_cases hblank : ∀ query ∈ options.query, Text.allBlank query = true
  · cases hfile : options.inputFile with
    | none => exact absurd (.noInput hfile hblank) h
    | some path =>
        refine ⟨.file path options.separator, BatchOptions.input_eq_ok_iff.mpr (.inl ⟨path, hfile,
          fun hempty => h (.emptySeparator path hfile hempty), hblank, rfl⟩), ?_⟩
        rintro _ _ hinput
        obtain ⟨rfl, rfl⟩ := TargetInput.file.inj hinput
        cases hopen : around.files path with
        | error fault => exact absurd (.unopenableInput path fault hfile hopen) h
        | ok content => exact ⟨content, rfl⟩
  · obtain ⟨query, hquery, hfilled⟩ : ∃ query ∈ options.query, Text.allBlank query = false := by
      simpa using hblank
    cases hfile : options.inputFile with
    | none =>
        exact ⟨.query query,
          BatchOptions.input_eq_ok_iff.mpr (.inr ⟨query, hfile, ⟨hquery, hfilled⟩, rfl⟩), nofun⟩
    | some path => exact absurd (.twoInputs path query hfile hquery hfilled) h

/-- Without a fault the exclude file can be read. -/
theorem exists_exclusions_of_not_batchFault {options : BatchOptions}
    (h : ¬ BatchFault around invocation options) :
    ∃ exclusions, options.exclusions around.files = .ok exclusions := by
  refine BatchOptions.exists_exclusions_iff.mpr fun path hpath => ?_
  by_cases hread : ∃ content, around.files path = .ok (.bytes content)
  · obtain ⟨content, hcontent⟩ := hread
    obtain ⟨held, failure, hreads⟩ := exists_readsAs path options.separator content
    cases failure with
    | none => exact ⟨content, held, hcontent, hreads⟩
    | some error => exact absurd (.refusedExclusions path content held error hpath hcontent hreads) h
  · exact absurd (.unreadableExclusions path hpath fun content hcontent => hread ⟨content, hcontent⟩) h

/-- A batch can be prepared exactly if nothing is wrong with it. -/
theorem exists_prepareBatch_iff {options : BatchOptions} :
    (∃ batch, prepareBatch around invocation options = .ok batch) ↔
      ¬ BatchFault around invocation options := by
  constructor
  · rintro ⟨batch, hbatch⟩ hfault
    exact hfault.not_prepareBatch hbatch
  · intro hnone
    obtain ⟨hreason, hdomain, service, hservice⟩ :=
      not_setupFault_iff.mp fun h => hnone (.setup h)
    obtain ⟨config, hconfig⟩ := BatchOptions.exists_config_iff.mpr
      ⟨fun h => hnone (.noAttempts h), fun h => hnone (.noChecksum h), hreason,
        fun h => hnone (.noWorkers h), hdomain⟩
    obtain ⟨input, hinput, hopens⟩ := exists_input_of_not_batchFault hnone
    obtain ⟨exclusions, hexclusions⟩ := exists_exclusions_of_not_batchFault hnone
    obtain ⟨source, hsource⟩ :
        ∃ source, Source.start around.files input invocation.domain exclusions = .ok source :=
      exists_start_iff.mpr hopens
    exact ⟨_, prepareBatch_eq_ok_iff.mpr ⟨config, input, exclusions, service, source, hconfig,
      hinput, hexclusions, hservice, hsource, rfl⟩⟩

/-! ### Single resets -/

theorem ResetOptions.checkEvent_eq_ok_iff {options : ResetOptions} :
    options.checkEvent = .ok () ↔ ∀ eventId ∈ options.eventId, 1 ≤ eventId := by
  unfold ResetOptions.checkEvent
  cases options.eventId with
  | none => simp
  | some eventId =>
      by_cases hlow : eventId < 1
      · simp [hlow]
      · simpa [hlow] using Int.not_lt.mp hlow

theorem ResetOptions.exists_strategy_iff {options : ResetOptions} :
    (∃ strategy, options.strategy = .ok strategy) ↔
      ∀ type ∈ options.resetType, ¬ type.LacksChecksum options.checksum := by
  unfold ResetOptions.strategy
  cases options.resetType with
  | none => simp
  | some type => simp [Strategy.exists_ofParts_iff]

theorem ResetOptions.config_eq_ok_iff {options : ResetOptions} {domain : String}
    {config : BatchConfig} :
    options.config domain = .ok config ↔
      options.checkEvent = .ok () ∧ ∃ strategy, options.strategy = .ok strategy ∧
        (options.setup domain strategy).validate = .ok () ∧ config = options.setup domain strategy := by
  simp only [ResetOptions.config, bind_eq_ok]
  constructor
  · rintro ⟨⟨⟩, hevent, strategy, hstrategy, ⟨⟩, hvalid, hconfig⟩
    exact ⟨hevent, strategy, hstrategy, hvalid, (Except.ok.inj hconfig).symm⟩
  · rintro ⟨hevent, strategy, hstrategy, hvalid, rfl⟩
    exact ⟨(), hevent, strategy, hstrategy, (), hvalid, rfl⟩

theorem ResetOptions.exists_config_iff {options : ResetOptions} {domain : String} :
    (∃ config, options.config domain = .ok config) ↔
      (∀ eventId ∈ options.eventId, 1 ≤ eventId) ∧
      (∀ type ∈ options.resetType, ¬ type.LacksChecksum options.checksum) ∧
      Text.allBlank options.reason = false ∧ domain ≠ "" := by
  simp only [config_eq_ok_iff, checkEvent_eq_ok_iff, BatchConfig.validate_eq_ok_iff,
    ← exists_strategy_iff]
  constructor
  · rintro ⟨config, hevent, strategy, hstrategy, ⟨hreason, -, hdomain⟩, -⟩
    exact ⟨hevent, ⟨strategy, hstrategy⟩, hreason, hdomain⟩
  · rintro ⟨hevent, ⟨strategy, hstrategy⟩, hreason, hdomain⟩
    exact ⟨_, hevent, strategy, hstrategy, ⟨hreason, Nat.one_ne_zero, hdomain⟩, rfl⟩

theorem prepareReset_eq_ok_iff {options : ResetOptions} {reset : PreparedReset} :
    prepareReset around invocation options = .ok reset ↔
      ∃ config service, options.config invocation.domain = .ok config ∧
        connect around invocation = .ok service ∧
        reset = ⟨⟨config, { Settings.standard with
            deadline := .ofSeconds invocation.contextTimeout, pacing := .zero }, around.operator,
          around.requestIds, around.randoms, around.stamp⟩, service,
          .of options.workflowId options.runId, options.eventId⟩ := by
  simp only [prepareReset, bind_eq_ok, mapError_eq_ok, Plan.of_eq_ok_iff]
  constructor
  · rintro ⟨config, hconfig, service, hservice, plan, ⟨-, rfl⟩, hreset⟩
    exact ⟨config, service, hconfig, hservice, (Except.ok.inj hreset).symm⟩
  · rintro ⟨config, service, hconfig, hservice, rfl⟩
    obtain ⟨-, strategy, -, hvalid, rfl⟩ := ResetOptions.config_eq_ok_iff.mp hconfig
    exact ⟨_, hconfig, service, hservice, _, ⟨hvalid, rfl⟩, rfl⟩

/-- A single reset can be prepared exactly if nothing is wrong with it. -/
theorem exists_prepareReset_iff {options : ResetOptions} :
    (∃ reset, prepareReset around invocation options = .ok reset) ↔
      ¬ ResetFault around invocation options := by
  constructor
  · rintro ⟨reset, hreset⟩ hfault
    obtain ⟨config, service, hconfig, hservice, -⟩ := prepareReset_eq_ok_iff.mp hreset
    obtain ⟨hevent, hchecksum, hreason, hdomain⟩ :=
      ResetOptions.exists_config_iff.mp ⟨config, hconfig⟩
    cases hfault with
    | setup hsetup => exact not_setupFault_iff.mpr ⟨hreason, hdomain, service, hservice⟩ hsetup
    | noChecksum type htype hlacks => exact hchecksum type htype hlacks
    | badEvent eventId hgiven hlow => exact absurd (hevent eventId hgiven) (Int.not_le.mpr hlow)
  · intro hnone
    obtain ⟨hreason, hdomain, service, hservice⟩ :=
      not_setupFault_iff.mp fun h => hnone (.setup h)
    obtain ⟨config, hconfig⟩ := ResetOptions.exists_config_iff.mpr
      ⟨fun eventId hgiven => Int.not_lt.mp fun hlow => hnone (.badEvent eventId hgiven hlow),
        fun type htype hlacks => hnone (.noChecksum type htype hlacks), hreason, hdomain⟩
    exact ⟨_, prepareReset_eq_ok_iff.mpr ⟨config, service, hconfig, hservice, rfl⟩⟩

end Command

end Rewind
