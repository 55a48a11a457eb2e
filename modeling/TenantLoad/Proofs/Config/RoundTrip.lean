import TenantLoad.Proofs.Config.Setting
import TenantLoad.Proofs.Json.Record
import Mathlib.Logic.Relation

/-!
# Settings are read back from their written form

The written form of settings is a tree of sections with fields.  It may be edited:
sections and fields are left out, and members of other names are put in.  What is
still there is read back, and what is not has its default.
-/

namespace TenantLoad

namespace Json

variable {names : List String} {Kept : String → Json → Json → Prop}
  {whole part next : List (String × Json)} {name : String}

/-- A member of a record is left out, or one of an unknown name is put in. -/
inductive Edits (names : List String) : List (String × Json) → List (String × Json) → Prop where
  | leaveOut
      (before : List (String × Json))
      (member : String × Json)
      (after : List (String × Json)) :
      Edits names (before ++ member :: after) (before ++ after)
  | putIn
      (before : List (String × Json))
      (member : String × Json)
      (after : List (String × Json))
      (unknown : member.1 ∉ names) :
      Edits names (before ++ after) (before ++ member :: after)

/-- The members of a name. -/
def named (name : String) (members : List (String × Json)) : List (String × Json) :=
  members.filter fun member => member.1 == name

@[simp] theorem named_append (name : String) (before after : List (String × Json)) :
    named name (before ++ after) = named name before ++ named name after :=
  List.filter_append ..

@[simp] theorem named_cons_self (name : String) (value : Json) (after : List (String × Json)) :
    named name ((name, value) :: after) = (name, value) :: named name after := by
  simp [named]

theorem named_cons_of_ne
    {member : String × Json}
    (other : member.1 ≠ name)
    (after : List (String × Json)) :
    named name (member :: after) = named name after := by
  simp [named, other]

/-- Of each of the given names a record has no member, or one that is kept in some
sense from the member of another record. -/
def IsPortion (names : List String) (Kept : String → Json → Json → Prop)
    (whole part : List (String × Json)) : Prop :=
  ∀ name ∈ names, named name part = [] ∨
    ∃ original value, whole.lookup name = some original ∧ named name part = [(name, value)] ∧
      Kept name original value

theorem lookup_eq_head?_named
    (name : String)
    (members : List (String × Json)) :
    members.lookup name = (named name members).head?.map Prod.snd :=
  lookup_eq_head?_filter name members

/-- Records of distinct names are portions of themselves. -/
theorem IsPortion.refl
    (distinct : (whole.map Prod.fst).Nodup)
    (kept : ∀ name ∈ names, ∀ value, (name, value) ∈ whole → Kept name value value) :
    IsPortion names Kept whole whole := by
  intro name known
  induction whole with
  | nil => exact Or.inl rfl
  | cons member rest inductionHypothesis =>
      obtain ⟨isNew, distinctRest⟩ := List.nodup_cons.mp distinct
      obtain ⟨first, value⟩ := member
      by_cases same : first = name
      · subst same
        have gone : named first rest = [] := by
          rw [named, List.filter_eq_nil_iff]
          intro other later
          rw [beq_iff_eq]
          intro again
          exact isNew (List.mem_map.mpr ⟨other, later, again⟩)
        refine Or.inr ⟨value, value, ?_, ?_, kept first known value (List.mem_cons_self ..)⟩
        · rw [List.lookup_cons_self]
        · rw [named_cons_self, gone]
      · have keptLater : ∀ name ∈ names, ∀ value, (name, value) ∈ rest → Kept name value value :=
          fun name known value later => kept name known value (List.mem_cons_of_mem _ later)
        rw [named_cons_of_ne same, List.lookup_cons, beq_eq_false_iff_ne.mpr (Ne.symm same)]
        exact inductionHypothesis distinctRest keptLater

/-- Editing a portion gives a portion. -/
theorem IsPortion.edit
    (isPortion : IsPortion names Kept whole part)
    (edits : Edits names part next) :
    IsPortion names Kept whole next := by
  intro name known
  have now := isPortion name known
  cases edits with
  | leaveOut before member after =>
      by_cases same : member.1 = name
      · -- It was the only one of its name.
        obtain ⟨first, value⟩ := member
        subst same
        left
        rw [named_append, named_cons_self] at now
        rw [named_append]
        rcases now with none | ⟨original, kept, -, single, -⟩
        · exact absurd none (by simp)
        · have alone := congrArg List.length single
          rw [List.length_append, List.length_cons, List.length_singleton] at alone
          apply List.eq_nil_of_length_eq_zero
          rw [List.length_append]
          omega
      · rw [named_append, named_cons_of_ne same] at now
        rwa [named_append]
  | putIn before member after unknown =>
      have other : member.1 ≠ name := by
        rintro rfl
        exact unknown known
      rw [named_append] at now
      rwa [named_append, named_cons_of_ne other]

/-- A member may be replaced by another one that is kept. -/
theorem IsPortion.replace
    {before after : List (String × Json)}
    {value other : Json}
    (isPortion : IsPortion names Kept whole (before ++ (name, value) :: after))
    (step : ∀ original, Kept name original value → Kept name original other) :
    IsPortion names Kept whole (before ++ (name, other) :: after) := by
  intro known isKnown
  have now := isPortion known isKnown
  by_cases same : name = known
  · subst same
    rw [named_append, named_cons_self] at now ⊢
    right
    rcases now with none | ⟨original, kept, isMember, single, isKept⟩
    · exact absurd none (by simp)
    · obtain ⟨noneBefore, isThis, noneAfter⟩ : named name before = [] ∧ value = kept ∧
          named name after = [] := by
        cases early : named name before with
        | nil => simpa [early] using single
        | cons first rest => simp [early] at single
      subst isThis
      exact ⟨original, other, isMember, by rw [noneBefore, noneAfter]; rfl, step original isKept⟩
  · have sameMembers (value : Json) :
        named known ((name, value) :: after) = named known after := named_cons_of_ne same after
    rw [named_append, sameMembers] at now ⊢
    exact now

/-- A portion gives its own members as fields. -/
theorem IsPortion.fields?_eq
    (isPortion : IsPortion names Kept whole part) :
    Source.fields? names (Json.object part) = some (names.map fun name => part.lookup name) := by
  refine pickMembers?_eq_some_iff.mpr ⟨?_, rfl⟩
  intro name known
  change (named name part).length ≤ 1
  rcases isPortion name known with none | ⟨_, _, -, single, -⟩
  · rw [none]
    exact Nat.zero_le _
  · rw [single]
    exact Nat.le_refl 1

/-- What is still there is kept. -/
theorem IsPortion.of_lookup
    (isPortion : IsPortion names Kept whole part)
    (known : name ∈ names)
    {value : Json}
    (found : part.lookup name = some value) :
    ∃ original, whole.lookup name = some original ∧ Kept name original value := by
  rw [lookup_eq_head?_named] at found
  rcases isPortion name known with none | ⟨original, kept, isMember, single, isKept⟩
  · rw [none] at found
    cases found
  · rw [single] at found
    cases found
    exact ⟨original, isMember, isKept⟩

end Json

namespace Source

variable {Data : Type} [Source Data]

/-- The field of a name among the fields of all names. -/
theorem field?_of_fields?
    {names : List String}
    {name : String}
    {data : Data}
    {field : String → Option Data}
    (gives : Source.fields? names data = some (names.map field))
    (known : name ∈ names) :
    field? names name data = field name := by
  have found : (names.zip (names.map field)).lookup name = some (field name) := by
    clear gives
    induction names with
    | nil => cases known
    | cons first rest inductionHypothesis =>
        rw [List.map_cons, List.zip_cons_cons, List.lookup_cons]
        by_cases same : name = first
        · subst same
          rw [beq_self_eq_true]
        · rw [beq_eq_false_iff_ne.mpr same]
          exact inductionHypothesis ((List.mem_cons.mp known).resolve_left same)
  rw [field?, gives, Option.bind_some, found, Option.join_some]

end Source

namespace Config

/-! ## Values of settings -/

theorem natural?_natural
    {bits value : Nat}
    (fits : value < Nat.pow 2 bits) :
    Source.natural? bits (Json.natural value) = some value := by
  have inside : (0 : Int) ≤ value ∧ (value : Int) ≤ Nat.pow 2 bits - 1 :=
    ⟨Int.natCast_nonneg _, Int.le_sub_one_of_lt (Int.ofNat_lt.mpr fits)⟩
  rw [Source.natural?]
  change Option.map Int.toNat (if _ then _ else _) = _
  rw [if_pos inside]
  rfl

theorem readWord64?_word64 (value : UInt64) : readWord64? (word64 value) = some value := by
  rw [readWord64?, word64, natural?_natural value.toNat_lt, Option.map_some, UInt64.ofNat_toNat]

theorem readWord32?_natural (value : UInt32) :
    readWord32? (Json.natural value.toNat) = some value := by
  rw [readWord32?, natural?_natural value.toNat_lt, Option.map_some, UInt32.ofNat_toNat]

theorem readWord16?_natural (value : UInt16) :
    readWord16? (Json.natural value.toNat) = some value := by
  rw [readWord16?, natural?_natural value.toNat_lt, Option.map_some, UInt16.ofNat_toNat]

theorem readSeconds?_natural (seconds : UInt64) :
    readSeconds? (Json.natural (Duration.ofSeconds seconds.toNat).seconds) =
      some (.ofSeconds seconds.toNat) := by
  have whole : (Duration.ofSeconds seconds.toNat).seconds = seconds.toNat := by
    simp [Duration.ofSeconds, Duration.seconds]
  rw [whole, readSeconds?, natural?_natural seconds.toNat_lt, Option.map_some]

theorem list?_readWord16? (values : List UInt16) :
    Source.list? readWord16? (Json.list (values.map fun value => .natural value.toNat)) =
      some values := by
  change List.mapM readWord16? (values.map fun value => Json.natural value.toNat) = some values
  rw [mapM_eq_some_iff, List.forall₂_map_left_iff]
  exact List.forall₂_same.mpr fun value _ => readWord16?_natural value

/-- The timeouts are whole seconds. -/
structure WholeSeconds (connection : Connection) : Prop where
  timeout : ∃ seconds : UInt64, connection.timeout = .ofSeconds seconds.toNat
  connectTimeout : ∃ seconds : UInt64, connection.connectTimeout = .ofSeconds seconds.toNat

/-- What stands at the place of a setting in a tree. -/
def Setting.inTree? (setting : Setting) (tree : Json) : Option Json :=
  (tree.member? setting.home.1).bind (Json.member? setting.field)

variable {config : Config}

theorem Setting.inTree?_seed :
    Setting.seed.inTree? config.toJson = config.workload.seed.map word64 := by
  change Json.member? "seed" config.workload.toJson = _
  rw [Workload.toJson]
  cases config.workload.seed <;> rfl

theorem Setting.inTree?_outputPath :
    Setting.outputPath.inTree? config.toJson = config.output.path.map Json.text := by
  change Json.member? "path" config.output.toJson = _
  rw [Output.toJson]
  cases config.output.path <;> rfl

theorem Setting.inTree?_pretty :
    Setting.pretty.inTree? config.toJson = some (.boolean config.output.pretty) := by
  change Json.member? "pretty" config.output.toJson = _
  rw [Output.toJson]
  cases config.output.path <;> rfl

/-- What is written at the place of a setting is read as its value. -/
theorem Setting.ofData?_of_written
    (wholeSeconds : WholeSeconds config.connection)
    (setting : Setting)
    {data : Json}
    (written : setting.inTree? config.toJson = some data) :
    setting.ofData? data = some (setting.get config) := by
  cases setting with
  | baseUrl | bodyPattern | userAgent => cases written; rfl
  | tenants | tablesPerTenant | rowsPerTable | rowConcurrency | searchRequests | searchConcurrency
  | jitterMin | jitterMax | maxIdlePerHost => cases written; exact readWord64?_word64 _
  | seed =>
      rw [inTree?_seed, Option.map_eq_some_iff] at written
      obtain ⟨seed, isSeed, rfl⟩ := written
      change (readWord64? (word64 seed)).map some = some config.workload.seed
      rw [readWord64?_word64, isSeed, Option.map_some]
  | maxAttempts => cases written; exact readWord32?_natural _
  | statuses => cases written; exact list?_readWord16? _
  | timeout =>
      cases written
      obtain ⟨seconds, isWhole⟩ := wholeSeconds.timeout
      rw [get, isWhole]
      exact readSeconds?_natural seconds
  | connectTimeout =>
      cases written
      obtain ⟨seconds, isWhole⟩ := wholeSeconds.connectTimeout
      rw [get, isWhole]
      exact readSeconds?_natural seconds
  | level =>
      cases written
      change LogLevel.names.lookup config.logging.level.name = some config.logging.level
      cases config.logging.level <;> rfl
  | format =>
      cases written
      change LogFormat.names.lookup config.logging.format.name = some config.logging.format
      cases config.logging.format <;> rfl
  | includeLocation => cases written; rfl
  | outputPath =>
      rw [inTree?_outputPath, Option.map_eq_some_iff] at written
      obtain ⟨path, isPath, rfl⟩ := written
      exact congrArg some isPath.symm
  | pretty =>
      rw [inTree?_pretty] at written
      cases written
      rfl

/-! ## Sections -/

/-- The names of the fields of a section. -/
def sectionFields (name : String) : List String :=
  ([("target", Target.fieldNames), ("workload", Workload.fieldNames),
    ("retry", RetryRules.fieldNames), ("http", Connection.fieldNames),
    ("logging", Logging.fieldNames), ("output", Output.fieldNames)].lookup name).getD []

theorem Setting.sectionFields_home (setting : Setting) :
    sectionFields setting.home.1 = setting.home.2 := by
  cases setting <;> rfl

theorem Setting.home_mem_sectionNames (setting : Setting) : setting.home.1 ∈ sectionNames := by
  cases setting <;> decide

/-- Sections are told apart by the names of their fields. -/
theorem Setting.home_eq_of_sectionFields
    (setting : Setting)
    {name : String}
    (known : name ∈ sectionNames)
    (isHome : setting.home.2 = sectionFields name) :
    setting.home.1 = name := by
  revert name
  cases setting <;> decide

theorem Setting.field_mem_sectionFields (setting : Setting) :
    setting.field ∈ sectionFields setting.home.1 := by
  cases setting <;> decide

/-- A setting can be read, or has its default. -/
def Setting.IsReadable (setting : Setting) (field : Option Json) : Prop :=
  ∃ value, Source.defaulted? setting.default setting.ofData? field = some value

/-- A section gives its fields, and each of them can be read. -/
structure Legible (names : List String) (part : List (String × Json)) : Prop where
  gives : Source.fields? names (Json.object part) = some (names.map fun name => part.lookup name)
  readable : ∀ setting : Setting, setting.home.2 = names →
    setting.IsReadable (part.lookup setting.field)

section Section

variable {part : List (String × Json)}

theorem Target.exists_read
    (legible : Legible fieldNames part) :
    ∃ target, read? {} (Json.object part) = some target := by
  obtain ⟨baseUrl, readUrl⟩ := legible.readable .baseUrl rfl
  refine ⟨⟨baseUrl⟩, Option.bind_eq_some_iff.mpr ⟨_, legible.gives, ?_⟩⟩
  simp only [fieldNames, List.map_cons, List.map_nil, Option.bind_eq_bind, Option.bind_eq_some_iff]
  exact ⟨_, readUrl, rfl⟩

theorem Workload.exists_read
    (legible : Legible fieldNames part) :
    ∃ workload, read? {} (Json.object part) = some workload := by
  obtain ⟨tenants, readTenants⟩ := legible.readable .tenants rfl
  obtain ⟨tables, readTables⟩ := legible.readable .tablesPerTenant rfl
  obtain ⟨rows, readRows⟩ := legible.readable .rowsPerTable rfl
  obtain ⟨rowConcurrency, readRowConcurrency⟩ := legible.readable .rowConcurrency rfl
  obtain ⟨searches, readSearches⟩ := legible.readable .searchRequests rfl
  obtain ⟨searchConcurrency, readSearchConcurrency⟩ := legible.readable .searchConcurrency rfl
  obtain ⟨seed, readSeed⟩ := legible.readable .seed rfl
  refine ⟨⟨tenants, tables, rows, rowConcurrency, searches, searchConcurrency, seed⟩,
    Option.bind_eq_some_iff.mpr ⟨_, legible.gives, ?_⟩⟩
  simp only [fieldNames, List.map_cons, List.map_nil, Option.bind_eq_bind, Option.bind_eq_some_iff]
  exact ⟨_, readTenants, _, readTables, _, readRows, _, readRowConcurrency, _, readSearches,
    _, readSearchConcurrency, _, readSeed, rfl⟩

theorem RetryRules.exists_read
    (legible : Legible fieldNames part) :
    ∃ rules, read? {} (Json.object part) = some rules := by
  obtain ⟨attempts, readAttempts⟩ := legible.readable .maxAttempts rfl
  obtain ⟨least, readLeast⟩ := legible.readable .jitterMin rfl
  obtain ⟨most, readMost⟩ := legible.readable .jitterMax rfl
  obtain ⟨statuses, readStatuses⟩ := legible.readable .statuses rfl
  obtain ⟨pattern, readPattern⟩ := legible.readable .bodyPattern rfl
  refine ⟨⟨attempts, least, most, statuses, pattern⟩,
    Option.bind_eq_some_iff.mpr ⟨_, legible.gives, ?_⟩⟩
  simp only [fieldNames, List.map_cons, List.map_nil, Option.bind_eq_bind, Option.bind_eq_some_iff]
  exact ⟨_, readAttempts, _, readLeast, _, readMost, _, readStatuses, _, readPattern, rfl⟩

theorem Connection.exists_read
    (legible : Legible fieldNames part) :
    ∃ connection, read? {} (Json.object part) = some connection := by
  obtain ⟨timeout, readTimeout⟩ := legible.readable .timeout rfl
  obtain ⟨connectTimeout, readConnectTimeout⟩ := legible.readable .connectTimeout rfl
  obtain ⟨userAgent, readUserAgent⟩ := legible.readable .userAgent rfl
  obtain ⟨maxIdle, readMaxIdle⟩ := legible.readable .maxIdlePerHost rfl
  refine ⟨⟨timeout, connectTimeout, userAgent, maxIdle⟩,
    Option.bind_eq_some_iff.mpr ⟨_, legible.gives, ?_⟩⟩
  simp only [fieldNames, List.map_cons, List.map_nil, Option.bind_eq_bind, Option.bind_eq_some_iff]
  exact ⟨_, readTimeout, _, readConnectTimeout, _, readUserAgent, _, readMaxIdle, rfl⟩

theorem Logging.exists_read
    (legible : Legible fieldNames part) :
    ∃ logging, read? {} (Json.object part) = some logging := by
  obtain ⟨level, readLevel⟩ := legible.readable .level rfl
  obtain ⟨format, readFormat⟩ := legible.readable .format rfl
  obtain ⟨location, readLocation⟩ := legible.readable .includeLocation rfl
  refine ⟨⟨level, format, location⟩, Option.bind_eq_some_iff.mpr ⟨_, legible.gives, ?_⟩⟩
  simp only [fieldNames, List.map_cons, List.map_nil, Option.bind_eq_bind, Option.bind_eq_some_iff]
  exact ⟨_, readLevel, _, readFormat, _, readLocation, rfl⟩

theorem Output.exists_read
    (legible : Legible fieldNames part) :
    ∃ output, read? {} (Json.object part) = some output := by
  obtain ⟨path, readPath⟩ := legible.readable .outputPath rfl
  obtain ⟨pretty, readPretty⟩ := legible.readable .pretty rfl
  refine ⟨⟨path, pretty⟩, Option.bind_eq_some_iff.mpr ⟨_, legible.gives, ?_⟩⟩
  simp only [fieldNames, List.map_cons, List.map_nil, Option.bind_eq_bind, Option.bind_eq_some_iff]
  exact ⟨_, readPath, _, readPretty, rfl⟩

end Section

/-! ## Edited trees -/

/-- A tree of settings is edited: at the level of its sections or at that of the
fields of one of them. -/
inductive Edits : Json → Json → Prop where
  | sections
      {whole next : List (String × Json)}
      (edits : Json.Edits sectionNames whole next) :
      Edits (.object whole) (.object next)
  | fields
      (before : List (String × Json))
      (name : String)
      {whole next : List (String × Json)}
      (edits : Json.Edits (sectionFields name) whole next)
      (after : List (String × Json)) :
      Edits (.object (before ++ (name, .object whole) :: after))
        (.object (before ++ (name, .object next) :: after))

/-- Some fields of a section are kept as they are. -/
def KeepsFields (name : String) (original value : Json) : Prop :=
  ∃ whole part, original = .object whole ∧ value = .object part ∧
    Json.IsPortion (sectionFields name) (fun _ => Eq) whole part

/-- Some sections of settings are kept, each with some of its fields. -/
def IsPortion (config : Config) (tree : Json) : Prop :=
  ∃ whole part, config.toJson = .object whole ∧ tree = .object part ∧
    Json.IsPortion sectionNames KeepsFields whole part

theorem keepsFields_self
    {name : String}
    {whole : List (String × Json)}
    (distinct : (whole.map Prod.fst).Nodup) :
    KeepsFields name (.object whole) (.object whole) :=
  ⟨whole, whole, rfl, rfl, .refl distinct fun _ _ _ _ => rfl⟩

theorem isPortion_toJson (config : Config) : config.IsPortion config.toJson := by
  refine ⟨_, _, rfl, rfl, .refl (by simp) ?_⟩
  intro name _ value written
  simp only [List.mem_cons, Prod.mk.injEq, List.not_mem_nil, or_false] at written
  rcases written with ⟨-, rfl⟩ | ⟨-, rfl⟩ | ⟨-, rfl⟩ | ⟨-, rfl⟩ | ⟨-, rfl⟩ | ⟨-, rfl⟩
  · exact keepsFields_self (by simp)
  · apply keepsFields_self
    cases config.workload.seed <;> simp
  · exact keepsFields_self (by simp)
  · exact keepsFields_self (by simp)
  · exact keepsFields_self (by simp)
  · apply keepsFields_self
    cases config.output.path <;> simp

variable {tree next : Json}

/-- Editing leaves a portion. -/
theorem IsPortion.edit
    (isPortion : config.IsPortion tree)
    (edits : Edits tree next) :
    config.IsPortion next := by
  obtain ⟨whole, part, isWhole, isPart, kept⟩ := isPortion
  cases edits with
  | sections edits =>
      cases isPart
      exact ⟨whole, _, isWhole, rfl, kept.edit edits⟩
  | fields before name edits after =>
      cases isPart
      refine ⟨whole, _, isWhole, rfl, kept.replace ?_⟩
      rintro original ⟨fields, part, rfl, same, keptFields⟩
      cases same
      exact ⟨fields, _, rfl, rfl, keptFields.edit edits⟩

theorem isPortion_of_edits
    (edited : Relation.ReflTransGen Edits config.toJson tree) :
    config.IsPortion tree := by
  induction edited with
  | refl => exact isPortion_toJson config
  | tail _ edits inductionHypothesis => exact inductionHypothesis.edit edits

section Read

variable (wholeSeconds : WholeSeconds config.connection)

include wholeSeconds

/-- A section of which fields are kept can be read. -/
theorem KeepsFields.legible
    {name : String}
    (known : name ∈ sectionNames)
    {original value : Json}
    (written : config.toJson.member? name = some original)
    (keeps : KeepsFields name original value) :
    ∃ part, value = .object part ∧ Legible (sectionFields name) part := by
  obtain ⟨whole, part, rfl, rfl, isPortion⟩ := keeps
  refine ⟨part, rfl, isPortion.fields?_eq, ?_⟩
  intro setting isHome
  obtain rfl := setting.home_eq_of_sectionFields known isHome
  cases found : part.lookup setting.field with
  | none => exact ⟨setting.default, rfl⟩
  | some data =>
      obtain ⟨_, isField, rfl⟩ := isPortion.of_lookup setting.field_mem_sectionFields found
      refine ⟨setting.get config, setting.ofData?_of_written wholeSeconds ?_⟩
      rw [Setting.inTree?, written]
      exact isField

/-- A portion of settings can be read. -/
theorem IsPortion.exists_read
    (isPortion : config.IsPortion tree) :
    ∃ result, read? tree = some result := by
  obtain ⟨whole, part, isWhole, rfl, kept⟩ := isPortion
  have section? {Value : Type} {read : Json → Option Value} (name : String) (default : Value)
      (known : name ∈ sectionNames)
      (reads : ∀ {fields}, Legible (sectionFields name) fields →
        ∃ value, read (.object fields) = some value) :
      ∃ value, Source.defaulted? default read (part.lookup name) = some value := by
    cases found : part.lookup name with
    | none => exact ⟨default, rfl⟩
    | some value =>
        obtain ⟨original, written, keeps⟩ := kept.of_lookup known found
        have isSection : config.toJson.member? name = some original := by rwa [isWhole]
        obtain ⟨fields, rfl, legible⟩ := keeps.legible wholeSeconds known isSection
        exact reads legible
  obtain ⟨target, readTarget⟩ := section? "target" {} (by decide) Target.exists_read
  obtain ⟨workload, readWorkload⟩ := section? "workload" {} (by decide) Workload.exists_read
  obtain ⟨retry, readRetry⟩ := section? "retry" {} (by decide) RetryRules.exists_read
  obtain ⟨connection, readConnection⟩ := section? "http" {} (by decide) Connection.exists_read
  obtain ⟨logging, readLogging⟩ := section? "logging" {} (by decide) Logging.exists_read
  obtain ⟨output, readOutput⟩ := section? "output" {} (by decide) Output.exists_read
  refine ⟨⟨target, workload, retry, connection, logging, output⟩,
    Option.bind_eq_some_iff.mpr ⟨_, kept.fields?_eq, ?_⟩⟩
  simp only [sectionNames, List.map_cons, List.map_nil, Option.bind_eq_bind,
    Option.bind_eq_some_iff]
  exact ⟨_, readTarget, _, readWorkload, _, readRetry, _, readConnection, _, readLogging, _,
    readOutput, rfl⟩

end Read

/-- What is still there is what was written. -/
theorem IsPortion.inTree?_toJson
    (isPortion : config.IsPortion tree)
    (setting : Setting)
    {data : Json}
    (found : setting.inTree? tree = some data) :
    setting.inTree? config.toJson = some data := by
  obtain ⟨whole, part, isWhole, rfl, kept⟩ := isPortion
  obtain ⟨value, isPart, isField⟩ := Option.bind_eq_some_iff.mp found
  obtain ⟨_, written, fields, keptFields, rfl, rfl, keeps⟩ :=
    kept.of_lookup setting.home_mem_sectionNames isPart
  obtain ⟨_, isOriginal, rfl⟩ := keeps.of_lookup setting.field_mem_sectionFields isField
  rw [Setting.inTree?, isWhole]
  exact Option.bind_eq_some_iff.mpr ⟨_, written, isOriginal⟩

/-- Settings are read at their places. -/
theorem IsPortion.inData?_eq
    (isPortion : config.IsPortion tree)
    (setting : Setting) :
    setting.inData? tree = (setting.inTree? tree).bind setting.ofData? := by
  obtain ⟨whole, part, -, rfl, kept⟩ := isPortion
  have known := setting.home_mem_sectionNames
  rw [Setting.inData?, Setting.inSection?, Source.field?_of_fields? kept.fields?_eq known]
  rw [Setting.inTree?, Json.member?]
  cases found : part.lookup setting.home.1 with
  | none => rfl
  | some value =>
      obtain ⟨_, -, fields, keptFields, rfl, rfl, keeps⟩ := kept.of_lookup known found
      have isField := Source.field?_of_fields? keeps.fields?_eq setting.field_mem_sectionFields
      rw [Setting.sectionFields_home] at isField
      rw [Option.bind_some, Option.bind_some, isField, Json.member?]

/-- A portion is read as what is there, and the defaults of what is not. -/
theorem IsPortion.get_of_read?
    (wholeSeconds : WholeSeconds config.connection)
    (isPortion : config.IsPortion tree)
    {result : Config}
    (isRead : read? tree = some result)
    (setting : Setting) :
    setting.get result =
      if (setting.inTree? tree).isSome then setting.get config else setting.default := by
  rw [Config.get_of_read? isRead, isPortion.inData?_eq]
  cases found : setting.inTree? tree with
  | none => rfl
  | some data =>
      have written := isPortion.inTree?_toJson setting found
      rw [Option.bind_some, setting.ofData?_of_written wholeSeconds written]
      rfl

/-- Only what has its default is not written. -/
theorem Setting.get_of_unwritten
    (setting : Setting)
    (unwritten : setting.inTree? config.toJson = none) :
    setting.get config = setting.default := by
  cases setting with
  | seed =>
      rw [inTree?_seed, Option.map_eq_none_iff] at unwritten
      exact unwritten
  | outputPath =>
      rw [inTree?_outputPath, Option.map_eq_none_iff] at unwritten
      exact unwritten
  | pretty =>
      rw [inTree?_pretty] at unwritten
      cases unwritten
  | _ => cases unwritten

/-- What is written is read back as a whole. -/
theorem read?_toJson
    (wholeSeconds : WholeSeconds config.connection) :
    read? config.toJson = some config := by
  have isPortion := isPortion_toJson config
  obtain ⟨result, isRead⟩ := isPortion.exists_read wholeSeconds
  rw [isRead, ← Setting.gather_get config, ← Setting.gather_get result]
  congr 2
  funext setting
  rw [isPortion.get_of_read? wholeSeconds isRead]
  split
  · rfl
  · rename_i unwritten
    rw [Option.not_isSome_iff_eq_none] at unwritten
    exact (setting.get_of_unwritten unwritten).symm

theorem wholeSeconds_standard : WholeSeconds standard.connection := ⟨⟨30, rfl⟩, ⟨10, rfl⟩⟩

/-- Settings with whole seconds survive being written and read.  From their tree, and from every
tree that is made of it by leaving out sections and fields and putting in members of unknown names,
settings are read that have the values of what is still there and the defaults of what is not.  The
sample is the text of the tree of the defaults, which is read back as these. -/
theorem settings_survive_writing
    (wholeSeconds : WholeSeconds config.connection) :
    read? config.toJson = some config ∧
    (∀ tree, Relation.ReflTransGen Edits config.toJson tree →
      ∃ result, read? tree = some result ∧
        ∀ setting : Setting, setting.get result =
          if (setting.inTree? tree).isSome then setting.get config else setting.default) ∧
    sampleText = Yaml.Printer.document standard.toJson ∧
    read? standard.toJson = some standard := by
  refine ⟨read?_toJson wholeSeconds, ?_, rfl, read?_toJson wholeSeconds_standard⟩
  intro tree edited
  have isPortion := isPortion_of_edits edited
  obtain ⟨result, isRead⟩ := isPortion.exists_read wholeSeconds
  exact ⟨result, isRead, isPortion.get_of_read? wholeSeconds isRead⟩

/-- Settings of which a section and a field are left out, with members of unknown names put into
the tree and into a section. -/
theorem settings_survive_writing_in_part :
    let config : Config :=
      { workload := { tenants := 7, rowsPerTable := 9, seed := some 42 }
        retry := { maxAttempts := 1 }
        logging := { level := .debug } }
    let workload : List (String × Json) :=
      [("tenants", .integer 7), ("tables_per_tenant", .integer 2), ("note", .null),
        ("row_concurrency", .integer 5), ("search_requests", .integer 200),
        ("search_concurrency", .integer 50), ("seed", .integer 42)]
    let tree : Json := .object
      [("tenants", .list []), ("target", config.target.toJson), ("workload", .object workload),
        ("http", config.connection.toJson), ("logging", config.logging.toJson),
        ("output", config.output.toJson)]
    WholeSeconds config.connection ∧ Relation.ReflTransGen Edits config.toJson tree ∧
      read? config.toJson = some config ∧
      read? tree = some { config with
        workload := { config.workload with rowsPerTable := 2000 }
        retry := {} } := by
  intro config workload tree
  have wholeSeconds : WholeSeconds config.connection := wholeSeconds_standard
  have edited : Relation.ReflTransGen Edits config.toJson tree := by
    refine .head (.sections (.leaveOut [_, _] _ _)) ?_
    refine .head (.fields [_] "workload" (.leaveOut [_, _] _ _) _) ?_
    refine .head (.fields [_] "workload" (.putIn [_, _] ("note", .null) _ (by decide)) _) ?_
    exact .single (.sections (.putIn [] ("tenants", .list []) _ (by decide)))
  obtain ⟨whole, portions, -⟩ := settings_survive_writing wholeSeconds
  refine ⟨wholeSeconds, edited, whole, ?_⟩
  obtain ⟨result, isRead, values⟩ := portions tree edited
  rw [isRead, ← Setting.gather_get result]
  congr 1
  rw [Setting.gather_eq_iff]
  intro setting
  rw [values]
  cases setting <;> rfl

end Config

end TenantLoad
