import RoundRobin.Proofs.Files
import RoundRobin.Proofs.Settings.Excerpt

namespace RoundRobin

/-!
# Settings are read back

What is written for settings is read as the settings, from the text and from
the file that was saved. Any document that mentions some of the settings is read
as these, with defaults for the others, however it is laid out.
-/

namespace Ron

/-- Items that can be spelled can be spelled in a row. -/
theorem exists_spells_items
    {items : List Tree}
    (each : ∀ item ∈ items, ∃ spelling, Spells depth (.value item) spelling) :
    ∃ spelling, Spells depth (.items items) spelling := by
  induction items with
  | nil => exact ⟨[], .noItems .nil⟩
  | cons item rest inductionHypothesis =>
      obtain ⟨spelling, spells⟩ := each item List.mem_cons_self
      obtain ⟨others, more⟩ :=
        inductionHypothesis fun item member => each item (List.mem_cons_of_mem _ member)
      exact ⟨_, .moreItems .nil spells .nil more⟩

/-- Fields whose contents can be spelled can be spelled in a row. -/
theorem exists_spells_fields
    {fields : List (String × Tree)}
    (named : ∀ field ∈ fields, IsName field.1)
    (each : ∀ field ∈ fields, ∃ spelling, Spells depth (.value field.2) spelling) :
    ∃ spelling, Spells depth (.fields fields) spelling := by
  induction fields with
  | nil => exact ⟨[], .noFields .nil⟩
  | cons field rest inductionHypothesis =>
      obtain ⟨spelling, spells⟩ := each field List.mem_cons_self
      obtain ⟨others, more⟩ :=
        inductionHypothesis
          (fun field member => named field (List.mem_cons_of_mem _ member))
          fun field member => each field (List.mem_cons_of_mem _ member)
      have first := Spells.field (named field List.mem_cons_self) .nil .nil spells
      exact ⟨_, .moreFields .nil first .nil more⟩

/-- A record of fields that can be spelled can be spelled, with its name or without. -/
theorem exists_spells_record
    {name : String}
    {fields : List (String × Tree)}
    (isName : IsName name)
    (free : name ∉ reserved)
    (named : Bool)
    (content : ∃ spelling, Spells depth (.fields fields) spelling) :
    ∃ spelling,
      Spells (depth + 1)
        (.value (recordTree (if named then some name else none) fields)) spelling := by
  obtain ⟨spelling, spells⟩ := content
  cases named with
  | false => exact ⟨_, .record .none spells⟩
  | true => exact ⟨_, .record (.some isName free .nil) spells⟩

/-- A record can be read back if its keys are names and its contents can be read back. -/
theorem Plain.Sound.ofKeys
    {fields : List (String × Plain)}
    (named : ∀ key ∈ fields.map Prod.fst, IsName key)
    (each : ∀ content ∈ fields.map Prod.snd, Sound depth content) :
    Sound (depth + 1) (.record fields) :=
  .record
    (fun _ member => named _ (List.mem_map_of_mem member))
    fun _ member => each _ (List.mem_map_of_mem member)

end Ron

/-- The key of a setting is a name. -/
theorem Setting.isName_key (setting : Setting) : Ron.IsName setting.key := by
  cases setting
  all_goals decide

/-- The key of a section is a name. -/
theorem SettingsSection.isName_key (part : SettingsSection) : Ron.IsName part.key := by
  cases part
  all_goals decide

/-- The name of the record of a section is a name. -/
theorem SettingsSection.isName_recordName
    (part : SettingsSection) :
    Ron.IsName part.recordName ∧ part.recordName ∉ Ron.reserved := by
  cases part
  all_goals decide

/-- The name of a level is a name. -/
theorem Level.isName_name
    (level : Level) :
    Ron.IsName level.name ∧ level.name ∉ Ron.reserved := by
  cases level
  all_goals decide

section Spelling

variable {settings : Settings}

/-- What the settings have for a setting can be spelled. -/
theorem Setting.exists_spells
    (inRange : settings.InRange)
    (setting : Setting) :
    ∃ spelling,
      Ron.Spells (depth + 1) (.value (setting.content settings)) spelling := by
  cases setting with
  | level =>
      obtain ⟨isName, free⟩ := settings.level.isName_name
      exact ⟨_, .name isName free⟩
  | initialCapacity => exact ⟨_, .number inRange.initialCapacity⟩
  | logResumptions => exact ⟨_, .boolean settings.scheduler.logResumptions⟩
  | minDigits =>
      have numbers :
          ∃ spelling,
            Ron.Spells depth (.items (settings.search.minDigits.map number)) spelling := by
        refine Ron.exists_spells_items fun item member => ?_
        obtain ⟨digits, within, rfl⟩ := List.mem_map.mp member
        have fits := inRange.minDigits digits within
        exact ⟨_, .number (Nat.lt_trans fits (by decide))⟩
      obtain ⟨_, spells⟩ := numbers
      exact ⟨_, .list spells⟩
  | primeCount => exact ⟨_, .number inRange.primeCount⟩

/-- Some settings of a section can be spelled. -/
theorem SectionExcerpt.exists_spells
    (inRange : settings.InRange)
    (excerpt : SectionExcerpt) :
    ∃ spelling,
      Ron.Spells (depth + 2) (.value (excerpt.tree settings)) spelling := by
  obtain ⟨isName, free⟩ := excerpt.part.isName_recordName
  refine Ron.exists_spells_record isName free excerpt.named ?_
  refine Ron.exists_spells_fields ?_ ?_
  · intro field member
    obtain ⟨setting, _, rfl⟩ := List.mem_map.mp member
    exact setting.isName_key
  · intro field member
    obtain ⟨setting, _, rfl⟩ := List.mem_map.mp member
    exact setting.exists_spells inRange

/-- There is a document that mentions just the settings that were chosen. -/
theorem Excerpt.exists_means
    (inRange : settings.InRange)
    (excerpt : Excerpt) :
    ∃ text, Ron.Means text (excerpt.tree settings) := by
  have document :
      ∃ spelling,
        Ron.Spells Ron.maxDepth (.value (excerpt.tree settings)) spelling := by
    have isName : Ron.IsName "Config" := by decide
    refine Ron.exists_spells_record isName (by decide) excerpt.named ?_
    refine Ron.exists_spells_fields ?_ ?_
    · intro field member
      obtain ⟨part, _, rfl⟩ := List.mem_map.mp member
      exact part.part.isName_key
    · intro field member
      obtain ⟨part, _, rfl⟩ := List.mem_map.mp member
      exact part.exists_spells inRange
  obtain ⟨spelling, spells⟩ := document
  refine ⟨String.ofList spelling, [], spelling, [], .nil, spells, .blanks .nil, ?_⟩
  rw [String.toList_ofList, List.nil_append, List.append_nil]

end Spelling

/-- All settings of a section. -/
def SectionExcerpt.whole : SettingsSection → SectionExcerpt
  | .log =>
      { part := .log
        named := false
        chosen := [.level]
        belong := by decide
        once := by decide }
  | .scheduler =>
      { part := .scheduler
        named := false
        chosen := [.initialCapacity, .logResumptions]
        belong := by decide
        once := by decide }
  | .search =>
      { part := .search
        named := false
        chosen := [.minDigits, .primeCount]
        belong := by decide
        once := by decide }

/-- All settings, in the order in which they are written. -/
def Excerpt.whole : Excerpt where
  named := false
  sections := [.whole .log, .whole .scheduler, .whole .search]
  once := by decide

namespace Settings

variable {settings : Settings}

/-- Nothing is as by default if all settings are mentioned. -/
theorem keeping_whole (settings : Settings) :
    settings.keeping Excerpt.whole.Mentions = settings := by
  have all (setting : Setting) : Excerpt.whole.Mentions setting := by
    cases setting
    all_goals decide
  simp only [keeping, all, ↓reduceIte]

/-- Numbers are written as numbers. -/
theorem trees_numbers (numbers : List Nat) :
    Ron.Plain.trees (numbers.map .number) = numbers.map Setting.number := by
  induction numbers with
  | nil => rfl
  | cons n rest inductionHypothesis =>
      rw [List.map_cons, Ron.Plain.trees, inductionHypothesis]
      rfl

/-- The document that is written mentions all settings. -/
theorem tree_document (settings : Settings) :
    settings.document.tree = Excerpt.whole.tree settings := by
  simp only [document, Ron.Plain.tree, Ron.Plain.fieldTrees, trees_numbers]
  rfl

/-- The document that is written can be read back. -/
theorem sound_document
    (inRange : settings.InRange) :
    settings.document.Sound Ron.maxDepth := by
  have log :
      Ron.Plain.Sound 63 (.record [("level", .name settings.level.name)]) := by
    obtain ⟨isName, free⟩ := settings.level.isName_name
    have keys : ∀ key ∈ ["level"], Ron.IsName key := by decide
    exact .ofKeys keys fun | _, .head _ => .name isName free
  have scheduler :
      Ron.Plain.Sound 63
        (.record
          [("initial_capacity", .number settings.scheduler.initialCapacity),
            ("log_resumptions", .boolean settings.scheduler.logResumptions)]) := by
    have keys : ∀ key ∈ ["initial_capacity", "log_resumptions"], Ron.IsName key := by
      decide
    exact .ofKeys keys fun
      | _, .head _ => .number inRange.initialCapacity
      | _, .tail _ (.head _) => .boolean _
  have search :
      Ron.Plain.Sound 63
        (.record
          [("min_digits", .list (settings.search.minDigits.map .number)),
            ("prime_count", .number settings.search.primeCount)]) := by
    have keys : ∀ key ∈ ["min_digits", "prime_count"], Ron.IsName key := by decide
    have minDigits :
        ∀ item ∈ settings.search.minDigits.map Ron.Plain.number,
          Ron.Plain.Sound 61 item := by
      intro item member
      obtain ⟨digits, within, rfl⟩ := List.mem_map.mp member
      exact .number (Nat.lt_trans (inRange.minDigits digits within) (by decide))
    exact .ofKeys keys fun
      | _, .head _ => .list minDigits
      | _, .tail _ (.head _) => .number inRange.primeCount
  have keys : ∀ key ∈ ["log", "scheduler", "search"], Ron.IsName key := by decide
  exact .ofKeys keys fun
    | _, .head _ => log
    | _, .tail _ (.head _) => scheduler
    | _, .tail _ (.tail _ (.head _)) => search

/-- What is written means all settings. -/
theorem means_text
    (inRange : settings.InRange) :
    Ron.Means settings.text (Excerpt.whole.tree settings) := by
  rw [← tree_document]
  exact Ron.Plain.means_text (sound_document inRange)

/-- A document that mentions some of the settings is read as these, with defaults for the others. -/
theorem parse_excerpt
    {excerpt : Excerpt}
    {text : String}
    (inRange : settings.InRange)
    (means : Ron.Means text (excerpt.tree settings)) :
    parse text = .ok (settings.keeping excerpt.Mentions) := by
  have parsed := Ron.parse?_of_means means
  simp only [parse, parse?, parsed, Option.bind_some, ofTree?_excerpt inRange]

/-- A file of settings that was saved holds what is written for them. -/
theorem fetch_of_save
    (saved : settings.save path tree = .ok tree') :
    tree'.fetch path = .text settings.text := by
  simp only [save, bind, Except.bind] at saved
  cases prepared : prepare path tree with
  | error failure => simp only [prepared, reduceCtorEq] at saved
  | ok way =>
      simp only [prepared] at saved
      cases written : way.write? path settings.text.toUTF8 with
      | none => simp only [written, reduceCtorEq] at saved
      | some after =>
          simp only [written, Except.ok.injEq] at saved
          subst saved
          exact FileTree.fetch_of_write? written

/-- Where a path leads to no directory, settings are saved once the way to it is made. -/
theorem save_eq_ok
    {way : FileTree}
    {place : Place}
    (settings : Settings)
    (prepared : prepare path tree = .ok way)
    (leads : way.resolve? path = some place)
    (free : ¬ way.isDirectory place) :
    settings.save path tree =
      .ok (way.put place (.file settings.text.toUTF8)) := by
  simp [save, bind, Except.bind, prepared, FileTree.write?, leads, free]

/-- Settings are read back from what is written for them. -/
structure ReadBack (settings : Settings) : Prop where
  parsed : parse settings.text = .ok settings
  /-- A file that settings were saved to has just that text, and is loaded as the settings. -/
  saved :
    ∀ path tree tree',
      settings.save path tree = .ok tree' →
      tree'.fetch path = .text settings.text ∧
        load tree'.fetch (.required path) = .ok settings
  /--
  They are saved wherever a file can be written, the directories on the way
  having been made.
  -/
  writable :
    ∀ {path tree way place},
      prepare path tree = .ok way →
      way.resolve? path = some place →
      ¬ way.isDirectory place →
      ∃ tree',
        settings.save path tree = .ok tree' ∧
          tree'.fetch path = .text settings.text
  /--
  That is so wherever there is room for a file, whatever directories are
  missing; and what is at other places stays there.
  -/
  admitted :
    ∀ {path tree way name},
      FileTree.Admits tree path way name →
      ∃ tree',
        settings.save path tree = .ok tree' ∧
          tree'.fetch path = .text settings.text ∧
          ∀ place node,
            place ≠ name :: FileTree.reached (tree.startOf path) way →
            tree.node? place = some node →
            tree'.node? place = some node
  /--
  A document that mentions some of the settings, in whatever order and layout,
  is read as the settings that agree with it and have their defaults otherwise,
  and there is such a document for any choice of settings.
  -/
  excerpt :
    ∀ excerpt : Excerpt,
      (∃ text, Ron.Means text (excerpt.tree settings)) ∧
        ∀ text,
          Ron.Means text (excerpt.tree settings) →
          parse text = .ok (settings.keeping excerpt.Mentions)

/-- All settings that are in range are read back, also by way of a file. -/
theorem read_back
    {settings : Settings}
    (inRange : settings.InRange) :
    settings.ReadBack := by
  have parsed : parse settings.text = .ok settings := by
    rw [parse_excerpt inRange (means_text inRange), keeping_whole]
  refine
    { parsed := parsed
      saved := ?_
      writable := ?_
      admitted := ?_
      excerpt := ?_ }
  · intro path tree tree' saved
    have fetched := fetch_of_save saved
    refine ⟨fetched, ?_⟩
    rw [load, fetched]
    exact parsed
  · intro path tree way place prepared leads free
    have saved := settings.save_eq_ok prepared leads free
    exact ⟨_, saved, fetch_of_save saved⟩
  · intro path tree way name admits
    obtain ⟨made, prepared, widens, leads, free⟩ := admits.exists_prepare
    have saved := settings.save_eq_ok prepared leads free
    refine ⟨_, saved, fetch_of_save saved, ?_⟩
    intro place node apart found
    rw [FileTree.node?_put_of_ne apart]
    exact widens.kept place node found
  · intro excerpt
    exact
      ⟨excerpt.exists_means inRange, fun _ means =>
        parse_excerpt inRange means⟩

/-- Settings for a short search, with everything logged. -/
def short : Settings where
  level := .debug
  search := { minDigits := [3], primeCount := 5 }

/-- The numbers of digits and the level, in this order. -/
def reordered : Excerpt where
  named := true
  sections :=
    [{ part := .search
       named := false
       chosen := [.minDigits]
       belong := by decide
       once := by decide },
      .whole .log]
  once := by decide

/-- A tree with one directory and one file. -/
def stocked : FileTree where
  entries :=
    [(["etc"], .directory), (["motd", "etc"], .file "Welcome".toUTF8)]

/--
A document with a name in front, a comment, and the sections in another order is
read. The settings are saved in a directory that is made for them, beside a file
that stays as it is, and in one that is there already, and they are loaded from
both.
-/
theorem read_back_of_reordered :
    short.InRange ∧
      parse short.text = .ok short ∧
      parse "Config(search:(min_digits:[3]),// all else by default\nlog:(level:debug))" =
        .ok { level := .debug, search := { minDigits := [3] } } ∧
      (∃ tree,
        short.save "/etc/coopsched/config.ron" stocked = .ok tree ∧
          tree.fetch "/etc/coopsched/config.ron" = .text short.text ∧
          tree.node? ["motd", "etc"] = some (.file "Welcome".toUTF8) ∧
          load tree.fetch (.required "/etc/coopsched/config.ron") =
            .ok short) ∧
      ∃ tree,
        short.save "etc/config.ron" stocked = .ok tree ∧
          tree.fetch "etc/config.ron" = .text short.text ∧
          load tree.fetch (.required "etc/config.ron") = .ok short := by
  have inRange : short.InRange :=
    { initialCapacity := by decide
      primeCount := by decide
      minDigits := by decide }
  have minDigits :
      Ron.Spells 62 (.field "min_digits" (.list [Setting.number 3]))
        "min_digits:[3]".toList :=
    .field (by decide) .nil .nil (.list (.lastItem .nil (.number (by decide)) .nil))
  have level :
      Ron.Spells 62 (.field "level" (.name "debug")) "level:debug".toList :=
    .field (by decide) .nil .nil (.name (by decide) (by decide))
  have search :
      Ron.Spells 63
        (.field "search"
          (Ron.recordTree none [("min_digits", .list [Setting.number 3])]))
        "search:(min_digits:[3])".toList :=
    .field (by decide) .nil .nil (.record .none (.lastField .nil minDigits .nil))
  have log :
      Ron.Spells 63 (.field "log" (Ron.recordTree none [("level", .name "debug")]))
        "log:(level:debug)".toList :=
    .field (by decide) .nil .nil (.record .none (.lastField .nil level .nil))
  have comment : Ron.Blanks "// all else by default\n".toList :=
    have body : ∀ character ∈ " all else by default".toList, character ≠ '\n' :=
      List.all_iff_forall_prop.mp (by decide)
    .lineComment body .nil
  have name : Ron.SpellsName (some "Config") "Config".toList :=
    .some (by decide) (by decide) .nil
  have document :=
    Ron.Spells.record name (.moreFields .nil search .nil (.lastField comment log .nil))
  have means :
      Ron.Means
        "Config(search:(min_digits:[3]),// all else by default\nlog:(level:debug))"
        (reordered.tree short) :=
    ⟨[], _, [], .nil, document, .blanks .nil, by decide⟩
  have readBack := read_back inRange
  have room :
      stocked.Admits "/etc/coopsched/config.ron" ["", "etc", "coopsched"]
        "config.ron" :=
    { usable := by decide
      names := by decide
      proper := by decide
      start := by decide
      clear := by decide
      apart := by decide
      free := by decide }
  obtain ⟨tree, saved, fetched, kept⟩ := readBack.admitted room
  have loaded := (readBack.saved _ _ _ saved).2
  have prepared : prepare "etc/config.ron" stocked = .ok stocked := rfl
  obtain ⟨tree', saved', fetched'⟩ :=
    readBack.writable prepared
      (show stocked.resolve? _ = some ["config.ron", "etc"] from rfl)
      (by decide)
  have loaded' := (readBack.saved _ _ _ saved').2
  exact
    ⟨inRange, readBack.parsed, (readBack.excerpt reordered).2 _ means,
      ⟨tree, saved, fetched, kept _ _ (by decide) rfl, loaded⟩,
      tree', saved', fetched', loaded'⟩

end Settings

end RoundRobin
