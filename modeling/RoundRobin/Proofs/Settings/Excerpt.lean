import Mathlib.Data.List.Nodup
import RoundRobin.Proofs.Ron.Plain
import RoundRobin.Proofs.Ron.Reader
import RoundRobin.Settings.Notation

namespace RoundRobin

/-!
# Documents that mention some of the settings

A document of settings may mention any sections, and in each of them any of its
settings, in any order. What it mentions is read as it is written, and all else
has its default.
-/

/-- A section of settings. -/
inductive SettingsSection where
  | log
  | scheduler
  | search
  deriving DecidableEq, Repr

namespace SettingsSection

/-- The key under which the section stands. -/
def key : SettingsSection → String
  | log => "log"
  | scheduler => "scheduler"
  | search => "search"

/-- The name that the record of the section may carry. -/
def recordName : SettingsSection → String
  | log => "LogConfig"
  | scheduler => "SchedulerConfig"
  | search => "SearchConfig"

end SettingsSection

/-- One of the settings. -/
inductive Setting where
  | level
  | initialCapacity
  | logResumptions
  | minDigits
  | primeCount
  deriving DecidableEq, Repr

namespace Setting

/-- The section that the setting belongs to. -/
def part : Setting → SettingsSection
  | level => .log
  | initialCapacity => .scheduler
  | logResumptions => .scheduler
  | minDigits => .search
  | primeCount => .search

/-- The key under which the setting stands in its section. -/
def key : Setting → String
  | level => "level"
  | initialCapacity => "initial_capacity"
  | logResumptions => "log_resumptions"
  | minDigits => "min_digits"
  | primeCount => "prime_count"

/-- The tree of a natural number. -/
def number (n : Nat) : Ron.Tree :=
  .number (.integer { value := n, suffix := none })

/-- What the settings have for the setting, as a tree. -/
def content (settings : Settings) : Setting → Ron.Tree
  | level => .name settings.level.name
  | initialCapacity => number settings.scheduler.initialCapacity
  | logResumptions => .boolean settings.scheduler.logResumptions
  | minDigits => .list (settings.search.minDigits.map number)
  | primeCount => number settings.search.primeCount

end Setting

/-- Some settings of a section, in some order. -/
structure SectionExcerpt where
  part : SettingsSection
  /-- Whether the record of the section carries its name. -/
  named : Bool
  chosen : List Setting
  belong : ∀ setting ∈ chosen, setting.part = part
  once : chosen.Nodup

/-- Some sections, in some order, each with some of its settings. -/
structure Excerpt where
  /-- Whether the record of all settings carries its name. -/
  named : Bool
  sections : List SectionExcerpt
  once : (sections.map SectionExcerpt.part).Nodup

namespace SectionExcerpt

/-- The fields of the section, with what the settings have for them. -/
def fields
    (settings : Settings)
    (excerpt : SectionExcerpt) :
    List (String × Ron.Tree) :=
  excerpt.chosen.map fun setting => (setting.key, setting.content settings)

/-- The section as a tree. -/
def tree
    (settings : Settings)
    (excerpt : SectionExcerpt) :
    Ron.Tree :=
  Ron.recordTree
    (if excerpt.named then some excerpt.part.recordName else none)
    (excerpt.fields settings)

end SectionExcerpt

namespace Excerpt

/-- The sections with their keys. -/
def fields
    (settings : Settings)
    (excerpt : Excerpt) :
    List (String × Ron.Tree) :=
  excerpt.sections.map fun part => (part.part.key, part.tree settings)

/-- The document that mentions what was chosen of the settings, and nothing else. -/
def tree
    (settings : Settings)
    (excerpt : Excerpt) :
    Ron.Tree :=
  Ron.recordTree (if excerpt.named then some "Config" else none)
    (excerpt.fields settings)

/-- Whether the setting was chosen. -/
def Mentions
    (excerpt : Excerpt)
    (setting : Setting) :
    Prop :=
  ∃ part ∈ excerpt.sections, setting ∈ part.chosen

instance
    (excerpt : Excerpt)
    (setting : Setting) :
    Decidable (excerpt.Mentions setting) :=
  inferInstanceAs (Decidable (∃ part ∈ excerpt.sections, setting ∈ part.chosen))

end Excerpt

namespace Settings

/-- The settings that agree with the given ones on what is kept; all else is as by default. -/
def keeping
    (settings : Settings)
    (kept : Setting → Prop)
    [DecidablePred kept] :
    Settings :=
  let standard : Settings := {}
  { level := if kept .level then settings.level else standard.level
    scheduler :=
      { initialCapacity :=
          if kept .initialCapacity then settings.scheduler.initialCapacity
          else standard.scheduler.initialCapacity
        logResumptions :=
          if kept .logResumptions then settings.scheduler.logResumptions
          else standard.scheduler.logResumptions }
    search :=
      { minDigits :=
          if kept .minDigits then settings.search.minDigits
          else standard.search.minDigits
        primeCount :=
          if kept .primeCount then settings.search.primeCount
          else standard.search.primeCount } }

/-- The numbers are within the ranges of their types. -/
structure InRange (settings : Settings) : Prop where
  initialCapacity : settings.scheduler.initialCapacity < UInt64.size
  primeCount : settings.search.primeCount < UInt64.size
  minDigits : ∀ digits ∈ settings.search.minDigits, digits < UInt32.size

end Settings

namespace Ron

section KnownFields

variable
  {items : List β}
  {key : β → String}
  (content : β → Tree)

/-- Nothing is left of fields of other keys. -/
theorem filter_of_absent
    {name : String}
    (absent : ∀ item ∈ items, key item ≠ name) :
    (items.map fun item => (key item, content item)).filter
        (fun entry => entry.1 == name) =
      [] := by
  rw [List.filter_eq_nil_iff]
  intro entry member
  obtain ⟨item, within, rfl⟩ := List.mem_map.mp member
  rw [beq_iff_eq]
  exact absent item within

/-- Of fields with different keys, the one of a key is left. -/
theorem filter_of_mem
    (once : (items.map key).Nodup)
    (member : item ∈ items) :
    (items.map fun item => (key item, content item)).filter
        (fun entry => entry.1 == key item) =
      [(key item, content item)] := by
  induction items with
  | nil => cases member
  | cons first rest inductionHypothesis =>
      obtain ⟨apart, once⟩ := List.nodup_cons.mp once
      rcases List.mem_cons.mp member with rfl | later
      · have others : ∀ other ∈ rest, key other ≠ key item := by
          intro other within same
          exact apart (same ▸ List.mem_map_of_mem within)
        rw [List.map_cons, List.filter_cons, filter_of_absent content others]
        simp only [beq_self_eq_true, ↓reduceIte]
      · have different : (key first == key item) = false := by
          rw [beq_eq_false_iff_ne]
          intro same
          exact apart (same ▸ List.mem_map_of_mem later)
        rw [List.map_cons, List.filter_cons, inductionHypothesis once later]
        simp only [different, Bool.false_eq_true, ↓reduceIte]

variable
  (content? : Tree → Option α)
  (fallback : α)

/-- A known field that stands once is read. -/
theorem knownField?_of_mem
    (once : (items.map key).Nodup)
    (member : item ∈ items) :
    knownField? (key item) content? fallback
        (items.map fun item => (key item, content item)) =
      content? (content item) := by
  rw [knownField?, filter_of_mem content once member]

/-- A known field that does not stand has its default. -/
theorem knownField?_of_absent
    {name : String}
    (absent : ∀ item ∈ items, key item ≠ name) :
    knownField? name content? fallback
        (items.map fun item => (key item, content item)) =
      some fallback := by
  rw [knownField?, filter_of_absent content absent]

end KnownFields

/-- The fields of a record are known if it carries no name or its own. -/
theorem fields?_recordTree
    {extensions : Extensions}
    {expected : String}
    {name : Option String}
    (allowed : extensions.allow expected name)
    (fields : List (String × Tree)) :
    fields? extensions expected (recordTree name fields) = some fields := by
  cases fields with
  | nil => rw [recordTree, fields?, if_pos allowed]
  | cons field fields => rw [recordTree, fields?, if_pos allowed]

/-- A number within the range of its type is read. -/
theorem natural?_number
    (suffix : String)
    {bits n : Nat}
    (fits : n < Nat.pow 2 bits) :
    natural? suffix bits (Setting.number n) = some n := by
  have within : (Width.unsigned bits).holds n := by
    have positive : (0 : Int) ≤ n := Int.natCast_nonneg n
    have bounded : (n : Int) ≤ ((Nat.pow 2 bits : Nat) : Int) - 1 := by omega
    simp only [Width.holds, Width.unsigned, Bool.and_eq_true]
    exact ⟨decide_eq_true positive, decide_eq_true bounded⟩
  simp only [Setting.number, natural?, within, Option.all_none, Bool.and_self,
    ↓reduceIte, Int.toNat_natCast]

/-- Numbers within the range of their type are read. -/
theorem list?_numbers
    (suffix : String)
    {bits : Nat}
    {numbers : List Nat}
    (fits : ∀ n ∈ numbers, n < Nat.pow 2 bits) :
    list? (natural? suffix bits) (.list (numbers.map Setting.number)) =
      some numbers := by
  rw [list?]
  induction numbers with
  | nil => rfl
  | cons n rest inductionHypothesis =>
      have first := natural?_number suffix (fits n List.mem_cons_self)
      have others :=
        inductionHypothesis fun n member => fits n (List.mem_cons_of_mem _ member)
      rw [List.map_cons, List.mapM_cons, first, others]
      rfl

/-- The name of a level is read. -/
theorem level?_name (level : Level) :
    level? (.name level.name) = some level := by
  cases level
  all_goals rfl

end Ron

/-- Different sections have different keys. -/
theorem SettingsSection.key_injective :
    Function.Injective SettingsSection.key := by
  intro part part' same
  revert same
  cases part
  all_goals
    cases part'
    all_goals decide

/-- Different settings have different keys. -/
theorem Setting.key_injective : Function.Injective Setting.key := by
  intro setting setting' same
  revert same
  cases setting
  all_goals
    cases setting'
    all_goals decide

namespace SectionExcerpt

variable
  {settings : Settings}
  {excerpt : SectionExcerpt}

/-- A setting that was chosen is read, and any other has its default. -/
theorem knownField?_fields
    (setting : Setting)
    {content? : Ron.Tree → Option α}
    (fallback : α)
    (reads : content? (setting.content settings) = some value) :
    Ron.knownField? setting.key content? fallback (excerpt.fields settings) =
      some (if setting ∈ excerpt.chosen then value else fallback) := by
  by_cases member : setting ∈ excerpt.chosen
  · have once : (excerpt.chosen.map Setting.key).Nodup :=
      excerpt.once.map Setting.key_injective
    have found :=
      Ron.knownField?_of_mem (Setting.content settings) content? fallback once member
    rw [if_pos member, ← reads]
    exact found
  · have absent : ∀ other ∈ excerpt.chosen, other.key ≠ setting.key := by
      intro other within same
      exact member (Setting.key_injective same ▸ within)
    rw [if_neg member]
    exact Ron.knownField?_of_absent (Setting.content settings) content? fallback absent

/-- The record of a section may carry its own name or none. -/
theorem fields?_tree
    {part : SettingsSection}
    (standing : excerpt.part = part) :
    Ron.fields? {} part.recordName (excerpt.tree settings) =
      some (excerpt.fields settings) := by
  refine Ron.fields?_recordTree ?_ _
  cases excerpt.named with
  | false => rfl
  | true =>
      rw [standing]
      exact beq_self_eq_true part.recordName

/-- The section on logging is read. -/
theorem logSection?_tree
    (log : excerpt.part = .log) :
    Settings.logSection? {} (excerpt.tree settings) =
      some (settings.keeping (· ∈ excerpt.chosen)).level := by
  have fields :
      Ron.fields? {} "LogConfig" (excerpt.tree settings) =
        some (excerpt.fields settings) :=
    excerpt.fields?_tree log
  have level :
      Ron.knownField? "level" Ron.level? .standard (excerpt.fields settings) =
        some (settings.keeping (· ∈ excerpt.chosen)).level :=
    excerpt.knownField?_fields .level Level.standard (Ron.level?_name settings.level)
  rw [Settings.logSection?, fields, Option.bind_eq_bind, Option.bind_some, level]

/-- The section on schedulers is read. -/
theorem ofTree?_scheduler
    (inRange : settings.InRange)
    (scheduler : excerpt.part = .scheduler) :
    SchedulerConfig.ofTree? {} (excerpt.tree settings) =
      some (settings.keeping (· ∈ excerpt.chosen)).scheduler := by
  have fields :
      Ron.fields? {} "SchedulerConfig" (excerpt.tree settings) =
        some (excerpt.fields settings) :=
    excerpt.fields?_tree scheduler
  have initialCapacity :
      Ron.knownField? "initial_capacity" (Ron.natural? "u64" 64) 16
          (excerpt.fields settings) =
        some (settings.keeping (· ∈ excerpt.chosen)).scheduler.initialCapacity :=
    excerpt.knownField?_fields .initialCapacity 16
      (Ron.natural?_number "u64" inRange.initialCapacity)
  have logResumptions :
      Ron.knownField? "log_resumptions" Ron.boolean? true
          (excerpt.fields settings) =
        some (settings.keeping (· ∈ excerpt.chosen)).scheduler.logResumptions :=
    excerpt.knownField?_fields .logResumptions true rfl
  simp only [SchedulerConfig.ofTree?, fields, initialCapacity, logResumptions,
    Option.bind_eq_bind, Option.bind_some]

/-- The section on searches is read. -/
theorem ofTree?_search
    (inRange : settings.InRange)
    (search : excerpt.part = .search) :
    SearchSettings.ofTree? {} (excerpt.tree settings) =
      some (settings.keeping (· ∈ excerpt.chosen)).search := by
  have fields :
      Ron.fields? {} "SearchConfig" (excerpt.tree settings) =
        some (excerpt.fields settings) :=
    excerpt.fields?_tree search
  have minDigits :
      Ron.knownField? "min_digits" (Ron.list? (Ron.natural? "u32" 32)) [7, 9]
          (excerpt.fields settings) =
        some (settings.keeping (· ∈ excerpt.chosen)).search.minDigits :=
    excerpt.knownField?_fields .minDigits [7, 9]
      (Ron.list?_numbers "u32" inRange.minDigits)
  have primeCount :
      Ron.knownField? "prime_count" (Ron.natural? "u64" 64) 20
          (excerpt.fields settings) =
        some (settings.keeping (· ∈ excerpt.chosen)).search.primeCount :=
    excerpt.knownField?_fields .primeCount 20
      (Ron.natural?_number "u64" inRange.primeCount)
  simp only [SearchSettings.ofTree?, fields, minDigits, primeCount,
    Option.bind_eq_bind, Option.bind_some]

end SectionExcerpt

namespace Excerpt

/-- The settings of a section that were chosen. -/
def chosenOf
    (excerpt : Excerpt)
    (standing : SettingsSection) :
    List Setting :=
  match excerpt.sections.find? fun part => part.part = standing with
  | some part => part.chosen
  | none => []

/-- A setting is mentioned if it was chosen of its section. -/
theorem mem_chosenOf
    (excerpt : Excerpt)
    (setting : Setting) :
    setting ∈ excerpt.chosenOf setting.part ↔ excerpt.Mentions setting := by
  rw [chosenOf]
  cases found : excerpt.sections.find? fun part => part.part = setting.part with
  | none =>
      have absent := List.find?_eq_none.mp found
      refine iff_of_false List.not_mem_nil ?_
      rintro ⟨part, within, chosen⟩
      have standing : setting.part = part.part := part.belong setting chosen
      exact absent part within (decide_eq_true standing.symm)
  | some part =>
      have member := List.mem_of_find?_eq_some found
      have standing : part.part = setting.part := by simpa using List.find?_some found
      refine ⟨fun chosen => ⟨part, member, chosen⟩, ?_⟩
      rintro ⟨other, within, chosen⟩
      -- No other part is about the section, so the setting was chosen in this one.
      have same : other.part = part.part :=
        (other.belong setting chosen).symm.trans standing.symm
      have agree : other = part :=
        List.inj_on_of_nodup_map excerpt.once within member same
      exact agree ▸ chosen

/-- A section is read with the settings that were chosen of it, or has its default. -/
theorem knownField?_fields
    {settings : Settings}
    (excerpt : Excerpt)
    (standing : SettingsSection)
    {content? : Ron.Tree → Option α}
    (fallback : α)
    (value : List Setting → α)
    (default : value [] = fallback)
    (reads :
      ∀ part : SectionExcerpt,
        part.part = standing →
        content? (part.tree settings) = some (value part.chosen)) :
    Ron.knownField? standing.key content? fallback (excerpt.fields settings) =
      some (value (excerpt.chosenOf standing)) := by
  let key (part : SectionExcerpt) : String := part.part.key
  let content (part : SectionExcerpt) : Ron.Tree := part.tree settings
  rw [chosenOf]
  cases found : excerpt.sections.find? fun part => part.part = standing with
  | none =>
      have absent : ∀ part ∈ excerpt.sections, key part ≠ standing.key := by
        intro part within same
        have elsewhere := List.find?_eq_none.mp found part within
        exact elsewhere (decide_eq_true (SettingsSection.key_injective same))
      rw [default]
      exact Ron.knownField?_of_absent content content? fallback absent
  | some part =>
      have member := List.mem_of_find?_eq_some found
      have here : part.part = standing := by simpa using List.find?_some found
      have once : (excerpt.sections.map key).Nodup := by
        have keys := excerpt.once.map SettingsSection.key_injective
        rwa [List.map_map] at keys
      have read := Ron.knownField?_of_mem content content? fallback once member
      rw [← here]
      exact read.trans (reads part here)

end Excerpt

namespace Settings

/-- Settings that are kept are decided section by section. -/
theorem keeping_chosenOf
    (settings : Settings)
    (excerpt : Excerpt) :
    settings.keeping excerpt.Mentions =
      { level := (settings.keeping (· ∈ excerpt.chosenOf .log)).level
        scheduler := (settings.keeping (· ∈ excerpt.chosenOf .scheduler)).scheduler
        search := (settings.keeping (· ∈ excerpt.chosenOf .search)).search } := by
  have level := excerpt.mem_chosenOf .level
  have initialCapacity := excerpt.mem_chosenOf .initialCapacity
  have logResumptions := excerpt.mem_chosenOf .logResumptions
  have minDigits := excerpt.mem_chosenOf .minDigits
  have primeCount := excerpt.mem_chosenOf .primeCount
  simp only [Setting.part] at level initialCapacity logResumptions minDigits primeCount
  simp only [keeping, level, initialCapacity, logResumptions, minDigits, primeCount]

/--
A document that mentions some of the settings is read as the settings that
agree with what it mentions and have their defaults otherwise.
-/
theorem ofTree?_excerpt
    {settings : Settings}
    (inRange : settings.InRange)
    (excerpt : Excerpt) :
    ofTree? {} (excerpt.tree settings) = some (settings.keeping excerpt.Mentions) := by
  have fields :
      Ron.fields? {} "Config" (excerpt.tree settings) =
        some (excerpt.fields settings) := by
    refine Ron.fields?_recordTree ?_ _
    cases excerpt.named
    all_goals rfl
  have level :
      Ron.knownField? "log" (logSection? {}) .standard (excerpt.fields settings) =
        some (settings.keeping (· ∈ excerpt.chosenOf .log)).level :=
    excerpt.knownField?_fields .log Level.standard
      (fun chosen => (settings.keeping (· ∈ chosen)).level) rfl
      fun _ log => SectionExcerpt.logSection?_tree log
  have scheduler :
      Ron.knownField? "scheduler" (SchedulerConfig.ofTree? {}) {}
          (excerpt.fields settings) =
        some (settings.keeping (· ∈ excerpt.chosenOf .scheduler)).scheduler :=
    excerpt.knownField?_fields .scheduler ({} : SchedulerConfig)
      (fun chosen => (settings.keeping (· ∈ chosen)).scheduler) rfl
      fun _ scheduler => SectionExcerpt.ofTree?_scheduler inRange scheduler
  have search :
      Ron.knownField? "search" (SearchSettings.ofTree? {}) {}
          (excerpt.fields settings) =
        some (settings.keeping (· ∈ excerpt.chosenOf .search)).search :=
    excerpt.knownField?_fields .search ({} : SearchSettings)
      (fun chosen => (settings.keeping (· ∈ chosen)).search) rfl
      fun _ search => SectionExcerpt.ofTree?_search inRange search
  simp only [ofTree?, fields, level, scheduler, search, Option.bind_eq_bind,
    Option.bind_some, keeping_chosenOf]

end Settings

end RoundRobin
