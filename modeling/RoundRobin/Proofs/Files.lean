import RoundRobin.Proofs.Files.Path
import RoundRobin.Settings.File

namespace RoundRobin.FileTree

/-!
# Files that were written

A file is written at a place where there is no directory. Every path that could
be followed before can be followed as before, so that what was written is found
by the same path. Where no file is on the way of a path, the directories on the
way can be made, and then there is a place for a file at its end.
-/

variable {tree tree' : FileTree}

/-- What is at other places stays as it is. -/
theorem node?_put_of_ne
    (apart : other ≠ place)
    (node : FileNode) :
    (tree.put place node).node? other = tree.node? other := by
  have different : (other == place) = false := beq_eq_false_iff_ne.mpr apart
  simp only [node?, put, List.lookup_cons, different]

/-- Directories stay directories if something is put where there is none. -/
theorem isDirectory_put
    (free : ¬ tree.isDirectory place)
    (node : FileNode)
    (directory : tree.isDirectory other) :
    (tree.put place node).isDirectory other := by
  have apart : other ≠ place := by
    rintro rfl
    exact free directory
  unfold isDirectory at directory ⊢
  rwa [node?_put_of_ne apart]

/-- Names lead where they led before if something is put where there is no directory. -/
theorem follow?_put
    (free : ¬ tree.isDirectory place)
    (node : FileNode)
    {names : List String}
    (leads : tree.follow? start names = some target) :
    (tree.put place node).follow? start names = some target := by
  induction names generalizing start with
  | nil => exact leads
  | cons name rest inductionHypothesis =>
      rw [follow?] at leads ⊢
      split at leads
      case isTrue directory =>
        rw [if_pos (isDirectory_put free node directory)]
        exact inductionHypothesis leads
      case isFalse => cases leads

/-- A path leads where it led before if something is put where there is no directory. -/
theorem resolve?_put
    (free : ¬ tree.isDirectory place)
    (node : FileNode)
    (leads : tree.resolve? path = some target) :
    (tree.put place node).resolve? path = some target := by
  rw [resolve?] at leads ⊢
  split at leads
  case isTrue => cases leads
  case isFalse usable =>
    rw [if_neg usable]
    exact follow?_put free node leads

/-- A file that was written is found. -/
theorem find?_of_write?
    (written : tree.write? path content = some tree') :
    tree'.find? path = some (.file content) := by
  rw [write?] at written
  cases leads : tree.resolve? path with
  | none =>
      rw [leads] at written
      cases written
  | some place =>
      simp only [leads] at written
      split at written
      case isTrue => cases written
      case isFalse free =>
        cases written
        -- The root is a directory, so the place has a last name.
        cases place with
        | nil => exact absurd rfl free
        | cons name parent =>
            rw [find?, resolve?_put free (.file content) leads, Option.bind_some,
              node?_put_self]

/-- The bytes of a text are read as the text. -/
theorem fromUTF8?_toUTF8 (text : String) :
    String.fromUTF8? text.toUTF8 = some text := by
  rw [String.fromUTF8?, String.toUTF8_eq_toByteArray, dif_pos text.isValidUTF8]
  rfl

/-- A text that was written is fetched. -/
theorem fetch_of_write?
    {text : String}
    (written : tree.write? path text.toUTF8 = some tree') :
    tree'.fetch path = .text text := by
  simp only [fetch, find?_of_write? written, fromUTF8?_toUTF8]

/-- Whether there is a file at a place. -/
def isFile
    (tree : FileTree)
    (place : Place) :
    Bool :=
  match tree.node? place with
  | some (.file _) => true
  | _ => false

/-- The place that names lead to from another. -/
def reached
    (place : Place)
    (names : List String) :
    Place :=
  names.foldl towards place

/-- The places along names, from the one they start at to the one they lead to. -/
def stations (place : Place) : List String → List Place
  | [] => [place]
  | name :: rest => place :: stations (towards place name) rest

theorem mem_stations_self
    (place : Place)
    (names : List String) :
    place ∈ stations place names := by
  cases names with
  | nil => exact List.mem_singleton_self place
  | cons name rest => exact List.mem_cons_self

/-- Idle names lead to no other places. -/
theorem mem_stations_withoutIdle
    {names : List String}
    {place station : Place} :
    station ∈ stations place (Path.withoutIdle names) ↔
      station ∈ stations place names := by
  induction names generalizing place with
  | nil => rfl
  | cons name rest inductionHypothesis =>
      by_cases idle : Path.staysInPlace name
      · rw [Path.withoutIdle, List.filter_cons_of_neg (by simp [idle]),
          ← Path.withoutIdle, inductionHypothesis, stations, towards,
          if_pos idle, List.mem_cons]
        constructor
        · exact .inr
        · rintro (rfl | member)
          · exact mem_stations_self station rest
          · exact member
      · rw [Path.withoutIdle, List.filter_cons_of_pos (by simp [idle]),
          ← Path.withoutIdle, stations, stations, List.mem_cons,
          List.mem_cons, inductionHypothesis]

/-- Names can be followed that lead through directories. -/
theorem follow?_concat
    {names : List String}
    {place : Place}
    (directories : ∀ station ∈ stations place names, tree.isDirectory station)
    (name : String) :
    tree.follow? place (names ++ [name]) =
      some (towards (reached place names) name) := by
  induction names generalizing place with
  | nil =>
      have directory := directories place (List.mem_singleton_self place)
      simp [follow?, directory, reached]
  | cons first rest inductionHypothesis =>
      have directory := directories place List.mem_cons_self
      rw [List.cons_append, follow?, if_pos directory,
        inductionHypothesis fun station member =>
          directories station (List.mem_cons_of_mem place member)]
      rfl

/-- Directories have been made at some of the places, where there was nothing. -/
structure Widens
    (tree tree' : FileTree)
    (places : List Place) :
    Prop where
  kept :
    ∀ place node,
      tree.node? place = some node →
      tree'.node? place = some node
  files : ∀ place, tree'.isFile place → tree.isFile place
  directories :
    ∀ place,
      tree'.isDirectory place →
      tree.isDirectory place ∨ place ∈ places
  workingDirectory : tree'.workingDirectory = tree.workingDirectory

theorem isDirectory_iff {place : Place} :
    tree.isDirectory place ↔ tree.node? place = some .directory := by
  unfold isDirectory
  split
  · next directory => simp [directory]
  · next other => simpa using other

namespace Widens

theorem refl
    (tree : FileTree)
    (places : List Place) :
    tree.Widens tree places where
  kept := fun _ _ => id
  files := fun _ => id
  directories := fun _ => .inl
  workingDirectory := rfl

/-- A directory can be made where there is nothing. -/
theorem put
    {place : Place}
    (nothing : tree.node? place = none) :
    tree.Widens (tree.put place .directory) [place] := by
  -- The root is a directory, so the place has a last name.
  cases place with
  | nil => cases nothing
  | cons name parent =>
      refine ⟨?_, ?_, ?_, rfl⟩
      · intro other node found
        have apart : other ≠ name :: parent := by
          rintro rfl
          rw [nothing] at found
          cases found
        rw [node?_put_of_ne apart, found]
      · intro other isFile
        unfold FileTree.isFile at isFile ⊢
        have apart : other ≠ name :: parent := by
          rintro rfl
          rw [node?_put_self] at isFile
          cases isFile
        rwa [node?_put_of_ne apart] at isFile
      · intro other directory
        by_cases same : other = name :: parent
        · exact .inr (List.mem_singleton.mpr same)
        · rw [isDirectory_iff, node?_put_of_ne same] at directory
          exact .inl (isDirectory_iff.mpr directory)

theorem trans
    {tree'' : FileTree}
    {places places' : List Place}
    (first : tree.Widens tree' places)
    (later : tree'.Widens tree'' places') :
    tree.Widens tree'' (places ++ places') where
  kept := fun place node found =>
    later.kept place node (first.kept place node found)
  files := fun place isFile =>
    first.files place (later.files place isFile)
  directories := by
    intro place directory
    rw [List.mem_append, ← or_assoc]
    exact
      (later.directories place directory).imp_left
        (first.directories place)
  workingDirectory :=
    later.workingDirectory.trans first.workingDirectory

theorem isDirectory
    {places : List Place}
    {place : Place}
    (widens : tree.Widens tree' places)
    (directory : tree.isDirectory place) :
    tree'.isDirectory place :=
  isDirectory_iff.mpr
    (widens.kept place .directory (isDirectory_iff.mp directory))

theorem mono
    {places places' : List Place}
    (widens : tree.Widens tree' places)
    (included : places ⊆ places') :
    tree.Widens tree' places' where
  kept := widens.kept
  files := widens.files
  directories := fun place directory =>
    (widens.directories place directory).imp_right fun member =>
      included member
  workingDirectory := widens.workingDirectory

end Widens

/-- A step on the way leads to a directory, which is made if there is nothing. -/
theorem exists_makeWay?_cons
    {place : Place}
    {name : String}
    (clear : ¬ tree.isFile (towards place name)) :
    ∃ tree',
      tree.Widens tree' [towards place name] ∧
        tree'.isDirectory (towards place name) ∧
        ∀ rest,
          makeWay? place (name :: rest) tree =
            makeWay? (towards place name) rest tree' := by
  rcases found : tree.node? (towards place name) with
    _ | content | _
  · refine ⟨_, .put found, ?_, ?_⟩
    · cases shape : towards place name with
      | nil => rfl
      | cons last parent =>
          rw [isDirectory_iff, node?_put_self]
    · intro rest
      simp only [makeWay?, found]
  · exact (clear (by rw [isFile, found])).elim
  · refine ⟨tree, .refl _ _, isDirectory_iff.mpr found, ?_⟩
    intro rest
    simp only [makeWay?, found]

/-- From a directory a way can be made on which there is no file. -/
theorem exists_makeWay?
    {names : List String}
    {place : Place}
    (directory : tree.isDirectory place)
    (clear : ∀ station ∈ stations place names, ¬ tree.isFile station) :
    ∃ tree',
      makeWay? place names tree = some tree' ∧
        tree.Widens tree' (stations place names) ∧
        ∀ station ∈ stations place names, tree'.isDirectory station := by
  induction names generalizing place tree with
  | nil =>
      refine ⟨tree, rfl, .refl _ _, ?_⟩
      simpa [stations] using directory
  | cons name rest inductionHypothesis =>
      have next := mem_stations_self (towards place name) rest
      obtain ⟨middle, widens, reached, made⟩ :=
        exists_makeWay?_cons (clear _ (List.mem_cons_of_mem place next))
      obtain ⟨tree', later, widens', directories⟩ :=
        inductionHypothesis reached fun station member isFile =>
          clear station (List.mem_cons_of_mem place member)
            (widens.files station isFile)
      have both := widens.trans widens'
      refine ⟨tree', (made rest).trans later, both.mono ?_, ?_⟩
      · intro station member
        rcases List.mem_cons.mp member with rfl | member
        · exact List.mem_cons_of_mem place next
        · exact List.mem_cons_of_mem place member
      · intro station member
        rcases List.mem_cons.mp member with rfl | member
        · exact both.isDirectory directory
        · exact directories station member

/--
There is room for a file at the end of a path: the path starts in a directory,
no file is on the way, and the place at its end is neither on the way nor a
directory already.
-/
structure Admits
    (tree : FileTree)
    (path : String)
    (way : List String)
    (name : String) :
    Prop where
  usable : Path.isUsable path
  names : Path.names path = way ++ [name]
  /-- The last name leads to a place of its own. -/
  proper : Path.staysInPlace name = false ∧ name ≠ ".."
  start : tree.isDirectory (tree.startOf path)
  clear :
    ∀ station ∈ stations (tree.startOf path) way,
      ¬ tree.isFile station
  apart :
    name :: reached (tree.startOf path) way ∉
      stations (tree.startOf path) way
  free : ¬ tree.isDirectory (name :: reached (tree.startOf path) way)

/-- Where there is room for a file, the directories on the way can be made for it. -/
theorem Admits.exists_prepare
    {path name : String}
    {way : List String}
    (admits : tree.Admits path way name) :
    ∃ tree',
      Settings.prepare path tree = .ok tree' ∧
        tree.Widens tree' (stations (tree.startOf path) way) ∧
        tree'.resolve? path =
          some (name :: reached (tree.startOf path) way) ∧
        ¬ tree'.isDirectory (name :: reached (tree.startOf path) way) := by
  obtain ⟨busy, forward⟩ := admits.proper
  obtain ⟨parent, found, usable, absolute, same⟩ :=
    Path.exists_parent? admits.usable admits.names busy
  have started : tree.startOf parent = tree.startOf path := by
    rw [startOf, startOf, absolute]
  have along (station : Place) :
      station ∈ stations (tree.startOf path) (Path.names parent) ↔
        station ∈ stations (tree.startOf path) way := by
    rw [← mem_stations_withoutIdle, same, mem_stations_withoutIdle]
  obtain ⟨tree', made, widens, directories⟩ :=
    exists_makeWay? admits.start fun station member =>
      admits.clear station ((along station).mp member)
  refine
    ⟨tree', ?_, widens.mono fun station => (along station).mp, ?_, ?_⟩
  · simp [Settings.prepare, found, makeDirectories?, usable, started, made]
  · have nonempty := Path.ne_empty_of_names admits.names busy
    have start : tree'.startOf path = tree.startOf path := by
      rw [startOf, startOf, widens.workingDirectory]
    have followed :=
      follow?_concat
        (fun station member =>
          directories station ((along station).mpr member))
        name
    simp [resolve?, nonempty, admits.usable, admits.names, start,
      followed, towards, busy, forward]
  · intro directory
    rcases widens.directories _ directory with before | onTheWay
    · exact admits.free before
    · exact admits.apart ((along _).mp onTheWay)

end RoundRobin.FileTree
