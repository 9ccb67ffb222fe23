import Mathlib.Data.List.TakeWhile
import RoundRobin.Files.Path

namespace RoundRobin.Path

/-!
# Parents of paths

A path whose last name stands for a place of its own has a parent, and the
parent leads along the same names without the last. Only idle names, those that
stand for the place where they are found, may differ.
-/

/-- No piece of a list that was split at an element has the element. -/
theorem not_mem_of_mem_splitOn
    [BEq α]
    [LawfulBEq α]
    {separator : α}
    {items piece : List α}
    (member : piece ∈ items.splitOn separator) :
    separator ∉ piece := by
  induction items generalizing piece with
  | nil =>
      rw [List.splitOn_nil, List.mem_singleton] at member
      simp [member]
  | cons item rest inductionHypothesis =>
      rw [List.splitOn_cons_eq_if_modifyHead] at member
      split at member
      case isTrue =>
        rcases List.mem_cons.mp member with rfl | later
        · simp
        · exact inductionHypothesis later
      case isFalse apart =>
        obtain ⟨first, others, shape⟩ :=
          List.exists_cons_of_ne_nil (List.splitOn_ne_nil separator rest)
        rw [shape] at inductionHypothesis
        rw [shape, List.modifyHead_cons] at member
        rcases List.mem_cons.mp member with rfl | later
        · have different : separator ≠ item := by
            rintro rfl
            exact apart (beq_self_eq_true _)
          exact
            List.not_mem_cons_of_ne_of_not_mem different
              (inductionHypothesis List.mem_cons_self)
        · exact inductionHypothesis (List.mem_cons_of_mem first later)

/-- A path is its names with slashes between them. -/
theorem intercalate_names (path : String) :
    "/".intercalate (names path) = path := by
  rw [← String.toList_inj, String.toList_intercalate, names,
    List.map_map]
  simp [Function.comp_def, List.intercalate_splitOn]

theorem names_append_slash
    (before after : String) :
    names (before ++ "/" ++ after) = names before ++ names after := by
  simp [names, List.splitOn_append_cons_self]

/-- A slash in a path comes between names. -/
theorem names_of_toList
    {path before : String}
    {after : List Char}
    (shape : path.toList = before.toList ++ '/' :: after) :
    names path = names before ++ names (String.ofList after) := by
  rw [← names_append_slash]
  congr 1
  rw [← String.toList_inj]
  simp [shape]

/-- No name in a path has a slash. -/
theorem slash_not_mem
    {path name : String}
    (member : name ∈ names path) :
    '/' ∉ name.toList := by
  obtain ⟨piece, split, rfl⟩ := List.mem_map.mp member
  rw [String.toList_ofList]
  exact not_mem_of_mem_splitOn split

/-- Names without slashes are the names of the path made of them. -/
theorem names_intercalate
    {parts : List String}
    (free : ∀ part ∈ parts, '/' ∉ part.toList)
    (nonempty : parts ≠ []) :
    names ("/".intercalate parts) = parts := by
  have split :
      List.splitOn '/' (['/'].intercalate (parts.map String.toList)) =
        parts.map String.toList := by
    apply List.splitOn_intercalate
    · simpa using free
    · simpa using nonempty
  rw [names, String.toList_intercalate]
  change (List.splitOn '/' (['/'].intercalate _)).map _ = _
  rw [split]
  simp [Function.comp_def]

theorem intercalate_append
    {leading trailing : List String}
    (leadingNonempty : leading ≠ [])
    (trailingNonempty : trailing ≠ []) :
    "/".intercalate (leading ++ trailing) =
      "/".intercalate leading ++ "/" ++ "/".intercalate trailing := by
  obtain ⟨first, others, rfl⟩ :=
    List.exists_cons_of_ne_nil trailingNonempty
  induction leading with
  | nil => exact (leadingNonempty rfl).elim
  | cons name rest inductionHypothesis =>
      cases rest with
      | nil => simp [String.intercalate_cons_cons]
      | cons next rest =>
          rw [List.cons_append, List.cons_append,
            String.intercalate_cons_cons, String.intercalate_cons_cons,
            ← List.cons_append, inductionHypothesis (by simp)]
          simp only [String.append_assoc]

/-- Leave out all names that stand for the place where they are found. -/
def withoutIdle (names : List String) : List String :=
  names.filter fun name => !staysInPlace name

/-- What is left out at the end is idle. -/
theorem exists_withoutIdleEnd (names : List String) :
    ∃ idle,
      names = withoutIdleEnd names ++ idle ∧ withoutIdle idle = [] := by
  refine ⟨(names.reverse.takeWhile staysInPlace).reverse, ?_, ?_⟩
  · rw [withoutIdleEnd, ← List.reverse_append,
      List.takeWhile_append_dropWhile, List.reverse_reverse]
  · rw [withoutIdle, List.filter_eq_nil_iff]
    intro name member
    have idle := List.mem_takeWhile_imp (List.mem_reverse.mp member)
    simp [idle]

/-- A name that is not idle is not left out at the end. -/
theorem withoutIdleEnd_concat
    {name : String}
    (busy : staysInPlace name = false)
    (way : List String) :
    withoutIdleEnd (way ++ [name]) = way ++ [name] := by
  simp [withoutIdleEnd, busy]

@[simp] theorem withoutIdle_append (leading trailing : List String) :
    withoutIdle (leading ++ trailing) =
      withoutIdle leading ++ withoutIdle trailing := by
  simp [withoutIdle]

/-- The empty path has no name that is not idle. -/
theorem ne_empty_of_names
    {path name : String}
    {way : List String}
    (shape : names path = way ++ [name])
    (busy : staysInPlace name = false) :
    path ≠ "" := by
  rintro rfl
  have member : name ∈ names "" := by
    rw [shape]
    exact List.mem_append_right way (List.mem_singleton_self name)
  obtain rfl : name = "" := List.mem_singleton.mp member
  cases busy

/-- A path is its start and the rest. -/
theorem splitStart_append (path : String) :
    (splitStart path).1 ++ (splitStart path).2 = path := by
  rw [← String.toList_inj]
  unfold splitStart
  split
  · next rest shape => simp [shape]
  · next shape => simp [shape]
  · next rest shape => simp [shape]
  · simp

/-- The names in the rest of a path are those of the path up to idle ones in front. -/
theorem exists_names_splitStart (path : String) :
    ∃ front front' rest,
      names path = front ++ rest ∧
        names (splitStart path).2 = front' ++ rest ∧
        withoutIdle front = [] ∧
        withoutIdle front' = [] := by
  unfold splitStart
  split
  · next rest shape =>
      have whole : names path = names "" ++ _ := names_of_toList shape
      exact ⟨[""], [], _, whole, rfl, rfl, rfl⟩
  · next shape =>
      obtain rfl : path = "." := String.toList_inj.mp shape
      exact ⟨["."], [""], [], rfl, rfl, rfl, rfl⟩
  · next rest shape =>
      have whole : names path = names "." ++ _ := names_of_toList shape
      have below :
          names (String.ofList ('/' :: rest)) = names "" ++ _ :=
        names_of_toList String.toList_ofList
      exact ⟨["."], [""], _, whole, below, rfl, rfl⟩
  · exact ⟨[], [], names path, rfl, rfl, rfl, rfl⟩

/-- Where a path starts is told by its first character, which its start keeps. -/
theorem isAbsolute_splitStart (path : String) :
    isAbsolute (splitStart path).1 = isAbsolute path := by
  unfold splitStart
  split
  · next rest shape => simp [isAbsolute, shape]
  · next shape => simp [isAbsolute, shape]
  · next rest shape => simp [isAbsolute, shape]
  · next others _ _ =>
      cases shape : path.toList with
      | nil => simp [isAbsolute, shape]
      | cons first rest =>
          have notSlash : first ≠ '/' := by
            rintro rfl
            exact others rest shape
          simp [isAbsolute, shape, notSlash]

/-- The parent of a path whose last name is not idle. -/
theorem exists_parent?_eq
    {path name : String}
    {way : List String}
    (shape : names path = way ++ [name])
    (busy : staysInPlace name = false) :
    ∃ way',
      names (splitStart path).2 = way' ++ [name] ∧
        withoutIdle way' = withoutIdle way ∧
        parent? path =
          some
            ((splitStart path).1 ++
              "/".intercalate (withoutIdleEnd way')) := by
  obtain ⟨front, front', rest, whole, below, idle, idle'⟩ :=
    exists_names_splitStart path
  rw [shape] at whole
  -- The last name is in the rest because it is not idle.
  obtain ⟨rest', rfl, rfl⟩ :
      ∃ rest', way = front ++ rest' ∧ rest = rest' ++ [name] := by
    rcases List.eq_nil_or_concat rest with rfl | ⟨rest', last, rfl⟩
    · have onlyIdle := congrArg withoutIdle whole
      rw [List.append_nil, withoutIdle_append, idle] at onlyIdle
      simp [withoutIdle, busy] at onlyIdle
    · rw [List.concat_eq_append, ← List.append_assoc] at whole
      rw [List.concat_eq_append]
      obtain ⟨same, lastSame⟩ := List.append_inj' whole rfl
      exact ⟨rest', same, by rw [List.singleton_inj.mp lastSame]⟩
  refine ⟨front' ++ rest', ?_, ?_, ?_⟩
  · rw [below, List.append_assoc]
  · rw [withoutIdle_append, withoutIdle_append, idle, idle']
  · have kept := withoutIdleEnd_concat busy (front' ++ rest')
    simp only [parent?, below, ← List.append_assoc, kept]
    simp

/-- What comes before a slash of a usable path is usable. -/
theorem isUsable_of_append_slash
    {before after : String}
    (usable : isUsable (before ++ "/" ++ after)) :
    isUsable before := by
  simp only [isUsable, names_append_slash, String.utf8ByteSize_append,
    String.toList_append, List.contains_append, List.all_append,
    Bool.and_eq_true, Bool.not_eq_true', Bool.or_eq_false_iff,
    decide_eq_true_eq] at usable ⊢
  obtain ⟨⟨size, ⟨noNull, -⟩, -⟩, short, -⟩ := usable
  exact ⟨⟨by omega, noNull⟩, short⟩

/-- Where a path starts does not depend on what comes after something. -/
theorem isAbsolute_append
    {before : String}
    (nonempty : before ≠ "")
    (after : String) :
    isAbsolute (before ++ after) = isAbsolute before := by
  obtain ⟨first, rest, shape⟩ :=
    List.exists_cons_of_ne_nil
      (fun empty => nonempty (String.toList_eq_nil_iff.mp empty))
  simp [isAbsolute, shape]

/-- More of a path than its start starts where the path does. -/
theorem isAbsolute_start_append
    {start more after : String}
    (absolute : isAbsolute start = isAbsolute (start ++ more ++ after)) :
    isAbsolute (start ++ more) = isAbsolute (start ++ more ++ after) := by
  by_cases blank : start ++ more = ""
  · obtain ⟨rfl, rfl⟩ := String.append_eq_empty_iff.mp blank
    exact absolute
  · exact (isAbsolute_append blank after).symm

/-- The start of a path is usable, and its names are idle. -/
theorem idle_splitStart (path : String) :
    isUsable (splitStart path).1 ∧
      withoutIdle (names (splitStart path).1) = [] := by
  unfold splitStart
  split
  all_goals
    simp only
    decide

/-- Names that are left of a path are those before a slash in it. -/
theorem exists_slash
    {rest name : String}
    {kept idle : List String}
    (below : names rest = kept ++ idle ++ [name])
    (nonempty : kept ≠ []) :
    ∃ after,
      rest = "/".intercalate kept ++ "/" ++ after ∧
        names after = idle ++ [name] := by
  have free : ∀ part ∈ idle ++ [name], '/' ∉ part.toList := by
    intro part member
    have inRest : part ∈ names rest := by
      rw [below, List.append_assoc]
      exact List.mem_append_right kept member
    exact slash_not_mem inRest
  refine
    ⟨"/".intercalate (idle ++ [name]), ?_,
      names_intercalate free (by simp)⟩
  rw [← intercalate_append nonempty (by simp), ← List.append_assoc,
    ← below, intercalate_names]

/--
A usable path whose last name is not idle has a parent, which is usable too,
starts where the path does, and leads along the same names without the last.
-/
theorem exists_parent?
    {path name : String}
    {way : List String}
    (usable : isUsable path)
    (shape : names path = way ++ [name])
    (busy : staysInPlace name = false) :
    ∃ parent,
      parent? path = some parent ∧
        isUsable parent ∧
        isAbsolute parent = isAbsolute path ∧
        withoutIdle (names parent) = withoutIdle way := by
  obtain ⟨way', below, same, found⟩ := exists_parent?_eq shape busy
  obtain ⟨idle, cut, allIdle⟩ := exists_withoutIdleEnd way'
  have started := splitStart_append path
  have absolute := isAbsolute_splitStart path
  obtain ⟨startUsable, startIdle⟩ := idle_splitStart path
  obtain ⟨start, rest, parts⟩ :
      ∃ start rest, splitStart path = (start, rest) :=
    ⟨_, _, rfl⟩
  rw [parts] at below found started absolute startUsable startIdle
  generalize withoutIdleEnd way' = kept at cut found
  subst cut
  rw [withoutIdle_append, allIdle, List.append_nil] at same
  by_cases empty : kept = []
  · -- Only the start of the path is left.
    subst empty
    refine ⟨start, by simpa using found, startUsable, absolute, ?_⟩
    exact startIdle.trans same
  · obtain ⟨after, cut, left⟩ := exists_slash below empty
    obtain rfl : path = start ++ "/".intercalate kept ++ "/" ++ after := by
      rw [← started, cut]
      simp only [String.append_assoc]
    refine ⟨_, found, isUsable_of_append_slash usable, ?_, ?_⟩
    · rw [String.append_assoc] at absolute ⊢
      exact isAbsolute_start_append absolute
    · rw [names_append_slash, left, ← List.append_assoc] at shape
      rw [← (List.append_inj' shape rfl).1, withoutIdle_append, allIdle,
        List.append_nil]

end RoundRobin.Path
