/-
What writing a file does.  One place changes, which is not a directory before or after; so the
directories stay what they are, and paths that lead to a place lead to it still.
-/
import TaskScript.Files.Workspace

namespace TaskScript

section Except

variable {ε α β : Type} {answer : Except ε α}

theorem exists_of_bind_eq_ok {next : α → Except ε β} {result : β}
    (h : answer >>= next = .ok result) : ∃ value, answer = .ok value ∧ next value = .ok result := by
  cases answer with
  | error error => cases h
  | ok value => exact ⟨value, rfl, h⟩

theorem toOption_eq_some_iff {value : α} : answer.toOption = some value ↔ answer = .ok value := by
  cases answer <;> simp [Except.toOption]

end Except

namespace Path

theorem pieces_ne_nil (chars : List Char) : pieces chars ≠ [] := by
  cases chars with
  | nil => simp [pieces]
  | cons c rest =>
      rw [pieces]
      split
      · simp
      · split <;> simp

theorem pieces_append_slash (front back : List Char) :
    pieces (front ++ '/' :: back) = pieces front ++ pieces back := by
  induction front with
  | nil => simp [pieces]
  | cons c front ih =>
      rw [List.cons_append, pieces, pieces, ih]
      split
      · rfl
      · cases h : pieces front with
        | nil => exact absurd h (pieces_ne_nil front)
        | cons piece others => rfl

theorem pieces_of_not_mem {chars : List Char} (hplain : '/' ∉ chars) : pieces chars = [chars] := by
  induction chars with
  | nil => rfl
  | cons c rest ih =>
      rw [List.mem_cons, not_or] at hplain
      obtain ⟨hne, hrest⟩ := hplain
      rw [pieces, if_neg (Ne.symm hne), ih hrest]

theorem isAbsolute_of_not_mem {path : String} (hplain : '/' ∉ path.toList) :
    isAbsolute path = false := by
  rw [isAbsolute, beq_eq_false_iff_ne]
  exact fun h => hplain (List.mem_of_head? h)

theorem join_empty (path : String) : join "" path = path := by
  simp [join]

theorem isIdle_of_two_le {piece : List Char} (hlength : 2 ≤ piece.length) :
    isIdle piece = false := by
  match piece with
  | [] => simp at hlength
  | [_] => simp at hlength
  | _ :: _ :: _ => simp [isIdle]

/-- A name that is joined to a path is the last piece. -/
theorem pieces_join {base name : String} (hbase : base ≠ "") (hplain : '/' ∉ name.toList) :
    ∃ rest steps, join base name = base ++ rest ∧
      pieces (join base name).toList = steps ++ [name.toList] ∧
      (pieces base.toList = steps ∨ pieces base.toList = steps ++ [[]]) := by
  have hrelative : (isAbsolute name || base.isEmpty) = false := by
    rw [isAbsolute_of_not_mem hplain, Bool.false_or]
    simpa using hbase
  unfold join
  rw [if_neg (by simp [hrelative])]
  by_cases hslash : base.toList.getLast? = some '/'
  · obtain ⟨front, hfront⟩ := List.getLast?_eq_some_iff.mp hslash
    rw [if_pos (by simp [hslash])]
    refine ⟨name, pieces front, rfl, ?_, .inr ?_⟩
    · rw [String.toList_append, hfront, List.append_assoc, List.singleton_append,
        pieces_append_slash, pieces_of_not_mem hplain]
    · rw [hfront, pieces_append_slash]
      rfl
  · rw [if_neg (by simp [hslash])]
    refine ⟨"/" ++ name, pieces base.toList, String.append_assoc .., ?_, .inl rfl⟩
    have hjoined : (base ++ "/" ++ name).toList = base.toList ++ '/' :: name.toList := by simp
    rw [hjoined, pieces_append_slash, pieces_of_not_mem hplain]

theorem isAbsolute_append {base : String} (hbase : base ≠ "") (rest : String) :
    isAbsolute (base ++ rest) = isAbsolute base := by
  have hne : base.toList ≠ [] := by simpa using hbase
  unfold isAbsolute
  rw [String.toList_append]
  cases h : base.toList with
  | nil => exact absurd h hne
  | cons c chars => rfl

end Path

namespace Workspace

variable {workspace next : Workspace} {location other : Location} {node : Node}
  {path contents : String}

theorem lookup_map_replace (nodes : List (Location × Node)) :
    (nodes.map fun entry => if entry.1 = location then (location, node) else entry).lookup other =
      if other = location then (nodes.lookup location).map fun _ => node
      else nodes.lookup other := by
  induction nodes with
  | nil => simp
  | cons entry nodes ih =>
      rw [List.map_cons, List.lookup_cons, List.lookup_cons, List.lookup_cons, ih]
      by_cases hother : other = location
      · subst hother
        by_cases hentry : entry.1 = other
        · simp [hentry]
        · have hmiss : (other == entry.1) = false := beq_false_of_ne (Ne.symm hentry)
          simp [hentry, hmiss]
      · have hmiss : (other == location) = false := beq_false_of_ne hother
        by_cases hentry : entry.1 = location
        · simp [hentry, hother, hmiss]
        · simp [hentry, hother]

theorem lookup_nodes_put :
    (workspace.put location node).nodes.lookup other =
      if other = location then some node else workspace.nodes.lookup other := by
  unfold put
  split
  · rename_i hthere
    have hsome : (workspace.nodes.lookup location).isSome = true := by
      simpa [List.lookup_isSome_iff] using hthere
    obtain ⟨held, hheld⟩ := Option.isSome_iff_exists.mp hsome
    simp only [lookup_map_replace, hheld, Option.map_some]
  · rename_i hfree
    have hnone : workspace.nodes.lookup location = none := by
      simp only [List.any_eq_true, beq_iff_eq, not_exists, not_and] at hfree
      rw [List.lookup_eq_none_iff]
      intro entry hentry
      simpa using Ne.symm (hfree entry hentry)
    by_cases hother : other = location
    · subst hother
      rw [if_pos rfl, List.lookup_append, hnone, Option.none_or, List.lookup_cons_self]
    · have hmiss : (other == location) = false := beq_false_of_ne hother
      simp only [List.lookup_append, List.lookup_cons, hmiss, List.lookup_nil, Option.or_none,
        if_neg hother]

theorem node?_put (hplace : location ≠ []) :
    (workspace.put location node).node? other =
      if other = location then some node else workspace.node? other := by
  unfold node?
  rw [lookup_nodes_put]
  cases other with
  | nil => simp [Ne.symm hplace]
  | cons name rest => simp

theorem write?_eq_some (hwritten : workspace.write? path contents = some next) :
    ∃ location, workspace.locate path = .ok location ∧
      workspace.node? location ≠ some .directory ∧
      next = workspace.put location (.file contents) := by
  have hok : workspace.write path contents = .ok next := toOption_eq_some_iff.mp hwritten
  unfold write at hok
  split at hok
  · obtain ⟨_, _, hthrown⟩ := exists_of_bind_eq_ok hok
    cases hthrown
  · obtain ⟨location, hlocation, hput⟩ := exists_of_bind_eq_ok hok
    refine ⟨location, hlocation, ?_⟩
    split at hput
    · cases hput
    · rename_i hfile
      exact ⟨by simp [hfile], (Except.ok.inj hput).symm⟩
    · rename_i hnone
      exact ⟨by simp [hnone], (Except.ok.inj hput).symm⟩

theorem write?_eq (hslash : path.toList.getLast? ≠ some '/')
    (hlocate : workspace.locate path = .ok location)
    (hfile : workspace.node? location ≠ some .directory) :
    workspace.write? path contents = some (workspace.put location (.file contents)) := by
  refine toOption_eq_some_iff.mpr ?_
  unfold write
  rw [if_neg hslash, hlocate]
  simp only [bind, Except.bind]
  split
  · exact absurd ‹_› hfile
  · rfl
  · rfl

/-- Two workspaces have the same directories, and the same one is the current one. -/
structure SameDirectories (first second : Workspace) : Prop where
  current : first.current = second.current
  directory : ∀ location,
    first.node? location = some .directory ↔ second.node? location = some .directory

theorem SameDirectories.refl (workspace : Workspace) : SameDirectories workspace workspace :=
  ⟨rfl, fun _ => Iff.rfl⟩

theorem ne_nil_of_node?_ne (hfile : workspace.node? location ≠ some .directory) :
    location ≠ [] := by
  rintro rfl
  exact hfile rfl

/-- A file is put where no directory is. -/
theorem sameDirectories_put (hfile : workspace.node? location ≠ some .directory) :
    SameDirectories workspace (workspace.put location (.file contents)) where
  current := by unfold put; split <;> rfl
  directory other := by
    rw [node?_put (ne_nil_of_node?_ne hfile)]
    split
    · rename_i h
      simp [h, hfile]
    · rfl

theorem walk_eq_ok_iff {pieces : List (List Char)} :
    workspace.walk path pieces = .ok location ↔
      ('\x00' ∉ path.toList ∧ path ≠ "" ∧ path.utf8ByteSize ≤ pathLimit) ∧
        pieces.foldlM workspace.step (if Path.isAbsolute path then [] else workspace.current) =
          .ok location := by
  unfold walk
  by_cases hnull : '\x00' ∈ path.toList
  · simp [hnull]
  · by_cases hempty : path = ""
    · simp [hempty]
    · by_cases hlong : pathLimit < path.utf8ByteSize
      · simp [hnull, hempty, hlong, Nat.not_le_of_lt hlong]
      · simp [hnull, hempty, hlong, Nat.le_of_not_lt hlong]

section Step

variable {home : Location} {piece : List Char}

theorem node?_of_step (hstep : workspace.step home piece = .ok location) :
    workspace.node? home = some .directory := by
  unfold step at hstep
  split at hstep
  · cases hstep
  · cases hstep
  · assumption

theorem step_idle (hhome : workspace.node? home = some .directory) :
    workspace.step home [] = .ok home := by
  simp [step, hhome, Path.isIdle]

theorem eq_of_step (hidle : Path.isIdle piece = false) (hup : piece ≠ ['.', '.'])
    (hstep : workspace.step home piece = .ok location) :
    location = home ++ [String.ofList piece] := by
  have hhome := node?_of_step hstep
  simp only [step, hhome, hidle, hup, if_false, Bool.false_eq_true] at hstep
  split at hstep
  · cases hstep
  · exact (Except.ok.inj hstep).symm

end Step

namespace SameDirectories

variable {first second : Workspace} (hsame : SameDirectories first second)

include hsame

theorem symm : SameDirectories second first :=
  ⟨hsame.current.symm, fun location => (hsame.directory location).symm⟩

theorem step {home : Location} {piece : List Char} (hstep : first.step home piece = .ok location) :
    second.step home piece = .ok location := by
  have hhome := node?_of_step hstep
  unfold Workspace.step at hstep ⊢
  rw [hhome] at hstep
  rwa [(hsame.directory home).mp hhome]

theorem foldlM_step {start : Location} {pieces : List (List Char)}
    (hsteps : pieces.foldlM first.step start = .ok location) :
    pieces.foldlM second.step start = .ok location := by
  induction pieces generalizing start with
  | nil => exact hsteps
  | cons piece pieces ih =>
      rw [List.foldlM_cons] at hsteps ⊢
      obtain ⟨middle, hmiddle, hrest⟩ := exists_of_bind_eq_ok hsteps
      rw [hsame.step hmiddle]
      exact ih hrest

theorem locate (hlocate : first.locate path = .ok location) :
    second.locate path = .ok location := by
  unfold Workspace.locate at hlocate ⊢
  rw [walk_eq_ok_iff] at hlocate ⊢
  exact ⟨hlocate.1, hsame.current ▸ hsame.foldlM_step hlocate.2⟩

theorem locate_eq_ok_iff : first.locate path = .ok location ↔ second.locate path = .ok location :=
  ⟨hsame.locate, hsame.symm.locate⟩

theorem isDirectory_eq (path : String) : first.isDirectory path = second.isDirectory path := by
  have hiff (workspace : Workspace) : workspace.isDirectory path = true ↔
      ∃ location, workspace.locate path = .ok location ∧
        workspace.node? location = some .directory := by
    unfold isDirectory find
    cases workspace.locate path with
    | error error => simp [bind, Except.bind]
    | ok location =>
        cases h : workspace.node? location with
        | none => simp [bind, Except.bind, h]
        | some node => cases node <;> simp [bind, Except.bind, h]
  rw [Bool.eq_iff_iff, hiff, hiff]
  simp only [hsame.locate_eq_ok_iff, hsame.directory]

end SameDirectories

/-- A file that is put elsewhere does not change what is read. -/
theorem read?_put (hfile : workspace.node? location ≠ some .directory)
    (hlocate : workspace.locate path = .ok other) (hne : other ≠ location) :
    (workspace.put location (.file contents)).read? path = workspace.read? path := by
  have hmoved : (workspace.put location (.file contents)).locate path = .ok other :=
    (sameDirectories_put hfile).locate hlocate
  unfold read? read find
  rw [hlocate, hmoved]
  simp only [bind, Except.bind, node?_put (ne_nil_of_node?_ne hfile), if_neg hne]

/-- A name alone leads to a place right below the current directory. -/
theorem step_of_locate (hplain : '/' ∉ path.toList)
    (hlocate : workspace.locate path = .ok location) :
    workspace.step workspace.current path.toList = .ok location := by
  unfold locate at hlocate
  rw [walk_eq_ok_iff, Path.pieces_of_not_mem hplain, Path.isAbsolute_of_not_mem hplain] at hlocate
  simpa using hlocate.2

/-- A name that is joined to a path leads to a place right below where the path leads. -/
theorem exists_home_of_locate_join {base name : String} (hbase : base ≠ "")
    (hplain : '/' ∉ name.toList) (hlocate : workspace.locate (Path.join base name) = .ok location) :
    ∃ home, workspace.locate base = .ok home ∧
      workspace.step home name.toList = .ok location := by
  obtain ⟨rest, steps, hjoin, hpieces, hsteps⟩ := Path.pieces_join hbase hplain
  unfold locate at hlocate
  rw [walk_eq_ok_iff, hpieces, hjoin, Path.isAbsolute_append hbase] at hlocate
  obtain ⟨⟨hnull, _, hlength⟩, hfold⟩ := hlocate
  rw [List.foldlM_append] at hfold
  obtain ⟨home, hhome, hlast⟩ := exists_of_bind_eq_ok hfold
  have hstep : workspace.step home name.toList = .ok location := by
    simpa using hlast
  refine ⟨home, ?_, hstep⟩
  unfold locate
  rw [walk_eq_ok_iff]
  refine ⟨⟨?_, hbase, ?_⟩, ?_⟩
  · intro h
    exact hnull (by simp [h])
  · rw [String.utf8ByteSize_append] at hlength
    omega
  · rcases hsteps with hsteps | hsteps
    · rw [hsteps, hhome]
    · rw [hsteps, List.foldlM_append, hhome]
      simp [bind, Except.bind, pure, Except.pure, step_idle (node?_of_step hstep)]

end Workspace

end TaskScript
