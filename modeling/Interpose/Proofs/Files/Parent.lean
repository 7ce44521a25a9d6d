import Interpose.Proofs.Files.Directory

/-!
# The directory of a path

A path that may be a file is its directory and one more step (`exists_parent`). So a file that can
be read stands in a directory that is there already, also when that directory was only made as far
as it could be (`makeDirectories_of_read`), and a path holds whatever is written to it
(`read_of_write`).
A path *can hold* a file (`CanHold`) when its directory can be made and something be written to it
then, as every path of a file can.
-/

namespace Interpose.Path

open Interpose.FileTree (wantsDirectory)

/-! ## Trimming -/

theorem trimEnd_suffix (s : List Char) : trimEnd s <:+ s := by
  fun_induction trimEnd s with
  | case1 c rest ih => exact ih.trans (List.suffix_cons _ _)
  | case2 => exact List.suffix_cons _ _
  | case3 c rest ih => exact ih.trans ((List.suffix_cons _ _).trans (List.suffix_cons _ _))
  | case4 => exact List.suffix_refl _

/-- What is trimmed are no steps. -/
theorem steps_trimEnd (s : List Char) :
    steps (String.ofList (trimEnd s).reverse) = steps (String.ofList s.reverse) := by
  have slash : ∀ s : List Char, steps (String.ofList ('/' :: s).reverse) =
      steps (String.ofList s.reverse) := by
    intro s
    rw [List.reverse_cons, String.ofList_append]
    exact steps_slash _
  have dot : ∀ s : List Char, steps (String.ofList ('.' :: '/' :: s).reverse) =
      steps (String.ofList ('/' :: s).reverse) := by
    intro s
    rw [List.reverse_cons, String.ofList_append, steps_append_of_slash (by simp)]
    exact List.append_nil _
  fun_induction trimEnd s with
  | case1 c rest ih => rw [ih, slash]
  | case2 => rfl
  | case3 c rest ih => rw [ih, dot, slash]
  | case4 => rfl

theorem isRooted_append {front : String} (h : front ≠ "") (back : String) :
    isRooted (front ++ back) = isRooted front := by
  cases hc : front.toList with
  | nil => exact absurd (String.toList_inj.mp (hc.trans String.toList_empty.symm)) h
  | cons c cs => simp [isRooted, String.toList_append, hc]

/-- Trimming leaves the first character of a path. -/
theorem isRooted_trimEnd (s : List Char) :
    isRooted (String.ofList (trimEnd s).reverse) = isRooted (String.ofList s.reverse) := by
  have more : ∀ (c d : Char) (s : List Char), isRooted (String.ofList (d :: c :: s).reverse) =
      isRooted (String.ofList (c :: s).reverse) := by
    intro c d s
    rw [List.reverse_cons, String.ofList_append, isRooted_append]
    simp
  fun_induction trimEnd s with
  | case1 c rest ih => rw [ih, more]
  | case2 => rfl
  | case3 c rest ih => rw [ih, more, more]
  | case4 => rfl

/-! ## The parent -/

variable {path : String}

theorem endsText_of_eq {s tail : String} (inner : List Char) (h : s.toList = inner ++ tail.toList) :
    endsText s tail = true := by
  rw [endsText, List.isSuffixOf_iff_suffix, h]
  exact List.suffix_append _ _

/-- Nothing is trimmed off a path that may be a file. -/
theorem trimEnd_of_file (h : wantsDirectory path = false) :
    trimEnd path.toList.reverse = path.toList.reverse := by
  have ends : ∀ (tail : String) (s : List Char), path.toList.reverse = tail.toList.reverse ++ s →
      endsText path tail = true := by
    intro tail s he
    refine endsText_of_eq s.reverse ?_
    rw [← List.reverse_inj, he]
    simp
  simp only [wantsDirectory, Bool.or_eq_false_iff] at h
  obtain ⟨⟨hslash, hdot⟩, -⟩ := h
  unfold trimEnd
  split
  · rename_i c rest he
    rw [ends "/" (c :: rest) he] at hslash
    cases hslash
  · rename_i he
    rw [ends "/." [] he] at hdot
    cases hdot
  · rename_i c rest he
    rw [ends "/." (c :: rest) he] at hdot
    cases hdot
  · rfl

/-- The directory of a path: its parent, or the empty path if it has none. -/
def directoryOf (path : String) : String := (parent? path).getD ""

/-- A path is what stands up to its last slash, and the rest. -/
theorem eq_front_append (path : String) :
    path = String.ofList (path.toList.reverse.dropWhile (· != '/')).reverse ++
      String.ofList (path.toList.reverse.takeWhile (· != '/')).reverse := by
  rw [← String.ofList_append, ← List.reverse_append, List.takeWhile_append_dropWhile,
    List.reverse_reverse, String.ofList_toList]

theorem directoryOf_eq (hne : path ≠ "") (h : wantsDirectory path = false) :
    directoryOf path =
      String.ofList (trimEnd (path.toList.reverse.dropWhile (· != '/'))).reverse := by
  have hnil : path.toList.reverse ≠ [] := by simpa using hne
  have hslash : path.toList.reverse ≠ ['/'] := by
    intro he
    have : path = "/" := by
      rw [← String.toList_inj, ← List.reverse_inj, he]
      rfl
    subst this
    exact absurd h (by decide)
  rw [directoryOf, parent?, trimEnd_of_file h]
  split
  · rename_i he
    exact absurd he hnil
  · rename_i he
    exact absurd he hslash
  · rfl

/-- What stands up to the last slash ends with it, unless there is none. -/
theorem front_cases (path : String) :
    let front := String.ofList (path.toList.reverse.dropWhile (· != '/')).reverse
    front = "" ∨ front.toList.getLast? = some '/' := by
  have hhead := List.head?_dropWhile_not (· != '/') path.toList.reverse
  cases hd : path.toList.reverse.dropWhile (· != '/') with
  | nil => exact Or.inl rfl
  | cons c rest =>
    rw [hd] at hhead
    exact Or.inr (by simpa using hhead)

/-- A path that may be a file is its directory and one more step. -/
theorem exists_parent (hne : path ≠ "") (h : wantsDirectory path = false) :
    (∃ last, steps path = steps (directoryOf path) ++ [last]) ∧
      isRooted (directoryOf path) = isRooted path ∧ ∃ rest, path = directoryOf path ++ rest := by
  have hback : '/' ∉ (String.ofList (path.toList.reverse.takeWhile (· != '/')).reverse).toList := by
    intro hmem
    rw [String.toList_ofList, List.mem_reverse] at hmem
    simpa using List.all_eq_true.mp List.all_takeWhile _ hmem
  have hprefix : ∃ rest, String.ofList (path.toList.reverse.dropWhile (· != '/')).reverse =
      directoryOf path ++ rest := by
    obtain ⟨tail, htail⟩ := trimEnd_suffix (path.toList.reverse.dropWhile (· != '/'))
    refine ⟨String.ofList tail.reverse, ?_⟩
    rw [directoryOf_eq hne h, ← String.ofList_append, ← List.reverse_append, htail]
  have hsteps := steps_trimEnd (path.toList.reverse.dropWhile (· != '/'))
  have hrooted := isRooted_trimEnd (path.toList.reverse.dropWhile (· != '/'))
  rw [← directoryOf_eq hne h] at hsteps hrooted
  have hcases := front_cases path
  have hpath := eq_front_append path
  generalize String.ofList (path.toList.reverse.dropWhile (· != '/')).reverse = front at *
  generalize String.ofList (path.toList.reverse.takeWhile (· != '/')).reverse = back at *
  rw [hsteps, hrooted]
  obtain ⟨rest, hrest⟩ := hprefix
  refine ⟨?_, ?_, rest ++ back, by rw [← String.append_assoc, ← hrest, hpath]⟩
  · -- the last step is neither empty nor a dot: such a path can only be a directory
    have hlast : ¬(back = "" ∨ back = ".") := by
      rintro (rfl | rfl)
      · rcases hcases with rfl | hfront
        · exact hne hpath
        · obtain ⟨inner, hinner⟩ := List.getLast?_eq_some_iff.mp hfront
          have hend : endsText path "/" = true :=
            endsText_of_eq inner (by simp [hpath, hinner])
          simp [wantsDirectory, hend] at h
      · rcases hcases with rfl | hfront
        · simp [wantsDirectory, hpath] at h
        · obtain ⟨inner, hinner⟩ := List.getLast?_eq_some_iff.mp hfront
          have hend : endsText path "/." = true :=
            endsText_of_eq inner (by simp [hpath, hinner])
          simp [wantsDirectory, hend] at h
    refine ⟨back, ?_⟩
    rcases hcases with rfl | hfront
    · rw [hpath, String.empty_append, steps_of_no_slash hback, if_neg hlast]
      rfl
    · rw [hpath, steps_append_of_slash hfront, steps_of_no_slash hback, if_neg hlast]
  · rcases hcases with hfront | hfront
    · rw [hpath, hfront, String.empty_append, isRooted_eq_false hback]
      rfl
    · rw [hpath, isRooted_append]
      rintro rfl
      cases hfront

end Interpose.Path

namespace Interpose.FileTree

open Interpose.Path

variable {t t' : FileTree} {path : String} {content : Bytes}

/-! ## Files that are there -/

theorem isThere_of_read (h : t.read path = .ok content) : t.isThere path = true := by
  obtain ⟨p, hwalk, hp⟩ := read_eq_ok.mp h
  have hlook : t.look path = .ok (.file content) := look_eq_ok.mpr ⟨p, hwalk, hp⟩
  rw [isThere, hlook]

/-- A file that can be read stands in a directory that is there. -/
theorem directoryAt_of_read (h : t.read path = .ok content) :
    isHopeless (directoryOf path) = false ∧
      t.DirectoryAt (directoryOf path) (t.placeOf (directoryOf path)) := by
  obtain ⟨p, hwalk, hp⟩ := read_eq_ok.mp h
  obtain ⟨hne, hhopeless, hfrom, hwants⟩ := walk_eq_ok.mp hwalk
  have hfile : wantsDirectory path = false := by
    cases hw : wantsDirectory path with
    | false => rfl
    | true =>
      rw [hwants hw] at hp
      cases hp
  obtain ⟨⟨last, hlast⟩, hrooted, rest, hrest⟩ := exists_parent hne hfile
  have hstart : t.start (directoryOf path) = t.start path := by
    unfold start
    rw [hrooted]
  refine ⟨isHopeless_append (hrest ▸ hhopeless), ?_⟩
  rw [hlast, walkFrom_append_eq_ok, ← hstart] at hfrom
  obtain ⟨m, hm, hstep⟩ := hfrom
  obtain rfl : m = t.placeOf (directoryOf path) := eq_goal_of_walkFrom hm
  exact ⟨hm, (walkFrom_cons_eq_ok.mp hstep).1⟩

/-- The directory of a file need not be made. -/
theorem makeDirectories_of_file (h : t.read path = .ok content) :
    t.makeDirectories (directoryOf path) = .ok t := by
  obtain ⟨hhopeless, hdirectory⟩ := directoryAt_of_read h
  exact makeDirectories_eq_ok.mpr
    ⟨hhopeless, makeFrom_of_walkFrom hdirectory.walk hdirectory.node⟩

/-- Directories that can be walked after they were made as far as they could be were all made. -/
theorem makeFrom_of_growFrom {p q : Place} {names : List String}
    (hwalk : (t.growFrom p names).walkFrom p names = .ok q)
    (hq : (t.growFrom p names).node? q = some .directory) :
    t.makeFrom p names = .ok (t.growFrom p names) := by
  induction names generalizing t p with
  | nil => rfl
  | cons name rest ih =>
    unfold growFrom at hwalk hq ⊢
    unfold makeFrom
    cases hstep : t.step p name with
    | error e =>
      rw [hstep] at hwalk
      rw [walkFrom, hstep] at hwalk
      cases hwalk
    | ok next =>
      simp only [hstep] at hwalk hq ⊢
      cases hnode : t.node? next with
      | none =>
        simp only [hnode] at hwalk hq ⊢
        refine ih ?_ hq
        obtain rfl := (step_eq_ok.mp hstep).2.2
        exact (walkFrom_cons_eq_ok.mp hwalk).2.2
      | some node =>
        cases node with
        | directory =>
          simp only [hnode] at hwalk hq ⊢
          refine ih ?_ hq
          obtain rfl := (step_eq_ok.mp hstep).2.2
          exact (walkFrom_cons_eq_ok.mp hwalk).2.2
        | file content =>
          -- a file in the way is still in the way
          simp only [hnode] at hwalk hq
          rw [walkFrom, hstep] at hwalk
          cases rest with
          | nil =>
            obtain rfl := Except.ok.inj hwalk
            rw [hnode] at hq
            cases hq
          | cons name' rest =>
            have := (walkFrom_cons_eq_ok.mp hwalk).1
            rw [hnode] at this
            cases this

/-- So a file that can be read after that stands in a directory that could be made. -/
theorem makeDirectories_of_read (h : (t.grow (directoryOf path)).read path = .ok content) :
    t.makeDirectories (directoryOf path) = .ok (t.grow (directoryOf path)) := by
  obtain ⟨hhopeless, hdirectory⟩ := directoryAt_of_read h
  have hstart : (t.grow (directoryOf path)).start (directoryOf path) =
      t.start (directoryOf path) := (grow_grown t _ fun _ => False).changed.start _
  have hwalk := hdirectory.walk
  have hnode := hdirectory.node
  rw [hstart] at hwalk
  rw [grow, hhopeless, if_neg Bool.false_ne_true] at hwalk hnode ⊢
  exact makeDirectories_eq_ok.mpr ⟨hhopeless, makeFrom_of_growFrom hwalk hnode⟩

/-! ## Files that can be written -/

/-- **What was written is read.** -/
theorem read_of_write (h : t.write path content = .ok t') : t'.read path = .ok content := by
  have hchanged := ChangedAt.write h
  obtain ⟨p, hwalk, hp, -, rfl⟩ := write_eq_ok.mp h
  exact read_eq_ok.mpr ⟨p, hchanged.walk hwalk, node?_put_same _ (ne_nil_of_node?_ne hp) _⟩

/-- Whether a file can be written does not depend on what is written to it. -/
theorem exists_write (h : t.write path content = .ok t') (content' : Bytes) :
    ∃ t', t.write path content' = .ok t' := by
  obtain ⟨p, hwalk, hp, hroom, -⟩ := write_eq_ok.mp h
  exact ⟨_, write_eq_ok.mpr ⟨p, hwalk, hp, hroom, rfl⟩⟩

theorem exists_write_of_read (h : t.read path = .ok content) (content' : Bytes) :
    ∃ t', t.write path content' = .ok t' := by
  obtain ⟨p, hwalk, hp⟩ := read_eq_ok.mp h
  exact ⟨_, write_eq_ok.mpr ⟨p, hwalk, by simp [hp], by simp [hp], rfl⟩⟩

/-- A path can hold a file: its directory can be made, and then something be written to it. -/
def CanHold (t : FileTree) (path : String) : Prop :=
  ∃ made content t', t.makeDirectories (directoryOf path) = .ok made ∧
    made.write path content = .ok t'

/-- A path of a file can hold one. -/
theorem canHold_of_isFile (h : t.isFile path = true) : t.CanHold path := by
  obtain ⟨content, hread⟩ := isFile_eq_true.mp h
  obtain ⟨t', hwrite⟩ := exists_write_of_read hread content
  exact ⟨t, content, t', makeDirectories_of_file hread, hwrite⟩

end Interpose.FileTree
