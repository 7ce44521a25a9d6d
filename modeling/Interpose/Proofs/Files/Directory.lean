import Interpose.Proofs.Files.Change

/-!
# Files in a directory that is there

A file is always named by a component joined to a directory. In a directory that is there
(`DirectoryAt`), each operation on a file comes down to what stands at one place
(`read_join_eq_ok`, `write_join_eq_ok`, `rename_join_eq_ok`), and making
directories ends in a directory that is there (`madeAlong_of_makeDirectories`).
-/

namespace Interpose.FileTree

open Interpose.Path

/-! ## Files in a directory that is there -/

/-- The directory of a path is there, at a place. -/
structure DirectoryAt (t : FileTree) (path : String) (d : Place) : Prop where
  walk : t.walkFrom (t.start path) (steps path) = .ok d
  node : t.node? d = some .directory

theorem DirectoryAt.eq_placeOf {t : FileTree} {path : String} {d : Place}
    (h : t.DirectoryAt path d) : d = t.placeOf path := eq_goal_of_walkFrom h.walk

theorem DirectoryAt.of_changed {t t' : FileTree} {path : String} {d : Place}
    {places : Place → Prop} (h : t.DirectoryAt path d) (hc : ChangedAt places t t') :
    t'.DirectoryAt path d :=
  ⟨by rw [hc.start]; exact hc.walkFrom h.walk, hc.directory h.node⟩

/-- A file name that is not too long, by itself and behind its directory. -/
structure Fits (dir name : String) : Prop where
  path : isHopeless (join dir name) = false
  name : name.utf8ByteSize ≤ nameLimit

theorem isHopeless_append {path rest : String} (h : isHopeless (path ++ rest) = false) :
    isHopeless path = false := by
  simp only [isHopeless, Bool.or_eq_false_iff, decide_eq_false_iff_not, String.utf8ByteSize_append,
    List.contains_eq_mem, String.toList_append, List.mem_append] at h ⊢
  refine ⟨by omega, fun hm => h.2 (Or.inl hm)⟩

/-- What fits with more behind it fits without. -/
theorem Fits.of_append {dir name rest : String} (hn : IsComponent name)
    (h : Fits dir (name ++ rest)) : Fits dir name where
  path := by
    have hp := h.path
    rw [join_append hn.no_slash hn.ne_empty] at hp
    exact isHopeless_append hp
  name := by
    have hl := h.name
    rw [String.utf8ByteSize_append] at hl
    omega

/-- The directory of a file that fits fits. -/
theorem Fits.directory {dir name : String} (hn : IsComponent name) (h : Fits dir name) :
    isHopeless dir = false := by
  have hp := h.path
  obtain ⟨front, hj, ⟨rfl, -⟩ | ⟨-, -, rfl | rfl⟩⟩ := join_eq_append dir hn.no_slash
  · simp [isHopeless]
  · rw [hj] at hp
    exact isHopeless_append hp
  · rw [hj] at hp
    exact isHopeless_append (isHopeless_append hp)

theorem Fits.of_size {dir name : String} (hs : '/' ∉ name.toList)
    (hdir : '\x00' ∉ dir.toList) (hname : '\x00' ∉ name.toList)
    (hpath : dir.utf8ByteSize + 1 + name.utf8ByteSize ≤ pathLimit)
    (hsize : name.utf8ByteSize ≤ nameLimit) : Fits dir name where
  path := by
    have hslash : '\x00' ∉ "/".toList := by decide
    have hone : "/".utf8ByteSize = 1 := rfl
    obtain ⟨front, hj, ⟨-, rfl⟩ | ⟨-, -, rfl | rfl⟩⟩ := join_eq_append dir hs
    all_goals
      simp only [hj, isHopeless, Bool.or_eq_false_iff, decide_eq_false_iff_not,
        String.utf8ByteSize_append, List.contains_eq_mem, String.toList_append, List.mem_append,
        String.utf8ByteSize_empty, String.toList_empty, List.not_mem_nil, hdir, hname, hslash,
        or_self, not_false_eq_true, and_true]
      omega
  name := hsize

variable {t t' : FileTree} {dir name : String} {d : Place}

theorem start_join (t : FileTree) {dir name : String} (hn : '/' ∉ name.toList) :
    t.start (join dir name) = t.start dir := by
  unfold start
  rw [isRooted_join hn]

theorem placeOf_join (t : FileTree) {dir name : String} (hn : IsComponent name) :
    t.placeOf (join dir name) = t.placeOf dir ++ [name] := by
  rw [placeOf, start_join t hn.no_slash, steps_join_component hn, goal_append, goal_cons, goal_nil,
    next_of_ne hn.ne_dots]
  rfl

theorem walkFrom_singleton_eq_ok {p q : Place} (hn : name ≠ "..") :
    t.walkFrom p [name] = .ok q ↔
      t.node? p = some .directory ∧ name.utf8ByteSize ≤ nameLimit ∧ q = p ++ [name] := by
  rw [walkFrom_cons_eq_ok, next_of_ne hn, walkFrom, Except.ok.injEq, Walkable]
  simp only [hn, false_or, eq_comm]

/-- Where a file can be walked to, its directory is there. -/
theorem directoryAt_of_walk {p : Place} (hn : IsComponent name)
    (h : t.walk (join dir name) = .ok p) : t.DirectoryAt dir (t.placeOf dir) := by
  have hw := (walk_eq_ok.mp h).2.2.1
  rw [start_join t hn.no_slash, steps_join_component hn, walkFrom_append_eq_ok] at hw
  obtain ⟨m, hm, hr⟩ := hw
  obtain rfl := eq_goal_of_walkFrom hm
  exact ⟨hm, ((walkFrom_singleton_eq_ok hn.ne_dots).mp hr).1⟩

/-- Walking to a file of a directory that is there. -/
theorem walk_join_eq_ok (hd : t.DirectoryAt dir d) (hn : IsComponent name) {q : Place} :
    t.walk (join dir name) = .ok q ↔ Fits dir name ∧ q = d ++ [name] := by
  rw [walk_eq_ok, start_join t hn.no_slash, steps_join_component hn, walkFrom_append_eq_ok,
    wantsDirectory_join hn]
  constructor
  · rintro ⟨-, hh, ⟨m, hm, hq⟩, -⟩
    obtain rfl : d = m := Except.ok.inj (hd.walk.symm.trans hm)
    obtain ⟨-, hl, hq⟩ := (walkFrom_singleton_eq_ok hn.ne_dots).mp hq
    exact ⟨⟨hh, hl⟩, hq⟩
  · rintro ⟨hf, hq⟩
    refine ⟨join_ne_empty hn, hf.path, ⟨d, hd.walk, ?_⟩, fun h => by cases h⟩
    exact (walkFrom_singleton_eq_ok hn.ne_dots).mpr ⟨hd.node, hf.name, hq⟩

/-- Reading a file of a directory that is there. -/
theorem read_join_eq_ok (hd : t.DirectoryAt dir d) (hn : IsComponent name) {content : Bytes} :
    t.read (join dir name) = .ok content ↔
      Fits dir name ∧ t.node? (d ++ [name]) = some (.file content) := by
  rw [read_eq_ok]
  constructor
  · rintro ⟨p, hw, hp⟩
    obtain ⟨hf, rfl⟩ := (walk_join_eq_ok hd hn).mp hw
    exact ⟨hf, hp⟩
  · rintro ⟨hf, hp⟩
    exact ⟨d ++ [name], (walk_join_eq_ok hd hn).mpr ⟨hf, rfl⟩, hp⟩

theorem isFile_join (hd : t.DirectoryAt dir d) (hn : IsComponent name) :
    t.isFile (join dir name) = true ↔
      Fits dir name ∧ ∃ content, t.node? (d ++ [name]) = some (.file content) := by
  simp only [isFile_eq_true, read_join_eq_ok hd hn, exists_and_left]

theorem hasRoom_join (hd : t.DirectoryAt dir d) (name : String) :
    t.hasRoom (d ++ [name]) = true := by
  simp [hasRoom, hd.node]

theorem write_join_eq_ok (hd : t.DirectoryAt dir d) (hn : IsComponent name) {content : Bytes} :
    t.write (join dir name) content = .ok t' ↔
      Fits dir name ∧ t.node? (d ++ [name]) ≠ some .directory ∧
        t' = t.put (d ++ [name]) (.file content) := by
  unfold write
  cases hw : t.walk (join dir name) with
  | error e =>
    refine ⟨fun h => by simp at h, fun h => ?_⟩
    rw [(walk_join_eq_ok hd hn).mpr ⟨h.1, rfl⟩] at hw
    cases hw
  | ok q =>
    obtain ⟨hf, rfl⟩ := (walk_join_eq_ok hd hn).mp hw
    cases hp : t.node? (d ++ [name]) with
    | none => simp [hf, hp, hasRoom_join hd, eq_comm]
    | some node => cases node <;> simp [hf, hp, eq_comm]

theorem rename_join_eq_ok {target : String} (hd : t.DirectoryAt dir d) (hn : IsComponent name)
    (ht : IsComponent target) :
    t.rename (join dir name) (join dir target) = .ok t' ↔
      Fits dir name ∧ Fits dir target ∧ t.node? (d ++ [target]) ≠ some .directory ∧
        ∃ content, t.node? (d ++ [name]) = some (.file content) ∧
          t' = (t.erase (d ++ [name])).put (d ++ [target]) (.file content) := by
  unfold rename
  cases hw : t.walk (join dir name) with
  | error e =>
    refine ⟨fun h => by simp at h, fun h => ?_⟩
    rw [(walk_join_eq_ok hd hn).mpr ⟨h.1, rfl⟩] at hw
    cases hw
  | ok p =>
    obtain ⟨hf, rfl⟩ := (walk_join_eq_ok hd hn).mp hw
    cases hw' : t.walk (join dir target) with
    | error e =>
      refine ⟨fun h => by simp at h, fun h => ?_⟩
      rw [(walk_join_eq_ok hd ht).mpr ⟨h.2.1, rfl⟩] at hw'
      cases hw'
    | ok q =>
      obtain ⟨hf', rfl⟩ := (walk_join_eq_ok hd ht).mp hw'
      cases hp : t.node? (d ++ [name]) with
      | none => simp [hp]
      | some node =>
        cases node with
        | directory => simp [hp]
        | file content =>
          cases hq : t.node? (d ++ [target]) with
          | none => simp [hf, hf', hp, hq, eq_comm]
          | some node => cases node <;> simp [hf, hf', hp, hq, eq_comm]

theorem makeDirectory_join_eq_ok (hd : t.DirectoryAt dir d) (hn : IsComponent name) :
    t.makeDirectory (join dir name) = .ok t' ↔
      Fits dir name ∧ t.node? (d ++ [name]) = none ∧ t' = t.put (d ++ [name]) .directory := by
  unfold makeDirectory
  rw [trimmed_join hn]
  simp only [if_neg (join_ne_empty hn)]
  cases hw : t.walk (join dir name) with
  | error e =>
    refine ⟨fun h => by simp at h, fun h => ?_⟩
    rw [(walk_join_eq_ok hd hn).mpr ⟨h.1, rfl⟩] at hw
    cases hw
  | ok q =>
    obtain ⟨hf, rfl⟩ := (walk_join_eq_ok hd hn).mp hw
    cases hp : t.node? (d ++ [name]) with
    | none => simp [hf, hp, hasRoom_join hd, eq_comm]
    | some node => simp [hp]

/-! ## Making directories -/

/-- Whether a place holds a file. -/
def IsFileAt (t : FileTree) (p : Place) : Prop := ∃ content, t.node? p = some (.file content)

/-- Making directories along steps is making them along the first, and then along the others. -/
theorem makeFrom_append_eq_ok {p : Place} {xs ys : List String} :
    t.makeFrom p (xs ++ ys) = .ok t' ↔
      ∃ m, t.makeFrom p xs = .ok m ∧ m.makeFrom (goal p xs) ys = .ok t' := by
  induction xs generalizing t p with
  | nil => simp [makeFrom]
  | cons name rest ih =>
    rw [List.cons_append, makeFrom, makeFrom]
    cases hs : t.step p name with
    | error e => simp
    | ok q =>
      obtain ⟨-, -, rfl⟩ := step_eq_ok.mp hs
      dsimp only
      cases t.node? (next p name) with
      | none => exact ih
      | some node =>
        cases node with
        | file content => simp
        | directory => exact ih

/-- What making directories leaves is what making some of the first of them leaves. -/
theorem exists_makeFrom_growFrom (t : FileTree) (p : Place) (names : List String) :
    ∃ front, front <+: names ∧ t.makeFrom p front = .ok (t.growFrom p names) := by
  induction names generalizing t p with
  | nil => exact ⟨[], List.prefix_rfl, rfl⟩
  | cons name rest ih =>
    rw [growFrom]
    cases hs : t.step p name with
    | error e => exact ⟨[], List.nil_prefix, rfl⟩
    | ok q =>
      dsimp only
      cases hq : t.node? q with
      | none =>
        obtain ⟨front, hf, hm⟩ := ih (t.put q .directory) q
        exact ⟨name :: front, List.cons_prefix_cons.mpr ⟨rfl, hf⟩, by simp [makeFrom, hs, hq, hm]⟩
      | some node =>
        cases node with
        | file content => exact ⟨[], List.nil_prefix, rfl⟩
        | directory =>
          obtain ⟨front, hf, hm⟩ := ih t q
          exact ⟨name :: front, List.cons_prefix_cons.mpr ⟨rfl, hf⟩, by simp [makeFrom, hs, hq, hm]⟩

theorem growFrom_of_makeFrom {p : Place} {names : List String} (h : t.makeFrom p names = .ok t') :
    t.growFrom p names = t' := by
  induction names generalizing t p with
  | nil => exact Except.ok.inj h
  | cons name rest ih =>
    rw [makeFrom] at h
    rw [growFrom]
    cases hs : t.step p name with
    | error e => simp [hs] at h
    | ok q =>
      simp only [hs] at h
      dsimp only
      cases hq : t.node? q with
      | none =>
        simp only [hq] at h
        exact ih h
      | some node =>
        cases node with
        | file content => simp [hq] at h
        | directory =>
          simp only [hq] at h
          exact ih h

/-- Where all directories are there, none is made. -/
theorem makeFrom_of_walkFrom {p q : Place} {names : List String}
    (hw : t.walkFrom p names = .ok q) (hq : t.node? q = some .directory) :
    t.makeFrom p names = .ok t := by
  induction names generalizing p with
  | nil => rfl
  | cons name rest ih =>
    obtain ⟨hp, hn, hr⟩ := walkFrom_cons_eq_ok.mp hw
    have hnext : t.node? (next p name) = some .directory := by
      cases rest with
      | nil =>
        obtain rfl : next p name = q := Except.ok.inj hr
        exact hq
      | cons name' rest' => exact (walkFrom_cons_eq_ok.mp hr).1
    rw [makeFrom, step_eq_ok.mpr ⟨hp, hn, rfl⟩]
    dsimp only
    rw [hnext]
    exact ih hr

/-- Where no name is too long and no file is in the way, directories can be made. -/
theorem exists_makeFrom {p : Place} {names : List String} (hp : t.node? p = some .directory)
    (hn : ∀ name ∈ names, Walkable name) (hf : ∀ q, Along p names q → ¬ t.IsFileAt q) :
    ∃ t', t.makeFrom p names = .ok t' := by
  induction names generalizing t p with
  | nil => exact ⟨t, rfl⟩
  | cons name rest ih =>
    rw [makeFrom, step_eq_ok.mpr ⟨hp, hn name (by simp), rfl⟩]
    have hrest : ∀ n ∈ rest, Walkable n := fun n h => hn n (by simp [h])
    have hnot := hf _ (along_start (next p name) rest).cons
    dsimp only
    cases hq : t.node? (next p name) with
    | none =>
      have hne : next p name ≠ [] := ne_nil_of_node?_ne (t := t) (by simp [hq])
      refine ih (node?_put_same t hne _) hrest fun q hw ⟨content, hc⟩ => ?_
      by_cases he : q = next p name
      · rw [he, node?_put_same t hne] at hc
        cases hc
      · rw [node?_put_other t he] at hc
        exact hf q hw.cons ⟨content, hc⟩
    | some node =>
      cases node with
      | file content => exact absurd ⟨content, hq⟩ hnot
      | directory => exact ih hq hrest fun q hw => hf q hw.cons

/-! ## Looking at a path -/

/-- Where no name is too long and no file is in the way, a walk gets to its goal or ends where
nothing stands. -/
theorem walkFrom_of_free {p : Place} {names : List String} (hn : ∀ name ∈ names, Walkable name)
    (hf : ∀ q, Along p names q → ¬ t.IsFileAt q) :
    t.walkFrom p names = .ok (goal p names) ∨ t.walkFrom p names = .error .missing := by
  induction names generalizing p with
  | nil => exact Or.inl rfl
  | cons name rest ih =>
    obtain ⟨hname, hrest⟩ := List.forall_mem_cons.mp hn
    cases hp : t.node? p with
    | none => exact Or.inr (by simp [walkFrom, step, hp])
    | some node =>
      cases node with
      | file content => exact absurd ⟨content, hp⟩ (hf p (along_start p _))
      | directory =>
        rw [walkFrom, step_eq_ok.mpr ⟨hp, hname, rfl⟩]
        exact ih hrest fun q hq => hf q hq.cons

/-- A path is walked to a directory that is there. -/
theorem DirectoryAt.walk_eq {path : String} (h : t.DirectoryAt path d) (hne : path ≠ "")
    (hh : isHopeless path = false) : t.walk path = .ok d :=
  walk_eq_ok.mpr ⟨hne, hh, h.walk, fun _ => h.node⟩

/-- So a look at such a path finds nothing or a directory. -/
theorem look_of_free {path : String} (hne : path ≠ "") (hh : isHopeless path = false)
    (hn : ∀ name ∈ steps path, Walkable name) (hf : ∀ q, onWay t path q → ¬ t.IsFileAt q) :
    t.look path = .error .missing ∨ t.DirectoryAt path (t.placeOf path) := by
  rcases walkFrom_of_free hn hf with hw | hw
  · rw [← placeOf] at hw
    cases hp : t.node? (t.placeOf path) with
    | none =>
      left
      cases hd : wantsDirectory path <;> simp [look, walk, hne, hh, hw, hp, hd]
    | some node =>
      cases node with
      | file content => exact absurd ⟨content, hp⟩ (hf _ (t.onWay_placeOf path))
      | directory => exact Or.inr ⟨hw, hp⟩
  · exact Or.inl (by simp [look, walk, hne, hh, hw])

/-- What making directories along steps does: it puts directories where nothing stood, at places on
the way only, and then the way is open to a directory at its end. -/
structure MadeAlong (t t' : FileTree) (p : Place) (names : List String) : Prop where
  changed : ChangedAt (Along p names) t t'
  onlyDirectories : ∀ q, t'.node? q = t.node? q ∨ t.node? q = none ∧ t'.node? q = some .directory
  walk : t'.walkFrom p names = .ok (goal p names)
  node : t'.node? (goal p names) = some .directory

theorem MadeAlong.nil {t : FileTree} {p : Place} (h : t.node? p = some .directory) :
    MadeAlong t t p [] :=
  ⟨ChangedAt.refl _ _, fun _ => Or.inl rfl, rfl, h⟩

/-- A step to a directory that is there or has just been put, and the directories behind it. -/
theorem MadeAlong.cons {t m t' : FileTree} {p : Place} {name : String} {rest : List String}
    (hp : t.node? p = some .directory) (hw : Walkable name)
    (hm : m = t ∨ t.node? (next p name) = none ∧ m = t.put (next p name) .directory)
    (h : MadeAlong m t' (next p name) rest) : MadeAlong t t' p (name :: rest) := by
  have first : ChangedAt (Along p (name :: rest)) t m := by
    rcases hm with rfl | ⟨hn, rfl⟩
    · exact ChangedAt.refl _ _
    · refine (ChangedAt.put (by simp [hn]) _).mono ?_
      rintro q rfl
      exact (along_start _ rest).cons
  have behind : ChangedAt (Along p (name :: rest)) m t' := h.changed.mono fun _ => Along.cons
  refine ⟨first.trans behind, fun q => ?_, ?_, h.node⟩
  · rcases hm with rfl | ⟨hn, rfl⟩
    · exact h.onlyDirectories q
    · by_cases hq : q = next p name
      · subst hq
        have hne : next p name ≠ [] := ne_nil_of_node?_ne (t := t) (by simp [hn])
        exact Or.inr ⟨hn, h.changed.directory (node?_put_same t hne _)⟩
      · rw [← node?_put_other t hq .directory]
        exact h.onlyDirectories q
  · exact walkFrom_cons_eq_ok.mpr ⟨behind.directory (first.directory hp), hw, h.walk⟩

theorem madeAlong_of_makeFrom {names : List String} {t t' : FileTree} {p : Place}
    (hn : names ≠ [] ∨ t.node? p = some .directory) (h : t.makeFrom p names = .ok t') :
    MadeAlong t t' p names := by
  induction names generalizing t p with
  | nil =>
    obtain rfl : t = t' := Except.ok.inj h
    exact MadeAlong.nil (hn.resolve_left (by simp))
  | cons name rest ih =>
    rw [makeFrom] at h
    cases hs : t.step p name with
    | error e => simp [hs] at h
    | ok q =>
      obtain ⟨hp, hw, rfl⟩ := step_eq_ok.mp hs
      cases hq : t.node? (next p name) with
      | none =>
        simp only [hs, hq] at h
        have hdir : (t.put (next p name) .directory).node? (next p name) = some .directory :=
          node?_put_same t (ne_nil_of_node?_ne (t := t) (by simp [hq])) _
        exact MadeAlong.cons hp hw (Or.inr ⟨hq, rfl⟩) (ih (Or.inr hdir) h)
      | some node =>
        cases node with
        | file content => simp [hs, hq] at h
        | directory =>
          simp only [hs, hq] at h
          exact MadeAlong.cons hp hw (Or.inl rfl) (ih (Or.inr hq) h)

theorem makeDirectories_eq_ok {path : String} : t.makeDirectories path = .ok t' ↔
    isHopeless path = false ∧ t.makeFrom (t.start path) (steps path) = .ok t' := by
  unfold makeDirectories
  cases isHopeless path <;> simp

/-- Making directories for a path ends in a directory that is there. -/
theorem madeAlong_of_makeDirectories {path : String} (hs : steps path ≠ [])
    (h : t.makeDirectories path = .ok t') :
    MadeAlong t t' (t.start path) (steps path) ∧ t'.DirectoryAt path (t.placeOf path) := by
  have hm := madeAlong_of_makeFrom (Or.inl hs) (makeDirectories_eq_ok.mp h).2
  exact ⟨hm, by rw [hm.changed.start]; exact hm.walk, hm.node⟩

/-- Directories that are made along a path are growth on the way. -/
theorem MadeAlong.grown {p : Place} {names : List String} (h : MadeAlong t t' p names)
    (files : Place → Prop) : GrownAt (Along p names) files t t' where
  workingDirectory := h.changed.workingDirectory
  directory := h.changed.directory
  elsewhere := by
    intro q _
    rcases h.onlyDirectories q with he | ⟨hnone, hd⟩
    · exact Or.inl he
    · refine Or.inr ⟨Classical.byContradiction fun hn => ?_, hnone, hd⟩
      rw [h.changed.elsewhere hn, hnone] at hd
      cases hd

theorem grow_of_makeDirectories {path : String} (h : t.makeDirectories path = .ok t') :
    t.grow path = t' := by
  obtain ⟨hh, hm⟩ := makeDirectories_eq_ok.mp h
  rw [grow, hh, if_neg Bool.false_ne_true, growFrom_of_makeFrom hm]

theorem walkable_of_walkFrom {p q : Place} {names : List String}
    (h : t.walkFrom p names = .ok q) : ∀ name ∈ names, Walkable name := by
  induction names generalizing p with
  | nil => simp
  | cons name rest ih =>
    obtain ⟨-, hname, hrest⟩ := walkFrom_cons_eq_ok.mp h
    exact List.forall_mem_cons.mpr ⟨hname, ih hrest⟩

/-- An open way to a directory leads through directories. -/
theorem node?_of_along {p q : Place} {names : List String}
    (hw : t.walkFrom p names = .ok (goal p names)) (hd : t.node? (goal p names) = some .directory)
    (hq : Along p names q) : t.node? q = some .directory := by
  induction names generalizing p with
  | nil =>
    obtain ⟨front, hf, he⟩ := hq
    rw [List.prefix_nil.mp hf] at he
    rw [he]
    exact hd
  | cons name rest ih =>
    obtain ⟨hp, -, hrest⟩ := walkFrom_cons_eq_ok.mp hw
    obtain ⟨front, hf, he⟩ := hq
    cases front with
    | nil =>
      rw [he]
      exact hp
    | cons first front =>
      obtain ⟨rfl, hfront⟩ := List.cons_prefix_cons.mp hf
      exact ih hrest hd ⟨front, hfront, he⟩

/-- The places on the way of a path before which no name is too long. -/
def inReach (t : FileTree) (path : String) (p : Place) : Prop :=
  ∃ front, front <+: steps path ∧ (∀ name ∈ front, Walkable name) ∧ p = goal (t.start path) front

theorem onWay_of_inReach {path : String} {p : Place} (h : inReach t path p) : onWay t path p := by
  obtain ⟨front, hf, -, rfl⟩ := h
  exact ⟨front, hf, rfl⟩

/-- Making directories grows the tree on the way, as far as it can be walked, whether or not it
succeeds. -/
theorem grow_inReach (t : FileTree) (path : String) (files : Place → Prop) :
    GrownAt (inReach t path) files t (t.grow path) := by
  unfold grow
  split
  · exact GrownAt.refl _ _ _
  · obtain ⟨front, hf, hm⟩ := exists_makeFrom_growFrom t (t.start path) (steps path)
    cases front with
    | nil =>
      rw [← Except.ok.inj hm]
      exact GrownAt.refl _ _ _
    | cons name rest =>
      have hmade := madeAlong_of_makeFrom (Or.inl (by simp)) hm
      refine (hmade.grown files).mono ?_ fun _ => id
      rintro p ⟨front, hfront, rfl⟩
      exact ⟨front, hfront.trans hf,
        fun name hn => walkable_of_walkFrom hmade.walk name (hfront.subset hn), rfl⟩

theorem grow_grown (t : FileTree) (path : String) (files : Place → Prop) :
    GrownAt (onWay t path) files t (t.grow path) :=
  (grow_inReach t path files).mono (fun _ => onWay_of_inReach) fun _ => id

end Interpose.FileTree
