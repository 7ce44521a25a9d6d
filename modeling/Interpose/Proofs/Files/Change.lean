import Interpose.Proofs.Files.Path

/-!
# What an operation changes

The steps of a path lead to its `goal`, a place that depends on nothing but the steps; the tree only
decides whether the way is open. `ChangedAt places t t'` says that `t'` comes from `t` by changes at
the given places, none of which takes a directory away. Every operation on a path changes the tree
at the place of that path only (`ChangedAt.write`, `ChangedAt.remove`, `ChangedAt.rename`,
`ChangedAt.makeDirectory`).

`GrownAt ways files t t'` is the coarser account of a run that also makes the directories on its
way: at a place that is only on the way, nothing changes but that a directory stands where nothing
stood.
-/

namespace Interpose.FileTree

open Interpose.Path

/-! ## Places -/

theorem node?_nil (t : FileTree) : t.node? [] = some .directory := rfl

theorem ne_nil_of_node?_ne {t : FileTree} {p : Place} (h : t.node? p ≠ some .directory) :
    p ≠ [] := by
  rintro rfl
  exact h t.node?_nil

theorem node?_erase_same (t : FileTree) {p : Place} (h : p ≠ []) : (t.erase p).node? p = none := by
  simp [node?, erase, h, List.find?_eq_none]

theorem node?_erase_other (t : FileTree) {p q : Place} (h : q ≠ p) :
    (t.erase p).node? q = t.node? q := by
  have e : ∀ es : List (Place × Node),
      (es.filter (·.1 != p)).find? (·.1 == q) = es.find? (·.1 == q) := by
    intro es
    induction es with
    | nil => rfl
    | cons x xs ih =>
      by_cases hx : x.1 = p
      · have hq : (x.1 == q) = false := by simp [hx, Ne.symm h]
        rw [List.filter_cons_of_neg (by simp [hx]), List.find?_cons_of_neg (by simp [hq]), ih]
      · rw [List.filter_cons_of_pos (by simp [hx]), List.find?_cons, List.find?_cons, ih]
  simp [node?, erase, e]

/-! ## Goals -/

/-- The place one step from another when nothing is in the way. -/
def next (place : Place) (name : String) : Place :=
  if name = ".." then place.dropLast else place ++ [name]

/-- The place that steps lead to when nothing is in the way. -/
def goal (place : Place) (names : List String) : Place := names.foldl next place

@[simp] theorem goal_nil (p : Place) : goal p [] = p := rfl

@[simp] theorem goal_cons (p : Place) (name : String) (rest : List String) :
    goal p (name :: rest) = goal (next p name) rest := rfl

theorem goal_append (p : Place) (xs ys : List String) :
    goal p (xs ++ ys) = goal (goal p xs) ys := List.foldl_append

/-- The place of a path by its text alone. -/
def placeOf (t : FileTree) (path : String) : Place := goal (t.start path) (steps path)

theorem next_of_ne {name : String} (h : name ≠ "..") (p : Place) : next p name = p ++ [name] := by
  rw [next, if_neg h]

/-- Steps that do not lead up are the end of the place they lead to. -/
theorem goal_eq_append {names : List String} (h : ".." ∉ names) (p : Place) :
    goal p names = p ++ names := by
  induction names generalizing p with
  | nil => simp
  | cons name rest ih =>
    rw [List.mem_cons, not_or] at h
    rw [goal_cons, next_of_ne (Ne.symm h.1), ih h.2, List.append_assoc, List.singleton_append]

/-- The places that steps lead through, both ends included. -/
def Along (place : Place) (names : List String) (p : Place) : Prop :=
  ∃ front, front <+: names ∧ p = goal place front

theorem along_start (p : Place) (names : List String) : Along p names p :=
  ⟨[], List.nil_prefix, rfl⟩

theorem along_goal (p : Place) (names : List String) : Along p names (goal p names) :=
  ⟨names, List.prefix_rfl, rfl⟩

theorem Along.cons {p q : Place} {name : String} {rest : List String}
    (h : Along (next p name) rest q) : Along p (name :: rest) q := by
  obtain ⟨front, hf, rfl⟩ := h
  exact ⟨name :: front, List.cons_prefix_cons.mpr ⟨rfl, hf⟩, rfl⟩

/-- The places on the way of a path. -/
def onWay (t : FileTree) (path : String) : Place → Prop := Along (t.start path) (steps path)

theorem onWay_placeOf (t : FileTree) (path : String) : t.onWay path (t.placeOf path) :=
  along_goal _ _

/-! ## Walking -/

theorem eq_ok_of_toOption {ε α : Type} {e : Except ε α} {a : α} (h : e.toOption = some a) :
    e = .ok a := by
  cases e with
  | error fault => cases h
  | ok b => exact congrArg Except.ok (Option.some.inj h)

/-- A name that is not too long to be walked. -/
def Walkable (name : String) : Prop := name = ".." ∨ name.utf8ByteSize ≤ nameLimit

theorem step_eq_ok {t : FileTree} {p q : Place} {name : String} :
    t.step p name = .ok q ↔
      t.node? p = some .directory ∧ Walkable name ∧ q = next p name := by
  unfold step Walkable next
  cases hp : t.node? p with
  | none => simp
  | some node =>
    cases node with
    | file content => simp
    | directory =>
      by_cases hd : name = ".."
      · simp [hd, eq_comm]
      · by_cases hl : nameLimit < name.utf8ByteSize
        · simp [hd, hl, Nat.not_le.mpr (Nat.not_le.mp (Nat.not_le.mpr hl))]
        · simp [hd, hl, Nat.not_lt.mp hl, eq_comm]

theorem walkFrom_cons_eq_ok {t : FileTree} {p q : Place} {name : String} {rest : List String} :
    t.walkFrom p (name :: rest) = .ok q ↔
      t.node? p = some .directory ∧ Walkable name ∧ t.walkFrom (next p name) rest = .ok q := by
  rw [walkFrom]
  cases hs : t.step p name with
  | error e =>
    refine ⟨fun h => by simp at h, fun ⟨hp, hw, _⟩ => ?_⟩
    rw [step_eq_ok.mpr ⟨hp, hw, rfl⟩] at hs
    cases hs
  | ok m =>
    obtain ⟨hp, hw, rfl⟩ := step_eq_ok.mp hs
    exact ⟨fun h => ⟨hp, hw, h⟩, fun h => h.2.2⟩

theorem walkFrom_append_eq_ok {t : FileTree} {p q : Place} {xs ys : List String} :
    t.walkFrom p (xs ++ ys) = .ok q ↔
      ∃ m, t.walkFrom p xs = .ok m ∧ t.walkFrom m ys = .ok q := by
  induction xs generalizing p with
  | nil => simp [walkFrom]
  | cons name rest ih =>
    rw [List.cons_append, walkFrom_cons_eq_ok, ih]
    constructor
    · rintro ⟨hp, hw, m, hm, hq⟩
      exact ⟨m, walkFrom_cons_eq_ok.mpr ⟨hp, hw, hm⟩, hq⟩
    · rintro ⟨m, hm, hq⟩
      obtain ⟨hp, hw, hm⟩ := walkFrom_cons_eq_ok.mp hm
      exact ⟨hp, hw, m, hm, hq⟩

/-- An open way leads to the goal of its steps. -/
theorem eq_goal_of_walkFrom {t : FileTree} {names : List String} {p q : Place}
    (h : t.walkFrom p names = .ok q) : q = goal p names := by
  induction names generalizing p with
  | nil => exact (Except.ok.inj h).symm
  | cons name rest ih => exact ih (walkFrom_cons_eq_ok.mp h).2.2

/-- A path is walked when its way is open, and it may be a file or is a directory. -/
theorem walk_eq_ok {t : FileTree} {path : String} {p : Place} :
    t.walk path = .ok p ↔
      path ≠ "" ∧ isHopeless path = false ∧ t.walkFrom (t.start path) (steps path) = .ok p ∧
        (wantsDirectory path = true → t.node? p = some .directory) := by
  unfold walk
  by_cases he : path = ""
  · simp [he]
  · cases hh : isHopeless path with
    | true => simp [he]
    | false =>
      cases hw : t.walkFrom (t.start path) (steps path) with
      | error e => simp [he]
      | ok q =>
        cases hd : wantsDirectory path with
        | false => simp [he]
        | true =>
          cases hq : t.node? q with
          | none =>
            simp [he, hq]
            rintro rfl
            simp [hq]
          | some node =>
            cases node with
            | directory =>
              simp [he, hq]
              rintro rfl
              exact hq
            | file content =>
              simp [he, hq]
              rintro rfl
              simp [hq]

theorem eq_placeOf_of_walk {t : FileTree} {path : String} {p : Place} (h : t.walk path = .ok p) :
    p = t.placeOf path := eq_goal_of_walkFrom (walk_eq_ok.mp h).2.2.1

/-! ## Reading -/

theorem look_eq_ok {t : FileTree} {path : String} {node : Node} :
    t.look path = .ok node ↔ ∃ p, t.walk path = .ok p ∧ t.node? p = some node := by
  unfold look
  cases hw : t.walk path with
  | error e => simp
  | ok p => cases hp : t.node? p <;> simp [hp]

theorem read_eq_ok {t : FileTree} {path : String} {content : Bytes} :
    t.read path = .ok content ↔
      ∃ p, t.walk path = .ok p ∧ t.node? p = some (.file content) := by
  rw [← look_eq_ok]
  unfold read
  cases hl : t.look path with
  | error e => simp
  | ok node => cases node <;> simp

theorem isFile_eq_true {t : FileTree} {path : String} :
    t.isFile path = true ↔ ∃ content, t.read path = .ok content := by
  unfold isFile read
  cases hl : t.look path with
  | error e => simp
  | ok node => cases node <;> simp

/-! ## Making a directory -/

/-- Make a single directory where a path leads, if nothing stands there. -/
def makeAt (t : FileTree) (path : String) : Except Obstacle FileTree :=
  match t.walk path with
  | .error e => .error e
  | .ok place =>
    match t.node? place with
    | some _ => .error .alreadyThere
    | none => if t.hasRoom place then .ok (t.put place .directory) else .error .missing

theorem makeDirectory_eq (t : FileTree) (path : String) : t.makeDirectory path = t.makeAt
    (if String.ofList (path.toList.reverse.dropWhile (· == '/')).reverse = "" then path
      else String.ofList (path.toList.reverse.dropWhile (· == '/')).reverse) := by
  unfold makeDirectory makeAt
  rfl

/-- Making a directory works on a path of the same steps without slashes at its end. -/
theorem exists_makeDirectory_eq (path : String) : ∃ bare,
    steps bare = steps path ∧ (∀ t : FileTree, t.start bare = t.start path) ∧
      ∀ t : FileTree, t.makeDirectory path = t.makeAt bare := by
  by_cases hb : String.ofList (path.toList.reverse.dropWhile (· == '/')).reverse = ""
  · exact ⟨path, rfl, fun _ => rfl, fun t => by rw [makeDirectory_eq, if_pos hb]⟩
  · refine ⟨_, steps_trimmed path, fun t => ?_, fun t => by rw [makeDirectory_eq, if_neg hb]⟩
    unfold start
    rw [isRooted_trimmed hb]

/-! ## What an operation does -/

section Operations

variable {t t' : FileTree} {path : String} {content : Bytes}

theorem write_eq_ok : t.write path content = .ok t' ↔
    ∃ p, t.walk path = .ok p ∧ t.node? p ≠ some .directory ∧
      (t.node? p = none → t.hasRoom p = true) ∧ t' = t.put p (.file content) := by
  unfold write
  cases hw : t.walk path with
  | error e => simp
  | ok p =>
    simp only [Except.ok.injEq, exists_eq_left']
    cases hp : t.node? p with
    | none => by_cases hr : t.hasRoom p = true <;> simp [hr, @eq_comm _ t']
    | some node => cases node <;> simp [@eq_comm _ t']

theorem remove_eq_ok : t.remove path = .ok t' ↔
    ∃ p, t.walk path = .ok p ∧ (∃ content, t.node? p = some (.file content)) ∧
      t' = t.erase p := by
  unfold remove
  cases hw : t.walk path with
  | error e => simp
  | ok p =>
    simp only [Except.ok.injEq, exists_eq_left']
    cases hp : t.node? p with
    | none => simp
    | some node => cases node <;> simp [@eq_comm _ t']

theorem rename_eq_ok {target : String} : t.rename path target = .ok t' ↔
    ∃ p q content, t.walk path = .ok p ∧ t.walk target = .ok q ∧
      t.node? p = some (.file content) ∧ t.node? q ≠ some .directory ∧
        t' = (t.erase p).put q (.file content) := by
  unfold rename
  cases hw : t.walk path with
  | error e => simp
  | ok p =>
    cases hw' : t.walk target with
    | error e => simp
    | ok q =>
      cases hp : t.node? p with
      | none => simp [hp]
      | some node =>
        cases node with
        | directory => simp [hp]
        | file content =>
          cases hq : t.node? q with
          | none => simp [hp, hq, @eq_comm _ t']
          | some node => cases node <;> simp [hp, hq, @eq_comm _ t']

theorem makeAt_eq_ok : t.makeAt path = .ok t' ↔
    ∃ p, t.walk path = .ok p ∧ t.node? p = none ∧ t.hasRoom p = true ∧
      t' = t.put p .directory := by
  unfold makeAt
  cases hw : t.walk path with
  | error e => simp
  | ok p =>
    cases hp : t.node? p with
    | none => by_cases hr : t.hasRoom p = true <;> simp [hp, hr, @eq_comm _ t']
    | some node => simp [hp]

end Operations

/-! ## Changes -/

/-- A tree that comes from another by changes at some places, none of which takes a directory
away. -/
structure ChangedAt (places : Place → Prop) (t t' : FileTree) : Prop where
  workingDirectory : t'.workingDirectory = t.workingDirectory
  directory : ∀ {p}, t.node? p = some .directory → t'.node? p = some .directory
  elsewhere : ∀ {p}, ¬ places p → t'.node? p = t.node? p

namespace ChangedAt

variable {places places' : Place → Prop} {t t' t'' : FileTree}

theorem refl (places : Place → Prop) (t : FileTree) : ChangedAt places t t := ⟨rfl, id, fun _ => rfl⟩

theorem mono (h : ChangedAt places t t') (hp : ∀ p, places p → places' p) :
    ChangedAt places' t t' :=
  ⟨h.workingDirectory, h.directory, fun hn => h.elsewhere fun hq => hn (hp _ hq)⟩

theorem trans (h : ChangedAt places t t') (h' : ChangedAt places t' t'') :
    ChangedAt places t t'' :=
  ⟨h'.workingDirectory.trans h.workingDirectory, fun hd => h'.directory (h.directory hd),
    fun hn => (h'.elsewhere hn).trans (h.elsewhere hn)⟩

theorem put {p : Place} (hp : t.node? p ≠ some .directory) (node : Node) :
    ChangedAt (· = p) t (t.put p node) where
  workingDirectory := rfl
  directory := by
    intro q hq
    have hne : q ≠ p := by
      rintro rfl
      exact hp hq
    rw [node?_put_other t hne, hq]
  elsewhere := fun hne => node?_put_other t hne node

theorem erase {p : Place} (hp : t.node? p ≠ some .directory) : ChangedAt (· = p) t (t.erase p) where
  workingDirectory := rfl
  directory := by
    intro q hq
    have hne : q ≠ p := by
      rintro rfl
      exact hp hq
    rw [node?_erase_other t hne, hq]
  elsewhere := fun hne => node?_erase_other t hne

theorem start (h : ChangedAt places t t') (path : String) : t'.start path = t.start path := by
  unfold FileTree.start
  rw [h.workingDirectory]

theorem placeOf (h : ChangedAt places t t') (path : String) : t'.placeOf path = t.placeOf path := by
  unfold FileTree.placeOf
  rw [h.start]

theorem walkFrom (h : ChangedAt places t t') {names : List String} {p q : Place}
    (hw : t.walkFrom p names = .ok q) : t'.walkFrom p names = .ok q := by
  induction names generalizing p with
  | nil => exact hw
  | cons name rest ih =>
    obtain ⟨hp, hn, hr⟩ := walkFrom_cons_eq_ok.mp hw
    exact walkFrom_cons_eq_ok.mpr ⟨h.directory hp, hn, ih hr⟩

variable {path : String}

theorem walk (h : ChangedAt places t t') {p : Place} (hw : t.walk path = .ok p) :
    t'.walk path = .ok p := by
  obtain ⟨he, hh, hf, hd⟩ := walk_eq_ok.mp hw
  refine walk_eq_ok.mpr ⟨he, hh, ?_, fun hwant => h.directory (hd hwant)⟩
  rw [h.start]
  exact h.walkFrom hf

/-! ### Operations on a path -/

theorem write {content : Bytes} (h : t.write path content = .ok t') :
    ChangedAt (· = t.placeOf path) t t' := by
  obtain ⟨p, hw, hp, -, rfl⟩ := write_eq_ok.mp h
  obtain rfl := eq_placeOf_of_walk hw
  exact put hp _

theorem remove (h : t.remove path = .ok t') : ChangedAt (· = t.placeOf path) t t' := by
  obtain ⟨p, hw, ⟨old, hp⟩, rfl⟩ := remove_eq_ok.mp h
  obtain rfl := eq_placeOf_of_walk hw
  exact erase (by simp [hp])

theorem rename {target : String} (h : t.rename path target = .ok t') :
    ChangedAt (fun p => p = t.placeOf path ∨ p = t.placeOf target) t t' := by
  obtain ⟨p, q, content, hw, hw', hp, hq, rfl⟩ := rename_eq_ok.mp h
  obtain rfl := eq_placeOf_of_walk hw
  obtain rfl := eq_placeOf_of_walk hw'
  have first : ChangedAt (· = t.placeOf path) t (t.erase (t.placeOf path)) :=
    erase (by simp [hp])
  have second : ChangedAt (· = t.placeOf target) (t.erase (t.placeOf path))
      ((t.erase (t.placeOf path)).put (t.placeOf target) (.file content)) := by
    refine put (fun hd => ?_) _
    by_cases he : t.placeOf target = t.placeOf path
    · rw [he, node?_erase_same t (ne_nil_of_node?_ne (t := t) (by simp [hp]))] at hd
      cases hd
    · rw [node?_erase_other t he] at hd
      exact hq hd
  exact (first.mono fun _ => Or.inl).trans (second.mono fun _ => Or.inr)

/-- What is moved can be read at the target. -/
theorem read_of_rename {target : String} {content : Bytes} (hr : t.read path = .ok content)
    (h : t.rename path target = .ok t') : t'.read target = .ok content := by
  have hc := rename h
  obtain ⟨p, q, old, hw, hw', hold, hq, rfl⟩ := rename_eq_ok.mp h
  obtain ⟨p', hp', hfile⟩ := read_eq_ok.mp hr
  obtain rfl : p = p' := Except.ok.inj (hw.symm.trans hp')
  obtain rfl : content = old := Node.file.inj (Option.some.inj (hfile.symm.trans hold))
  exact read_eq_ok.mpr ⟨q, hc.walk hw', node?_put_same _ (ne_nil_of_node?_ne hq) _⟩

theorem makeDirectory (h : t.makeDirectory path = .ok t') :
    ChangedAt (· = t.placeOf path) t t' := by
  obtain ⟨bare, hsteps, hstart, hmake⟩ := exists_makeDirectory_eq path
  rw [hmake] at h
  obtain ⟨p, hw, hp, -, rfl⟩ := makeAt_eq_ok.mp h
  obtain rfl := eq_placeOf_of_walk hw
  have hplace : t.placeOf path = t.placeOf bare := by
    rw [FileTree.placeOf, FileTree.placeOf, hsteps, hstart]
  rw [hplace]
  exact put (by simp [hp]) _

end ChangedAt

/-! ## Growth -/

/-- A tree that comes from another by making directories on some ways and by changes to some
files. -/
structure GrownAt (ways files : Place → Prop) (t t' : FileTree) : Prop where
  workingDirectory : t'.workingDirectory = t.workingDirectory
  directory : ∀ {p}, t.node? p = some .directory → t'.node? p = some .directory
  elsewhere : ∀ {p}, ¬ files p →
    t'.node? p = t.node? p ∨ ways p ∧ t.node? p = none ∧ t'.node? p = some .directory

namespace GrownAt

variable {ways files ways' files' : Place → Prop} {t t' t'' : FileTree}

theorem refl (ways files : Place → Prop) (t : FileTree) : GrownAt ways files t t :=
  ⟨rfl, id, fun _ => Or.inl rfl⟩

theorem of_changed (ways : Place → Prop) (h : ChangedAt files t t') : GrownAt ways files t t' :=
  ⟨h.workingDirectory, h.directory, fun hn => Or.inl (h.elsewhere hn)⟩

theorem trans (h : GrownAt ways files t t') (h' : GrownAt ways files t' t'') :
    GrownAt ways files t t'' where
  workingDirectory := h'.workingDirectory.trans h.workingDirectory
  directory := fun hd => h'.directory (h.directory hd)
  elsewhere := by
    intro p hn
    rcases h.elsewhere hn with he | ⟨hw, hnone, hd⟩
    · rw [← he]
      exact h'.elsewhere hn
    · exact Or.inr ⟨hw, hnone, h'.directory hd⟩

theorem mono (h : GrownAt ways files t t') (hw : ∀ p, ways p → ways' p)
    (hf : ∀ p, files p → files' p) : GrownAt ways' files' t t' where
  workingDirectory := h.workingDirectory
  directory := h.directory
  elsewhere := by
    intro p hn
    rcases h.elsewhere fun hp => hn (hf p hp) with he | ⟨hp, hnone, hd⟩
    · exact Or.inl he
    · exact Or.inr ⟨hw p hp, hnone, hd⟩

/-- A file that is not among those that are changed stays. -/
theorem file (h : GrownAt ways files t t') {p : Place} (hn : ¬ files p) {content : Bytes}
    (hp : t.node? p = some (.file content)) : t'.node? p = some (.file content) := by
  rcases h.elsewhere hn with he | ⟨-, hnone, -⟩
  · rw [he, hp]
  · rw [hp] at hnone
    cases hnone

/-- A file that is not among those that are changed was there before. -/
theorem file_before (h : GrownAt ways files t t') {p : Place} (hn : ¬ files p) {content : Bytes}
    (hp : t'.node? p = some (.file content)) : t.node? p = some (.file content) := by
  rcases h.elsewhere hn with he | ⟨-, -, hd⟩
  · rw [← he, hp]
  · rw [hp] at hd
    cases hd

/-- A directory elsewhere was there before, or has been made on the way. -/
theorem directory_before (h : GrownAt ways files t t') {p : Place} (hn : ¬ files p)
    (hp : t'.node? p = some .directory) : t.node? p = some .directory ∨ ways p := by
  rcases h.elsewhere hn with he | ⟨hw, -⟩
  · exact Or.inl (by rw [← he, hp])
  · exact Or.inr hw

theorem changed (h : GrownAt ways files t t') : ChangedAt (fun p => ways p ∨ files p) t t' where
  workingDirectory := h.workingDirectory
  directory := h.directory
  elsewhere := by
    intro p hn
    rw [not_or] at hn
    rcases h.elsewhere hn.2 with he | ⟨hw, -⟩
    · exact he
    · exact absurd hw hn.1

/-- A file stays readable unless it is among those that are changed. -/
theorem read (h : GrownAt ways files t t') {path : String} (hn : ¬ files (t.placeOf path))
    {content : Bytes} (hr : t.read path = .ok content) : t'.read path = .ok content := by
  obtain ⟨p, hw, hp⟩ := read_eq_ok.mp hr
  obtain rfl := eq_placeOf_of_walk hw
  exact read_eq_ok.mpr ⟨_, h.changed.walk hw, h.file hn hp⟩

end GrownAt

end Interpose.FileTree
