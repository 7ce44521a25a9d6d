import Interpose.Proofs.Files.Change

/-!
# What an operation looks at

An operation on a path looks at the places on the way of the path and at the one above its goal
(`Near`), and nowhere else: on two trees that agree there it gives the same answer, and leaves trees
that agree wherever they did before (`AgreeOn.write`, `AgreeOn.rename`, `AgreeOn.makeDirectories`
and the others).
-/

namespace Interpose.FileTree

open Interpose.Path

/-- Two trees that cannot be told apart at some places. -/
structure AgreeOn (places : Place → Prop) (t u : FileTree) : Prop where
  workingDirectory : u.workingDirectory = t.workingDirectory
  node : ∀ {p}, places p → u.node? p = t.node? p

/-- Two results of an operation that cannot be told apart at some places. -/
inductive Alike (places : Place → Prop) :
    Except Obstacle FileTree → Except Obstacle FileTree → Prop
  | ok {t u : FileTree} (h : AgreeOn places t u) : Alike places (.ok t) (.ok u)
  | error (e : Obstacle) : Alike places (.error e) (.error e)

/-- The places that an operation on a path looks at. -/
def Near (t : FileTree) (path : String) (p : Place) : Prop :=
  onWay t path p ∨ p = (t.placeOf path).dropLast

namespace AgreeOn

variable {places places' : Place → Prop} {t u : FileTree} {path : String}

theorem mono (h : AgreeOn places t u) (hp : ∀ p, places' p → places p) : AgreeOn places' t u :=
  ⟨h.workingDirectory, fun hq => h.node (hp _ hq)⟩

theorem start (h : AgreeOn places t u) (path : String) : u.start path = t.start path := by
  unfold FileTree.start
  rw [h.workingDirectory]

theorem placeOf (h : AgreeOn places t u) (path : String) : u.placeOf path = t.placeOf path := by
  unfold FileTree.placeOf
  rw [h.start]

/-! ## Changes at a place -/

theorem put (h : AgreeOn places t u) (p : Place) (node : Node) :
    AgreeOn places (t.put p node) (u.put p node) := by
  refine ⟨h.workingDirectory, fun {q} hq => ?_⟩
  by_cases hqp : q = p
  · subst hqp
    by_cases hn : q = []
    · subst hn
      rfl
    · rw [node?_put_same t hn, node?_put_same u hn]
  · rw [node?_put_other t hqp, node?_put_other u hqp, h.node hq]

theorem erase (h : AgreeOn places t u) (p : Place) :
    AgreeOn places (t.erase p) (u.erase p) := by
  refine ⟨h.workingDirectory, fun {q} hq => ?_⟩
  by_cases hqp : q = p
  · subst hqp
    by_cases hn : q = []
    · subst hn
      rfl
    · rw [node?_erase_same t hn, node?_erase_same u hn]
  · rw [node?_erase_other t hqp, node?_erase_other u hqp, h.node hq]

/-! ## Walking and reading -/

theorem step {p : Place} (hp : u.node? p = t.node? p) (name : String) :
    u.step p name = t.step p name := by
  unfold FileTree.step
  rw [hp]

theorem walkFrom (h : AgreeOn places t u) {names : List String} {p : Place}
    (hp : ∀ q, Along p names q → places q) : u.walkFrom p names = t.walkFrom p names := by
  induction names generalizing p with
  | nil => rfl
  | cons name rest ih =>
    rw [FileTree.walkFrom, FileTree.walkFrom, step (h.node (hp p (along_start p _)))]
    cases hs : t.step p name with
    | error e => rfl
    | ok q =>
      obtain ⟨-, -, rfl⟩ := step_eq_ok.mp hs
      exact ih fun q hq => hp q hq.cons

theorem walk (h : AgreeOn places t u) (hp : ∀ p, onWay t path p → places p) :
    u.walk path = t.walk path := by
  unfold FileTree.walk
  rw [h.start, h.walkFrom hp]
  split
  · rfl
  · split
    · rfl
    · cases hw : t.walkFrom (t.start path) (steps path) with
      | error e => rfl
      | ok q =>
        obtain rfl := eq_goal_of_walkFrom hw
        simp only
        rw [h.node (hp _ (along_goal _ _))]

theorem read (h : AgreeOn places t u) (hp : ∀ p, onWay t path p → places p) :
    u.read path = t.read path := by
  unfold FileTree.read FileTree.look
  rw [h.walk hp]
  cases hw : t.walk path with
  | error e => rfl
  | ok q =>
    obtain rfl := eq_placeOf_of_walk hw
    simp only
    rw [h.node (hp _ (onWay_placeOf t path))]

theorem isFile (h : AgreeOn places t u) (hp : ∀ p, onWay t path p → places p) :
    u.isFile path = t.isFile path := by
  rw [Bool.eq_iff_iff, isFile_eq_true, isFile_eq_true, h.read hp]

/-! ## Operations on a path -/

theorem write (h : AgreeOn places t u) (hp : ∀ p, Near t path p → places p) (content : Bytes) :
    Alike places (t.write path content) (u.write path content) := by
  unfold FileTree.write
  rw [h.walk fun p hw => hp p (Or.inl hw)]
  cases hw : t.walk path with
  | error e => exact .error e
  | ok q =>
    obtain rfl := eq_placeOf_of_walk hw
    dsimp only
    rw [h.node (hp _ (Or.inl (onWay_placeOf t path))), hasRoom, hasRoom, h.node (hp _ (Or.inr rfl))]
    cases t.node? (t.placeOf path) with
    | none =>
      dsimp only
      split
      · exact .ok (h.put _ _)
      · exact .error _
    | some node =>
      cases node with
      | directory => exact .error _
      | file old => exact .ok (h.put _ _)

theorem remove (h : AgreeOn places t u) (hp : ∀ p, Near t path p → places p) :
    Alike places (t.remove path) (u.remove path) := by
  unfold FileTree.remove
  rw [h.walk fun p hw => hp p (Or.inl hw)]
  cases hw : t.walk path with
  | error e => exact .error e
  | ok q =>
    obtain rfl := eq_placeOf_of_walk hw
    dsimp only
    rw [h.node (hp _ (Or.inl (onWay_placeOf t path)))]
    cases t.node? (t.placeOf path) with
    | none => exact .error _
    | some node =>
      cases node with
      | directory => exact .error _
      | file old => exact .ok (h.erase _)

theorem rename (h : AgreeOn places t u) {target : String} (hp : ∀ p, Near t path p → places p)
    (hq : ∀ p, Near t target p → places p) :
    Alike places (t.rename path target) (u.rename path target) := by
  unfold FileTree.rename
  rw [h.walk fun p hw => hp p (Or.inl hw), h.walk fun p hw => hq p (Or.inl hw)]
  cases hw : t.walk path with
  | error e => exact .error e
  | ok p =>
    cases hw' : t.walk target with
    | error e => exact .error e
    | ok q =>
      obtain rfl := eq_placeOf_of_walk hw
      obtain rfl := eq_placeOf_of_walk hw'
      dsimp only
      rw [h.node (hp _ (Or.inl (onWay_placeOf t path))),
        h.node (hq _ (Or.inl (onWay_placeOf t target)))]
      split
      · exact .error _
      · exact .error _
      · exact .error _
      · exact .ok ((h.erase _).put _ _)

theorem makeFrom (h : AgreeOn places t u) {names : List String} {p : Place}
    (hp : ∀ q, Along p names q → places q) :
    Alike places (t.makeFrom p names) (u.makeFrom p names) := by
  induction names generalizing t u p with
  | nil => exact .ok h
  | cons name rest ih =>
    rw [FileTree.makeFrom, FileTree.makeFrom, step (h.node (hp p (along_start p _)))]
    cases hs : t.step p name with
    | error e => exact .error e
    | ok q =>
      obtain ⟨-, -, rfl⟩ := step_eq_ok.mp hs
      have hrest : ∀ q, Along (next p name) rest q → places q := fun q hq => hp q hq.cons
      dsimp only
      rw [h.node (hrest _ (along_start _ _))]
      cases t.node? (next p name) with
      | none => exact ih (h.put _ _) hrest
      | some node =>
        cases node with
        | file content => exact .error _
        | directory => exact ih h hrest

theorem makeDirectories (h : AgreeOn places t u) (hp : ∀ p, onWay t path p → places p) :
    Alike places (t.makeDirectories path) (u.makeDirectories path) := by
  unfold FileTree.makeDirectories
  split
  · exact .error _
  · rw [h.start]
    exact h.makeFrom hp

theorem growFrom (h : AgreeOn places t u) {names : List String} {p : Place}
    (hp : ∀ q, Along p names q → places q) :
    AgreeOn places (t.growFrom p names) (u.growFrom p names) := by
  induction names generalizing t u p with
  | nil => exact h
  | cons name rest ih =>
    rw [FileTree.growFrom, FileTree.growFrom, step (h.node (hp p (along_start p _)))]
    cases hs : t.step p name with
    | error e => exact h
    | ok q =>
      obtain ⟨-, -, rfl⟩ := step_eq_ok.mp hs
      have hrest : ∀ q, Along (next p name) rest q → places q := fun q hq => hp q hq.cons
      dsimp only
      rw [h.node (hrest _ (along_start _ _))]
      cases t.node? (next p name) with
      | none => exact ih (h.put _ _) hrest
      | some node =>
        cases node with
        | file content => exact h
        | directory => exact ih h hrest

theorem grow (h : AgreeOn places t u) (hp : ∀ p, onWay t path p → places p) :
    AgreeOn places (t.grow path) (u.grow path) := by
  unfold FileTree.grow
  split
  · exact h
  · rw [h.start]
    exact h.growFrom hp

theorem makeDirectory (h : AgreeOn places t u) (hp : ∀ p, Near t path p → places p) :
    Alike places (t.makeDirectory path) (u.makeDirectory path) := by
  obtain ⟨bare, hsteps, hstart, hmake⟩ := exists_makeDirectory_eq path
  have hbare : ∀ p, Near t bare p → places p := by
    intro p hn
    unfold Near onWay FileTree.placeOf at hn
    rw [hsteps, hstart] at hn
    exact hp p hn
  rw [hmake, hmake, makeAt, makeAt, h.walk fun p hw => hbare p (Or.inl hw)]
  cases hw : t.walk bare with
  | error e => exact .error e
  | ok q =>
    obtain rfl := eq_placeOf_of_walk hw
    dsimp only
    rw [h.node (hbare _ (Or.inl (onWay_placeOf t bare))), hasRoom, hasRoom,
      h.node (hbare _ (Or.inr rfl))]
    cases t.node? (t.placeOf bare) with
    | some node => exact .error _
    | none =>
      dsimp only
      split
      · exact .ok (h.put _ _)
      · exact .error _

end AgreeOn

end Interpose.FileTree
