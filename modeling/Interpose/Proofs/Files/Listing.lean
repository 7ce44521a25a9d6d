import Interpose.Proofs.Files.Directory

/-!
# What a directory holds

A file tree that names each place below a directory once (`SingleBelow`) lists the directory exactly:
the children are the nodes that stand one step below it (`mem_children`), each once and in order of
their names (`children_sorted`).

An operation only ever puts and erases (`Edited`), so it keeps such a tree.
-/

namespace Interpose

open FileTree

namespace FileTree

variable {r q p : Place} {t t' t'' : FileTree} {path target : String} {content : Bytes} {node : Node}
  {name : String}

/-! ## Trees that name a place once -/

/-- A tree that names no place below another twice. -/
def SingleBelow (r : Place) (t : FileTree) : Prop :=
  t.entries.Pairwise fun a b => ∀ p, p ≠ [] → a.1 = r ++ p → b.1 ≠ r ++ p

theorem node?_eq_none (hp : p ≠ []) : t.node? p = none ↔ ∀ e ∈ t.entries, e.1 ≠ p := by
  simp [node?, hp, List.find?_eq_none]

theorem SingleBelow.of_none (h : ∀ p, p ≠ [] → t.node? (r ++ p) = none) : SingleBelow r t :=
  List.pairwise_of_forall_mem_list fun _ ha _ _ p hp he =>
    absurd he ((node?_eq_none (by simp [hp])).mp (h p hp) _ ha)

theorem SingleBelow.append (h : SingleBelow r t) (q : Place) : SingleBelow (r ++ q) t :=
  h.imp fun hne p hp => by
    rw [List.append_assoc]
    exact hne (q ++ p) (by simp [hp])

theorem SingleBelow.erase (h : SingleBelow r t) (q : Place) : SingleBelow r (t.erase q) :=
  h.filter _

theorem SingleBelow.put (h : SingleBelow r t) (q : Place) (node : Node) :
    SingleBelow r (t.put q node) := by
  refine List.pairwise_append.mpr ⟨h.erase q, List.pairwise_singleton _ _, ?_⟩
  intro a ha b hb p _ hap hbp
  rw [List.mem_singleton] at hb
  obtain ⟨-, hne⟩ := List.mem_filter.mp ha
  simp [hap, ← hbp, hb] at hne

/-- Where a place is named once, what is named stands there. -/
theorem SingleBelow.node?_eq_some (h : SingleBelow r t) (hp : p ≠ []) :
    t.node? (r ++ p) = some node ↔ (r ++ p, node) ∈ t.entries := by
  rw [node?, if_neg (by simp [hp]), Option.map_eq_some_iff]
  unfold SingleBelow at h
  generalize t.entries = entries at h ⊢
  induction entries with
  | nil => simp
  | cons e entries ih =>
    obtain ⟨hhead, htail⟩ := List.pairwise_cons.mp h
    by_cases he : e.1 = r ++ p
    · have hother : (r ++ p, node) ∉ entries := fun hm => hhead _ hm p hp he rfl
      simp [he, hother, Prod.ext_iff, eq_comm]
    · rw [List.find?_cons_of_neg (by simpa using he), ih htail]
      simp [Prod.ext_iff, Ne.symm he]

/-! ## Edits -/

/-- A tree that comes from another by putting and erasing. -/
inductive Edited (t : FileTree) : FileTree → Prop
  | refl : Edited t t
  | put {t' : FileTree} (h : Edited t t') (p : Place) (node : Node) : Edited t (t'.put p node)
  | erase {t' : FileTree} (h : Edited t t') (p : Place) : Edited t (t'.erase p)

theorem SingleBelow.of_edited (h : SingleBelow r t) (he : Edited t t') : SingleBelow r t' := by
  induction he with
  | refl => exact h
  | put _ p node ih => exact ih.put p node
  | erase _ p ih => exact ih.erase p

namespace Edited

theorem trans (h : Edited t t') (h' : Edited t' t'') : Edited t t'' := by
  induction h' with
  | refl => exact h
  | put _ p node ih => exact ih.put p node
  | erase _ p ih => exact ih.erase p

theorem write (h : t.write path content = .ok t') : Edited t t' := by
  obtain ⟨p, -, -, -, rfl⟩ := write_eq_ok.mp h
  exact refl.put p _

theorem remove (h : t.remove path = .ok t') : Edited t t' := by
  obtain ⟨p, -, -, rfl⟩ := remove_eq_ok.mp h
  exact refl.erase p

theorem rename (h : t.rename path target = .ok t') : Edited t t' := by
  obtain ⟨p, q, old, -, -, -, -, rfl⟩ := rename_eq_ok.mp h
  exact (refl.erase p).put q _

theorem makeDirectory (h : t.makeDirectory path = .ok t') : Edited t t' := by
  obtain ⟨bare, -, -, hmake⟩ := exists_makeDirectory_eq path
  rw [hmake] at h
  obtain ⟨p, -, -, -, rfl⟩ := makeAt_eq_ok.mp h
  exact refl.put p _

theorem growFrom (t : FileTree) (p : Place) (names : List String) :
    Edited t (t.growFrom p names) := by
  induction names generalizing t p with
  | nil => exact refl
  | cons name rest ih =>
    rw [FileTree.growFrom]
    split
    · exact refl
    · split
      · exact ih _ _
      · exact refl
      · exact (refl.put _ _).trans (ih _ _)

theorem grow (t : FileTree) (path : String) : Edited t (t.grow path) := by
  rw [FileTree.grow]
  split
  · exact refl
  · exact growFrom t _ _

/-- What an operation that may fail leaves. -/
theorem getD {result : Except Obstacle FileTree} (h : ∀ t', result = .ok t' → Edited t t') :
    Edited t (result.toOption.getD t) := by
  cases result with
  | error e => exact refl
  | ok t' => exact h t' rfl

end Edited

/-! ## Children -/

theorem childName?_eq_some : childName? q p = some name ↔ p = q ++ [name] := by
  rw [← stripFront?_eq_some, childName?]
  split
  · rename_i found hs
    simp [hs]
  · rename_i hne
    simp only [reduceCtorEq, false_iff]
    exact hne name

/-- The children of a directory are what stands one step below it. -/
theorem mem_children (h : SingleBelow q t) :
    (name, node) ∈ t.children q ↔ t.node? (q ++ [name]) = some node := by
  rw [h.node?_eq_some (by simp), children, List.mem_mergeSort, List.mem_filterMap]
  constructor
  · rintro ⟨⟨p, node'⟩, hm, he⟩
    rw [Option.map_eq_some_iff] at he
    obtain ⟨name', hname, he⟩ := he
    obtain ⟨rfl, rfl⟩ := Prod.mk.inj he
    rwa [← childName?_eq_some.mp hname]
  · intro hm
    refine ⟨_, hm, ?_⟩
    dsimp only
    rw [childName?_eq_some.mpr rfl, Option.map_some]

/-- Children are listed once each, in order of their names. -/
theorem children_sorted (h : SingleBelow q t) : (t.children q).Pairwise fun a b => a.1 < b.1 := by
  have hle : (t.children q).Pairwise fun a b => a.1 ≤ b.1 := by
    refine (List.pairwise_mergeSort ?_ ?_ _).imp fun hab => of_decide_eq_true hab
    · intro a b c hab hbc
      exact decide_eq_true (String.le_trans (of_decide_eq_true hab) (of_decide_eq_true hbc))
    · intro a b
      rw [Bool.or_eq_true, decide_eq_true_eq, decide_eq_true_eq]
      exact String.le_total a.1 b.1
  have hne : (t.children q).Pairwise fun a b => a.1 ≠ b.1 := by
    refine ((List.mergeSort_perm _ _).pairwise_iff fun hab => hab.symm).mpr ?_
    refine List.pairwise_filterMap.mpr (h.imp ?_)
    intro e e' hsingle a ha b hb hab
    obtain ⟨name, hname, rfl⟩ := Option.map_eq_some_iff.mp ha
    obtain ⟨name', hname', rfl⟩ := Option.map_eq_some_iff.mp hb
    obtain rfl : name = name' := hab
    exact hsingle [name] (by simp) (childName?_eq_some.mp hname) (childName?_eq_some.mp hname')
  refine (hle.and hne).imp fun ⟨hle, hne⟩ => ?_
  exact Classical.byContradiction fun hlt => hne (String.le_antisymm hle (String.not_lt.mp hlt))

theorem list_eq_ok {children : List (String × Node)} : t.list path = .ok children ↔
    ∃ p, t.walk path = .ok p ∧ t.node? p = some .directory ∧ children = t.children p := by
  unfold list
  cases hw : t.walk path with
  | error e => simp
  | ok p =>
    cases hp : t.node? p with
    | none => simp [hp]
    | some node => cases node <;> simp [hp, eq_comm]

end FileTree

end Interpose
