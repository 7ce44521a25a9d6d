import Interpose.Proofs.Http.Headers

/-!
# A header list as a multimap

Setting, appending and removing are the calls that change a header list (`Headers.Edit`). Each works
on the entries under one name, up to case, and leaves those under all other names as they are
(`changedAt_apply`). What it makes of the entries under its own name depends on these entries alone
(`Edit.onOwn`, `under_apply`). So after any sequence of calls the entries under a name are what the
calls for that name make of those at the start (`under_foldl`), which is to say that a header list
is a multimap that keeps order and spelling (`edits_keep_multimap`).

The walk that sets a name may count the entries that it passes and compare the count with the place
of the first entry under the name, looked up before the walk (`set_eq_keptByCount`).

Removals commute with each other and with settings of other names (`remove_comm`, `remove_set`), and
of two settings of a name the second counts (`set_set`).
-/

namespace Interpose

namespace Headers

/-! ## Calls -/

/-- A call that changes a header list. -/
inductive Edit
  | set (name value : String)
  | append (name value : String)
  | remove (name : String)
  deriving DecidableEq, Repr

namespace Edit

/-- The name that a call is for. -/
def name : Edit → String
  | set name _ => name
  | append name _ => name
  | remove name => name

/-- The list after a call. -/
def apply (h : Headers) : Edit → Headers
  | set name value => h.set name value
  | append name value => h.append name value
  | remove name => h.remove name

/-- What a call returns: a removal, the value that a look-up finds before it. -/
def returned (h : Headers) : Edit → Option String
  | set _ _ => none
  | append _ _ => none
  | remove name => h.get? name

/-- What a call makes of the entries under its name. -/
def onOwn (es : List (String × String)) : Edit → List (String × String)
  | set name value => [((es.head?.map (·.1)).getD name, value)]
  | append name value => es ++ [(name, value)]
  | remove _ => []

end Edit

/-- What a call should do to a list. -/
structure Edited (before : Headers) (edit : Edit) (returned : Option String) (after : Headers) :
    Prop where
  /-- Setting leaves one value under the name, in the place and with the spelling of the first entry
  or, where there was none, at the end under the name itself. -/
  set : ∀ name value, edit = .set name value →
    after.getAll name = [value] ∧ Placed name value before.entries after.entries
  /-- Appending adds an entry at the end. -/
  append : ∀ name value, edit = .append name value →
    after.entries = before.entries ++ [(name, value)]
  /-- Removing leaves no entry under the name and returns the value of the first that there was. -/
  remove : ∀ name, edit = .remove name →
    (∀ e ∈ after.entries, named name e = false) ∧ returned = (before.getAll name).head?
  /-- The entries under other names are the same, in the same order and spelling. -/
  others : after.others edit.name = before.others edit.name

theorem edited_apply (h : Headers) (edit : Edit) :
    Edited h edit (edit.returned h) (edit.apply h) := by
  cases edit with
  | set name value =>
    refine ⟨fun n v he => ?_, nofun, nofun, set_frame h name value⟩
    cases he
    exact ⟨(set_placed h name value).values, set_placed h name value⟩
  | append name value =>
    refine ⟨nofun, fun n v he => ?_, nofun, append_frame h name value⟩
    cases he
    rfl
  | remove name =>
    refine ⟨nofun, nofun, fun n he => ?_, remove_frame h name⟩
    cases he
    exact ⟨contains_eq_false.mp (contains_remove (sameText_self name) h),
      get?_eq_head?_getAll h name⟩

/-! ## Calls name by name -/

theorem ChangedAt.append (h : Headers) (name value : String) :
    ChangedAt [name] h (h.append name value) := by
  intro p hp
  have hnot : p (name, value) = false := hp name (by simp) _ (named_self name value)
  simp [Headers.append, hnot]

/-- A call changes entries under its own name only. -/
theorem changedAt_apply (h : Headers) (edit : Edit) : ChangedAt [edit.name] h (edit.apply h) := by
  cases edit with
  | set name value => exact .set (sameText_self name) h value
  | append name value => exact .append h name value
  | remove name => exact .remove (sameText_self name) h

/-- What a call makes of the entries under its name depends on these alone. -/
theorem under_apply (h : Headers) (edit : Edit) :
    (edit.apply h).under edit.name = edit.onOwn (h.under edit.name) := by
  cases edit with
  | set name value =>
    refine (under_set h name value).trans ?_
    rw [key?_eq]
    rfl
  | append name value =>
    simp [Edit.apply, Edit.onOwn, Edit.name, Headers.append, under, named_self]
  | remove name => exact under_eq_nil.mpr (contains_remove (sameText_self name) h)

/-! ## Sequences of calls -/

/-- A sequence of calls changes entries under the names of its calls only. -/
theorem changedAt_foldl (h : Headers) (edits : List Edit) :
    ChangedAt (edits.map Edit.name) h (edits.foldl Edit.apply h) := by
  induction edits generalizing h with
  | nil => exact .refl _ h
  | cons edit rest ih =>
    refine ((changedAt_apply h edit).mono ?_).trans ((ih (edit.apply h)).mono ?_)
    · simp
    · exact fun n hn => List.mem_cons_of_mem _ hn

/-- After a sequence of calls, the entries under a name are what the calls for it made of them. -/
theorem under_foldl (h : Headers) (edits : List Edit) (n : String) :
    (edits.foldl Edit.apply h).under n =
      (edits.filter fun edit => sameText edit.name n).foldl Edit.onOwn (h.under n) := by
  induction edits generalizing h with
  | nil => rfl
  | cons edit rest ih =>
    rw [List.foldl_cons, ih]
    cases hs : sameText edit.name n with
    | true =>
      have hown : (edit.apply h).under n = edit.onOwn (h.under n) := by
        rw [← under_congr hs, ← under_congr hs, under_apply]
      simp only [List.filter_cons, hs, if_true, List.foldl_cons, hown]
    | false =>
      have hother := (changedAt_apply h edit).under (m := n) (by simpa using hs)
      simp only [List.filter_cons, hs, Bool.false_eq_true, if_false, hother]

/-- **A header list is a multimap that keeps order and spelling.** After any sequence of calls on
any list, one more call does what it should. And the entries under each name are then what the calls
for that name made of those at the start, while all entries under names without a call are still
there in the same order. -/
theorem edits_keep_multimap (h : Headers) (edits : List Edit) :
    (∀ edit : Edit, Edited (edits.foldl Edit.apply h) edit
      (edit.returned (edits.foldl Edit.apply h)) (edit.apply (edits.foldl Edit.apply h))) ∧
    (∀ n, (edits.foldl Edit.apply h).under n =
      (edits.filter fun edit => sameText edit.name n).foldl Edit.onOwn (h.under n)) ∧
    (edits.foldl Edit.apply h).outside (edits.map Edit.name) = h.outside (edits.map Edit.name) :=
  ⟨edited_apply _, under_foldl h edits, (changedAt_foldl h edits).outside fun _ hn => hn⟩

/-! ## Setting by count -/

/-- What a walk keeps that counts the entries it passes: all up to the place `first`, and behind it
those under other names. -/
def keptByCount (name : String) (first : Nat) : Nat → List (String × String) →
    List (String × String)
  | _, [] => []
  | count, e :: rest =>
    if count ≤ first || !named name e then e :: keptByCount name first (count + 1) rest
    else keptByCount name first (count + 1) rest

theorem keptByCount_of_lt {name : String} {first count : Nat} (hlt : first < count)
    (es : List (String × String)) :
    keptByCount name first count es = es.filter fun e => !named name e := by
  induction es generalizing count with
  | nil => rfl
  | cons e rest ih =>
    have hpast : ¬ count ≤ first := by omega
    rw [keptByCount, ih (by omega)]
    simp only [hpast, decide_false, Bool.false_or, List.filter_cons]

theorem keptByCount_append {name : String} {first count : Nat}
    {front : List (String × String)} (hle : count + front.length ≤ first + 1)
    (es : List (String × String)) :
    keptByCount name first count (front ++ es) =
      front ++ keptByCount name first (count + front.length) es := by
  induction front generalizing count with
  | nil => rfl
  | cons e rest ih =>
    rw [List.length_cons] at hle ⊢
    have hreached : count ≤ first := by omega
    rw [List.cons_append, keptByCount, ih (by omega)]
    simp only [hreached, decide_true, Bool.true_or, if_true, List.cons_append,
      Nat.add_assoc, Nat.add_comm 1]

theorem Placed.eq_keptByCount {name value : String} {es es' : List (String × String)}
    (h : Placed name value es es') :
    es' = match es.findIdx? (named name) with
      | some first => keptByCount name first 0 (es.modify first fun e => (e.1, value))
      | none => es ++ [(name, value)] := by
  cases h with
  | added hnone => rw [List.findIdx?_eq_none_iff.mpr hnone]
  | @kept front back e hfront he =>
    have hfirst : (front ++ e :: back).findIdx? (named name) = some front.length := by
      rw [List.findIdx?_append, List.findIdx?_eq_none_iff.mpr hfront]
      simp [List.findIdx?_cons, he]
    have hmodify : (front ++ e :: back).modify front.length (fun e => (e.1, value)) =
        front ++ (e.1, value) :: back :=
      List.modifyTailIdx_add (List.modifyHead fun e => (e.1, value)) 0 front (e :: back)
    rw [hfirst]
    dsimp only
    rw [hmodify, keptByCount_append (by omega), Nat.zero_add, keptByCount,
      keptByCount_of_lt (by omega)]
    simp

/-- **Setting a name is a walk that counts.** The first entry under the name takes the value, and of
the entries behind its place those under other names are kept. -/
theorem set_eq_keptByCount (h : Headers) (name value : String) :
    (h.set name value).entries =
      match h.entries.findIdx? (named name) with
      | some first => keptByCount name first 0 (h.entries.modify first fun e => (e.1, value))
      | none => h.entries ++ [(name, value)] :=
  (set_placed h name value).eq_keptByCount

/-! ## Calls one after the other -/

theorem remove_comm (h : Headers) (n m : String) :
    (h.remove n).remove m = (h.remove m).remove n := by
  simp only [remove, List.filter_filter]
  exact congrArg mk (List.filter_congr fun _ _ => Bool.and_comm _ _)

/-- Removing a name and setting another one commute, also where the setting adds an entry. -/
theorem remove_set {n m : String} (hn : sameText n m = false) (h : Headers) (value : String) :
    (h.set n value).remove m = (h.remove m).set n value := by
  -- removing a name is leaving it out, and a setting is placed the same where names are left out
  have hout : ∀ g : Headers, g.outside [m] = (g.remove m).entries := fun g => by
    simp [outside, remove]
  have hplaced : Placed n value (h.outside [m]) ((h.set n value).outside [m]) :=
    outside_set (by simpa using hn) h value
  rw [hout, hout] at hplaced
  exact congrArg mk hplaced.eq_set

/-- Placing another value leads to the same from where an entry has been placed as from before. -/
theorem Placed.again {name value : String} {es es' : List (String × String)}
    (h : Placed name value es es') (value' : String) :
    ∃ es'', Placed name value' es es'' ∧ Placed name value' es' es'' := by
  cases h with
  | added hnone => exact ⟨_, .added hnone, .kept hnone (named_self name value)⟩
  | @kept front back e hfront he =>
    have hagain : Placed name value' (front ++ (e.1, value) :: back.filter fun x => !named name x)
        (front ++ (e.1, value') :: (back.filter fun x => !named name x).filter
          fun x => !named name x) :=
      .kept hfront he
    simp only [List.filter_filter, Bool.and_self] at hagain
    exact ⟨_, .kept hfront he, hagain⟩

/-- Of two settings of a name the second counts. -/
theorem set_set (h : Headers) (name value value' : String) :
    (h.set name value).set name value' = h.set name value' := by
  obtain ⟨es, hfirst, hsecond⟩ := (set_placed h name value).again value'
  exact congrArg mk (hsecond.eq_set.symm.trans hfirst.eq_set)

end Headers

end Interpose
