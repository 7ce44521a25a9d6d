import Interpose.Relaxation

/-!
# What a change does to a header list

`ChangedAt names h h'` says that `h'` differs from `h` in entries under some names only, so that all
other entries are there as before, in their order and spelling. `set` and `remove` change a list at
their name only, and lists that differ under some names still do when another name is set or removed
in both (`ChangedAt.set_both`, `ChangedAt.remove_both`).

Where `set` leaves its entry is said by `Placed`: in the place and with the spelling of the first
entry under the name, or at the end. The entry is the only one left under the name (`under_set`).
`set` does so even among the entries that remain when other names are left out (`outside_set`), so
what a run of changes does to some names can be told without the others.

Two lists that are the same when the values under a name are `blanked` differ in those values only.
All changes commute with blanking (`blanked_set_other`, `blanked_set_self`, `blanked_remove`).

The index of a list knows the spelling of the first entry under each name (`HeaderIndex.scan_eq`),
and writing under that spelling is writing under the name (`set_spelling`).
-/

namespace Interpose

theorem sameText_iff {a b : String} : sameText a b = true ↔ lowerText a = lowerText b := by
  rw [sameText, beq_iff_eq]

theorem sameText_comm (a b : String) : sameText a b = sameText b a := by
  rw [Bool.eq_iff_iff, sameText_iff, sameText_iff, eq_comm]

/-- Texts that agree up to case agree with the same texts. -/
theorem sameText_congr {a b : String} (h : sameText a b = true) (c : String) :
    sameText c a = sameText c b := by
  rw [Bool.eq_iff_iff, sameText_iff, sameText_iff, sameText_iff.mp h]

namespace Headers

theorem named_congr {n m : String} (h : sameText n m = true) : named n = named m :=
  funext fun e => sameText_congr h e.1

theorem named_self (name value : String) : named name (name, value) = true := sameText_self name

/-- An entry stands under one name only. -/
theorem not_named_of_named {n m : String} (h : sameText n m = false) {e : String × String}
    (he : named n e = true) : named m e = false := by
  rw [Bool.eq_false_iff, ne_eq, named, sameText_iff]
  intro hm
  rw [named, sameText_iff] at he
  rw [sameText_iff.mpr (he.symm.trans hm)] at h
  cases h

/-- The names with a meaning in lower case. -/
theorem lowerText_names :
    lowerText contentType = "content-type" ∧ lowerText contentLength = "content-length" ∧
      lowerText contentEncoding = "content-encoding" ∧
      lowerText allowOrigin = "access-control-allow-origin" ∧
      lowerText allowCredentials = "access-control-allow-credentials" ∧
      lowerText contentSecurityPolicy = "content-security-policy" ∧
      lowerText location = "location" ∧ lowerText Headers.origin = "origin" ∧
      lowerText setCookie = "set-cookie" := by decide +kernel

/-! ## Where an entry is left -/

/-- A name is left with one entry, in the place and with the spelling of the first one or, where
there is none, at the end. -/
inductive Placed (name value : String) :
    List (String × String) → List (String × String) → Prop
  | kept {front back : List (String × String)} {e : String × String}
    (hfront : ∀ x ∈ front, named name x = false) (he : named name e = true) :
    Placed name value (front ++ e :: back)
      (front ++ (e.1, value) :: back.filter fun x => !named name x)
  | added {es : List (String × String)} (h : ∀ x ∈ es, named name x = false) :
    Placed name value es (es ++ [(name, value)])

variable {h h' h'' : Headers} {name value n m : String}

theorem contains_eq_false : h.contains n = false ↔ ∀ x ∈ h.entries, named n x = false := by
  simp [contains]

theorem replaceFirst_append {front back : List (String × String)} {e : String × String}
    (hfront : ∀ x ∈ front, named name x = false) (he : named name e = true) (value : String) :
    replaceFirst name value (front ++ e :: back) =
      front ++ (e.1, value) :: back.filter fun x => !named name x := by
  induction front with
  | nil => simp [replaceFirst, he]
  | cons x rest ih =>
    have hx := hfront x (by simp)
    rw [List.cons_append, replaceFirst, if_neg (by simp [hx]),
      ih fun y hy => hfront y (by simp [hy])]
    rfl

theorem set_placed (h : Headers) (name value : String) :
    Placed name value h.entries (h.set name value).entries := by
  unfold set
  cases hc : h.contains name with
  | false => exact .added (contains_eq_false.mp hc)
  | true =>
    obtain ⟨e, hfind⟩ := Option.isSome_iff_exists.mp
      (List.find?_isSome.mpr (List.any_eq_true.mp hc))
    obtain ⟨he, front, back, hes, hfront⟩ := List.find?_eq_some_iff_append.mp hfind
    have hfront : ∀ x ∈ front, named name x = false := fun x hx => by simpa using hfront x hx
    simp only [if_true, hes, replaceFirst_append hfront he]
    exact .kept hfront he

namespace Placed

variable {es es' : List (String × String)} {p : String × String → Bool}

/-- Among entries of other names, nothing has changed. -/
theorem filter_of_not (h : Placed name value es es') (hp : ∀ e, named name e = true → p e = false) :
    es'.filter p = es.filter p := by
  cases h with
  | @kept front back e _ he =>
    have hback : (back.filter fun x => !named name x).filter p = back.filter p := by
      rw [List.filter_filter]
      refine List.filter_congr fun x _ => ?_
      cases hx : named name x with
      | true => simp [hp x hx]
      | false => simp
    have hvalue : p (e.1, value) = false := hp _ he
    simp [hback, hp e he, hvalue]
  | added hnone => simp [hp _ (named_self name value)]

/-- Where all entries of the name are kept, its one entry is left in the same place. -/
theorem filter_of_keep (h : Placed name value es es') (hp : ∀ e, named name e = true → p e = true) :
    Placed name value (es.filter p) (es'.filter p) := by
  cases h with
  | @kept front back e hfront he =>
    have hvalue : p (e.1, value) = true := hp _ he
    have hback : (back.filter fun x => !named name x).filter p =
        (back.filter p).filter fun x => !named name x := by
      rw [List.filter_filter, List.filter_filter]
      exact List.filter_congr fun x _ => Bool.and_comm _ _
    rw [List.filter_append, List.filter_cons_of_pos (hp e he), List.filter_append,
      List.filter_cons_of_pos hvalue, hback]
    exact .kept (fun x hx => hfront x (List.mem_filter.mp hx).1) he
  | added hnone =>
    rw [List.filter_append, List.filter_cons_of_pos (hp _ (named_self name value))]
    exact .added fun x hx => hnone x (List.mem_filter.mp hx).1

/-- The name has one entry, which holds the value in the spelling of the first one. -/
theorem filter_named (h : Placed name value es es') :
    es'.filter (named name) = [(((es.find? (named name)).map (·.1)).getD name, value)] := by
  cases h with
  | @kept front back e hfront he =>
    have hnone : front.filter (named name) = [] :=
      List.filter_eq_nil_iff.mpr fun x hx => by simp [hfront x hx]
    have hfind : front.find? (named name) = none :=
      List.find?_eq_none.mpr fun x hx => by simp [hfront x hx]
    have hvalue : named name (e.1, value) = true := he
    simp [hnone, hfind, he, hvalue, List.filter_filter]
  | added hnone =>
    have hfind : es.find? (named name) = none :=
      List.find?_eq_none.mpr fun x hx => by simp [hnone x hx]
    have hnone : es.filter (named name) = [] :=
      List.filter_eq_nil_iff.mpr fun x hx => by simp [hnone x hx]
    simp [hnone, hfind, named_self]

theorem values (h : Placed name value es es') : (es'.filter (named name)).map (·.2) = [value] := by
  rw [h.filter_named]
  rfl

/-- What is left is told by what there was. -/
theorem eq_set (h : Placed name value es es') :
    es' = ((⟨es⟩ : Headers).set name value).entries := by
  cases h with
  | @kept front back e hfront he =>
    have hthere : (⟨front ++ e :: back⟩ : Headers).contains name = true := by simp [contains, he]
    rw [Headers.set, if_pos hthere, replaceFirst_append hfront he]
  | added hnone =>
    have hmissing : (⟨es⟩ : Headers).contains name = false := contains_eq_false.mpr hnone
    rw [Headers.set, if_neg (by simp [hmissing])]

end Placed

/-! ## Changes at some names -/

/-- A list that differs from another in entries under some names only. -/
def ChangedAt (names : List String) (h h' : Headers) : Prop :=
  ∀ p : String × String → Bool, (∀ n ∈ names, ∀ e, named n e = true → p e = false) →
    h'.entries.filter p = h.entries.filter p

namespace ChangedAt

variable {names names' : List String}

theorem refl (names : List String) (h : Headers) : ChangedAt names h h := fun _ _ => rfl

theorem trans (hc : ChangedAt names h h') (hc' : ChangedAt names h' h'') : ChangedAt names h h'' :=
  fun p hp => (hc' p hp).trans (hc p hp)

theorem symm (hc : ChangedAt names h h') : ChangedAt names h' h := fun p hp => (hc p hp).symm

theorem mono (hc : ChangedAt names h h') (hsub : ∀ n ∈ names, n ∈ names') :
    ChangedAt names' h h' :=
  fun p hp => hc p fun n hn => hp n (hsub n hn)

theorem set {key : String} (hk : sameText key n = true) (h : Headers) (value : String) :
    ChangedAt [n] h (h.set key value) :=
  fun _ hp => (set_placed h key value).filter_of_not fun e he =>
    hp n (by simp) e (by rwa [named_congr hk] at he)

theorem remove {key : String} (hk : sameText key n = true) (h : Headers) :
    ChangedAt [n] h (h.remove key) := by
  intro p hp
  rw [Headers.remove, List.filter_filter, named_congr hk]
  refine List.filter_congr fun x _ => ?_
  cases hx : named n x with
  | true => simp [hp n (by simp) x hx]
  | false => simp

end ChangedAt

/-- The entries under a name. -/
def under (h : Headers) (name : String) : List (String × String) := h.entries.filter (named name)

/-- The entries under none of some names. -/
def outside (h : Headers) (names : List String) : List (String × String) :=
  h.entries.filter fun e => names.all fun n => !named n e

theorem getAll_eq (h : Headers) (name : String) : h.getAll name = (h.under name).map (·.2) := rfl

theorem contains_eq (h : Headers) (name : String) :
    h.contains name = (h.under name).any (named name) := by
  simp [contains, under, List.any_filter]

theorem get?_eq (h : Headers) (name : String) : h.get? name = (h.under name).head?.map (·.2) := by
  rw [get?, under, List.head?_filter]

theorem get?_eq_head?_getAll (h : Headers) (name : String) : h.get? name = (h.getAll name).head? := by
  rw [get?_eq, getAll_eq, List.head?_map]

theorem key?_eq (h : Headers) (name : String) : h.key? name = (h.under name).head?.map (·.1) := by
  rw [key?, under, List.head?_filter]

theorem under_congr (hs : sameText n m = true) (h : Headers) : h.under n = h.under m := by
  rw [under, under, named_congr hs]

/-- Setting a name leaves one entry under it, in the spelling of the first one. -/
theorem under_set (h : Headers) (name value : String) :
    (h.set name value).under name = [((h.key? name).getD name, value)] :=
  (set_placed h name value).filter_named

theorem get?_set {key : String} (hk : sameText key n = true) (h : Headers) (value : String) :
    (h.set key value).get? n = some value := by
  rw [get?_eq, ← under_congr hk, under_set]
  rfl

theorem under_eq_nil : h.under n = [] ↔ h.contains n = false := by
  rw [contains_eq_false, under, List.filter_eq_nil_iff]
  simp only [Bool.not_eq_true]

theorem getAll_eq_nil : h.getAll n = [] ↔ h.contains n = false := by
  rw [getAll_eq, List.map_eq_nil_iff, under_eq_nil]

theorem get?_eq_none : h.get? n = none ↔ h.contains n = false := by
  rw [contains_eq_false, get?, Option.map_eq_none_iff, List.find?_eq_none]
  simp only [Bool.not_eq_true]

theorem contains_of_get? (hv : h.get? n = some value) : h.contains n = true := by
  rw [← Bool.not_eq_false, ← get?_eq_none, hv]
  simp

theorem contains_remove {key : String} (hk : sameText key n = true) (h : Headers) :
    (h.remove key).contains n = false := by
  rw [contains_eq_false, remove, named_congr hk]
  exact fun x hx => by simpa using (List.mem_filter.mp hx).2

theorem remove_of_missing (hnone : h.contains n = false) : h.remove n = h := by
  rw [contains_eq_false] at hnone
  rw [remove, List.filter_eq_self.mpr fun x hx => by simp [hnone x hx]]

theorem ChangedAt.under {names : List String} (hc : ChangedAt names h h')
    (hn : ∀ n ∈ names, sameText n m = false) : h'.under m = h.under m :=
  hc (named m) fun n hm _ he => not_named_of_named (hn n hm) he

theorem ChangedAt.contains {names : List String} (hc : ChangedAt names h h')
    (hn : ∀ n ∈ names, sameText n m = false) : h'.contains m = h.contains m := by
  rw [contains_eq, contains_eq, hc.under hn]

theorem ChangedAt.get? {names : List String} (hc : ChangedAt names h h')
    (hn : ∀ n ∈ names, sameText n m = false) : h'.get? m = h.get? m := by
  rw [get?_eq, get?_eq, hc.under hn]

theorem ChangedAt.key? {names : List String} (hc : ChangedAt names h h')
    (hn : ∀ n ∈ names, sameText n m = false) : h'.key? m = h.key? m := by
  rw [key?_eq, key?_eq, hc.under hn]

theorem ChangedAt.outside {names names' : List String} (hc : ChangedAt names h h')
    (hsub : ∀ n ∈ names, n ∈ names') : h'.outside names' = h.outside names' :=
  hc _ fun n hn e he => by
    rw [List.all_eq_false]
    exact ⟨n, hsub n hn, by simp [he]⟩

/-- Leaving out other names leaves the entries under a name. -/
theorem filter_outside (names : List String) (hn : ∀ n ∈ names, sameText n m = false)
    (h : Headers) : (h.outside names).filter (named m) = h.under m := by
  rw [Headers.outside, List.filter_filter, Headers.under]
  refine List.filter_congr fun x _ => ?_
  cases hx : named m x with
  | false => rfl
  | true =>
    rw [Bool.true_and, List.all_eq_true]
    intro n hm
    rw [not_named_of_named (by rw [sameText_comm]; exact hn n hm) hx]
    rfl

/-- Setting a name leaves its entry in the same place where other names are left out. -/
theorem outside_set {names : List String} (hn : ∀ n ∈ names, sameText name n = false)
    (h : Headers) (value : String) :
    Placed name value (h.outside names) ((h.set name value).outside names) :=
  (set_placed h name value).filter_of_keep fun e he => by
    rw [List.all_eq_true]
    intro n hm
    rw [not_named_of_named (hn n hm) he]
    rfl

/-- Lists whose entries outside of some names are the same differ at these names only. -/
theorem ChangedAt.of_outside {names : List String} (ho : h'.outside names = h.outside names) :
    ChangedAt names h h' := by
  intro p hp
  have hsub : ∀ g : Headers, g.entries.filter p = (g.outside names).filter p := fun g => by
    rw [Headers.outside, List.filter_filter]
    refine List.filter_congr fun e _ => ?_
    cases hpe : p e with
    | false => rfl
    | true =>
      have hout : ∀ n ∈ names, named n e = false := fun n hn => by
        rw [Bool.eq_false_iff]
        intro he
        rw [hp n hn e he] at hpe
        cases hpe
      simpa using hout
  rw [hsub h', hsub h, ho]

/-- Setting another name in both of two lists leaves them differing at the same names. -/
theorem ChangedAt.set_both {names : List String} {key : String} (hc : ChangedAt names h h')
    (hn : ∀ n ∈ names, sameText key n = false) (value : String) :
    ChangedAt names (h.set key value) (h'.set key value) := by
  refine .of_outside ?_
  rw [(outside_set hn h value).eq_set, (outside_set hn h' value).eq_set,
    hc.outside fun _ hm => hm]

theorem ChangedAt.remove_both {names : List String} (hc : ChangedAt names h h') (key : String) :
    ChangedAt names (h.remove key) (h'.remove key) := by
  intro p hp
  rw [Headers.remove, Headers.remove, List.filter_filter, List.filter_filter]
  refine hc _ fun n hn e he => ?_
  rw [hp n hn e he, Bool.false_and]

/-! ## Values left out of account -/

/-- A header list with the values under a name blanked. -/
def blanked (h : Headers) (name : String) : Headers :=
  ⟨h.entries.map fun e => if named name e then (e.1, "") else e⟩

/-- Blanking values changes no name. -/
theorem named_blank (name m : String) (e : String × String) :
    named m (if named name e then (e.1, "") else e) = named m e := by
  split <;> rfl

theorem contains_blanked (h : Headers) (name m : String) :
    (h.blanked name).contains m = h.contains m := by
  simp only [contains, blanked, List.any_map, Function.comp_def, named_blank]

theorem get?_blanked (hn : sameText name m = false) (h : Headers) :
    (h.blanked name).get? m = h.get? m := by
  unfold get? blanked
  simp only [List.find?_map, Function.comp_def, named_blank]
  cases hfind : h.entries.find? (named m) with
  | none => rfl
  | some e =>
    have he : named name e = false :=
      not_named_of_named (by rw [sameText_comm]; exact hn) (List.find?_some hfind)
    simp [he]

theorem blanked_remove (h : Headers) (name key : String) :
    (h.remove key).blanked name = (h.blanked name).remove key := by
  simp only [remove, blanked, List.filter_map, Function.comp_def, named_blank]

theorem map_replaceFirst {f : String × String → String × String} (hf : ∀ e, (f e).1 = e.1)
    {key value value' : String} (hv : ∀ e, named key e = true → f (e.1, value) = (e.1, value'))
    (es : List (String × String)) :
    (replaceFirst key value es).map f = replaceFirst key value' (es.map f) := by
  have hnamed : ∀ e, named key (f e) = named key e := fun e => by rw [named, hf, ← named]
  induction es with
  | nil => rfl
  | cons e rest ih =>
    rw [List.map_cons, replaceFirst, replaceFirst, hnamed]
    split
    · rename_i he
      rw [List.map_cons, hv e he, hf, List.filter_map]
      simp only [Function.comp_def, hnamed]
    · rw [List.map_cons, ih]

/-- Setting a name commutes with blanking, up to what blanking makes of the value set. -/
theorem blanked_set (h : Headers) {name key value value' : String}
    (hv : ∀ e : String × String, named key e = true →
      (if named name (e.1, value) then (e.1, "") else (e.1, value)) = (e.1, value')) :
    (h.set key value).blanked name = (h.blanked name).set key value' := by
  unfold set
  rw [contains_blanked]
  split
  · simp only [blanked]
    rw [map_replaceFirst (fun e => by split <;> rfl) hv]
  · simp only [blanked, List.map_append, List.map_cons, List.map_nil]
    rw [hv (key, value) (named_self key value)]

theorem blanked_set_other (h : Headers) {name key : String} (hn : sameText key name = false)
    (value : String) :
    (h.set key value).blanked name = (h.blanked name).set key value :=
  blanked_set h fun e he => by
    have hname : named name (e.1, value) = false := not_named_of_named hn (e := (e.1, value)) he
    rw [hname]
    rfl

theorem blanked_set_self (h : Headers) (name value : String) :
    (h.set name value).blanked name = (h.blanked name).set name "" :=
  blanked_set h fun e he => by
    have hname : named name (e.1, value) = true := he
    rw [hname]
    rfl

/-! ## Spellings -/

theorem replaceFirst_congr (hs : sameText n m = true) (value : String)
    (es : List (String × String)) : replaceFirst n value es = replaceFirst m value es := by
  induction es with
  | nil => rfl
  | cons e rest ih => rw [replaceFirst, replaceFirst, named_congr hs, ih]

/-- Writing under a spelling of a name that is there is writing under the name. -/
theorem set_congr (hs : sameText n m = true) (hc : h.contains m = true) (value : String) :
    h.set n value = h.set m value := by
  have hc' : h.contains n = true := by rwa [contains, named_congr hs]
  rw [set, set, if_pos hc, if_pos hc', replaceFirst_congr hs]

theorem key?_eq_some {key : String} (hk : h.key? n = some key) :
    sameText key n = true ∧ h.contains n = true := by
  obtain ⟨e, hfind, rfl⟩ := Option.map_eq_some_iff.mp hk
  have he : named n e = true := List.find?_some (p := named n) hfind
  exact ⟨he, List.any_eq_true.mpr ⟨e, List.mem_of_find?_eq_some hfind, he⟩⟩

/-- A spelling of one name is none of another. -/
theorem sameText_of_key?_ne {key : String} (hk : h.key? n = some key)
    (hne : sameText n m = false) : sameText key m = false := by
  rw [sameText_comm, sameText_congr (key?_eq_some hk).1, sameText_comm]
  exact hne

theorem key?_eq_none : h.key? n = none ↔ h.contains n = false := by
  rw [contains_eq_false, key?, Option.map_eq_none_iff, List.find?_eq_none]
  simp only [Bool.not_eq_true]

/-- A name is looked up under any of its spellings. -/
theorem get?_congr (hs : sameText n m = true) : h.get? n = h.get? m := by
  rw [get?, get?, named_congr hs]

theorem remove_congr (hs : sameText n m = true) (h : Headers) : h.remove n = h.remove m := by
  rw [remove, remove, named_congr hs]

/-- Setting a name keeps the spelling of its first entry, and brings the one written under if there
was none. -/
theorem key?_set {key : String} (hk : sameText key n = true) (h : Headers) (value : String) :
    (h.set key value).key? n = some ((h.key? n).getD key) := by
  have hsame : h.key? key = h.key? n := by rw [key?_eq, key?_eq, under_congr hk]
  rw [key?_eq, ← under_congr hk, under_set, hsame]
  rfl

/-- Writing under the spelling that a name once had, or under the name if it had none. -/
theorem set_spelling (hc : h.contains n = true → h'.contains n = true) (value : String) :
    h'.set ((h.key? n).getD n) value = h'.set n value := by
  cases hk : h.key? n with
  | none => rfl
  | some key =>
    obtain ⟨hs, hthere⟩ := key?_eq_some hk
    exact set_congr hs (hc hthere) value

/-- The spelling under which a name is written is one of the name. -/
theorem sameText_spelling (h : Headers) (name : String) :
    sameText ((h.key? name).getD name) name = true := by
  cases hk : h.key? name with
  | none => exact sameText_self name
  | some key => exact (key?_eq_some hk).1

end Headers

namespace HeaderIndex

open Headers

/-- A field of the index that notes the spellings of a name holds the first one. -/
theorem foldl_note {field : HeaderIndex → Option String} {n : String}
    (hnote : ∀ index key, field (note index key) =
      if sameText key n then field index <|> some key else field index)
    (index : HeaderIndex) (es : List (String × String)) :
    field (es.foldl (fun index e => index.note e.1) index) =
      (field index <|> (es.find? (named n)).map (·.1)) := by
  induction es generalizing index with
  | nil => simp
  | cons e rest ih =>
    rw [List.foldl_cons, ih, hnote, List.find?_cons]
    cases he : sameText e.1 n with
    | true =>
      have hn : named n e = true := he
      cases field index <;> simp [hn]
    | false =>
      have hn : named n e = false := he
      simp [hn]

/-- The names with a meaning, each with the field of the index for its spelling. -/
def slots : List (String × (HeaderIndex → Option String)) :=
  [(Headers.contentType, contentType), (Headers.allowOrigin, allowOrigin),
   (Headers.allowCredentials, allowCredentials),
   (Headers.contentSecurityPolicy, contentSecurityPolicy), (Headers.location, location),
   (Headers.origin, origin), (Headers.setCookie, setCookie)]

theorem note_slot {name : String} {field : HeaderIndex → Option String}
    (hs : (name, field) ∈ slots) (index : HeaderIndex) (key : String) :
    field (index.note key) =
      if sameText key name then field index <|> some key else field index := by
  simp only [slots, List.mem_cons, List.not_mem_nil, or_false, Prod.mk.injEq] at hs
  unfold note
  simp only [sameText_iff, lowerText_names]
  -- the branches of the other names leave the field as it is
  rcases hs with ⟨rfl, rfl⟩ | ⟨rfl, rfl⟩ | ⟨rfl, rfl⟩ | ⟨rfl, rfl⟩ | ⟨rfl, rfl⟩ | ⟨rfl, rfl⟩ |
    ⟨rfl, rfl⟩
  · simp only [lowerText_names, apply_ite contentType, ite_self]
  · by_cases hk : lowerText key = "access-control-allow-origin" <;>
      simp [lowerText_names, apply_ite allowOrigin, hk]
  · by_cases hk : lowerText key = "access-control-allow-credentials" <;>
      simp [lowerText_names, apply_ite allowCredentials, hk]
  · by_cases hk : lowerText key = "content-security-policy" <;>
      simp [lowerText_names, apply_ite contentSecurityPolicy, hk]
  · by_cases hk : lowerText key = "location" <;> simp [lowerText_names, apply_ite location, hk]
  · by_cases hk : lowerText key = "origin" <;> simp [lowerText_names, apply_ite origin, hk]
  · by_cases hk : lowerText key = "set-cookie" <;> simp [lowerText_names, apply_ite setCookie, hk]

theorem scan_slot {name : String} {field : HeaderIndex → Option String}
    (hs : (name, field) ∈ slots) (h : Headers) : field (scan h) = h.key? name := by
  have hall : ∀ slot ∈ slots, slot.2 {} = none := by simp [slots]
  have hnone : field {} = none := hall _ hs
  rw [scan, foldl_note (note_slot hs), hnone, Headers.key?]
  simp

/-- **The index holds the spelling of the first entry under each of its names.** -/
theorem scan_eq (h : Headers) : scan h =
    { contentType := h.key? Headers.contentType
      allowOrigin := h.key? Headers.allowOrigin
      allowCredentials := h.key? Headers.allowCredentials
      contentSecurityPolicy := h.key? Headers.contentSecurityPolicy
      location := h.key? Headers.location
      origin := h.key? Headers.origin
      setCookie := h.key? Headers.setCookie } := by
  change HeaderIndex.mk _ _ _ _ _ _ _ = _
  congr 1
  all_goals exact scan_slot (by simp [slots]) h

/-- Lists that differ in their media types only have indexes that do. -/
theorem scan_of_changedAt {h h' : Headers} (hc : ChangedAt [Headers.contentType] h h') :
    scan h' = { scan h with contentType := h'.key? Headers.contentType } := by
  have hslot : ∀ m, sameText Headers.contentType m = false → h'.key? m = h.key? m := by
    intro m hm
    exact hc.key? (by simpa using hm)
  rw [scan_eq, scan_eq]
  simp only [mk.injEq, true_and]
  refine ⟨hslot _ ?_, hslot _ ?_, hslot _ ?_, hslot _ ?_, hslot _ ?_, hslot _ ?_⟩ <;>
    simp [sameText, lowerText_names]

theorem contentTypeKey_scan (h : Headers) :
    (scan h).contentTypeKey = (h.key? Headers.contentType).getD Headers.contentType := by
  rw [scan_eq]
  rfl

theorem allowOriginKey_scan (h : Headers) :
    (scan h).allowOriginKey = (h.key? Headers.allowOrigin).getD Headers.allowOrigin := by
  rw [scan_eq]
  rfl

theorem sameText_contentTypeKey (h : Headers) :
    sameText (scan h).contentTypeKey Headers.contentType = true := by
  rw [contentTypeKey_scan]
  exact sameText_spelling h _

theorem sameText_allowOriginKey (h : Headers) :
    sameText (scan h).allowOriginKey Headers.allowOrigin = true := by
  rw [allowOriginKey_scan]
  exact sameText_spelling h _

end HeaderIndex

end Interpose
