import Interpose.Toml.Reader

/-!
# The range of TOML integers

Every integer of a document that is read lies in the range of 64 bits with sign (`inRange_read?`).
Numbers are held to the range as they are read, and whatever is put together from values, by a line
or inside brackets, has only their integers in it.
-/

namespace Interpose

/-- Every integer in a value lies in the range of 64 bits with sign. -/
inductive Toml.InRange : Toml → Prop
  | text (s : String) : InRange (.text s)
  | integer {n : Int} (lower : -0x8000000000000000 ≤ n) (upper : n < 0x8000000000000000) :
    InRange (.integer n)
  | float (spelling : String) : InRange (.float spelling)
  | boolean (b : Bool) : InRange (.boolean b)
  | moment (spelling : String) : InRange (.moment spelling)
  | array {items : List Toml} (h : ∀ v ∈ items, InRange v) : InRange (.array items)
  | table {origin : Origin} {entries : List (String × Toml)} (h : ∀ e ∈ entries, InRange e.2) :
    InRange (.table origin entries)
  | tables {elements : List (List (String × Toml))} (h : ∀ es ∈ elements, ∀ e ∈ es, InRange e.2) :
    InRange (.tables elements)

namespace Toml

/-- Every integer in the values lies in the range. -/
def Entries.AllInRange (es : Entries) : Prop := ∀ e ∈ es, e.2.InRange

/-- Whatever a reader gives has a property. -/
def Step.Gives {α : Type} (step : Step α) (P : α → Prop) : Prop :=
  ∀ s v rest, step s = some (v, rest) → P v

variable {s rest : List Char} {v : Toml} {vs : List Toml} {es es' : Entries} {key : String}
  {path : List String} {origin : Origin} {byDots : Bool} {fuel : Nat}

/-! ## Adding to a document -/

namespace Entries

theorem AllInRange.get? (h : AllInRange es) (hv : es.get? key = some v) : v.InRange := by
  obtain ⟨e, he, rfl⟩ := Option.map_eq_some_iff.mp hv
  exact h e (List.mem_of_find?_eq_some he)

theorem AllInRange.append (h : AllInRange es) (hv : v.InRange) :
    AllInRange (es ++ [(key, v)]) := by
  intro e he
  rcases List.mem_append.mp he with he | he
  · exact h e he
  · obtain rfl := List.mem_singleton.mp he
    exact hv

theorem AllInRange.replace (h : AllInRange es) (hv : v.InRange) :
    AllInRange (es.replace key v) := by
  intro e he
  obtain ⟨e', he', rfl⟩ := List.mem_map.mp he
  split
  · exact hv
  · exact h e' he'

end Entries

open Entries (AllInRange)

/-- A change at the end of a path keeps integers in range if the change of the table there does. -/
theorem inRange_edit {act : Origin → Entries → Option Entries}
    (hact : ∀ origin es es', AllInRange es → act origin es = some es' → AllInRange es')
    (hes : AllInRange es) (h : edit byDots act path origin es = some es') : AllInRange es' := by
  induction path generalizing origin es es' with
  | nil => exact hact origin es es' hes h
  | cons key path ih =>
    rw [edit] at h
    split at h
    · simp only [Option.bind_eq_bind, Option.bind_eq_some_iff, Option.pure_def,
        Option.some.injEq] at h
      obtain ⟨inner, hinner, rfl⟩ := h
      exact hes.append (.table (ih (by simp [AllInRange]) hinner))
    · rename_i inner hget
      split at h
      · cases h
      · simp only [Option.bind_eq_bind, Option.bind_eq_some_iff, Option.pure_def,
          Option.some.injEq] at h
        obtain ⟨inner', hinner, rfl⟩ := h
        cases hes.get? hget with
        | table hold => exact hes.replace (.table (ih hold hinner))
    · rename_i elements hget
      simp only [Option.bind_eq_bind, Option.bind_eq_some_iff, Option.pure_def,
        Option.some.injEq] at h
      obtain ⟨last, hlast, inner, hinner, rfl⟩ := h
      cases hes.get? hget with
      | tables hold =>
        refine hes.replace (.tables fun es hmem => ?_)
        rcases List.mem_append.mp hmem with hmem | hmem
        · exact hold es (List.dropLast_subset _ hmem)
        · obtain rfl := List.mem_singleton.mp hmem
          exact ih (hold last (List.mem_of_getLast? hlast)) hinner
    · cases h

theorem inRange_define (hes : AllInRange es) (hv : v.InRange) (h : define key v es = some es') :
    AllInRange es' := by
  rw [define] at h
  split at h
  · cases h
  · obtain rfl := Option.some.inj h
    exact hes.append hv

theorem inRange_assign (hes : AllInRange es) (hv : v.InRange)
    (h : assign path key v origin es = some es') : AllInRange es' := by
  refine inRange_edit (fun origin es es' hes h => ?_) hes h
  split at h
  · exact inRange_define hes hv h
  · cases h

theorem inRange_openTable (hes : AllInRange es) (h : openTable path key es = some es') :
    AllInRange es' := by
  refine inRange_edit (fun origin es es' hes h => ?_) hes h
  split at h
  · obtain rfl := Option.some.inj h
    exact hes.append (.table (by simp))
  · rename_i inner hget
    obtain rfl := Option.some.inj h
    cases hes.get? hget with
    | table hold => exact hes.replace (.table hold)
  · cases h

theorem inRange_openElement (hes : AllInRange es) (h : openElement path key es = some es') :
    AllInRange es' := by
  refine inRange_edit (fun origin es es' hes h => ?_) hes h
  split at h
  · obtain rfl := Option.some.inj h
    exact hes.append (.tables (by simp))
  · rename_i elements hget
    obtain rfl := Option.some.inj h
    cases hes.get? hget with
    | tables hold =>
      refine hes.replace (.tables fun es hmem => ?_)
      rcases List.mem_append.mp hmem with hmem | hmem
      · exact hold es hmem
      · obtain rfl := List.mem_singleton.mp hmem
        simp
  · cases h

/-! ## Values -/

theorem inRange_integer? {n : Int} (h : integer? n = some v) : v.InRange := by
  rw [integer?] at h
  split at h
  · rename_i hn
    obtain rfl := Option.some.inj h
    exact .integer hn.1 hn.2
  · cases h

theorem gives_decimal? : Step.Gives decimal? Toml.InRange := by
  intro s v rest h
  simp only [decimal?, Option.bind_eq_bind, Option.bind_eq_some_iff] at h
  obtain ⟨⟨whole, r⟩, -, ⟨fraction, after⟩, -, ⟨exponent, rest'⟩, -, h⟩ := h
  split at h
  · simp only [Option.bind_eq_some_iff, Option.pure_def, Option.some.injEq, Prod.mk.injEq] at h
    obtain ⟨v, hv, rfl, -⟩ := h
    exact inRange_integer? hv
  · split at h
    · cases h
    · obtain ⟨rfl, -⟩ := Prod.mk.inj (Option.some.inj h)
      exact .float _

theorem gives_number? : Step.Gives number? Toml.InRange := by
  intro s v rest h
  have based : ∀ base r, ((digits? base r).bind fun found =>
      (integer? (ofDigits base found.1)).bind fun n => some (n, found.2)) = some (v, rest) →
        v.InRange := by
    intro base r h
    simp only [Option.bind_eq_some_iff, Option.some.injEq, Prod.mk.injEq] at h
    obtain ⟨_, -, v, hv, rfl, -⟩ := h
    exact inRange_integer? hv
  unfold number? at h
  dsimp only at h
  split at h
  · exact based _ _ h
  · exact based _ _ h
  · exact based _ _ h
  · obtain ⟨rfl, -⟩ := Prod.mk.inj (Option.some.inj h)
    exact .float _
  · obtain ⟨rfl, -⟩ := Prod.mk.inj (Option.some.inj h)
    exact .float _
  · exact gives_decimal? _ _ _ h

theorem gives_figure? : Step.Gives figure? Toml.InRange := by
  intro s v rest h
  rw [figure?] at h
  split at h
  · simp only [Option.bind_eq_bind, Option.bind_eq_some_iff, Option.pure_def, Option.some.injEq,
      Prod.mk.injEq] at h
    obtain ⟨_, -, rfl, -⟩ := h
    exact .moment _
  · split at h
    · simp only [Option.bind_eq_bind, Option.bind_eq_some_iff, Option.pure_def,
        Option.some.injEq, Prod.mk.injEq] at h
      obtain ⟨_, -, rfl, -⟩ := h
      exact .moment _
    · exact gives_number? _ _ _ h

theorem gives_scalar? : Step.Gives scalar? Toml.InRange := by
  intro s v rest h
  unfold scalar? at h
  split at h
  · obtain ⟨rfl, -⟩ := Prod.mk.inj (Option.some.inj h)
    exact .boolean _
  · obtain ⟨rfl, -⟩ := Prod.mk.inj (Option.some.inj h)
    exact .boolean _
  · have literal : ∀ {s}, (literal? s).map (fun found => (Toml.text found.1, found.2)) =
        some (v, rest) → v.InRange := by
      intro s h
      obtain ⟨_, -, h⟩ := Option.map_eq_some_iff.mp h
      obtain ⟨rfl, -⟩ := Prod.mk.inj h
      exact .text _
    split at h
    · exact literal h
    · exact literal h
    · exact gives_figure? _ _ _ h

section Containers

variable {value : Step Toml} (hvalue : Step.Gives value Toml.InRange)

include hvalue

theorem inRange_items? {done : List Toml} (hdone : ∀ v ∈ done, v.InRange)
    (h : items? value fuel done s = some (vs, rest)) : ∀ v ∈ vs, v.InRange := by
  induction fuel generalizing done s with
  | zero => cases h
  | succ fuel ih =>
    rw [items?] at h
    simp only [Option.bind_eq_bind, Option.bind_eq_some_iff] at h
    obtain ⟨s', -, h⟩ := h
    split at h
    · obtain ⟨rfl, -⟩ := Prod.mk.inj (Option.some.inj h)
      simpa using hdone
    · simp only [Option.bind_eq_some_iff] at h
      obtain ⟨⟨v, r⟩, hv, s'', -, h⟩ := h
      have hmore : ∀ w ∈ v :: done, w.InRange :=
        List.forall_mem_cons.mpr ⟨hvalue _ _ _ hv, hdone⟩
      split at h
      · exact ih hmore h
      · obtain ⟨rfl, -⟩ := Prod.mk.inj (Option.some.inj h)
        exact fun w hw => hmore w (List.mem_reverse.mp hw)
      · cases h

theorem inRange_member? (hes : AllInRange es) (h : member? value es s = some (es', rest)) :
    AllInRange es' := by
  simp only [member?, Option.bind_eq_bind, Option.bind_eq_some_iff, Option.pure_def,
    Option.some.injEq, Prod.mk.injEq] at h
  obtain ⟨⟨⟨path, key⟩, r⟩, -, r', -, ⟨v, r''⟩, hv, es', hassign, rfl, -⟩ := h
  exact inRange_assign hes (hvalue _ _ _ hv) hassign

theorem inRange_members? (hes : AllInRange es) (h : members? value fuel es s = some (es', rest)) :
    AllInRange es' := by
  induction fuel generalizing es s with
  | zero => cases h
  | succ fuel ih =>
    rw [members?] at h
    simp only [Option.bind_eq_bind, Option.bind_eq_some_iff] at h
    obtain ⟨⟨done, r⟩, hmember, h⟩ := h
    have hdone := inRange_member? hvalue hes hmember
    split at h
    · rename_i he
      obtain ⟨rfl, -⟩ := Prod.mk.inj he
      exact ih hdone h
    · rename_i he
      obtain ⟨rfl, -⟩ := Prod.mk.inj he
      obtain ⟨rfl, -⟩ := Prod.mk.inj (Option.some.inj h)
      exact hdone
    · cases h

end Containers

theorem gives_value? (depth : Nat) : Step.Gives (value? depth) Toml.InRange := by
  induction depth with
  | zero => exact gives_scalar?
  | succ depth ih =>
    intro s v rest h
    unfold value? at h
    split at h
    · obtain ⟨_, hitems, h⟩ := Option.map_eq_some_iff.mp h
      obtain ⟨rfl, -⟩ := Prod.mk.inj h
      exact .array (inRange_items? ih (by simp) hitems)
    · split at h
      · obtain ⟨rfl, -⟩ := Prod.mk.inj (Option.some.inj h)
        exact .table (by simp)
      · obtain ⟨_, hmembers, h⟩ := Option.map_eq_some_iff.mp h
        obtain ⟨rfl, -⟩ := Prod.mk.inj h
        exact .table (inRange_members? ih (by simp [AllInRange]) hmembers)
    · exact gives_scalar? _ _ _ h

/-! ## Documents -/

/-- A line keeps the integers of a draft in range. -/
theorem inRange_line? {d d' : Draft} (hd : AllInRange d.root) (h : line? d s = some (d', rest)) :
    AllInRange d'.root := by
  unfold line? at h
  split at h
  · simp only [Option.bind_eq_bind, Option.bind_eq_some_iff, Option.pure_def, Option.some.injEq,
      Prod.mk.injEq] at h
    obtain ⟨⟨⟨path, key⟩, r⟩, -, _, -, _, -, _, -, root, hroot, rfl, -⟩ := h
    exact inRange_openElement hd hroot
  · simp only [Option.bind_eq_bind, Option.bind_eq_some_iff, Option.pure_def, Option.some.injEq,
      Prod.mk.injEq] at h
    obtain ⟨⟨⟨path, key⟩, r⟩, -, _, -, _, -, root, hroot, rfl, -⟩ := h
    exact inRange_openTable hd hroot
  · simp only [Option.bind_eq_bind, Option.bind_eq_some_iff, Option.pure_def, Option.some.injEq,
      Prod.mk.injEq] at h
    obtain ⟨⟨⟨path, key⟩, r⟩, -, _, -, ⟨v, r'⟩, hv, _, -, root, hroot, rfl, -⟩ := h
    exact inRange_edit (fun _ _ _ hes => inRange_assign hes (gives_value? 79 _ _ _ hv)) hd hroot

theorem inRange_lines? {d : Draft} (hd : AllInRange d.root) (h : lines? fuel d s = some es) :
    AllInRange es := by
  induction fuel generalizing d s with
  | zero => cases h
  | succ fuel ih =>
    rw [lines?] at h
    split at h
    · obtain rfl := Option.some.inj h
      exact hd
    · split at h
      · exact ih hd h
      · split at h
        · rename_i hline
          exact ih (inRange_line? hd hline) h
        · cases h

/-- **Every integer of a document lies in the range of 64 bits with sign.** -/
theorem inRange_read? {text : String} (h : read? text = some v) : v.InRange := by
  obtain ⟨es, hes, rfl⟩ := Option.map_eq_some_iff.mp h
  exact .table (inRange_lines? (by simp [AllInRange]) hes)

/-! ## Fields -/

theorem lt_of_nat? {n : Nat} (hv : v.InRange) (h : v.nat? = some n) : n < 0x8000000000000000 := by
  cases hv with
  | @integer i lower upper =>
    cases i with
    | ofNat m =>
      obtain rfl := Option.some.inj h
      exact Int.ofNat_lt.mp upper
    | negSucc m => cases h
  | text | float | boolean | moment | array | table | tables => cases h

theorem inRange_fields? {names : List String} {fields : List (Option Toml)} (hv : v.InRange)
    (h : v.fields? names = some fields) : ∀ field ∈ fields, ∀ w ∈ field, w.InRange := by
  cases hv with
  | table hes =>
    obtain rfl := Option.some.inj h
    intro field hfield w hw
    obtain ⟨key, -, rfl⟩ := List.mem_map.mp hfield
    exact AllInRange.get? hes hw
  | array hitems =>
    obtain rfl := Option.some.inj h
    intro field hfield w hw
    obtain ⟨i, -, rfl⟩ := List.mem_map.mp hfield
    exact hitems w (List.mem_of_getElem? hw)
  | tables helements =>
    obtain rfl := Option.some.inj h
    intro field hfield w hw
    obtain ⟨i, -, rfl⟩ := List.mem_map.mp hfield
    obtain ⟨es, hes, rfl⟩ := Option.map_eq_some_iff.mp hw
    exact .table (helements es (List.mem_of_getElem? hes))
  | moment =>
    obtain rfl := Option.some.inj h
    intro field hfield w hw
    obtain ⟨key, -, rfl⟩ := List.mem_map.mp hfield
    cases hw
  | text | integer | float | boolean => cases h

end Toml

end Interpose
