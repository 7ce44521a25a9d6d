import Interpose.Proofs.Json.Literal

/-!
# Values there and back

`Reads v cs` says that the characters `cs` bring the reader from where a value may start to where
`v` is in its place, whatever containers are open around it. It holds of the literals, and of an
array or object whose items or members it holds of, with any blanks between them
(`Reads.array_cons`, `Reads.object_cons`). Both layouts of a value are of this form
(`reads_compact`, `reads_pretty`), so reading gives back every value that holds no minus zero
(`read?_compact`, `read?_pretty`).

A record is an object of those fields of a table that are there (`present`), and its reader finds
each of them in its place of the table (`fields?_present`).
-/

namespace Interpose.Json

/-- The characters that read as a value. -/
def Reads (v : Json) (cs : List Char) : Prop :=
  ∀ closable stack, (feed ⟨.value closable, stack⟩ cs).Alike (.complete stack v)

/-- Characters that are blanks. -/
def Gap (cs : List Char) : Prop := ∀ c ∈ cs, c ∈ blanks

variable {v : Json} {items : List Json} {members : List (Option String × Json)}
  {cs rest gap gap' : List Char} {stack : List Frame} {r : Reader} {c : Char}

theorem Gap.nil : Gap [] := by
  simp [Gap]

theorem gap_newLine (level : Nat) : Gap (newLine level) := by
  intro c hc
  simp only [newLine, List.mem_cons, List.mem_replicate] at hc
  rcases hc with rfl | ⟨-, rfl⟩ <;> decide

theorem gap_space : Gap [' '] := by
  simp [Gap, blanks]

/-! ## Blanks -/

theorem forall_blanks {P : Char → Prop} :
    (∀ c ∈ blanks, P c) ↔ P ' ' ∧ P '\n' ∧ P '\r' ∧ P '\t' := by
  simp [blanks]

/-- A reader that passes over each blank passes over a gap. -/
theorem feed_gap (h : ∀ c ∈ blanks, feed r [c] = r) (hg : Gap gap) : feed r gap = r := by
  induction gap with
  | nil => rfl
  | cons c gap ih =>
    obtain ⟨hc, hgap⟩ := List.forall_mem_cons.mp hg
    rw [feed_cons, h c hc, ih hgap]

theorem feed_gap_value (closable : Bool) (stack : List Frame) (hg : Gap gap) :
    feed ⟨.value closable, stack⟩ gap = ⟨.value closable, stack⟩ :=
  feed_gap (forall_blanks.mpr ⟨rfl, rfl, rfl, rfl⟩) hg

theorem feed_gap_name (done : List (Option String × Json)) (closable : Bool) (stack : List Frame)
    (hg : Gap gap) : feed ⟨.name done closable, stack⟩ gap = ⟨.name done closable, stack⟩ :=
  feed_gap (forall_blanks.mpr ⟨rfl, rfl, rfl, rfl⟩) hg

/-- Blanks and a delimiter after a value. -/
theorem Reader.Alike.after_gap (h : r.Alike ⟨.next, stack⟩) (hg : Gap gap) (hc : c ∈ delimiters)
    (cs : List Char) : feed r (gap ++ c :: cs) = feed ⟨.next, stack⟩ (c :: cs) := by
  have hnext : ∀ c ∈ blanks, feed ⟨.next, stack⟩ [c] = ⟨.next, stack⟩ :=
    forall_blanks.mpr ⟨rfl, rfl, rfl, rfl⟩
  cases gap with
  | nil => rw [List.nil_append, feed_cons, h.delimiter hc, ← feed_cons]
  | cons b gap =>
    obtain ⟨hb, hgap⟩ := List.forall_mem_cons.mp hg
    rw [List.cons_append, feed_cons, h.delimiter (List.mem_append_right _ hb), hnext b hb,
      feed_append, feed_gap hnext hgap]

/-! ## Arrays -/

/-- The characters that read as the other items of an array and its end. -/
def ReadsItems (items : List Json) (cs : List Char) : Prop :=
  ∀ done stack r, r.Alike ⟨.next, .array done :: stack⟩ →
    feed r cs = .complete stack (.array (done.reverse ++ items))

theorem ReadsItems.nil (hg : Gap gap) : ReadsItems [] (gap ++ [']']) := by
  intro done stack r h
  rw [h.after_gap hg (by decide), List.append_nil]
  rfl

theorem ReadsItems.cons (hg : Gap gap) (hv : Reads v cs) (hrest : ReadsItems items rest) :
    ReadsItems (v :: items) (',' :: (gap ++ cs ++ rest)) := by
  intro done stack r h
  have hcomma : feed ⟨.next, .array done :: stack⟩ [','] = ⟨.value false, .array done :: stack⟩ :=
    rfl
  rw [feed_cons, h.delimiter (by decide), hcomma, feed_append, feed_append,
    feed_gap_value _ _ hg, hrest (v :: done) stack _ (hv _ _), List.reverse_cons,
    List.append_assoc, List.singleton_append]

theorem Reads.array_nil : Reads (.array []) ['[', ']'] := fun _ _ => .refl _

theorem Reads.array_cons (hg : Gap gap) (hv : Reads v cs) (hrest : ReadsItems items rest) :
    Reads (.array (v :: items)) ('[' :: (gap ++ cs ++ rest)) := by
  intro closable stack
  have hopen : feed ⟨.value closable, stack⟩ ['['] = ⟨.value true, .array [] :: stack⟩ := rfl
  rw [feed_cons, hopen, feed_append, feed_append, feed_gap_value _ _ hg,
    hrest [v] stack _ (hv _ _)]
  exact .refl _

/-! ## Objects -/

/-- The characters that read as the other members of an object and its end. -/
def ReadsMembers (members : List (Option String × Json)) (cs : List Char) : Prop :=
  ∀ done stack r, r.Alike ⟨.next, .object done none :: stack⟩ →
    feed r cs = .complete stack (.object (done.reverse ++ members))

theorem ReadsMembers.nil (hg : Gap gap) : ReadsMembers [] (gap ++ ['}']) := by
  intro done stack r h
  rw [h.after_gap hg (by decide), List.append_nil]
  rfl

/-- A member after the members `done`. -/
theorem feed_member (hg : Gap gap) (hg' : Gap gap') (hv : Reads v cs)
    (done : List (Option String × Json)) (closable : Bool) (name : Option String) :
    (feed ⟨.name done closable, stack⟩ (gap ++ quote name ++ ':' :: (gap' ++ cs))).Alike
      ⟨.next, .object ((name, v) :: done) none :: stack⟩ := by
  have hcolon : feed ⟨.colon done name, stack⟩ [':'] =
      ⟨.value false, .object done name :: stack⟩ := rfl
  rw [feed_append, feed_append, feed_gap_name _ _ _ hg, feed_name, feed_cons, hcolon, feed_append,
    feed_gap_value _ _ hg']
  exact hv false (.object done name :: stack)

theorem ReadsMembers.cons (hg : Gap gap) (hg' : Gap gap') (hv : Reads v cs) (name : Option String)
    (hrest : ReadsMembers members rest) :
    ReadsMembers ((name, v) :: members)
      (',' :: (gap ++ quote name ++ ':' :: (gap' ++ cs) ++ rest)) := by
  intro done stack r h
  have hcomma : feed ⟨.next, .object done none :: stack⟩ [','] = ⟨.name done false, stack⟩ := rfl
  rw [feed_cons, h.delimiter (by decide), hcomma, feed_append,
    hrest ((name, v) :: done) stack _ (feed_member hg hg' hv done false name), List.reverse_cons,
    List.append_assoc, List.singleton_append]

theorem Reads.object_nil : Reads (.object []) ['{', '}'] := fun _ _ => .refl _

theorem Reads.object_cons (hg : Gap gap) (hg' : Gap gap') (hv : Reads v cs) (name : Option String)
    (hrest : ReadsMembers members rest) :
    Reads (.object ((name, v) :: members))
      ('{' :: (gap ++ quote name ++ ':' :: (gap' ++ cs) ++ rest)) := by
  intro closable stack
  have hopen : feed ⟨.value closable, stack⟩ ['{'] = ⟨.name [] true, stack⟩ := rfl
  rw [feed_cons, hopen, feed_append,
    hrest [(name, v)] stack _ (feed_member hg hg' hv [] true name)]
  exact .refl _

/-! ## The two layouts -/

/-- The values that are written as they are read: no number in them is an integer minus zero. -/
inductive Normal : Json → Prop
  | null : Normal .null
  | bool (b : Bool) : Normal (.bool b)
  | number {n : Numeral} (h : n.Normal) : Normal (.number n)
  | string (s : Option String) : Normal (.string s)
  | array {items : List Json} (h : ∀ v ∈ items, Normal v) : Normal (.array items)
  | object {members : List (Option String × Json)} (h : ∀ m ∈ members, Normal m.2) :
    Normal (.object members)

theorem Reads.null : Reads .null "null".toList := fun _ _ => .refl _

theorem Reads.bool (b : Bool) : Reads (.bool b) (if b then "true" else "false").toList := by
  cases b <;> exact fun _ _ => .refl _

theorem Reads.string (s : Option String) : Reads (.string s) (quote s) := by
  intro closable stack
  rw [feed_quote]
  exact .refl _

theorem Reads.number {n : Numeral} (h : n.Normal) : Reads (.number n) (numeral n) :=
  fun closable stack => feed_numeral closable stack h

theorem readsItems_compact (h : ∀ v ∈ items, Reads v (compactChars v)) :
    ReadsItems items (compactItems false items) := by
  induction items with
  | nil => exact .nil .nil
  | cons v items ih =>
    obtain ⟨hv, hitems⟩ := List.forall_mem_cons.mp h
    exact .cons .nil hv (ih hitems)

theorem readsMembers_compact (h : ∀ m ∈ members, Reads m.2 (compactChars m.2)) :
    ReadsMembers members (compactMembers false members) := by
  induction members with
  | nil => exact .nil .nil
  | cons m members ih =>
    obtain ⟨hm, hmembers⟩ := List.forall_mem_cons.mp h
    simpa [compactMembers] using ReadsMembers.cons .nil .nil hm m.1 (ih hmembers)

/-- A value without blanks reads as the value. -/
theorem reads_compact (h : v.Normal) : Reads v (compactChars v) := by
  -- By induction on `Normal`, a container's items and members come with their own readings, so the
  -- lists of them need no induction together with that on values.
  induction h with
  | null => exact .null
  | bool b => exact .bool b
  | number hn => exact .number hn
  | string s => exact .string s
  | @array items _ ih =>
    cases items with
    | nil => exact .array_nil
    | cons v items =>
      obtain ⟨hv, hitems⟩ := List.forall_mem_cons.mp ih
      exact .array_cons .nil hv (readsItems_compact hitems)
  | @object members _ ih =>
    cases members with
    | nil => exact .object_nil
    | cons m members =>
      obtain ⟨hm, hmembers⟩ := List.forall_mem_cons.mp ih
      simpa [compactChars, compactMembers] using
        Reads.object_cons .nil .nil hm m.1 (readsMembers_compact hmembers)

theorem readsItems_pretty {level : Nat} (h : ∀ v ∈ items, Reads v (prettyChars (level + 1) v)) :
    ReadsItems items (prettyItems level false items) := by
  induction items with
  | nil => exact .nil (gap_newLine level)
  | cons v items ih =>
    obtain ⟨hv, hitems⟩ := List.forall_mem_cons.mp h
    exact .cons (gap_newLine (level + 1)) hv (ih hitems)

theorem readsMembers_pretty {level : Nat}
    (h : ∀ m ∈ members, Reads m.2 (prettyChars (level + 1) m.2)) :
    ReadsMembers members (prettyMembers level false members) := by
  induction members with
  | nil => exact .nil (gap_newLine level)
  | cons m members ih =>
    obtain ⟨hm, hmembers⟩ := List.forall_mem_cons.mp h
    simpa [prettyMembers] using
      ReadsMembers.cons (gap_newLine (level + 1)) gap_space hm m.1 (ih hmembers)

/-- A value with one item or member per line reads as the value. -/
theorem reads_pretty (h : v.Normal) (level : Nat) : Reads v (prettyChars level v) := by
  induction h generalizing level with
  | null => exact .null
  | bool b => exact .bool b
  | number hn => exact .number hn
  | string s => exact .string s
  | @array items _ ih =>
    cases items with
    | nil => exact .array_nil
    | cons v items =>
      obtain ⟨hv, hitems⟩ := List.forall_mem_cons.mp ih
      exact .array_cons (gap_newLine (level + 1)) (hv _)
        (readsItems_pretty fun v hv => hitems v hv _)
  | @object members _ ih =>
    cases members with
    | nil => exact .object_nil
    | cons m members =>
      obtain ⟨hm, hmembers⟩ := List.forall_mem_cons.mp ih
      simpa [prettyChars, prettyMembers] using
        Reads.object_cons (gap_newLine (level + 1)) gap_space (hm _) m.1
          (readsMembers_pretty fun m hm => hmembers m hm _)

/-! ## Whole texts -/

theorem Reads.read? {s : String} (h : Reads v s.toList) : read? (Bytes.ofText s) = some v :=
  (h false []).finish

/-- **Reading a value written without blanks gives it back.** -/
theorem read?_compact (h : v.Normal) : read? (Bytes.ofText v.compact) = some v :=
  Reads.read? (by simpa [compact] using reads_compact h)

/-- **Reading a value written with one item or member per line gives it back.** -/
theorem read?_pretty (h : v.Normal) : read? (Bytes.ofText v.pretty) = some v :=
  Reads.read? (by simpa [pretty] using reads_pretty h 0)

/-- Minus zero is read as a decimal. -/
example : read? (Bytes.ofText (compact (.number (.whole true 0)))) =
    some (.number (.scaled true 0 0)) := rfl

/-! ## Records -/

/-- The fields of a record that are there, of a table with a place for each. -/
def present (table : List (String × Option Json)) : List (String × Json) :=
  table.filterMap fun (name, v?) => v?.map (name, ·)

theorem mem_present {table : List (String × Option Json)} {m : String × Json} :
    m ∈ present table ↔ (m.1, some m.2) ∈ table := by
  obtain ⟨name, v⟩ := m
  simp only [present, List.mem_filterMap, Option.map_eq_some_iff, Prod.mk.injEq]
  constructor
  · rintro ⟨⟨name', v?⟩, hmem, v', rfl, rfl, rfl⟩
    exact hmem
  · exact fun hmem => ⟨(name, some v), hmem, v, rfl, rfl, rfl⟩

/-- A name of the table has its field's member and no other. -/
theorem filter_present {table : List (String × Option Json)} (h : (table.map (·.1)).Nodup)
    {name : String} {v? : Option Json} (hmem : (name, v?) ∈ table) :
    (present table).filter (·.1 == name) = (v?.map (name, ·)).toList := by
  induction table with
  | nil => cases hmem
  | cons e table ih =>
    obtain ⟨hfresh, hnodup⟩ := List.nodup_cons.mp h
    have hcons : present (e :: table) = (e.2.map (e.1, ·)).toList ++ present table := by
      obtain ⟨n, w?⟩ := e
      cases w? <;> rfl
    rw [hcons, List.filter_append]
    rcases List.mem_cons.mp hmem with rfl | hmem
    · have hrest : (present table).filter (·.1 == name) = [] := by
        rw [List.filter_eq_nil_iff]
        intro m hm hname
        rw [← beq_iff_eq.mp hname] at hfresh
        exact hfresh (List.mem_map.mpr ⟨_, mem_present.mp hm, rfl⟩)
      rw [hrest]
      cases v? <;> simp
    · have hne : (e.1 == name) = false := by
        rw [beq_eq_false_iff_ne]
        rintro rfl
        exact hfresh (List.mem_map.mpr ⟨_, hmem, rfl⟩)
      rw [ih hnodup hmem]
      cases e.2 <;> simp [hne]

theorem mapM_eq_some {α β : Type} {f : α → Option β} {g : α → β} {xs : List α}
    (h : ∀ x ∈ xs, f x = some (g x)) : xs.mapM f = some (xs.map g) := by
  induction xs with
  | nil => rfl
  | cons x xs ih =>
    obtain ⟨hx, hxs⟩ := List.forall_mem_cons.mp h
    rw [List.mapM_cons, hx, ih hxs]
    rfl

/-- **The fields of a record are read back**, each in its place of the table. -/
theorem fields?_present (table : List (String × Option Json)) (h : (table.map (·.1)).Nodup) :
    (record (present table)).fields? (table.map (·.1)) = some (table.map (·.2)) := by
  have hnamed : ((present table).map fun m => (some m.1, m.2)).any (·.1.isNone) = false := by
    simp
  rw [record, fields?, hnamed, if_neg Bool.false_ne_true, List.mapM_map]
  refine mapM_eq_some fun e he => ?_
  have hfilter : ((present table).map fun m => (some m.1, m.2)).filter (·.1 == some e.1) =
      (e.2.map (some e.1, ·)).toList := by
    rw [List.filter_map]
    have hpred : ((fun m : Option String × Json => m.1 == some e.1) ∘
        fun m : String × Json => (some m.1, m.2)) = fun m => m.1 == e.1 := by
      funext m
      simp
    rw [hpred, filter_present h he]
    cases e.2 <;> rfl
  simp only [Function.comp_apply, hfilter]
  cases e.2 <;> rfl

/-- A list is read back if each of its items is. -/
theorem list?_map {α : Type} {f : Json → Option α} {g : α → Json} (h : ∀ x, f (g x) = some x)
    (xs : List α) : (Json.array (xs.map g)).list? f = some xs := by
  rw [list?, List.mapM_map, mapM_eq_some (f := f ∘ g) (g := id) fun x _ => h x, List.map_id]

/-- An optional text is read back, as none where its field is left out. -/
theorem withDefault_text (s : Option String) :
    withDefault none (optional? text?) (s.map text) = some s := by
  cases s <;> rfl

/-- A record is not left out. -/
theorem optional?_record {α : Type} (f : Json → Option α) (members : List (String × Json)) :
    optional? f (record members) = (f (record members)).map some := rfl

/-- An optional value that was read is one. -/
theorem of_optional? {α : Type} {f : Json → Option α} {field : Option Json} {x : α}
    (h : withDefault none (optional? f) field = some (some x)) : ∃ v, f v = some x := by
  cases field with
  | none => cases h
  | some v =>
    simp only [withDefault] at h
    unfold optional? at h
    split at h
    · cases h
    · exact ⟨v, by simpa using h⟩

/-- A number that was read below a bound is below it. -/
theorem lt_of_natBelow? {bound n : Nat} {v : Json} (h : v.natBelow? bound = some n) :
    n < bound := by
  unfold natBelow? at h
  split at h
  · obtain ⟨hlt, hn⟩ := Option.ite_none_right_eq_some.mp h
    exact Option.some.inj hn ▸ hlt
  · cases h

@[simp] theorem normal_text (s : String) : (text s).Normal := .string _

@[simp] theorem normal_nat (n : Nat) : (nat n).Normal :=
  .number (by simp [Numeral.Normal])

theorem normal_texts (xs : List String) : (Json.array (xs.map text)).Normal := by
  refine .array fun v hv => ?_
  obtain ⟨s, -, rfl⟩ := List.mem_map.mp hv
  exact normal_text s

theorem normal_record {members : List (String × Json)} (h : ∀ m ∈ members, m.2.Normal) :
    (record members).Normal := by
  refine .object fun m hm => ?_
  obtain ⟨m, hmem, rfl⟩ := List.mem_map.mp hm
  exact h m hmem

theorem normal_present {table : List (String × Option Json)}
    (h : ∀ e ∈ table, ∀ v ∈ e.2, v.Normal) : (record (present table)).Normal :=
  normal_record fun _ hm => h _ (mem_present.mp hm) _ rfl

end Interpose.Json
