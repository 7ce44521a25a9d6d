import Interpose.Proofs.Toml.Value

/-!
# TOML documents there and back

A printed document is read as the tables that it lists (`read?_print?`), if tables and the keys in
each of them go by distinct names without quotes. The reader takes a line at a time, each with a
unit of its fuel, so that a text yields a root table (`Yields`) is told for all fuel beyond its
length, from the last line of the text to the first.
-/

namespace Interpose.Toml

variable {α β : Type} {c : Char} {s s' rest : List Char} {d d' : Draft} {root done es : Entries}
  {key name : String} {under : List String}

/-! ## Names -/

/-- A name that is written without quotes. -/
def Bare (name : String) : Prop := name.toList ≠ [] ∧ ∀ c ∈ name.toList, isKeyChar c = true

instance (name : String) : Decidable (Bare name) :=
  decidable_of_iff (name.toList ≠ [] ∧ name.toList.all isKeyChar = true)
    (and_congr_right fun _ => List.all_eq_true)

/-- Entries under distinct names without quotes. -/
structure Named (entries : List (String × α)) : Prop where
  nodup : (entries.map Prod.fst).Nodup
  bare : ∀ name ∈ entries.map Prod.fst, Bare name

theorem Named.of_names {entries : List (String × α)} (names : List String)
    (h : entries.map Prod.fst = names) (hnodup : names.Nodup) (hbare : ∀ name ∈ names, Bare name) :
    Named entries := by
  subst h
  exact ⟨hnodup, hbare⟩

/-- A name without quotes starts with a character of a key. -/
theorem Bare.append_ne (h : Bare name) (hd : isKeyChar c = false) (s s' : List Char) :
    name.toList ++ s ≠ c :: s' := by
  intro he
  obtain ⟨d, ds, hcons⟩ := List.exists_cons_of_ne_nil h.1
  have hkey : isKeyChar d = true := h.2 d (by simp [hcons])
  rw [hcons] at he
  obtain rfl := (List.cons.inj he).1
  rw [hkey] at hd
  cases hd

theorem isSolid_of_isKeyChar (h : isKeyChar c = true) : isSolid c = true := by
  have hne : ∀ d, isKeyChar d = false → (c == d) = false := by
    intro d hd
    refine beq_false_of_ne ?_
    rintro rfl
    rw [h] at hd
    cases hd
  simp [isSolid, isBlank, hne ' ' (by decide), hne '\t' (by decide), hne '\n' (by decide),
    hne '\r' (by decide), hne '#' (by decide)]

theorem isBlank_of_isSolid (h : isSolid c = true) : isBlank c = false := by
  simp only [isSolid, Bool.not_eq_true', Bool.or_eq_false_iff] at h
  exact h.1.1.1

theorem keyPart?_bare (h : Bare name) (hs : ∀ c ∈ s.head?, isKeyChar c = false) :
    keyPart? (name.toList ++ s) = some (name, s) := by
  have htake : (name.toList ++ s).takeWhile isKeyChar = name.toList := by
    rw [List.takeWhile_append_of_pos h.2]
    cases s with
    | nil => simp
    | cons c s => rw [List.takeWhile_cons_of_neg (by simp [hs c rfl]), List.append_nil]
  rw [keyPart?.eq_3 _ (fun _ => h.append_ne (by decide) _ _)
    (fun _ => h.append_ne (by decide) _ _)]
  simp [htake, h.1]

/-- A name is a key by itself if no dot follows. -/
theorem key?_bare (h : Bare name) (hs : ∀ c ∈ s.head?, isKeyChar c = false)
    (hskip : skipBlanks s = c :: rest) (hdot : c ≠ '.') :
    key? (name.toList ++ s) = some (([], name), c :: rest) := by
  have hblanks : skipBlanks (name.toList ++ s) = name.toList ++ s := by
    obtain ⟨c, cs, hcons⟩ := List.exists_cons_of_ne_nil h.1
    rw [hcons]
    exact skipBlanks_cons (isBlank_of_isSolid (isSolid_of_isKeyChar (h.2 c (by simp [hcons]))))
  have hparts : keyParts? 79 [] (name.toList ++ s) = some ([name], c :: rest) := by
    rw [keyParts?, hblanks, keyPart?_bare h hs]
    simp only [Option.bind_eq_bind, Option.bind_some, hskip]
    split
    · rename_i he
      exact absurd (List.cons.inj he).1 hdot
    · rfl
  rw [key?, hparts]
  rfl

/-! ## Entries -/

theorem get?_eq_none (h : key ∉ es.map Prod.fst) : es.get? key = none := by
  rw [Entries.get?, List.find?_eq_none.mpr, Option.map_none]
  intro e he hkey
  exact h (List.mem_map.mpr ⟨e, he, eq_of_beq hkey⟩)

theorem get?_append_self (v : Toml) (h : key ∉ es.map Prod.fst) :
    Entries.get? (es ++ [(key, v)]) key = some v := by
  have hnone := get?_eq_none h
  rw [Entries.get?, Option.map_eq_none_iff] at hnone
  simp [Entries.get?, List.find?_append, hnone]

theorem replace_append_self (v v' : Toml) (h : key ∉ es.map Prod.fst) :
    Entries.replace (es ++ [(key, v)]) key v' = es ++ [(key, v')] := by
  have hid : es.map (fun e => if e.1 == key then (key, v') else e) = es.map id := by
    refine List.map_congr_left fun e he => if_neg fun hkey => ?_
    exact h (List.mem_map.mpr ⟨e, he, eq_of_beq hkey⟩)
  rw [Entries.replace, List.map_append, hid, List.map_id]
  simp

/-- A header opens a new table. -/
theorem openTable_new (h : name ∉ root.map Prod.fst) :
    openTable [] name root = some (root ++ [(name, .table .header [])]) := by
  rw [openTable, edit, get?_eq_none h]

/-- A key is defined in the last table. -/
theorem assign_last (v : Toml) (hname : name ∉ done.map Prod.fst) (hkey : key ∉ es.map Prod.fst) :
    edit false (assign [] key v) [name] .header (done ++ [(name, .table .header es)]) =
      some (done ++ [(name, .table .header (es ++ [(key, v)]))]) := by
  have hdefine : assign [] key v .header es = some (es ++ [(key, v)]) := by
    simp [assign, edit, define, get?_eq_none hkey]
  rw [edit, get?_append_self _ hname]
  simp [edit, hdefine, replace_append_self _ _ hname]

/-! ## Lines -/

/-- The header of a new table. -/
theorem line?_header (hbare : Bare name) (h : name ∉ root.map Prod.fst) :
    line? ⟨root, under⟩ ('[' :: (name.toList ++ ']' :: '\n' :: rest)) =
      some (⟨root ++ [(name, .table .header [])], [name]⟩, rest) := by
  have hkey : key? (name.toList ++ ']' :: '\n' :: rest) = some (([], name), ']' :: '\n' :: rest) :=
    key?_bare hbare (by simp [isKeyChar]) rfl (by decide)
  have hend : lineEnd? ('\n' :: rest) = some rest := rfl
  rw [line?.eq_2]
  · simp [hkey, mark?, openTable_new h, hend]
  · exact fun _ => hbare.append_ne (by decide) _ _

/-- A key with a value, in the last table. -/
theorem line?_assignment {text : List Char} {v : Toml} (rest : List Char) (hbare : Bare key)
    (hv : Reads text v) (hname : name ∉ done.map Prod.fst) (hkey : key ∉ es.map Prod.fst) :
    line? ⟨done ++ [(name, .table .header es)], [name]⟩
        (key.toList ++ ' ' :: '=' :: ' ' :: (text ++ '\n' :: rest)) =
      some (⟨done ++ [(name, .table .header (es ++ [(key, v)]))], [name]⟩, rest) := by
  have hread : key? (key.toList ++ ' ' :: '=' :: ' ' :: (text ++ '\n' :: rest)) =
      some (([], key), '=' :: ' ' :: (text ++ '\n' :: rest)) :=
    key?_bare hbare (by simp [isKeyChar]) rfl (by decide)
  have hskip : skipBlanks (' ' :: (text ++ '\n' :: rest)) = text ++ '\n' :: rest :=
    hv.skipBlanks _
  have hend : lineEnd? ('\n' :: rest) = some rest := rfl
  rw [line?.eq_3 _ _ (fun _ => hbare.append_ne (by decide) _ _)
    (fun _ => hbare.append_ne (by decide) _ _)]
  simp [hread, mark?, hskip, hv.value?, hend, assign_last v hname hkey]

/-! ## Runs of lines -/

/-- The lines of a text lead from a draft to a root table. -/
def Yields (d : Draft) (s : List Char) (root : Entries) : Prop :=
  ∀ fuel, s.length < fuel → lines? fuel d s = some root

theorem yields_nil : Yields d [] d.root := by
  intro fuel h
  obtain ⟨fuel, rfl⟩ := Nat.exists_eq_add_one.mpr h
  rfl

/-- An empty line adds nothing. -/
theorem Yields.newline (h : Yields d s root) : Yields d ('\n' :: s) root := by
  intro fuel hfuel
  obtain ⟨fuel, rfl⟩ := Nat.exists_eq_add_one.mpr (Nat.zero_lt_of_lt hfuel)
  exact h fuel (Nat.lt_of_succ_lt_succ hfuel)

/-- A line that starts with something is read for what it says. -/
theorem Yields.line (h : Yields d' rest root) (hc : isSolid c = true)
    (hlength : rest.length ≤ s.length) (hline : line? d (c :: s) = some (d', rest)) :
    Yields d (c :: s) root := by
  have hblank := isBlank_of_isSolid hc
  simp only [isSolid, Bool.not_eq_true', Bool.or_eq_false_iff, beq_eq_false_iff_ne] at hc
  obtain ⟨⟨⟨-, hfeed⟩, hreturn⟩, hcomment⟩ := hc
  have hend : lineEnd? (c :: s) = none := by
    rw [lineEnd?, skipBlanks_cons hblank]
    split
    · rename_i he
      exact absurd (List.cons.inj he).1 hcomment
    · rw [if_neg (by simp), lineBreak?]
      · exact fun _ he => hfeed (List.cons.inj he).1
      · exact fun _ he => hreturn (List.cons.inj he).1
  intro fuel hfuel
  obtain ⟨fuel, rfl⟩ := Nat.exists_eq_add_one.mpr (Nat.zero_lt_of_lt hfuel)
  have hrest : lines? fuel d' rest = some root :=
    h fuel (Nat.lt_of_le_of_lt hlength (Nat.lt_of_succ_lt_succ hfuel))
  simp [lines?, skipBlanks_cons hblank, hend, hline, hrest]

/-! ## Printed documents -/

/-- The entries that stand for settings. -/
def entriesOf (settings : List (String × Setting)) : Entries :=
  settings.map fun (key, v) => (key, v.toToml)

/-- The entries that stand for tables. -/
def tablesOf (tables : List (String × List (String × Setting))) : Entries :=
  tables.map fun (name, settings) => (name, .table .header (entriesOf settings))

/-- The line of a setting. -/
def printLine? : String × Setting → Option String
  | (key, v) => do return key ++ " = " ++ (← printSetting? v) ++ "\n"

theorem printLine?_eq_some {v : Setting} {l : String} : printLine? (key, v) = some l ↔
    ∃ text, printSetting? v = some text ∧ key ++ " = " ++ text ++ "\n" = l := by
  simp [printLine?, Option.bind_eq_some_iff]

theorem mapM_cons_eq_some {f : α → Option β} {x : α} {xs : List α} {ys : List β} :
    (x :: xs).mapM f = some ys ↔
      ∃ y ys', f x = some y ∧ xs.mapM f = some ys' ∧ y :: ys' = ys := by
  simp [List.mapM_cons, Option.bind_eq_some_iff]

/-- A table is its header and a line for each setting. -/
theorem printTable?_eq_some {settings : List (String × Setting)} {part : String} :
    printTable? name settings = some part ↔ ∃ lines, settings.mapM printLine? = some lines ∧
      "[" ++ name ++ "]\n" ++ String.join lines = part := by
  have h : printTable? name settings = (settings.mapM printLine?).bind fun lines =>
    some ("[" ++ name ++ "]\n" ++ String.join lines) := rfl
  simp [h, Option.bind_eq_some_iff]

/-- A document is its tables with empty lines between them. -/
theorem print?_eq_some {tables : List (String × List (String × Setting))} {text : String} :
    print? tables = some text ↔ ∃ parts,
      tables.mapM (fun (name, settings) => printTable? name settings) = some parts ∧
        "\n".intercalate parts = text := by
  simp [print?, Option.bind_eq_some_iff]

/-- The lines of settings add them to the last table. -/
theorem yields_settings {settings : List (String × Setting)} {lines : List String}
    (h : settings.mapM printLine? = some lines) (hname : name ∉ done.map Prod.fst)
    (hbare : ∀ key ∈ settings.map Prod.fst, Bare key)
    (hnodup : (es.map Prod.fst ++ settings.map Prod.fst).Nodup)
    (hrest : Yields ⟨done ++ [(name, .table .header (es ++ entriesOf settings))], [name]⟩ rest
      root) :
    Yields ⟨done ++ [(name, .table .header es)], [name]⟩ (lines.flatMap String.toList ++ rest)
      root := by
  induction settings generalizing es lines with
  | nil =>
    obtain rfl := Option.some.inj h
    simpa [entriesOf] using hrest
  | cons setting settings ih =>
    obtain ⟨key, v⟩ := setting
    obtain ⟨_, lines, hline, hlines, rfl⟩ := mapM_cons_eq_some.mp h
    obtain ⟨text, htext, rfl⟩ := printLine?_eq_some.mp hline
    obtain ⟨hkey, hkeys⟩ := List.forall_mem_cons.mp hbare
    have hfresh : key ∉ es.map Prod.fst := fun hmem =>
      (List.nodup_append.mp hnodup).2.2 key hmem key List.mem_cons_self rfl
    have hnext : Yields ⟨done ++ [(name, .table .header (es ++ [(key, v.toToml)]))], [name]⟩
        (lines.flatMap String.toList ++ rest) root := by
      refine ih hlines hkeys ?_ ?_
      · simpa using hnodup
      · simpa [entriesOf] using hrest
    have hline := line?_assignment (lines.flatMap String.toList ++ rest) hkey
      (reads_setting htext) hname hfresh
    obtain ⟨c, cs, hcons⟩ := List.exists_cons_of_ne_nil hkey.1
    rw [hcons] at hline
    have htext : ((key ++ " = " ++ text ++ "\n") :: lines).flatMap String.toList ++ rest =
        c :: (cs ++ ' ' :: '=' :: ' ' ::
          (text.toList ++ '\n' :: (lines.flatMap String.toList ++ rest))) := by
      simp [hcons]
    rw [htext]
    exact hnext.line (isSolid_of_isKeyChar (hkey.2 c (by simp [hcons]))) (by simp +arith) hline

/-- A printed table opens it and fills it. -/
theorem yields_table {settings : List (String × Setting)} {part : String}
    (h : printTable? name settings = some part) (hbare : Bare name) (hsettings : Named settings)
    (hname : name ∉ done.map Prod.fst)
    (hrest : Yields ⟨done ++ [(name, .table .header (entriesOf settings))], [name]⟩ rest root) :
    Yields ⟨done, under⟩ (part.toList ++ rest) root := by
  obtain ⟨lines, hlines, rfl⟩ := printTable?_eq_some.mp h
  have hfill : Yields ⟨done ++ [(name, .table .header [])], [name]⟩
      (lines.flatMap String.toList ++ rest) root :=
    yields_settings hlines hname hsettings.bare (by simpa using hsettings.nodup) hrest
  have htext : ("[" ++ name ++ "]\n" ++ String.join lines).toList ++ rest =
      '[' :: (name.toList ++ ']' :: '\n' :: (lines.flatMap String.toList ++ rest)) := by
    simp
  rw [htext]
  exact hfill.line (by decide) (by simp +arith) (line?_header hbare hname)

/-- Printed tables, with empty lines between them, are opened and filled one after the other. -/
theorem yields_tables {tables : List (String × List (String × Setting))} {parts : List String}
    (done : Entries)
    (h : (tables.mapM fun (name, settings) => printTable? name settings) = some parts)
    (hbare : ∀ name ∈ tables.map Prod.fst, Bare name) (hsettings : ∀ t ∈ tables, Named t.2)
    (hnodup : (done.map Prod.fst ++ tables.map Prod.fst).Nodup) :
    Yields ⟨done, under⟩ ("\n".intercalate parts).toList (done ++ tablesOf tables) := by
  induction tables generalizing done under parts with
  | nil =>
    obtain rfl := Option.some.inj h
    simpa [tablesOf] using yields_nil (d := ⟨done, under⟩)
  | cons t tables ih =>
    obtain ⟨name, settings⟩ := t
    obtain ⟨part, parts, hpart, hparts, rfl⟩ := mapM_cons_eq_some.mp h
    obtain ⟨hname, hnames⟩ := List.forall_mem_cons.mp hbare
    obtain ⟨htable, htables⟩ := List.forall_mem_cons.mp hsettings
    have hfresh : name ∉ done.map Prod.fst := fun hmem =>
      (List.nodup_append.mp hnodup).2.2 name hmem name List.mem_cons_self rfl
    have hrest := @ih [name] parts (done ++ [(name, .table .header (entriesOf settings))]) hparts
      hnames htables (by simpa using hnodup)
    have hroot : done ++ [(name, .table .header (entriesOf settings))] ++ tablesOf tables =
        done ++ tablesOf ((name, settings) :: tables) := by
      simp [tablesOf]
    rw [hroot] at hrest
    cases parts with
    | nil => simpa using yields_table hpart hname htable hfresh hrest
    | cons part' parts =>
      simpa using yields_table hpart hname htable hfresh hrest.newline

/-- A printed document starts with no byte order mark. -/
theorem print?_ne_mark {tables : List (String × List (String × Setting))} {text : String}
    (h : print? tables = some text) (s : List Char) : text.toList ≠ '\uFEFF' :: s := by
  obtain ⟨parts, hparts, rfl⟩ := print?_eq_some.mp h
  cases tables with
  | nil =>
    obtain rfl := Option.some.inj hparts
    simp
  | cons t tables =>
    obtain ⟨part, parts, hpart, -, rfl⟩ := mapM_cons_eq_some.mp hparts
    obtain ⟨lines, -, rfl⟩ := printTable?_eq_some.mp hpart
    cases parts <;> simp

/-- **A printed document is read as the tables that it lists.** -/
theorem read?_print? {tables : List (String × List (String × Setting))} {text : String}
    (h : print? tables = some text) (htables : Named tables) (hsettings : ∀ t ∈ tables, Named t.2) :
    read? text = some (.table .header (tablesOf tables)) := by
  have hmark := print?_ne_mark h
  obtain ⟨parts, hparts, rfl⟩ := print?_eq_some.mp h
  have hyields : Yields {} ("\n".intercalate parts).toList (tablesOf tables) :=
    yields_tables [] hparts htables.bare hsettings htables.nodup
  rw [read?]
  split
  · rename_i s he
    exact absurd he (hmark s)
  · rw [hyields _ (Nat.lt_succ_self _)]
    rfl

/-! ## What can be printed -/

theorem isSome_bind_some (o : Option α) (f : α → β) :
    (o.bind fun x => some (f x)).isSome = o.isSome := by
  cases o <;> rfl

theorem isSome_mapM {f : α → Option β} (xs : List α) :
    (xs.mapM f).isSome = true ↔ ∀ x ∈ xs, (f x).isSome = true := by
  induction xs with
  | nil => simp
  | cons x xs ih =>
    rw [List.forall_mem_cons, ← ih, List.mapM_cons]
    cases f x <;> cases xs.mapM f <;> simp

/-- A document can be printed exactly if each of its settings can. -/
theorem isSome_print? (tables : List (String × List (String × Setting))) :
    (print? tables).isSome = true ↔ ∀ t ∈ tables, ∀ e ∈ t.2, e.2.Storable := by
  have hline : ∀ e, (printLine? e).isSome = true ↔ e.2.Storable := fun e =>
    (Bool.eq_iff_iff.mp (isSome_bind_some _ _)).trans (isSome_printSetting? e.2)
  have htable : ∀ t : String × List (String × Setting),
      (printTable? t.1 t.2).isSome = true ↔ ∀ e ∈ t.2, e.2.Storable := fun t => by
    refine (Bool.eq_iff_iff.mp (isSome_bind_some (t.2.mapM printLine?) _)).trans ?_
    simp only [isSome_mapM, hline]
  refine (Bool.eq_iff_iff.mp (isSome_bind_some
    (tables.mapM fun (name, settings) => printTable? name settings) _)).trans ?_
  simp only [isSome_mapM, htable]

end Interpose.Toml
