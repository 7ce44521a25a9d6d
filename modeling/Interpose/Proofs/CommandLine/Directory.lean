import Interpose.Proofs.CommandLine.Rewrite
import Interpose.Proofs.Files.Directory
import Mathlib.Data.List.Nodup

/-!
# Rewritten flows in a directory

Each rewritten flow is written to the directory under the last step of the path that it came from
(`isComponent_of_fileName?`). Flows are written one after the other, and a file is written over, so
in the end each name holds the last flow that came from a path with this last step
(`written_of_writeEach`). All flows are kept exactly if those steps are distinct
(`directory_keeps_flows_iff`), while the number of flows is reported either way.
-/

namespace Interpose

open FileTree Interpose.Path

variable {t t' : FileTree} {d : Place} {directory name path out : String} {f : Flow}

/-! ## Names of files -/

theorem not_mem_of_mem_splitOn {sep : Char} {s p : List Char} (h : p ∈ s.splitOn sep) :
    sep ∉ p := by
  induction s generalizing p with
  | nil =>
    obtain rfl : p = [] := by simpa using h
    exact List.not_mem_nil
  | cons c s ih =>
    rw [List.splitOn_cons_eq_if_modifyHead] at h
    split at h
    · rcases List.mem_cons.mp h with rfl | h
      · exact List.not_mem_nil
      · exact ih h
    · rename_i hc
      cases hs : s.splitOn sep with
      | nil => exact absurd hs (List.splitOn_ne_nil _ _)
      | cons q qs =>
        rw [hs, List.modifyHead_cons] at h
        rcases List.mem_cons.mp h with rfl | h
        · intro hmem
          rcases List.mem_cons.mp hmem with rfl | hmem
          · exact hc (by simp)
          · exact ih (by simp [hs]) hmem
        · exact ih (by simp [hs, h])

/-- The name of a file is one ordinary step. -/
theorem isComponent_of_fileName? (h : fileName? path = some name) : IsComponent name := by
  have hlast : (steps path).getLast? = some name ∧ name ≠ ".." := by
    unfold fileName? at h
    split at h
    · cases h
    · rename_i hdots
      exact ⟨h, by rintro rfl; exact hdots h⟩
  have hmem := List.mem_of_getLast? hlast.1
  rw [steps, List.mem_filter, splitText, List.mem_map] at hmem
  obtain ⟨⟨p, hp, rfl⟩, hname⟩ := hmem
  simp only [ne_eq, Bool.and_eq_true, decide_eq_true_eq] at hname
  exact ⟨hname.1, by simpa using not_mem_of_mem_splitOn hp, hname.2, hlast.2⟩

/-! ## Writing flows -/

namespace CommandLine

/-- The last of the flows that came from a path with this name. -/
def lastNamed? (rows : List (String × Flow)) (name : String) : Option Flow :=
  (rows.reverse.find? fun row => fileName? row.1 == some name).map Prod.snd

theorem lastNamed?_cons (path : String) (f : Flow) (rows : List (String × Flow)) (name : String) :
    lastNamed? ((path, f) :: rows) name =
      (lastNamed? rows name).or (if fileName? path = some name then some f else none) := by
  rw [lastNamed?, List.reverse_cons, List.find?_append, lastNamed?]
  cases rows.reverse.find? fun row => fileName? row.1 == some name with
  | some row => rfl
  | none => by_cases h : fileName? path = some name <;> simp [h]

/-- A step of the writing: the flow is written under the name of its path, and the rest follows. -/
theorem writeEach_cons_eq_ok {rows : List (String × Flow)}
    (h : (writeEach directory t out ((path, f) :: rows)).result = .ok ()) :
    ∃ name m, fileName? path = some name ∧
      t.write (join directory name) (Bytes.ofText f.pretty) = .ok m ∧
        writeEach directory t out ((path, f) :: rows) =
          writeEach directory m (out ++ writtenLine path f) rows := by
  rw [writeEach] at h ⊢
  cases hname : fileName? path with
  | none => simp [hname] at h
  | some name =>
    simp only [hname] at h ⊢
    cases hwrite : t.write (join directory name) (Bytes.ofText f.pretty) with
    | error e => simp [hwrite] at h
    | ok m => exact ⟨name, m, rfl, hwrite, by simp⟩

/-- What writing flows to a directory leaves. -/
structure Written (directory : String) (d : Place) (rows : List (String × Flow)) (t t' : FileTree) :
    Prop where
  directoryAt : t'.DirectoryAt directory d
  fits : ∀ row ∈ rows, ∃ name, fileName? row.1 = some name ∧ Fits directory name
  /-- A name that a flow came under holds the last such flow, other names hold what they held. -/
  node : ∀ name, t'.node? (d ++ [name]) = match lastNamed? rows name with
    | some f => some (.file (Bytes.ofText f.pretty))
    | none => t.node? (d ++ [name])

/-- Writing a flow and then others is writing all of them. -/
theorem Written.cons {rows : List (String × Flow)} {m : FileTree} (hd : t.DirectoryAt directory d)
    (hname : fileName? path = some name)
    (hwrite : t.write (join directory name) (Bytes.ofText f.pretty) = .ok m)
    (hrest : m.DirectoryAt directory d → Written directory d rows m t') :
    Written directory d ((path, f) :: rows) t t' := by
  obtain ⟨hfits, hnode, rfl⟩ :=
    (write_join_eq_ok hd (isComponent_of_fileName? hname)).mp hwrite
  have hwritten := hrest (hd.of_changed (ChangedAt.put hnode _))
  refine ⟨hwritten.directoryAt, List.forall_mem_cons.mpr ⟨⟨name, hname, hfits⟩, hwritten.fits⟩,
    fun name' => ?_⟩
  rw [hwritten.node, lastNamed?_cons]
  cases lastNamed? rows name' with
  | some g => rfl
  | none =>
    by_cases hsame : name = name'
    · subst hsame
      simp [hname, node?_put_same]
    · have hplace : d ++ [name'] ≠ d ++ [name] := by simpa using Ne.symm hsame
      simp [hname, hsame, node?_put_other _ hplace]

/-- **A name holds the last flow that was written under it.** -/
theorem written_of_writeEach {rows : List (String × Flow)} (hd : t.DirectoryAt directory d)
    (h : (writeEach directory t out rows).result = .ok ()) :
    Written directory d rows t (writeEach directory t out rows).tree := by
  induction rows generalizing t out with
  | nil => exact ⟨hd, by simp, fun _ => rfl⟩
  | cons row rows ih =>
    obtain ⟨path, f⟩ := row
    obtain ⟨name, m, hname, hwrite, hstep⟩ := writeEach_cons_eq_ok h
    rw [hstep] at h ⊢
    exact .cons hd hname hwrite fun hd' => ih hd' h

theorem exists_lastNamed? {rows : List (String × Flow)} {row : String × Flow} (hrow : row ∈ rows)
    (hname : fileName? row.1 = some name) : ∃ f, lastNamed? rows name = some f := by
  have hfound : (rows.reverse.find? fun row => fileName? row.1 == some name).isSome :=
    List.find?_isSome.mpr ⟨row, List.mem_reverse.mpr hrow, by simp [hname]⟩
  obtain ⟨last, hlast⟩ := Option.isSome_iff_exists.mp hfound
  exact ⟨last.2, by rw [lastNamed?, hlast, Option.map_some]⟩

theorem lastNamed?_eq_none {rows : List (String × Flow)}
    (h : some name ∉ rows.map fun row => fileName? row.1) : lastNamed? rows name = none := by
  rw [lastNamed?, List.find?_eq_none.mpr, Option.map_none]
  intro row hrow hname
  exact h (List.mem_map.mpr ⟨row, List.mem_reverse.mp hrow, eq_of_beq hname⟩)

/-- Under distinct names each flow is the last of its name. -/
theorem lastNamed?_of_nodup {rows : List (String × Flow)} {row : String × Flow}
    (hnodup : (rows.map fun row => fileName? row.1).Nodup) (hrow : row ∈ rows)
    (hname : fileName? row.1 = some name) : lastNamed? rows name = some row.2 := by
  induction rows with
  | nil => cases hrow
  | cons head rows ih =>
    rw [List.map_cons, List.nodup_cons] at hnodup
    rw [lastNamed?_cons]
    rcases List.mem_cons.mp hrow with rfl | hrow
    · rw [lastNamed?_eq_none (hname ▸ hnodup.1), if_pos hname]
      rfl
    · rw [ih hnodup.2 hrow]
      rfl

/-! ## Flows that are kept -/

/-- Flows are kept in a directory: each name has a file of its own, which holds its flow. -/
structure KeptIn (t : FileTree) (directory : String) (names : List String) (flows : List Flow) :
    Prop where
  own : (names.map fun name => t.placeOf (join directory name)).Nodup
  holds : List.Forall₂ (fun name => Holds t (join directory name)) names flows

/-- The file of a name holds the last flow that came under it. -/
theorem Written.holds {rows : List (String × Flow)} (h : Written directory d rows t t')
    (hrecordable : ∀ row ∈ rows, row.2.Recordable) (hlast : lastNamed? rows name = some f) :
    Holds t' (join directory name) f := by
  obtain ⟨row, hfind, rfl⟩ := Option.map_eq_some_iff.mp hlast
  have hrow : row ∈ rows := List.mem_reverse.mp (List.mem_of_find?_eq_some hfind)
  have hname : fileName? row.1 = some name := by
    have hfound := List.find?_some hfind
    exact eq_of_beq hfound
  obtain ⟨name', hname', hfits⟩ := h.fits row hrow
  obtain rfl := Option.some.inj (hname.symm.trans hname')
  refine ⟨Bytes.ofText row.2.pretty, ?_, Flow.read?_pretty (hrecordable row hrow)⟩
  rw [read_join_eq_ok h.directoryAt (isComponent_of_fileName? hname)]
  exact ⟨hfits, by rw [h.node, hlast]⟩

/-- All flows are kept exactly if their names are distinct. -/
theorem Written.keptIn_iff {rows : List (String × Flow)} {names : List String}
    (h : Written directory d rows t t') (hrecordable : ∀ row ∈ rows, row.2.Recordable)
    (hnames : (rows.map fun row => fileName? row.1) = names.map some) :
    KeptIn t' directory names (rows.map Prod.snd) ↔ names.Nodup := by
  have hcomponent : ∀ name ∈ names, IsComponent name := by
    intro name hmem
    obtain ⟨row, -, hname⟩ := List.mem_map.mp (hnames ▸ List.mem_map.mpr ⟨name, hmem, rfl⟩)
    exact isComponent_of_fileName? hname
  have hplaces : (names.map fun name => t'.placeOf (join directory name)) =
      names.map fun name => t'.placeOf directory ++ [name] :=
    List.map_congr_left fun name hmem => placeOf_join t' (hcomponent name hmem)
  constructor
  · intro hkept
    exact (hplaces ▸ hkept.own).of_map _
  · intro hnodup
    refine ⟨?_, ?_⟩
    · rw [hplaces]
      exact hnodup.map fun name name' he => by simpa using he
    · have hrows : (rows.map fun row => fileName? row.1).Nodup := by
        rw [hnames]
        exact hnodup.map (Option.some_injective _)
      have hall : List.Forall₂ (· = ·) (names.map some) (rows.map fun row => fileName? row.1) :=
        hnames ▸ List.forall₂_refl _
      obtain ⟨hlength, hpairs⟩ := List.forall₂_iff_zip.mp
        (List.forall₂_map_left_iff.mp (List.forall₂_map_right_iff.mp hall))
      rw [List.forall₂_map_right_iff, List.forall₂_iff_zip]
      refine ⟨hlength, fun {name row} hmem => ?_⟩
      have hname := (hpairs hmem).symm
      exact h.holds hrecordable (lastNamed?_of_nodup hrows (List.of_mem_zip hmem).2 hname)

/-! ## The command -/

/-- Writing flows to a directory, where it succeeds, reports their number after a line for each. -/
theorem writeFlows_eq_ok {rows : List (String × Flow)}
    (h : (writeFlows directory t rows).result = .ok ()) :
    ∃ made, t.makeDirectories directory = .ok made ∧
      (writeEach directory made "" rows).result = .ok () ∧
      (writeFlows directory t rows).tree = (writeEach directory made "" rows).tree ∧
      (writeFlows directory t rows).out = (writeEach directory made "" rows).out ++
        remark (toString rows.length ++ " flow(s) written to " ++ directory) := by
  unfold writeFlows at h ⊢
  cases hmake : t.makeDirectories directory with
  | error e => simp [hmake] at h
  | ok made =>
    simp only [hmake] at h ⊢
    cases hresult : (writeEach directory made "" rows).result with
    | error fault => simp [hresult] at h
    | ok u => exact ⟨made, rfl, hresult, rfl, rfl⟩

/-- The first flow that is written shows that the directory is there. -/
theorem directoryAt_of_writeEach {rows : List (String × Flow)}
    (h : (writeEach directory t out ((path, f) :: rows)).result = .ok ()) :
    t.DirectoryAt directory (t.placeOf directory) := by
  obtain ⟨name, m, hname, hwrite, -⟩ := writeEach_cons_eq_ok h
  obtain ⟨p, hwalk, -⟩ := write_eq_ok.mp hwrite
  exact directoryAt_of_walk (isComponent_of_fileName? hname) hwalk

/-- The exit code tells a success, and a success ends with what was reported. -/
theorem finish_of_code {style : LogStyle} {now : Instant} {r : Report}
    (h : (finish style now r).code = 0) : r.result = .ok () ∧
      (finish style now r).tree = r.tree ∧ (finish style now r).out = r.out := by
  unfold finish at h ⊢
  cases hr : r.result with
  | ok u => exact ⟨rfl, rfl, rfl⟩
  | error fault => simp [hr] at h

/-- Replayed flows can be recorded if the flows that were loaded can. -/
theorem recordable_replayAll {flows : List Flow} (h : ∀ f ∈ flows, f.Recordable) (proxy : Proxy)
    (store : Cache.Store) : ∀ f ∈ (replayAll proxy store flows).2.2, f.Recordable := by
  intro f hmem
  obtain ⟨i, hi⟩ := List.mem_iff_getElem?.mp hmem
  rw [getElem?_replayAll] at hi
  obtain ⟨g, hg, rfl⟩ := Option.map_eq_some_iff.mp hi
  exact Flow.recordable_replay (h g (List.mem_of_getElem? hg)) proxy _

/-- Whatever was written successfully, each name holds the last flow that came under it, and all
flows are kept exactly if the names are distinct. -/
theorem kept_of_writeEach {rows : List (String × Flow)}
    (hrecordable : ∀ row ∈ rows, row.2.Recordable)
    (h : (writeEach directory t out rows).result = .ok ()) :
    ∃ names, (rows.map fun row => fileName? row.1) = names.map some ∧
      (∀ name ∈ names, ∃ f, lastNamed? rows name = some f ∧
        Holds (writeEach directory t out rows).tree (join directory name) f) ∧
      (KeptIn (writeEach directory t out rows).tree directory names (rows.map Prod.snd) ↔
        names.Nodup) := by
  cases rows with
  | nil => exact ⟨[], rfl, by simp, iff_of_true ⟨.nil, .nil⟩ .nil⟩
  | cons row rows =>
    have hwritten := written_of_writeEach (directoryAt_of_writeEach h) h
    generalize hrows : row :: rows = all at *
    have hnames : (all.map fun row => fileName? row.1) =
        (all.map fun row => (fileName? row.1).getD "").map some := by
      rw [List.map_map]
      refine List.map_congr_left fun row hrow => ?_
      obtain ⟨name, hname, -⟩ := hwritten.fits row hrow
      simp [hname]
    refine ⟨_, hnames, fun name hmem => ?_, hwritten.keptIn_iff hrecordable hnames⟩
    obtain ⟨row, hrow, hname⟩ := List.mem_map.mp (hnames ▸ List.mem_map.mpr ⟨name, hmem, rfl⟩)
    obtain ⟨f, hf⟩ := exists_lastNamed? hrow hname
    exact ⟨f, hf, hwritten.holds hrecordable hf⟩

/-- **Rewriting to a directory loses no flow exactly if the names of the files are distinct.** Where
the command succeeds it reports the number of flows that it was given, whatever their names; each
name then has a file, which holds the last of the flows that came under it. -/
theorem directory_keeps_flows_iff (w : World) (config : String) (c : Config) (style : LogStyle)
    (paths : List String) (jobs : Nat) (directory : String)
    (h : (finish style w.now
      (carryOut w config c (.rewrite paths jobs (some directory)))).code = 0) :
    let finished := finish style w.now (carryOut w config c (.rewrite paths jobs (some directory)))
    let proxy := proxyOf w c
    let start : Cache.Store := ⟨w.tree, w.now, w.process, 0⟩
    ∃ flows rewritten names shown, List.Forall₂ (Holds w.tree) paths flows ∧
      (∀ i, rewritten[i]? = flows[i]?.map fun (f : Flow) =>
        (f.replay proxy (storeAfter proxy start (flows.take i))).flow) ∧
      paths.map fileName? = names.map some ∧
      finished.out =
        shown ++ remark (toString paths.length ++ " flow(s) written to " ++ directory) ∧
      (∀ name ∈ names, ∃ f, lastNamed? (paths.zip rewritten) name = some f ∧
        Holds finished.tree (join directory name) f) ∧
      (KeptIn finished.tree directory names rewritten ↔ names.Nodup) := by
  intro finished proxy start
  obtain ⟨before, p, after, fault, hpaths, hbefore, hnone, hload⟩ | ⟨flows, hflows, hload⟩ :=
    loadAll_cases w.tree paths
  · simp [carryOut, rewrite, hload, finish] at h
  · obtain ⟨rewritten, hrewritten⟩ : ∃ rewritten, rewritten = (replayAll proxy start flows).2.2 :=
      ⟨_, rfl⟩
    have hlength : rewritten.length = paths.length := by
      rw [hrewritten, length_replayAll, hflows.length_eq]
    obtain ⟨log, hrun⟩ : ∃ log, carryOut w config c (.rewrite paths jobs (some directory)) =
        { writeFlows directory (replayAll proxy start flows).1.tree (paths.zip rewritten) with
          log } := by
      simp only [carryOut, rewrite, hload, hrewritten]
      exact ⟨_, rfl⟩
    obtain ⟨hresult, htree, hout⟩ := finish_of_code h
    rw [hrun] at hresult
    obtain ⟨made, -, hwrite, hleft, hshown⟩ := writeFlows_eq_ok hresult
    have hrecordable : ∀ row ∈ paths.zip rewritten, row.2.Recordable := fun row hrow =>
      recordable_replayAll (recordable_of_holds hflows) proxy start row.2
        (hrewritten ▸ (List.of_mem_zip hrow).2)
    obtain ⟨names, hnames, hlast, hkept⟩ := kept_of_writeEach hrecordable hwrite
    have htree : finished.tree = (writeEach directory made "" (paths.zip rewritten)).tree := by
      rw [htree, hrun, hleft]
    have hpaths : (paths.zip rewritten).map Prod.fst = paths := List.map_fst_zip hlength.ge
    have hflowsOf : (paths.zip rewritten).map Prod.snd = rewritten := List.map_snd_zip hlength.le
    have hpathNames : paths.map fileName? = names.map some := by
      rw [← hnames, ← hpaths, List.map_map, hpaths]
      rfl
    refine ⟨flows, rewritten, names, (writeEach directory made "" (paths.zip rewritten)).out,
      hflows, fun i => ?_, hpathNames, ?_, ?_, ?_⟩
    · rw [hrewritten, getElem?_replayAll]
    · rw [hout, hrun, hshown, List.length_zip, hlength, Nat.min_self]
    · rw [htree]
      exact hlast
    · rw [hflowsOf] at hkept
      rw [htree]
      exact hkept

/-- Two files of one name: both flows are reported as written, and there is one file. -/
theorem directory_keeps_flows_iff_for_one_name :
    let recorded := Node.file (Bytes.ofText
      "\x7b\"request\":\x7b\"url\":\"https://a.example/\",\"headers\":[]\x7d\x7d")
    let w : World :=
      { tree := { entries := [(["a"], .directory), (["a", "1.json"], recorded),
          (["b"], .directory), (["b", "1.json"], recorded)] }
        now := ⟨0, 0, 0⟩
        process := 0
        programs := fun _ tree => (tree, .refused) }
    let finished := finish {} w.now
      (carryOut w "interpose.toml" {} (.rewrite ["a/1.json", "b/1.json"] 1 (some "out")))
    finished.code = 0 ∧ (∃ shown, finished.out = shown ++ remark "2 flow(s) written to out") ∧
      (finished.tree.children ["out"]).map Prod.fst = ["1.json"] ∧
      ∃ flows rewritten, List.Forall₂ (Holds w.tree) ["a/1.json", "b/1.json"] flows ∧
        (∀ i, rewritten[i]? = flows[i]?.map fun (f : Flow) =>
          (f.replay (proxyOf w {}) (storeAfter (proxyOf w {}) ⟨w.tree, w.now, w.process, 0⟩
            (flows.take i))).flow) ∧
        ¬ KeptIn finished.tree "out" ["1.json", "1.json"] rewritten := by
  intro recorded w finished
  have hcode : finished.code = 0 := by decide +kernel
  obtain ⟨flows, rewritten, names, shown, hflows, hrewritten, hnames, hout, -, hkept⟩ :=
    directory_keeps_flows_iff w "interpose.toml" {} {} ["a/1.json", "b/1.json"] 1 "out" hcode
  have hsame : names = ["1.json", "1.json"] :=
    List.map_injective_iff.mpr (Option.some_injective _) (hnames.symm.trans (by decide))
  subst hsame
  exact ⟨hcode, ⟨shown, hout⟩, by decide +kernel, flows, rewritten, hflows, hrewritten,
    fun h => absurd (hkept.mp h) (by decide)⟩

end CommandLine

end Interpose
