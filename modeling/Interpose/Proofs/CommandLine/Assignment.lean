import Interpose.CommandLine.Run
import Interpose.Proofs.Config.Key
import Interpose.Proofs.Config.RoundTrip

/-!
# Setting a key of the configuration file

A run that sets a key can fail before it saves, and then leaves the tree as it is, or in saving
(`assign_ends`). A save that fails changes no file, but it may have made the directory of the
configuration file. That can *uncover* a file at the path (`Uncovers`), where the path leads through
a directory that was missing, and back. Numbers that a text can name but the file cannot hold are what
a save fails at behind that point, so a run is held to change one key or nothing exactly if not both
come together (`assignment_sets_one_key_iff`), and those numbers are exactly the ones that cannot be
set (`timeout_is_stored_iff`).
-/

namespace Interpose

open FileTree Interpose.Path Config

variable {c c' : Config} {k : Key} {t t' : FileTree} {path key value : String}

/-! ## What can be stored -/

namespace Config

theorem storable_iff_setting : c.Storable ↔ ∀ k, (c.setting k).Storable := by
  constructor
  · intro h k
    cases k with
    | toolTimeout => exact h.tool
    | checkerTimeout => exact h.checker
    | _ => trivial
  · exact fun h => ⟨h .toolTimeout, h .checkerTimeout⟩

/-- A configuration can be stored with one setting replaced exactly if the new setting can. -/
theorem storable_of_update {v : Toml.Setting} (hc : c.Storable)
    (h : c'.setting = Function.update c.setting k v) : c'.Storable ↔ v.Storable := by
  rw [storable_iff_setting, h]
  rw [storable_iff_setting] at hc
  constructor
  · intro hall
    simpa using hall k
  · intro hv k'
    by_cases hk : k' = k
    · subst hk
      simpa using hv
    · rw [Function.update_of_ne hk]
      exact hc k'

/-! ## What a save that fails leaves -/

/-- Making directories changes no file. -/
theorem file_grow_iff (t : FileTree) (path : String) (p : Place) (content : Bytes) :
    (t.grow path).node? p = some (.file content) ↔ t.node? p = some (.file content) :=
  ⟨(grow_grown t path fun _ => False).file_before id, (grow_grown t path fun _ => False).file id⟩

/-- A save that fails leaves the directories that it has made, and nothing else. -/
theorem tree_of_save_error {fault : Fault} (h : c.save t path = (t', .error fault)) :
    t' = t.grow (directoryOf path) := by
  rcases save_cases c t path with ⟨e, hmake, hsave⟩ | ⟨made, hmake, ⟨hprint, hsave⟩ | ⟨text, hprint,
    ⟨e, hwrite, hsave⟩ | ⟨t'', hwrite, hsave⟩⟩⟩
  · exact (congrArg Prod.fst (h.symm.trans hsave))
  · rw [grow_of_makeDirectories hmake]
    exact (congrArg Prod.fst (h.symm.trans hsave))
  · rw [grow_of_makeDirectories hmake]
    exact (congrArg Prod.fst (h.symm.trans hsave))
  · cases h.symm.trans hsave

end Config

/-! ## Files that come to light -/

namespace FileTree

/-- Making the directory of a path uncovers a file there, where nothing stood before. -/
structure Uncovers (t : FileTree) (path : String) : Prop where
  before : t.isThere path = false
  after : (t.grow (directoryOf path)).isFile path = true

theorem toOption_read_eq_none (h : t.isFile path = false) : (t.read path).toOption = none := by
  cases hread : t.read path with
  | error e => rfl
  | ok content =>
    rw [isFile_eq_true.mpr ⟨content, hread⟩] at h
    cases h

theorem Uncovers.toOption_read (h : t.Uncovers path) : (t.read path).toOption = none := by
  refine toOption_read_eq_none (Bool.eq_false_iff.mpr fun hfile => ?_)
  obtain ⟨content, hread⟩ := isFile_eq_true.mp hfile
  have hbefore := h.before
  rw [isThere_of_read hread] at hbefore
  cases hbefore

theorem exists_look_of_isThere (h : t.isThere path = true) : ∃ node, t.look path = .ok node := by
  unfold isThere at h
  cases hlook : t.look path with
  | error e => simp [hlook] at h
  | ok node => exact ⟨node, rfl⟩

/-- A file that is read after the directory of its path was made was there before, unless it was
uncovered. -/
theorem isFile_of_grow (h : ¬ t.Uncovers path)
    (hfile : (t.grow (directoryOf path)).isFile path = true) : t.isFile path = true := by
  have hgrown := grow_grown t (directoryOf path) fun _ => False
  have hthere : t.isThere path = true := by
    by_contra hnot
    exact h ⟨by simpa using hnot, hfile⟩
  obtain ⟨node, hlook⟩ := exists_look_of_isThere hthere
  obtain ⟨p, hwalk, hp⟩ := look_eq_ok.mp hlook
  cases node with
  | file content => exact isFile_eq_true.mpr ⟨content, read_eq_ok.mpr ⟨p, hwalk, hp⟩⟩
  | directory =>
    obtain ⟨content, hread⟩ := isFile_eq_true.mp hfile
    obtain ⟨q, hwalk', hq⟩ := read_eq_ok.mp hread
    obtain rfl := Except.ok.inj ((hgrown.changed.walk hwalk).symm.trans hwalk')
    rw [hgrown.directory hp] at hq
    cases hq

/-- Otherwise the path reads as before. -/
theorem read_grow (h : ¬ t.Uncovers path) :
    ((t.grow (directoryOf path)).read path).toOption = (t.read path).toOption := by
  have hgrown := grow_grown t (directoryOf path) fun _ => False
  cases hread : t.read path with
  | ok content => rw [hgrown.read id hread]
  | error e =>
    refine toOption_read_eq_none (Bool.eq_false_iff.mpr fun hfile => ?_)
    obtain ⟨content, hcontent⟩ := isFile_eq_true.mp (isFile_of_grow h hfile)
    rw [hread] at hcontent
    cases hcontent

end FileTree

/-! ## Runs -/

namespace CommandLine

variable {w : World} {r : Request}

/-- A run that sets a key, with whatever options the command line gives. -/
def World.assign (w : World) (path : String) (r : Request) (key value : String) : Finish :=
  carryOutRequest w path { r with command := .config (some (.assign key value)) }

/-- The ends of a run that sets a key: where the file cannot be loaded, where the key or the value
is rejected, where the save fails, and where it succeeds. -/
inductive AssignEnd (t : FileTree) (path key value : String) : Finish → Prop
  | unloaded {fault : Fault} {err : String} (hload : load t path = .error fault) :
    AssignEnd t path key value { tree := t, err, code := 1 }
  | rejected {c : Config} {fault : Fault} {err : String} (hload : load t path = .ok c)
    (hset : c.set key value = .error fault) :
    AssignEnd t path key value { tree := t, out := rejection fault, err, code := 1 }
  | unsaved {c c' : Config} {t' : FileTree} {fault : Fault} {err : String}
    (hload : load t path = .ok c) (hset : c.set key value = .ok c')
    (hsave : c'.save t path = (t', .error fault)) :
    AssignEnd t path key value { tree := t', err, code := 1 }
  | saved {c c' : Config} {t' : FileTree} {err : String} (hload : load t path = .ok c)
    (hset : c.set key value = .ok c') (hsave : c'.save t path = (t', .ok ())) :
    AssignEnd t path key value
      { tree := t', out := okLine ("Set " ++ key ++ " = " ++ value), err, code := 0 }

theorem assign_ends (w : World) (path : String) (r : Request) (key value : String) :
    AssignEnd w.tree path key value (w.assign path r key value) := by
  have hreads : readsConfig (.config (some (.assign key value))) = true := rfl
  unfold World.assign carryOutRequest
  rw [if_pos hreads]
  cases hload : load w.tree path with
  | error fault => exact .unloaded hload
  | ok c =>
    simp only [carryOut, configure, Option.getD_some, assignConfig, hload]
    cases hset : c.set key value with
    | error fault => exact .rejected hload hset
    | ok c' =>
      dsimp only
      rcases hsave : c'.save w.tree path with ⟨t, fault | u⟩
      · exact .unsaved hload hset hsave
      · exact .saved hload hset hsave

/-- Once the file was loaded and the key set, the run is the save. -/
theorem assign_of_set (hload : load w.tree path = .ok c) (hset : c.set key value = .ok c')
    (r : Request) : (w.assign path r key value).tree = (c'.save w.tree path).1 ∧
      ((w.assign path r key value).code = 0 ↔ (c'.save w.tree path).2 = .ok ()) := by
  have hend := assign_ends w path r key value
  generalize w.assign path r key value = f at hend
  cases hend with
  | unloaded hload' => cases hload.symm.trans hload'
  | rejected hload' hset' =>
    obtain rfl := Except.ok.inj (hload.symm.trans hload')
    cases hset.symm.trans hset'
  | unsaved hload' hset' hsave | saved hload' hset' hsave =>
    obtain rfl := Except.ok.inj (hload.symm.trans hload')
    obtain rfl := Except.ok.inj (hset.symm.trans hset')
    simp [hsave]

/-! ## One key or nothing -/

/-- The text names a value for the key that the file cannot hold. -/
def Unstorable (key value : String) : Prop :=
  ∃ (k : Key) (v : Toml.Setting), k.name = key ∧ k.reading value = .ok v ∧ ¬ v.Storable

/-- A run that sets a key changes that key or nothing. -/
structure SetsOneKey (w : World) (path : String) (r : Request) (key value : String) : Prop where
  /-- If it fails the file has its bytes, or is not there, as before. -/
  failed : (w.assign path r key value).code ≠ 0 →
    ((w.assign path r key value).tree.read path).toOption = (w.tree.read path).toOption
  /-- If it succeeds the configuration in the file is the one that was loaded, with what the text
  says for the key in its place. -/
  succeeded : (w.assign path r key value).code = 0 → ∃ c k v c', load w.tree path = .ok c ∧
    k.name = key ∧ k.reading value = .ok v ∧
      load (w.assign path r key value).tree path = .ok c' ∧
        c'.setting = Function.update c.setting k v
  /-- The key is rejected as unknown exactly if it is none of those that are listed. -/
  unknown : (w.assign path r key value).out = rejection (.user ("Unknown config key: " ++ key)) ↔
    (∃ c, load w.tree path = .ok c) ∧ key ∉ Key.names

/-- What a text says for a key in a configuration that can be stored decides whether the result
can. -/
theorem unstorable_iff (hc : c.Storable) (hset : c.set key value = .ok c') :
    Unstorable key value ↔ ¬ c'.Storable := by
  obtain ⟨k, v, hname, hread, hsetting⟩ := set_eq_ok.mp hset
  rw [storable_of_update hc hsetting]
  constructor
  · rintro ⟨k', v', hname', hread', hv'⟩
    obtain rfl := Key.name_injective (hname'.trans hname.symm)
    obtain rfl := Except.ok.inj (hread'.symm.trans hread)
    exact hv'
  · exact fun hv => ⟨k, v, hname, hread, hv⟩

/-- Where a file is uncovered, a save can only have failed at a number. -/
theorem not_storable_of_uncovers {fault : Fault} (h : t.Uncovers path)
    (hsave : c.save t path = (t', .error fault)) : ¬ c.Storable := by
  obtain ⟨content, hread⟩ := isFile_eq_true.mp h.after
  obtain ⟨t'', hwrite⟩ := exists_write_of_read hread content
  intro hc
  obtain ⟨u, hok⟩ := (exists_save_iff c t path).mpr
    ⟨⟨_, content, t'', makeDirectories_of_read hread, hwrite⟩, hc⟩
  cases hsave.symm.trans hok

theorem load_of_uncovers (h : t.Uncovers path) : load t path = .ok {} :=
  load_eq_ok.mpr (Or.inl ⟨h.before, rfl⟩)

/-- A run that uncovers a file changes what is read at the path, and fails. -/
theorem not_setsOneKey (h : w.tree.Uncovers path) (hvalue : Unstorable key value) :
    ¬ SetsOneKey w path r key value := by
  intro hone
  obtain ⟨k, v, hname, hread, -⟩ := id hvalue
  obtain ⟨c', hset, -⟩ := exists_set hname hread {}
  obtain ⟨htree, hcode⟩ := assign_of_set (load_of_uncovers h) hset r
  rcases hsave : c'.save w.tree path with ⟨t, fault | u⟩
  · have hsame := hone.failed (by simp [hcode, hsave])
    obtain ⟨content, hread⟩ := isFile_eq_true.mp h.after
    rw [htree, hsave, tree_of_save_error hsave, hread, h.toOption_read] at hsame
    cases hsame
  · exact (unstorable_iff storable_default hset).mp hvalue ((exists_save_iff _ _ _).mp ⟨t, hsave⟩).2

/-- Every other run reads at the path what it found there, if it fails. -/
theorem toOption_read_of_failed (h : ¬ (w.tree.Uncovers path ∧ Unstorable key value))
    (hfailed : (w.assign path r key value).code ≠ 0) :
    ((w.assign path r key value).tree.read path).toOption = (w.tree.read path).toOption := by
  have hend := assign_ends w path r key value
  generalize w.assign path r key value = f at hfailed hend
  cases hend with
  | unloaded | rejected => rfl
  | saved => exact absurd rfl hfailed
  | unsaved hload hset hsave =>
    have huncovers : ¬ w.tree.Uncovers path := fun hu =>
      h ⟨hu, (unstorable_iff (storable_of_load hload) hset).mpr (not_storable_of_uncovers hu hsave)⟩
    rw [tree_of_save_error hsave, read_grow huncovers]

/-- A run that succeeds replaces one setting. -/
theorem settings_of_succeeded (h : (w.assign path r key value).code = 0) :
    ∃ c k v c', load w.tree path = .ok c ∧ k.name = key ∧ k.reading value = .ok v ∧
      load (w.assign path r key value).tree path = .ok c' ∧
        c'.setting = Function.update c.setting k v := by
  have hend := assign_ends w path r key value
  generalize w.assign path r key value = f at h hend
  cases hend with
  | unloaded | rejected | unsaved => cases h
  | saved hload hset hsave =>
    obtain ⟨k, v, hname, hread, hsetting⟩ := set_eq_ok.mp hset
    exact ⟨_, k, v, _, hload, hname, hread, load_of_save hsave, hsetting⟩

/-- A world with nothing but files. -/
def bareWorld (tree : FileTree) : World where
  tree := tree
  now := ⟨0, 0, 0⟩
  process := 0
  programs := fun _ tree => (tree, .refused)

/-- A path that leads through a directory which is missing, and back to a file. -/
theorem not_setsOneKey_for_way_back :
    let w := bareWorld
      { entries := [(["c.toml"], .file (Bytes.ofText "[general]\nverbose = true\n"))] }
    ∀ r, ¬ SetsOneKey w "a/../c.toml" r "instrument.timeout_secs" "9223372036854775808" :=
  fun _ => not_setsOneKey ⟨by decide, by decide⟩
    ⟨.toolTimeout, .count 9223372036854775808, rfl, rfl, by simp [Toml.Setting.Storable]⟩

theorem rejection_eq_iff {fault fault' : Fault} :
    rejection fault = rejection fault' ↔ fault.message = fault'.message := by
  simp [rejection, failLine, line, String.append_assoc]

theorem rejection_ne_okLine (fault : Fault) (message : String) :
    okLine message ≠ rejection fault := by
  intro h
  have := congrArg (fun s => s.toList[3]?) h
  simp [okLine, rejection, failLine, line] at this

theorem not_mem_names_of_set (h : key ∉ Key.names) : c.set key value ≠ .ok c' := by
  rw [set_of_unknown h]
  exact fun h => by cases h

/-- A key is rejected as unknown exactly if it is not listed, once the file was loaded. -/
theorem rejected_as_unknown_iff (w : World) (path : String) (r : Request) (key value : String) :
    (w.assign path r key value).out = rejection (.user ("Unknown config key: " ++ key)) ↔
      (∃ c, load w.tree path = .ok c) ∧ key ∉ Key.names := by
  have hend := assign_ends w path r key value
  generalize w.assign path r key value = f at hend
  have hnonempty : rejection (.user ("Unknown config key: " ++ key)) ≠ "" := by
    simp [rejection, failLine, line]
  cases hend with
  | unloaded hload => simp [hload, hnonempty.symm]
  | rejected hload hset =>
    rw [← unknown_iff_of_set hset, rejection_eq_iff]
    exact ⟨fun h => ⟨⟨_, hload⟩, h⟩, fun h => h.2⟩
  | unsaved hload hset =>
    have hknown : ¬ key ∉ Key.names := fun h => not_mem_names_of_set h hset
    simp [hnonempty.symm, hknown]
  | saved hload hset =>
    have hknown : ¬ key ∉ Key.names := fun h => not_mem_names_of_set h hset
    simp [rejection_ne_okLine, hknown]

/-- **A run that sets a key changes that key or nothing, unless** it fails at a number that the file
cannot hold after it has made the directory of the file, and that uncovers a file at the path. A run
that fails changes no file in any case. -/
theorem assignment_sets_one_key_iff (w : World) (path : String) (r : Request) (key value : String) :
    ((w.assign path r key value).code ≠ 0 → ∀ p content,
      (w.assign path r key value).tree.node? p = some (.file content) ↔
        w.tree.node? p = some (.file content)) ∧
    (SetsOneKey w path r key value ↔ ¬ (w.tree.Uncovers path ∧ Unstorable key value)) := by
  refine ⟨fun hfailed p content => ?_, fun hone h => not_setsOneKey h.1 h.2 hone, fun h =>
    ⟨toOption_read_of_failed h, settings_of_succeeded, rejected_as_unknown_iff w path r key value⟩⟩
  have hend := assign_ends w path r key value
  generalize w.assign path r key value = f at hfailed hend
  cases hend with
  | unloaded | rejected => rfl
  | saved => exact absurd rfl hfailed
  | unsaved hload hset hsave => rw [tree_of_save_error hsave, file_grow_iff]

/-! ## Limits -/

theorem lt_of_count {n : Nat} (h : count value = .ok n) : n < 0x10000000000000000 := by
  unfold count at h
  dsimp only at h
  split at h
  · split at h
    · rename_i hlt
      exact Except.ok.inj h ▸ hlt
    · cases h
  · cases h

theorem count_toString {n : Nat} (h : n < 0x10000000000000000) : count (toString n) = .ok n := by
  have hnumeral := Toml.numeral_toDigits n
  have htext : (toString n).toList = Nat.toDigits 10 n := by simp
  have hdecimal : decimal? (Nat.toDigits 10 n) = some n := by
    rw [decimal?, if_neg, hnumeral.value]
    simpa [hnumeral.ne_nil] using hnumeral.isDigit
  have hsign : ∀ rest, Nat.toDigits 10 n ≠ '+' :: rest := fun rest he => by
    cases hnumeral.isDigit '+' (by simp [he])
  unfold count
  rw [htext]
  dsimp only
  split
  · rename_i m hm
    split at hm
    · exact absurd ‹_› (hsign _)
    · obtain rfl := Option.some.inj (hdecimal.symm.trans hm)
      exact if_pos h
  · rename_i hm
    split at hm
    · exact absurd ‹_› (hsign _)
    · cases hdecimal.symm.trans hm

/-- The numbers that are accepted for a limit are those of 64 bits. -/
theorem exists_count_iff {n : Nat} : (∃ value, count value = .ok n) ↔ n < 0x10000000000000000 :=
  ⟨fun ⟨_, h⟩ => lt_of_count h, fun h => ⟨toString n, count_toString h⟩⟩

theorem reading_timeout (hk : k = .toolTimeout ∨ k = .checkerTimeout) (value : String) :
    k.reading value = Toml.Setting.count <$> count value := by
  rcases hk with rfl | rfl <;> rfl

/-- A value that can be stored is, where the path can hold the file. -/
theorem stored_of_storable {v : Toml.Setting} (hload : load w.tree path = .ok c)
    (hhold : w.tree.CanHold path) (hread : k.reading value = .ok v) (hv : v.Storable)
    (r : Request) :
    (w.assign path r k.name value).code = 0 ∧
      ∃ c', load (w.assign path r k.name value).tree path = .ok c' ∧
        c'.setting = Function.update c.setting k v := by
  obtain ⟨c', hset, hsetting⟩ := exists_set rfl hread c
  obtain ⟨t, hsave⟩ := (exists_save_iff c' w.tree path).mpr
    ⟨hhold, (storable_of_update (storable_of_load hload) hsetting).mpr hv⟩
  obtain ⟨htree, hcode⟩ := assign_of_set hload hset r
  rw [htree, hcode, hsave]
  exact ⟨rfl, c', load_of_save hsave, hsetting⟩

/-- **A limit that is accepted is stored exactly if it lies below 2⁶³**, while all numbers below 2⁶⁴
are accepted: the file holds integers of 64 bits with sign. -/
theorem timeout_is_stored_iff {n : Nat} (hload : load w.tree path = .ok c)
    (hhold : w.tree.CanHold path) (hk : k = .toolTimeout ∨ k = .checkerTimeout)
    (hvalue : count value = .ok n) (r : Request) :
    ((w.assign path r k.name value).code = 0 ∧
      ∃ c', load (w.assign path r k.name value).tree path = .ok c' ∧ c'.setting k = .count n) ↔
        n < 0x8000000000000000 := by
  have hread : k.reading value = .ok (.count n) := by
    rw [reading_timeout hk, hvalue]
    rfl
  constructor
  · rintro ⟨-, c', hload', hsetting⟩
    have hstorable := storable_iff_setting.mp (storable_of_load hload') k
    rw [hsetting] at hstorable
    exact hstorable
  · intro hn
    obtain ⟨hcode, c', hload', hsetting⟩ := stored_of_storable hload hhold hread hn r
    exact ⟨hcode, c', hload', by rw [hsetting, Function.update_self]⟩

/-- The smallest number that is accepted and not stored. -/
theorem timeout_is_stored_iff_for_limit :
    let w := bareWorld {}
    count "9223372036854775808" = .ok 9223372036854775808 ∧ ∀ r,
      ¬ ((w.assign "c.toml" r "instrument.timeout_secs" "9223372036854775808").code = 0 ∧
        ∃ c', load (w.assign "c.toml" r "instrument.timeout_secs" "9223372036854775808").tree
          "c.toml" = .ok c' ∧ c'.setting .toolTimeout = .count 9223372036854775808) := by
  have hvalue : count "9223372036854775808" = .ok 9223372036854775808 := rfl
  have hhold : (bareWorld {}).tree.CanHold "c.toml" := ⟨{}, [], _, rfl, rfl⟩
  refine ⟨hvalue, fun r h => ?_⟩
  have hlimit : 9223372036854775808 < 0x8000000000000000 :=
    (timeout_is_stored_iff (w := bareWorld {}) (k := .toolTimeout) rfl hhold (.inl rfl) hvalue
      r).mp h
  exact absurd hlimit (by decide)

end CommandLine

end Interpose
