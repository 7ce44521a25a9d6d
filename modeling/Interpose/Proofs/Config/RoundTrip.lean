import Interpose.Config.File
import Interpose.Proofs.Files.Parent
import Interpose.Proofs.Json.RoundTrip
import Interpose.Proofs.Text.Utf8
import Interpose.Proofs.Toml.Document
import Interpose.Proofs.Toml.Range

/-!
# Configurations there and back

A configuration is read back from what is printed for it (`read?_print?`), and it can be printed
exactly if its limits lie in the range of TOML integers (`isSome_print?_iff`). A configuration that
was read is of that kind, since its numbers were TOML integers (`storable_of_load`), so whatever was
loaded can be saved, and is loaded again.
-/

namespace Interpose

open Toml (Named Bare entriesOf tablesOf)
open FileTree Interpose.Path

namespace Config

variable {c c' : Config} {t t' : FileTree} {path text : String}

/-- The limits of a configuration lie in the range of 64 bits with sign. -/
structure Storable (c : Config) : Prop where
  tool : c.tool.timeoutSecs < 0x8000000000000000
  checker : c.checker.timeoutSecs < 0x8000000000000000

/-! ## Printing and reading -/

theorem named_tables (c : Config) : Named c.tables ∧ ∀ t ∈ c.tables, Named t.2 := by
  refine ⟨.of_names ["general", "instrument", "syntax"] rfl (by decide) (by decide), ?_⟩
  simp only [tables, List.forall_mem_cons, List.not_mem_nil, false_implies, implies_true, and_true]
  refine ⟨.of_names ["verbose", "log_format"] rfl (by decide) (by decide), ?_,
    .of_names ["command", "timeout_secs"] rfl (by decide) (by decide)⟩
  exact .of_names
    ["mode", "use_cache", "cache_dir", "command", "timeout_secs", "html", "javascript"] rfl
    (by decide) (by decide)

theorem isSome_print?_iff (c : Config) : c.print?.isSome = true ↔ c.Storable := by
  rw [print?, Toml.isSome_print?]
  simp only [tables, List.forall_mem_cons, List.not_mem_nil, false_implies, implies_true, and_true,
    Toml.Setting.Storable, true_and]
  exact ⟨fun h => ⟨h.1, h.2⟩, fun h => ⟨h.tool, h.checker⟩⟩

theorem texts?_map (ss : List String) : Toml.texts? (.array (ss.map .text)) = some ss := by
  have hitem : ∀ s ∈ ss, (Toml.text? ∘ .text) s = some (id s) := fun _ _ => rfl
  rw [Toml.texts?, List.mapM_map, Json.mapM_eq_some hitem, List.map_id]

/-- The tables of a configuration say it. -/
theorem ofToml?_tables (c : Config) : ofToml? (.table .header (tablesOf c.tables)) = some c := by
  have hgeneral : GeneralConfig.ofToml? (.table .header (entriesOf
      [("verbose", .flag c.general.verbose), ("log_format", .text c.general.logFormat)])) =
      some c.general := rfl
  have htool : ToolConfig.ofToml? (.table .header (entriesOf
      [("mode", .text c.tool.mode), ("use_cache", .flag c.tool.useCache),
       ("cache_dir", .text c.tool.cacheDirectory), ("command", .texts c.tool.command),
       ("timeout_secs", .count c.tool.timeoutSecs), ("html", .flag c.tool.html),
       ("javascript", .flag c.tool.script)])) = some c.tool := by
    simp [ToolConfig.ofToml?, Toml.fields?, entriesOf, Toml.Entries.get?, Toml.Setting.toToml,
      Toml.withDefault, Toml.text?, Toml.boolean?, Toml.nat?, texts?_map]
  have hchecker : CheckerConfig.ofToml? (.table .header (entriesOf
      [("command", .texts c.checker.command), ("timeout_secs", .count c.checker.timeoutSecs)])) =
      some c.checker := by
    simp [CheckerConfig.ofToml?, Toml.fields?, entriesOf, Toml.Entries.get?, Toml.Setting.toToml,
      Toml.withDefault, Toml.nat?, texts?_map]
  simp [ofToml?, tables, Toml.fields?, tablesOf, Toml.Entries.get?, Toml.withDefault, hgeneral,
    htool, hchecker]

/-- **A printed configuration is read back.** -/
theorem read?_print? (h : c.print? = some text) : read? text = some c := by
  have htables := named_tables c
  rw [read?, Toml.read?_print? h htables.1 htables.2]
  exact ofToml?_tables c

/-! ## The range of what was read -/

/-- A field that is read as a number, or its default, lies in the range if the default does. -/
theorem lt_of_withDefault {default n : Nat} {field : Option Toml}
    (hdefault : default < 0x8000000000000000) (hfield : ∀ v ∈ field, v.InRange)
    (h : Toml.withDefault default Toml.nat? field = some n) : n < 0x8000000000000000 := by
  cases field with
  | none =>
    obtain rfl := Option.some.inj h
    exact hdefault
  | some v => exact Toml.lt_of_nat? (hfield v rfl) h

theorem lt_of_tool {v : Toml} {tool : ToolConfig} (hv : v.InRange)
    (h : ToolConfig.ofToml? v = some tool) : tool.timeoutSecs < 0x8000000000000000 := by
  simp only [ToolConfig.ofToml?, Option.bind_eq_bind, Option.bind_eq_some_iff] at h
  obtain ⟨fields, hfields, h⟩ := h
  have hall := Toml.inRange_fields? hv hfields
  split at h
  · simp only [Option.bind_eq_some_iff, Option.pure_def, Option.some.injEq] at h
    obtain ⟨_, -, _, -, _, -, _, -, n, hn, _, -, _, -, rfl⟩ := h
    exact lt_of_withDefault (by decide) (hall _ (by simp)) hn
  · cases h

theorem lt_of_checker {v : Toml} {checker : CheckerConfig} (hv : v.InRange)
    (h : CheckerConfig.ofToml? v = some checker) : checker.timeoutSecs < 0x8000000000000000 := by
  simp only [CheckerConfig.ofToml?, Option.bind_eq_bind, Option.bind_eq_some_iff] at h
  obtain ⟨fields, hfields, h⟩ := h
  have hall := Toml.inRange_fields? hv hfields
  split at h
  · simp only [Option.bind_eq_some_iff, Option.pure_def, Option.some.injEq] at h
    obtain ⟨_, -, n, hn, rfl⟩ := h
    exact lt_of_withDefault (by decide) (hall _ (by simp)) hn
  · cases h

theorem storable_default : ({} : Config).Storable := ⟨by decide, by decide⟩

/-- The limits of a configuration that was read are TOML integers. -/
theorem storable_of_read? (h : read? text = some c) : c.Storable := by
  obtain ⟨v, hv, h⟩ := Option.bind_eq_some_iff.mp h
  simp only [ofToml?, Option.bind_eq_bind, Option.bind_eq_some_iff] at h
  obtain ⟨fields, hfields, h⟩ := h
  have hall := Toml.inRange_fields? (Toml.inRange_read? hv) hfields
  split at h
  · rename_i general tool checker
    simp only [Option.bind_eq_some_iff, Option.pure_def, Option.some.injEq] at h
    obtain ⟨_, -, tool', htool, checker', hchecker, rfl⟩ := h
    constructor
    · cases tool with
      | none =>
        obtain rfl := Option.some.inj htool
        exact storable_default.tool
      | some v => exact lt_of_tool (hall _ (by simp) v rfl) htool
    · cases checker with
      | none =>
        obtain rfl := Option.some.inj hchecker
        exact storable_default.checker
      | some v => exact lt_of_checker (hall _ (by simp) v rfl) hchecker
  · cases h

/-! ## The file -/

/-- Loading answers the defaults where nothing is, and else what the text of the file says. -/
theorem load_eq_ok : load t path = .ok c ↔
    t.isThere path = false ∧ c = {} ∨
      ∃ text, t.read path = .ok (Bytes.ofText text) ∧ read? text = some c := by
  unfold load
  cases hthere : t.isThere path with
  | false =>
    have hnone : ∀ text, t.read path ≠ .ok (Bytes.ofText text) := fun text hread => by
      rw [isThere_of_read hread] at hthere
      cases hthere
    simp [hnone, eq_comm]
  | true =>
    rw [Bool.not_true, if_neg Bool.false_ne_true]
    simp only [Bool.true_eq_false, false_and, false_or]
    constructor
    · intro h
      split at h
      · cases h
      · rename_i text htext
        obtain ⟨content, hcontent, hdecode⟩ := Option.bind_eq_some_iff.mp htext
        split at h
        · cases h
        · rename_i c' hc
          obtain rfl := Except.ok.inj h
          refine ⟨text, ?_, hc⟩
          rw [eq_ok_of_toOption hcontent, Utf8.decode?_eq_some_iff.mp hdecode]
    · rintro ⟨text, hread, hc⟩
      have htext : (t.read path).toOption.bind Utf8.decode? = some text := by
        rw [hread]
        exact Utf8.decode?_ofText text
      simp only [htext, hc]

/-- A configuration that was loaded can be printed. -/
theorem storable_of_load (h : load t path = .ok c) : c.Storable := by
  rcases load_eq_ok.mp h with ⟨-, rfl⟩ | ⟨text, -, hread⟩
  · exact storable_default
  · exact storable_of_read? hread

/-- What saving can do: fail at the directory, with what could be made of it; fail behind it, at the
numbers or at the file; or write the file. -/
theorem save_cases (c : Config) (t : FileTree) (path : String) :
    (∃ e, t.makeDirectories (directoryOf path) = .error e ∧
      c.save t path =
        (t.grow (directoryOf path), .error (.configDirectory (directoryOf path) e.text))) ∨
    ∃ made, t.makeDirectories (directoryOf path) = .ok made ∧
      (c.print? = none ∧ c.save t path = (made, .error .unwritableConfig) ∨
        ∃ text, c.print? = some text ∧
          ((∃ e, made.write path (Bytes.ofText text) = .error e ∧
              c.save t path = (made, .error (.io ("writing config to " ++ path)))) ∨
            ∃ t', made.write path (Bytes.ofText text) = .ok t' ∧
              c.save t path = (t', .ok ()))) := by
  unfold save
  rw [← directoryOf]
  dsimp only
  cases t.makeDirectories (directoryOf path) with
  | error e => exact Or.inl ⟨e, rfl, rfl⟩
  | ok made =>
    refine Or.inr ⟨made, rfl, ?_⟩
    cases c.print? with
    | none => exact Or.inl ⟨rfl, rfl⟩
    | some text =>
      refine Or.inr ⟨text, rfl, ?_⟩
      cases hwrite : made.write path (Bytes.ofText text) with
      | error e => exact Or.inl ⟨e, rfl, by simp only [hwrite]⟩
      | ok t' => exact Or.inr ⟨t', rfl, by simp only [hwrite]⟩

theorem save_eq_ok : c.save t path = (t', .ok ()) ↔
    ∃ made text, t.makeDirectories (directoryOf path) = .ok made ∧ c.print? = some text ∧
      made.write path (Bytes.ofText text) = .ok t' := by
  rcases save_cases c t path with ⟨e, hmake, h⟩ | ⟨made, hmake, ⟨hprint, h⟩ | ⟨text, hprint,
    ⟨e, hwrite, h⟩ | ⟨t'', hwrite, h⟩⟩⟩
  · simp [h, hmake]
  · simp [h, hprint]
  · simp [h, hmake, hprint, hwrite]
  · simp [h, hmake, hprint, hwrite]

/-- **What was saved is loaded.** -/
theorem load_of_save (h : c.save t path = (t', .ok ())) : load t' path = .ok c := by
  obtain ⟨made, text, -, hprint, hwrite⟩ := save_eq_ok.mp h
  exact load_eq_ok.mpr (Or.inr ⟨text, read_of_write hwrite, read?_print? hprint⟩)

/-- A configuration can be saved exactly if its limits can be printed and the path can hold it. -/
theorem exists_save_iff (c : Config) (t : FileTree) (path : String) :
    (∃ t', c.save t path = (t', .ok ())) ↔ t.CanHold path ∧ c.Storable := by
  rw [← isSome_print?_iff, Option.isSome_iff_exists]
  simp only [save_eq_ok]
  constructor
  · rintro ⟨t', made, text, hmade, hprint, hwrite⟩
    exact ⟨⟨made, _, t', hmade, hwrite⟩, text, hprint⟩
  · rintro ⟨⟨made, content, t', hmade, hwrite⟩, text, hprint⟩
    obtain ⟨t', hwrite⟩ := exists_write hwrite (Bytes.ofText text)
    exact ⟨t', made, text, hmade, hprint, hwrite⟩

/-- **A configuration that was loaded survives.** It can be saved in place, and at every other path
that can hold a file, and what is loaded from there is the same configuration. -/
theorem loaded_survives (h : load t path = .ok c) :
    (t.isThere path = true → ∃ t', c.save t path = (t', .ok ()) ∧ load t' path = .ok c) ∧
      ∀ u target, u.CanHold target →
        ∃ u', c.save u target = (u', .ok ()) ∧ load u' target = .ok c := by
  have survives : ∀ u target, u.CanHold target →
      ∃ u', c.save u target = (u', .ok ()) ∧ load u' target = .ok c := by
    intro u target hold
    obtain ⟨u', hsave⟩ := (exists_save_iff c u target).mpr ⟨hold, storable_of_load h⟩
    exact ⟨u', hsave, load_of_save hsave⟩
  refine ⟨fun hthere => survives t path ?_, survives⟩
  rcases load_eq_ok.mp h with ⟨hnot, -⟩ | ⟨text, hread, -⟩
  · rw [hthere] at hnot
    cases hnot
  · exact canHold_of_isFile (isFile_eq_true.mpr ⟨_, hread⟩)

/-- A text with quotes of both kinds and empty lines in it, and the largest limit. -/
def quoted : Config where
  tool := { mode := "\nit's\n\n\"new\"\\", timeoutSecs := 9223372036854775807 }

/-- The files of a directory in which the configuration is written by hand. -/
def quotedTree : FileTree where
  entries := [(["c.toml"], .file (Bytes.ofText
    "[instrument]\nmode = '''\n\nit's\n\n\"new\"\\'''\ntimeout_secs = 9223372036854775807\n"))]

theorem loaded_survives_for_quotes : load quotedTree "c.toml" = .ok quoted ∧
    (∃ t, quoted.save quotedTree "c.toml" = (t, .ok ()) ∧ load t "c.toml" = .ok quoted) ∧
      ∃ t, quoted.save {} "new/c.toml" = (t, .ok ()) ∧ load t "new/c.toml" = .ok quoted := by
  have hload : load quotedTree "c.toml" = .ok quoted :=
    load_eq_ok.mpr (Or.inr ⟨_, rfl, by decide +kernel⟩)
  have hhold : ({} : FileTree).CanHold "new/c.toml" :=
    ⟨{ entries := [(["new"], .directory)] }, [], _, rfl, rfl⟩
  have h := loaded_survives hload
  exact ⟨hload, h.1 (isThere_of_read rfl), h.2 {} "new/c.toml" hhold⟩

end Config

end Interpose
