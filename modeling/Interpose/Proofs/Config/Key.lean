import Interpose.Config.Key
import Mathlib.Logic.Function.Basic

/-!
# The keys of a configuration

A configuration is the table of its settings, one for each key (`setting_injective`), and setting a
key by a text replaces one entry of that table by what the text says (`set_eq_ok`), or fails for one
of two reasons: the key is none of those that are listed for the user (`named?_eq_none`), or the
text says nothing for it. A name is looked up part by part, apart from the list of names, so it
takes an argument that the two agree (`named?_eq_some`).
-/

namespace Interpose.Config

open Toml (Setting)

variable {c c' : Config} {k : Key} {key value name : String} {fault : Fault}

/-! ## Names -/

/-- The names that are listed for the user. -/
def Key.names : List String := all.map Key.name

theorem Key.name_injective : Function.Injective Key.name := by
  intro k k' h
  exact Option.some.inj ((named?_name k).symm.trans (h ▸ named?_name k'))

theorem splitText_injective (sep : Char) {s t : String} (h : splitText sep s = splitText sep t) :
    s = t := by
  have hparts : s.toList.splitOn sep = t.toList.splitOn sep :=
    (List.map_inj_right fun _ _ => String.ofList_inj.mp).mp h
  have hjoin := congrArg (List.intercalate [sep]) hparts
  rwa [List.intercalate_splitOn, List.intercalate_splitOn, String.toList_inj] at hjoin

theorem Key.eq_of_ofParts? {parts : List String} (h : ofParts? parts = some k) :
    parts = splitText '.' k.name := by
  unfold ofParts? at h
  split at h
  all_goals
    first
    | cases h
      done
    | obtain rfl := Option.some.inj h
      decide

/-- A name is looked up as what it is listed as. -/
theorem Key.named?_eq_some : named? name = some k ↔ k.name = name := by
  constructor
  · intro h
    exact (splitText_injective '.' (eq_of_ofParts? h)).symm
  · rintro rfl
    exact named?_name k

/-- A name is looked up in vain exactly if it is not listed. -/
theorem Key.named?_eq_none : named? name = none ↔ name ∉ names := by
  rw [Option.eq_none_iff_forall_ne_some]
  simp [names, named?_eq_some, mem_all]

/-! ## Settings -/

/-- The setting of a key. -/
def setting (c : Config) : Key → Setting
  | .verbose => .flag c.general.verbose
  | .logFormat => .text c.general.logFormat
  | .mode => .text c.tool.mode
  | .useCache => .flag c.tool.useCache
  | .cacheDirectory => .text c.tool.cacheDirectory
  | .toolCommand => .texts c.tool.command
  | .toolTimeout => .count c.tool.timeoutSecs
  | .html => .flag c.tool.html
  | .script => .flag c.tool.script
  | .checkerCommand => .texts c.checker.command
  | .checkerTimeout => .count c.checker.timeoutSecs

/-- A configuration has nothing but its settings. -/
theorem setting_injective : Function.Injective setting := by
  intro c c' he
  have hall : ∀ k ∈ Key.all, c.setting k = c'.setting k := fun k _ => congrFun he k
  rcases c with ⟨⟨_, _⟩, ⟨_, _, _, _, _, _, _⟩, ⟨_, _⟩⟩
  rcases c' with ⟨⟨_, _⟩, ⟨_, _, _, _, _, _, _⟩, ⟨_, _⟩⟩
  simpa [Key.all, setting, and_assoc] using hall

/-- What a text says for a key. -/
def Key.reading (value : String) : Key → Except Fault Setting
  | .verbose | .useCache | .html | .script => .flag <$> flag value
  | .logFormat | .mode | .cacheDirectory => .ok (.text value)
  | .toolCommand | .checkerCommand => .texts <$> command value
  | .toolTimeout | .checkerTimeout => .count <$> count value

/-- Where the settings are those of `c` with one replaced, reading the new one from a text and
putting it in its place fail together. -/
theorem map_cases {α : Type} (parsed : Except Fault α) {put : α → Config} {wrap : α → Setting}
    (h : ∀ x, (put x).setting = Function.update c.setting k (wrap x)) :
    (∃ v c', wrap <$> parsed = .ok v ∧ put <$> parsed = .ok c' ∧
      c'.setting = Function.update c.setting k v) ∨
    ∃ fault, wrap <$> parsed = .error fault ∧ put <$> parsed = .error fault := by
  cases parsed with
  | error fault => exact Or.inr ⟨fault, rfl, rfl⟩
  | ok x => exact Or.inl ⟨wrap x, put x, rfl, rfl, h x⟩

/-- What assigning can do: replace the one setting by what the text says, or fail as reading the
text does. -/
theorem assign_cases (c : Config) (k : Key) (value : String) :
    (∃ v c', k.reading value = .ok v ∧ c.assign value k = .ok c' ∧
      c'.setting = Function.update c.setting k v) ∨
    ∃ fault, k.reading value = .error fault ∧ c.assign value k = .error fault := by
  cases k with
  | logFormat | mode | cacheDirectory =>
    refine Or.inl ⟨_, _, rfl, rfl, funext fun k => ?_⟩
    cases k <;> rfl
  | verbose | useCache | html | script =>
    refine map_cases (flag value) fun x => funext fun k => ?_
    cases k <;> rfl
  | toolCommand | checkerCommand =>
    refine map_cases (command value) fun x => funext fun k => ?_
    cases k <;> rfl
  | toolTimeout | checkerTimeout =>
    refine map_cases (count value) fun x => funext fun k => ?_
    cases k <;> rfl

/-! ## Setting a key -/

theorem set_eq_assign (h : k.name = key) (c : Config) (value : String) :
    c.set key value = c.assign value k := by
  rw [set, Key.named?_eq_some.mpr h]

theorem set_of_unknown (h : key ∉ Key.names) (c : Config) (value : String) :
    c.set key value = .error (.user ("Unknown config key: " ++ key)) := by
  rw [set, Key.named?_eq_none.mpr h]

/-- A text that says something for a key sets it, whatever the configuration. -/
theorem exists_set {v : Setting} (hname : k.name = key) (hread : k.reading value = .ok v)
    (c : Config) :
    ∃ c', c.set key value = .ok c' ∧ c'.setting = Function.update c.setting k v := by
  rw [set_eq_assign hname]
  rcases assign_cases c k value with ⟨v', c', hread', hassign, hsetting⟩ | ⟨fault, hfault, -⟩
  · obtain rfl := Except.ok.inj (hread.symm.trans hread')
    exact ⟨c', hassign, hsetting⟩
  · cases hread.symm.trans hfault

/-- **Setting a key replaces the one setting that it names** by what the text says for it. -/
theorem set_eq_ok : c.set key value = .ok c' ↔
    ∃ k v, k.name = key ∧ k.reading value = .ok v ∧
      c'.setting = Function.update c.setting k v := by
  constructor
  · intro h
    cases hk : Key.named? key with
    | none =>
      rw [set_of_unknown (Key.named?_eq_none.mp hk)] at h
      cases h
    | some k =>
      have hname := Key.named?_eq_some.mp hk
      rw [set_eq_assign hname] at h
      rcases assign_cases c k value with ⟨v, c'', hread, hassign, hsetting⟩ | ⟨fault, -, hassign⟩
      · obtain rfl := Except.ok.inj (hassign.symm.trans h)
        exact ⟨k, v, hname, hread, hsetting⟩
      · rw [hassign] at h
        cases h
  · rintro ⟨k, v, hname, hread, hsetting⟩
    obtain ⟨c'', hset, hsetting'⟩ := exists_set hname hread c
    rw [hset, setting_injective (hsetting.trans hsetting'.symm)]

theorem eq_of_flag (h : flag value = .error fault) :
    fault = .user ("Invalid boolean value: " ++ value ++ ". Use true/false") := by
  unfold flag at h
  dsimp only at h
  split at h
  · cases h
  · split at h
    · cases h
    · exact (Except.error.inj h).symm

theorem eq_of_count (h : count value = .error fault) :
    fault = .user ("Invalid number: " ++ value) := by
  unfold count at h
  dsimp only at h
  split at h
  · split at h
    · cases h
    · exact (Except.error.inj h).symm
  · exact (Except.error.inj h).symm

theorem eq_of_command (h : command value = .error fault) :
    fault = .user "Command must not be empty" := by
  unfold command at h
  split at h
  · exact (Except.error.inj h).symm
  · cases h

theorem eq_error_of_map {α β : Type} {x : Except Fault α} {f : α → β} (h : f <$> x = .error fault) :
    x = .error fault := by
  cases x with
  | error e => exact congrArg Except.error (Except.error.inj h)
  | ok a => cases h

/-- What is said against a text starts with another letter than what is said against a key. -/
theorem reading_ne_unknown (h : k.reading value = .error fault) :
    fault.message ≠ "Unknown config key: " ++ key := by
  have letter : ∀ {message : String}, message.toList.head? ≠ some 'U' →
      (Fault.user message).message ≠ "Unknown config key: " ++ key := by
    intro message hfirst he
    have hmessage : message = "Unknown config key: " ++ key := he
    exact hfirst (by simp [hmessage])
  cases k with
  | logFormat | mode | cacheDirectory => cases h
  | verbose | useCache | html | script =>
    have h : Setting.flag <$> flag value = .error fault := h
    rw [eq_of_flag (eq_error_of_map h)]
    exact letter (by simp)
  | toolCommand | checkerCommand =>
    have h : Setting.texts <$> command value = .error fault := h
    rw [eq_of_command (eq_error_of_map h)]
    exact letter (by simp)
  | toolTimeout | checkerTimeout =>
    have h : Setting.count <$> count value = .error fault := h
    rw [eq_of_count (eq_error_of_map h)]
    exact letter (by simp)

/-- **A key is rejected as unknown exactly if it is not listed.** -/
theorem unknown_iff_of_set (h : c.set key value = .error fault) :
    fault.message = "Unknown config key: " ++ key ↔ key ∉ Key.names := by
  constructor
  · intro hmessage hmem
    obtain ⟨k, -, hname⟩ := List.mem_map.mp hmem
    rw [set_eq_assign hname] at h
    rcases assign_cases c k value with ⟨v, c', -, hassign, -⟩ | ⟨fault', hfault, hassign⟩
    · rw [hassign] at h
      cases h
    · obtain rfl := Except.error.inj (h.symm.trans hassign)
      exact reading_ne_unknown hfault hmessage
  · intro hunknown
    obtain rfl := Except.error.inj (h.symm.trans (set_of_unknown hunknown c value))
    rfl

end Interpose.Config
