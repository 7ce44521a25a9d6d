import Interpose.Proofs.Cache.Locality

/-!
# Where the files of the store are

The files of a call stand at `root/host/hash/file`. The hash and the file names are always ordinary
components of a path, and the host is one unless it is `.` or `..`, which the host of a URL without
a special scheme can be. With any other host a call is *confined* (`Confinement`): it makes no
directory but those on the way to the root and the two below it, changes no file but its own four,
and looks at nothing else (`confinement_iff`).
-/

namespace Interpose.Cache

open Interpose.Path FileTree

/-! ## Places below a directory -/

theorem onWay_join {t : FileTree} {base name : String} (hn : IsComponent name) {p : Place}
    (h : onWay t (join base name) p) : onWay t base p ∨ p = t.placeOf base ++ [name] := by
  obtain ⟨front, hf, rfl⟩ := h
  rw [steps_join_component hn, List.prefix_concat_iff] at hf
  rw [start_join t hn.no_slash]
  rcases hf with rfl | hf
  · rw [goal_append, goal_cons, goal_nil, next_of_ne hn.ne_dots]
    exact Or.inr rfl
  · exact Or.inl ⟨front, hf, rfl⟩

theorem near_join {t : FileTree} {base name : String} (hn : IsComponent name) {p : Place}
    (h : Near t (join base name) p) : onWay t base p ∨ p = t.placeOf base ++ [name] := by
  rcases h with h | rfl
  · exact onWay_join hn h
  · rw [placeOf_join t hn, List.dropLast_concat]
    exact Or.inl (onWay_placeOf t base)

/-! ## Places below the root -/

/-- The places of the directories that a call for a key may make: those on the way to the root, that
of the host, and in it that of the hash. -/
def Key.Ways (key : Key) (root : String) (t : FileTree) (p : Place) : Prop :=
  onWay t root p ∨ p = t.placeOf root ++ [key.host] ∨ p = t.placeOf root ++ [key.host, key.hash]

/-- The places of files in the directory of a key. -/
def Key.Files (key : Key) (root : String) (t : FileTree) (names : List String) (p : Place) : Prop :=
  ∃ file ∈ names, p = t.placeOf root ++ [key.host, key.hash, file]

theorem Key.placeOf_directory {key : Key} (hhost : IsComponent key.host)
    (hhash : IsComponent key.hash) (root : String) (t : FileTree) :
    t.placeOf (key.directory root) = t.placeOf root ++ [key.host, key.hash] := by
  rw [Key.directory, placeOf_join t hhash, placeOf_join t hhost, List.append_assoc]
  rfl

theorem Key.ways_of_onWay {key : Key} (hhost : IsComponent key.host) (hhash : IsComponent key.hash)
    {root : String} {t : FileTree} {p : Place} (h : onWay t (key.directory root) p) :
    key.Ways root t p := by
  rcases onWay_join hhash h with h | rfl
  · rcases onWay_join hhost h with h | rfl
    · exact Or.inl h
    · exact Or.inr (Or.inl rfl)
  · rw [placeOf_join t hhost, List.append_assoc]
    exact Or.inr (Or.inr rfl)

/-! ## Confinement -/

/-- The names of the files that a call works on. -/
def callFiles (store : Store) (request : Request) (kind : Kind) : List String :=
  (Role.ofCall store.process store.staged).map (·.file (artifactName request.pathComponents) kind)

/-- What it takes for a call to be confined to the root. -/
structure Confinement (settings : Settings) (tool : Tool) (store : Store) (request : Request)
    (body : Bytes) (kind : Kind) : Prop where
  host : IsComponent (Key.of request.host (normalize body)).host
  hash : IsComponent (Key.of request.host (normalize body)).hash
  files : ∀ file ∈ callFiles store request kind, IsComponent file
  /-- The four paths are the root, the host, the hash and the file, in this order. -/
  paths :
    let key := Key.of request.host (normalize body)
    let call := Call.of settings store request body kind
    [call.artifact, call.sourcePath, metadataPath call.artifact, call.staging] =
      (callFiles store request kind).map (join (join (join settings.root key.host) key.hash))
  /-- Whatever the tree looks like, they lead to places three below that of the root. -/
  places : ∀ (t : FileTree) (file : String), file ∈ callFiles store request kind →
    let key := Key.of request.host (normalize body)
    t.placeOf (join (join (join settings.root key.host) key.hash) file) =
      t.placeOf settings.root ++ [key.host, key.hash, file]
  /-- Nothing is made, written or moved but there, with a tool that keeps to its output path. -/
  changes : tool.Confined →
    let key := Key.of request.host (normalize body)
    GrownAt (key.Ways settings.root store.tree)
      (key.Files settings.root store.tree (callFiles store request kind)) store.tree
      (instrument settings tool store request body kind).store.tree
  /-- Nothing is looked at but there: a tree that differs elsewhere is answered alike. -/
  looks : tool.Confined → tool.Local →
    let key := Key.of request.host (normalize body)
    let below := fun p => key.Ways settings.root store.tree p ∨
      key.Files settings.root store.tree (callFiles store request kind) p
    ∀ u, AgreeOn below store.tree u →
      Answer.AlikeOn below (instrument settings tool store request body kind)
        (instrument settings tool { store with tree := u } request body kind)

theorem isComponent_callFiles {store : Store} {request : Request} {kind : Kind} {file : String}
    (h : file ∈ callFiles store request kind) : IsComponent file := by
  obtain ⟨r, -, rfl⟩ := List.mem_map.mp h
  exact isComponent_file r kind (slash_not_mem_artifactName _)

/-- **A call is confined exactly when its host is an ordinary name.** -/
theorem confinement_iff (settings : Settings) (tool : Tool) (store : Store) (request : Request)
    (body : Bytes) (kind : Kind) :
    Confinement settings tool store request body kind ↔
      (Key.of request.host (normalize body)).host ≠ "." ∧
        (Key.of request.host (normalize body)).host ≠ ".." := by
  refine ⟨fun h => ⟨h.host.ne_dot, h.host.ne_dots⟩, fun ⟨hdot, hdots⟩ => ?_⟩
  have hhost : IsComponent (Key.of request.host (normalize body)).host :=
    ⟨Key.host_ne_empty _ _, Key.slash_not_mem_host _ _, hdot, hdots⟩
  have hhash : IsComponent (Key.of request.host (normalize body)).hash := isComponent_contentHash _
  have hf := call_filesOf settings store request body kind
  have hdir : (Call.of settings store request body kind).directory =
      (Key.of request.host (normalize body)).directory settings.root := by
    simp only [Call.of]
  have hplace := Key.placeOf_directory hhost hhash settings.root
  have hpaths : [(Call.of settings store request body kind).artifact,
      (Call.of settings store request body kind).sourcePath,
      metadataPath (Call.of settings store request body kind).artifact,
      (Call.of settings store request body kind).staging] =
      (callFiles store request kind).map
        (join ((Key.of request.host (normalize body)).directory settings.root)) := by
    rw [hf.metadata, hf.artifact, hf.source, hf.staging, hdir]
    rfl
  refine ⟨hhost, hhash, fun _ => isComponent_callFiles, hpaths, ?_, ?_, ?_⟩
  · intro t file hfile key
    have hp : t.placeOf (join (key.directory settings.root) file) = _ :=
      placeOf_join t (isComponent_callFiles hfile)
    rw [hplace, List.append_assoc] at hp
    exact hp
  · intro hconfined key
    refine (instrument_grown hconfined settings store request body kind).mono ?_ ?_
    · rw [hdir]
      exact fun _ => Key.ways_of_onWay hhost hhash
    · intro p hp
      obtain ⟨r, hr, rfl⟩ := hf.exists_role hp
      rw [hdir, hplace, List.append_assoc]
      exact ⟨_, List.mem_map_of_mem hr, rfl⟩
  · intro hconfined hlocal key below u hu
    refine instrument_alike hconfined hlocal settings store request body kind hu fun p hp => ?_
    rcases hp with hp | ⟨path, hpath, hp⟩
    · rw [hdir] at hp
      exact Or.inl (Key.ways_of_onWay hhost hhash hp)
    · rw [hpaths] at hpath
      obtain ⟨file, hfile, rfl⟩ := List.mem_map.mp hpath
      rcases near_join (isComponent_callFiles hfile) hp with hp | rfl
      · exact Or.inl (Key.ways_of_onWay hhost hhash hp)
      · rw [hplace, List.append_assoc]
        exact Or.inr ⟨file, hfile, rfl⟩

/-- The host of a URL without a special scheme can be an ordinary name, and a tool that writes a file
to its output path keeps to that path and looks at nothing else. -/
theorem confinement_of_opaque_host :
    let tool := Tool.leaving fun job => (.file job.source, .ok ())
    tool.Confined ∧ tool.Local ∧
      Confinement ⟨"cache", true, "coverage"⟩ tool { tree := {}, now := ⟨0, 0, 0⟩, process := 7 }
        { url := "x://h/../a%2Fb.js" } [] .script :=
  ⟨Tool.leaving_confined _, Tool.leaving_local _,
    (confinement_iff _ _ _ _ _ _).mpr ⟨by decide +kernel, by decide +kernel⟩⟩

/-- A request to the host `..` is not confined: its files stand beside the root. -/
theorem not_confinement_of_parent_host :
    ¬ Confinement ⟨"cache", true, "coverage"⟩ (Tool.leaving fun _ => (.nothing, .ok ()))
      { tree := {}, now := ⟨0, 0, 0⟩, process := 7 } { url := "x://../app.js" } [] .script :=
  fun h => h.host.ne_dots (by decide +kernel)

end Interpose.Cache
