import Interpose.Cache.Listing
import Interpose.Proofs.Cache.Inventory
import Interpose.Proofs.Files.Listing
import Interpose.Proofs.Json.RoundTrip
import Interpose.Proofs.Time.Rfc3339
import Mathlib.Tactic.Choose

/-!
# What a listing finds

After any visits of a store that starts from an empty root, a listing finds each artifact that some
visit was answered, once and in order, with the metadata of the latest visit that published it
(`listing_is_exact`).

The inventory tells what stands below the root. A listing goes by directories and by the ends of file
names, and finds exactly that: a level of the listing is put together from those below it
(`Lists.flatten`), and each is complete because a visit that was answered has left its directories.
-/

namespace Interpose.Cache

open Interpose.Path FileTree

/-! ## Metadata -/

namespace Metadata

variable {m : Metadata}

/-- The fields of recorded metadata. -/
def table (m : Metadata) : List (String × Option Json) :=
  [("url", some (.text m.url)), ("kind", some (.text m.kind)), ("mode", some (.text m.mode)),
    ("created_at", some (.text (m.createdAt.text "Z")))]

theorem toJson_eq (m : Metadata) : m.toJson = Json.record (Json.present m.table) := rfl

theorem ofJson?_toJson (h : m.createdAt.Valid) : ofJson? m.toJson = some m := by
  have hfields := Json.fields?_present m.table (by simp [table])
  have hnames : m.table.map (·.1) = ["url", "kind", "mode", "created_at"] := rfl
  rw [hnames, ← toJson_eq] at hfields
  rw [ofJson?, hfields]
  simp [table, Json.required, Json.text, Json.text?, Instant.read?_text h]

theorem normal_toJson (m : Metadata) : m.toJson.Normal := Json.normal_record (by simp)

/-- Recorded metadata is read back. -/
theorem read?_pretty (h : m.createdAt.Valid) :
    read? (Bytes.ofText m.toJson.pretty) = some m := by
  rw [read?, Utf8.decode?_ofText]
  dsimp only
  rw [Json.read?_pretty m.normal_toJson, Option.bind_some, ofJson?_toJson h]

end Metadata

/-! ## Edits -/

theorem Leaving.edited (left : Leaving) (path : String) (t : FileTree) :
    Edited t (left.apply path t) := by
  cases left with
  | nothing => exact .refl
  | file content =>
    rw [Leaving.apply]
    exact .getD fun _ => .write
  | directory =>
    rw [Leaving.apply]
    exact .getD fun _ => .makeDirectory

theorem publish_edited {t : FileTree} {job : Job} {artifact : String} {run : ToolRun}
    (h : Edited t run.tree) : Edited t (publish job artifact run).1 := by
  unfold publish
  simp only
  split
  · exact h
  · split
    · exact h
    · exact h
    · split
      · exact h
      · rename_i hmove
        exact h.trans (.rename hmove)

theorem recordMetadata_edited (t : FileTree) (artifact : String) (m : Metadata) :
    Edited t (recordMetadata t artifact m).1 := by
  unfold recordMetadata
  simp only
  split
  · rename_i hw
    exact .write hw
  · exact .refl

theorem runTool_edited {settings : Settings} {tool : Tool} (htool : tool.Leaves) (store : Store)
    (call : Call) (kind : Kind) (url : String) :
    Edited store.tree (runTool settings tool store call kind url).store.tree := by
  unfold runTool
  simp only
  generalize Job.mk kind call.source call.staging settings.mode url = job
  obtain ⟨left, hleft⟩ := htool job store.tree
  have hpublished : Edited store.tree (publish job call.artifact (tool job store.tree)).1 :=
    publish_edited (hleft ▸ Leaving.edited left _ _)
  split
  · rename_i hp
    rw [hp] at hpublished
    exact hpublished.trans (.getD fun _ => .remove)
  · rename_i hp
    rw [hp] at hpublished
    exact hpublished.trans (recordMetadata_edited _ _ _)

theorem answerMiss_edited {settings : Settings} {tool : Tool} (htool : tool.Leaves) (store : Store)
    (call : Call) (kind : Kind) (url : String) :
    Edited store.tree (answerMiss settings tool store call kind url).store.tree := by
  have hgrow := Edited.grow store.tree call.directory
  obtain ⟨trace, fault, -, he⟩ | ⟨t, hm, ⟨trace, fault, -, he⟩ | ⟨trace, t', hw, he⟩⟩ :=
    answerMiss_cases settings tool store call kind url
  · rw [he]
    exact hgrow
  · rw [he]
    rwa [grow_of_makeDirectories hm] at hgrow
  · rw [he]
    rw [grow_of_makeDirectories hm] at hgrow
    have hwritten : Edited store.tree t' := hgrow.trans (.write hw)
    exact hwritten.trans (runTool_edited htool { store with tree := t' } call kind url)

theorem Visit.edited {v : Visit} (htool : v.tool.Leaves) (root : String) (t : FileTree) :
    Edited t (v.answer root t).store.tree := by
  unfold Visit.answer Ask.answer instrument
  simp only [Answer.after]
  split
  · rw [answerHit_store]
    exact .refl
  · exact answerMiss_edited htool ⟨t, v.now, v.process, v.staged⟩ _ _ _

theorem History.edited {root : String} {visits : List Visit} (htools : ∀ v ∈ visits, v.tool.Leaves)
    (h : History) : Edited h.tree (visits.foldl (History.visit root) h).tree := by
  induction visits generalizing h with
  | nil => exact .refl
  | cons v rest ih =>
    have hvisit := Visit.edited (htools v List.mem_cons_self) root h.tree
    exact hvisit.trans (ih (fun w hw => htools w (List.mem_cons_of_mem _ hw)) (h.visit root v))

/-! ## Artifacts by their names -/

theorem isArtifactName_artifactFile (name : String) (kind : Kind) :
    isArtifactName (artifactFile name kind) = true := by
  cases kind <;> simp [isArtifactName, endsText, artifactFile, Kind.extension]

/-- Of the files of a store, the artifacts are those that a listing takes for artifacts. -/
theorem isArtifactName_file {role : Role} {name : String} {kind : Kind} :
    isArtifactName (role.file name kind) = true ↔ role = .artifact := by
  constructor
  · intro h
    have hlast := role.getLast?_file name kind
    rw [isArtifactName, Bool.or_eq_true, endsText, endsText, List.isSuffixOf_iff_suffix,
      List.isSuffixOf_iff_suffix] at h
    rcases h with ⟨front, he⟩ | ⟨front, he⟩
    all_goals
      rw [← he, List.getLast?_append] at hlast
      cases role <;> simp_all [Role.ending]
  · rintro rfl
    exact isArtifactName_artifactFile name kind

/-! ## What is listed -/

namespace Visit

/-- The entry of a visit that published. -/
def entry (v : Visit) (root : String) : Entry :=
  { host := v.key.host, hash := v.key.hash, artifact := v.path root .artifact
    metadata := some v.metadata }

theorem isComponent_hash (v : Visit) : IsComponent v.key.hash := isComponent_contentHash _

/-- The hash of a directory that is not too long fits behind its host. -/
theorem Reaches.fits_hash {v : Visit} {root : String} {names : List String}
    (h : v.Reaches root names) : Fits (join root v.key.host) v.key.hash :=
  ⟨h.1, Nat.le_trans (utf8ByteSize_contentHash_le _) (by decide)⟩

theorem metadataPath_path (v : Visit) (root : String) :
    metadataPath (v.path root .artifact) = v.path root .metadata := by
  have hfile := v.isComponent_file .artifact
  rw [metadataPath, path, path, ← join_append hfile.no_slash hfile.ne_empty]
  simp only [Role.file]

/-- The names below the root that lead to the artifact of a visit: the host, the hash and the file
name. -/
def trail (v : Visit) : List String := [v.key.host, v.key.hash, artifactFile v.name v.kind]

end Visit

/-- A listing succeeds with an entry for each of the visits of some kind, in order of their hosts,
hashes and file names. -/
def Lists (root : String) (of : Record → Prop) (result : Except Fault (List Entry)) : Prop :=
  ∃ found : List Record, result = .ok (found.map (·.visit.entry root)) ∧
    found.Pairwise (fun a b => a.visit.trail < b.visit.trail) ∧ ∀ record, record ∈ found ↔ of record

theorem mapM_eq_ok {ε α β : Type} {f : α → Except ε β} {g : α → β} {xs : List α}
    (h : ∀ x ∈ xs, f x = .ok (g x)) : xs.mapM f = .ok (xs.map g) := by
  induction xs with
  | nil => rfl
  | cons x xs ih =>
    rw [List.mapM_cons, h x List.mem_cons_self, ih fun y hy => h y (List.mem_cons_of_mem _ hy)]
    rfl

/-- A level of a listing is put together from those below it, each of which lists what goes by one
name. -/
theorem Lists.flatten {α : Type} {root : String} {of : Record → Prop} (key : Record → String)
    {name : α → String} {children : List α} {list : α → Except Fault (List Entry)}
    (sorted : children.Pairwise fun a b => name a < name b)
    (each : ∀ child ∈ children, Lists root (fun record => of record ∧ key record = name child)
      (list child))
    (covered : ∀ record, of record → ∃ child ∈ children, name child = key record)
    (ordered : ∀ a b, of a → of b → key a < key b → a.visit.trail < b.visit.trail) :
    Lists root of (do
      let found ← children.mapM list
      return found.flatten) := by
  choose! found hlist hsorted hmem using each
  refine ⟨children.flatMap found, ?_, ?_, fun record => ?_⟩
  · rw [mapM_eq_ok hlist, List.map_flatMap]
    exact congrArg Except.ok List.flatMap_def.symm
  · refine List.pairwise_flatMap.mpr ⟨hsorted, sorted.imp_of_mem fun hc hc' hlt a ha b hb => ?_⟩
    obtain ⟨hof, hkey⟩ := (hmem _ hc a).mp ha
    obtain ⟨hof', hkey'⟩ := (hmem _ hc' b).mp hb
    exact ordered a b hof hof' (by rw [hkey, hkey']; exact hlt)
  · rw [List.mem_flatMap]
    constructor
    · rintro ⟨child, hc, hr⟩
      exact ((hmem child hc record).mp hr).1
    · intro hof
      obtain ⟨child, hc, hkey⟩ := covered record hof
      exact ⟨child, hc, (hmem child hc record).mpr ⟨hof, hkey.symm⟩⟩

/-- The directories that are listed below a directory are those that stand there. -/
theorem exists_directoriesBelow {t : FileTree} {path : String} {d : Place}
    (hw : t.walk path = .ok d) (hd : t.node? d = some .directory) (hsingle : SingleBelow d t) :
    ∃ children, directoriesBelow t path = .ok children ∧
      children.Pairwise (fun a b => a.1 < b.1) ∧
      ∀ name below, (name, below) ∈ children ↔
        t.node? (d ++ [name]) = some .directory ∧ below = join path name := by
  have hsorted := (children_sorted hsingle).filter (·.2 == .directory)
  rw [directoriesBelow, list_eq_ok.mpr ⟨d, hw, hd, rfl⟩]
  refine ⟨_, rfl, List.pairwise_map.mpr hsorted, fun name below => ?_⟩
  simp only [List.mem_map, List.mem_filter, Prod.exists, Prod.mk.injEq, mem_children hsingle,
    beq_iff_eq]
  constructor
  · rintro ⟨name', node, ⟨hn, rfl⟩, rfl, rfl⟩
    exact ⟨hn, rfl⟩
  · rintro ⟨hn, rfl⟩
    exact ⟨name, .directory, ⟨hn, rfl⟩, rfl, rfl⟩

/-- The entry that a listing makes of a file in the directory of a hash. -/
def entryAt (t : FileTree) (host hash path file : String) : Entry :=
  ⟨host, hash, join path file, (t.read (metadataPath (join path file))).toOption.bind Metadata.read?⟩

/-- The artifacts of a directory are a level of a listing too, with an entry for each name. -/
theorem artifactsIn_eq {t : FileTree} {path : String} {children : List (String × Node)}
    (h : t.list path = .ok children) (host hash : String) : artifactsIn t host hash path = (do
      let found ← (children.filter (isArtifactName ·.1)).mapM
        fun child => .ok [entryAt t host hash path child.1]
      return found.flatten) := by
  rw [artifactsIn, h, mapM_eq_ok fun _ _ => rfl]
  exact congrArg Except.ok (List.map_eq_flatMap.trans List.flatMap_def)

/-! ## The levels of a store -/

/-- A store after visits with hosts that are directories of their own, at times that can be
recorded. -/
structure Shelved (root : String) (r : Place) (origin : FileTree) (past : List Record)
    (t : FileTree) : Prop where
  ground : Ground root r t
  inventory : Inventory root r origin past t
  empty : ∀ p, p ≠ [] → origin.node? (r ++ p) = none
  single : SingleBelow r t
  hosts : ∀ record ∈ past, record.visit.request.host ≠ some "."
  times : ∀ record ∈ past, record.visit.now.Valid

/-- The artifact of a visit is there, in directories that are there. -/
structure Visit.Stands (v : Visit) (root : String) (r : Place) (t : FileTree) : Prop where
  root : t.DirectoryAt root r
  host : t.node? (r ++ [v.key.host]) = some .directory
  hash : t.node? (r ++ [v.key.host] ++ [v.key.hash]) = some .directory
  artifact : ∃ content, t.node? (r ++ [v.key.host] ++ [v.key.hash] ++
    [artifactFile v.name v.kind]) = some (.file content)

namespace Shelved

variable {root : String} {r : Place} {origin t : FileTree} {past : List Record} {record : Record}
  {host hash file : String}

theorem isComponent_host (h : Shelved root r origin past t) (hm : record ∈ past) :
    IsComponent record.visit.key.host where
  ne_empty := Key.host_ne_empty _ _
  no_slash := Key.slash_not_mem_host _ _
  ne_dot := fun he => h.hosts record hm ((Key.host_eq (by decide) (by decide)).mp he)
  ne_dots := fun he => h.inventory.hosts record hm ((Key.host_eq (by decide) (by decide)).mp he)

theorem above_slot (h : Shelved root r origin past t) (hm : record ∈ past) :
    record.visit.slot.above = [record.visit.key.host] := by
  rw [Visit.slot, steps_component (h.isComponent_host hm)]

theorem place_slot (h : Shelved root r origin past t) (hm : record ∈ past) (role : Role) :
    record.visit.slot.place r role = r ++ [record.visit.key.host] ++ [record.visit.key.hash] ++
      [role.file record.visit.name record.visit.kind] := by
  rw [Slot.place, h.above_slot hm]
  simp [Visit.slot]

/-- Where hosts are directories of their own, the trail of a visit tells its slot. -/
theorem trail_eq_iff (h : Shelved root r origin past t) {other : Record} (hm : record ∈ past)
    (hm' : other ∈ past) :
    record.visit.trail = other.visit.trail ↔ record.visit.slot = other.visit.slot := by
  rw [Visit.slot, Visit.slot, Slot.mk.injEq, steps_component (h.isComponent_host hm),
    steps_component (h.isComponent_host hm'), Visit.trail, Visit.trail]
  simp only [List.cons.injEq, and_true]
  refine and_congr_right fun _ => and_congr_right fun _ => ⟨artifactFile_injective, ?_⟩
  rintro ⟨hname, hkind⟩
  rw [hname, hkind]

theorem fits_host (h : Shelved root r origin past t) (hm : record ∈ past) {names : List String}
    (hreach : record.visit.Reaches root (host :: names)) :
    record.visit.key.host = host ∧ Fits root host := by
  have hdirectory := hreach.fits_hash.directory record.visit.isComponent_hash
  have hhost := h.isComponent_host hm
  obtain ⟨-, hprefix, hwalk⟩ := hreach
  rw [h.above_slot hm, List.singleton_append] at hprefix
  obtain ⟨he, -⟩ := List.cons_prefix_cons.mp hprefix
  subst he
  exact ⟨rfl, hdirectory, (hwalk _ List.mem_cons_self).resolve_left hhost.ne_dots⟩

/-- Directories at the first two levels are those that some visit may make. -/
theorem exists_reaches (h : Shelved root r origin past t) {names : List String} (hne : names ≠ [])
    (hlen : names.length ≤ 2) (hd : t.node? (r ++ names) = some .directory) :
    ∃ record ∈ past, record.visit.Reaches root names := by
  obtain ⟨record, hm, hreach | hstaging⟩ := h.inventory.directory hne hd
  · exact ⟨record, hm, hreach⟩
  · have hlength := congrArg List.length hstaging
    rw [h.place_slot hm] at hlength
    simp only [List.length_append, List.length_singleton] at hlength
    omega

/-- Where the root is there, the directories directly below it are those of hosts. -/
theorem directoryAt_host (h : Shelved root r origin past t) (hr : t.DirectoryAt root r)
    (hd : t.node? (r ++ [host]) = some .directory) :
    t.DirectoryAt (join root host) (r ++ [host]) ∧
      t.walk (join root host) = .ok (r ++ [host]) := by
  obtain ⟨record, hm, hreach⟩ := h.exists_reaches (by simp) (by simp) hd
  have hhost := h.isComponent_host hm
  obtain ⟨rfl, hfits⟩ := h.fits_host hm hreach
  have hw := (walk_join_eq_ok hr hhost).mpr ⟨hfits, rfl⟩
  exact ⟨⟨(walk_eq_ok.mp hw).2.2.1, hd⟩, hw⟩

/-- The directories below that of a host are those of hashes. -/
theorem directoryAt_hash (h : Shelved root r origin past t)
    (hr : t.DirectoryAt (join root host) (r ++ [host]))
    (hd : t.node? (r ++ [host] ++ [hash]) = some .directory) :
    t.DirectoryAt (join (join root host) hash) (r ++ [host] ++ [hash]) ∧
      t.walk (join (join root host) hash) = .ok (r ++ [host] ++ [hash]) := by
  have hbelow : r ++ [host] ++ [hash] = r ++ [host, hash] := by simp
  obtain ⟨record, hm, hreach⟩ := h.exists_reaches (by simp) (by simp) (hbelow ▸ hd)
  obtain ⟨rfl, -⟩ := h.fits_host hm hreach
  have hfits := hreach.fits_hash
  obtain ⟨-, hprefix, -⟩ := hreach
  rw [h.above_slot hm, List.singleton_append, List.cons_prefix_cons] at hprefix
  have he : hash = record.visit.slot.hash := (List.cons_prefix_cons.mp hprefix.2).1
  subst he
  have hw := (walk_join_eq_ok hr record.visit.isComponent_hash).mpr ⟨hfits, rfl⟩
  exact ⟨⟨(walk_eq_ok.mp hw).2.2.1, hd⟩, hw⟩

/-- The entry of an artifact has the metadata of the visit that published it last. -/
theorem entryAt_eq (h : Shelved root r origin past t)
    (hlatest : latest? past record.visit.slot = some record)
    (htrail : record.visit.trail = [host, hash, file])
    (hd : t.DirectoryAt (join (join root host) hash) (r ++ [host] ++ [hash]))
    (hn : t.node? (record.visit.slot.place r .metadata) =
      some (.file (Bytes.ofText record.visit.metadata.toJson.pretty))) :
    entryAt t host hash (join (join root host) hash) file = record.visit.entry root := by
  obtain ⟨hm, hpublished, -⟩ := latest?_eq_some hlatest
  have hfits := h.inventory.fits record hm hpublished
  rw [h.place_slot hm] at hn
  rw [Visit.trail, List.cons.injEq, List.cons.injEq, List.cons.injEq] at htrail
  obtain ⟨hhost, hhash, hfile, -⟩ := htrail
  rw [← hhost, ← hhash] at hd
  have hread : t.read (record.visit.path root .metadata) =
      .ok (Bytes.ofText record.visit.metadata.toJson.pretty) :=
    (read_join_eq_ok hd (record.visit.isComponent_file .metadata)).mpr ⟨hfits, hn⟩
  have hpath : join (join (join root host) hash) file = record.visit.path root .artifact := by
    rw [← hhost, ← hhash, ← hfile]
    rfl
  rw [entryAt, Visit.entry, hpath, Visit.metadataPath_path, hhost, hhash, hread, Except.toOption,
    Option.bind_some, Metadata.read?_pretty]
  exact h.times record hm

/-- What a listing takes for an artifact is one, of a visit that published it last. -/
theorem exists_latest (h : Shelved root r origin past t) {node : Node}
    (hn : t.node? (r ++ [host] ++ [hash] ++ [file]) = some node)
    (hfile : isArtifactName file = true) :
    ∃ record, latest? past record.visit.slot = some record ∧
      record.visit.trail = [host, hash, file] ∧
        t.node? (record.visit.slot.place r .metadata) =
          some (.file (Bytes.ofText record.visit.metadata.toJson.pretty)) := by
  have hbelow : r ++ [host] ++ [hash] ++ [file] = r ++ [host, hash, file] := by simp
  cases node with
  | directory =>
    -- a directory at this level was left at a staging path, and has the name of no artifact
    rw [hbelow] at hn
    obtain ⟨record, hm, hreach | hstaging⟩ := h.inventory.directory (by simp) hn
    · have hlength := hreach.2.1.length_le
      rw [h.above_slot hm] at hlength
      simp at hlength
    · rw [h.place_slot hm, ← hbelow] at hstaging
      have hlast := (List.cons.inj (List.append_inj' hstaging rfl).2).1
      rw [hlast, isArtifactName_file] at hfile
      cases hfile
  | file content =>
    rcases h.inventory.file hn with horigin | ⟨visited, hm, role, -, hplace⟩
    · rw [hbelow, h.empty _ (by simp)] at horigin
      cases horigin
    · have htrail : [host, hash, file] = [visited.visit.key.host, visited.visit.key.hash,
          role.file visited.visit.name visited.visit.kind] := by
        rw [h.place_slot hm] at hplace
        simpa only [List.append_assoc, List.append_cancel_left_eq, List.cons_append,
          List.nil_append] using hplace
      have hrole : role = .artifact := by
        rw [List.cons.injEq, List.cons.injEq, List.cons.injEq] at htrail
        rw [htrail.2.2.1, isArtifactName_file] at hfile
        exact hfile
      subst hrole
      rw [hplace] at hn
      obtain ⟨-, record, hlatest, hmetadata⟩ := h.inventory.artifact hn
      obtain ⟨hm', -, hslot⟩ := latest?_eq_some hlatest
      rw [← hslot] at hlatest hmetadata
      exact ⟨record, hlatest, ((h.trail_eq_iff hm' hm).mpr hslot).trans htrail.symm, hmetadata⟩

/-- What a visit was answered is there. -/
theorem stands (h : Shelved root r origin past t) (hm : record ∈ past) {i : Instrumented}
    (hi : record.result = .ok i) : record.visit.Stands root r t := by
  have hhost := h.inventory.hosts record hm
  have habove := h.above_slot hm
  obtain ⟨content, hread⟩ := h.inventory.success record hm i hi
  obtain ⟨p, hw, hp⟩ := read_eq_ok.mp hread
  have hplace := eq_placeOf_of_walk hw
  rw [Visit.placeOf_path hhost, h.ground.place, h.place_slot hm] at hplace
  rw [Visit.path] at hw
  have hd := directoryAt_of_walk (record.visit.isComponent_file .artifact) hw
  rw [Visit.placeOf_directory hhost, h.ground.place, habove, ← List.append_assoc] at hd
  obtain ⟨r', above, hr, hrdir, -, hadir, -, he⟩ := exists_above_of_directoryAt
    (Key.slash_not_mem_host record.visit.request _) record.visit.isComponent_hash hd
  obtain rfl : r' = r := by rw [eq_goal_of_walkFrom hr, ← placeOf, h.ground.place]
  obtain ⟨rfl, -⟩ := List.append_inj' he rfl
  exact ⟨⟨hr, hrdir⟩, hadir, hd.node, content, by rw [hplace] at hp; exact hp⟩

/-- The directory of a hash lists the visits that published last in it. -/
theorem lists_hash (h : Shelved root r origin past t)
    (hd : t.DirectoryAt (join (join root host) hash) (r ++ [host] ++ [hash]))
    (hw : t.walk (join (join root host) hash) = .ok (r ++ [host] ++ [hash])) :
    Lists root (fun record => (latest? past record.visit.slot = some record ∧
        record.visit.key.host = host) ∧ record.visit.key.hash = hash)
      (artifactsIn t host hash (join (join root host) hash)) := by
  have hsingle : SingleBelow (r ++ [host] ++ [hash]) t := (h.single.append _).append _
  have hlist := list_eq_ok.mpr ⟨_, hw, hd.node, rfl⟩
  rw [artifactsIn_eq hlist]
  refine Lists.flatten (fun record => artifactFile record.visit.name record.visit.kind)
    ((children_sorted hsingle).filter _) ?_ ?_ ?_
  · -- the entry of a name is that of the one visit that published last by this name
    rintro ⟨file, node⟩ hc
    obtain ⟨hchild, hfile⟩ := List.mem_filter.mp hc
    obtain ⟨record, hlatest, htrail, hmetadata⟩ :=
      h.exists_latest ((mem_children hsingle).mp hchild) hfile
    have hm := (result_of_latest? hlatest).1
    refine ⟨[record], ?_, List.pairwise_singleton _ _, fun other => ?_⟩
    · rw [h.entryAt_eq hlatest htrail hd hmetadata]
      rfl
    · rw [List.mem_singleton]
      constructor
      · rintro rfl
        rw [Visit.trail] at htrail
        simp only [List.cons.injEq, and_true] at htrail
        exact ⟨⟨⟨hlatest, htrail.1⟩, htrail.2.1⟩, htrail.2.2⟩
      · rintro ⟨⟨⟨hlatest', hhost⟩, hhash⟩, hfile⟩
        dsimp only at hfile
        rw [← hhost, ← hhash, ← hfile] at htrail
        have hslot := (h.trail_eq_iff hm (result_of_latest? hlatest').1).mp htrail
        rw [hslot, hlatest'] at hlatest
        exact Option.some.inj hlatest
  · rintro record ⟨⟨hlatest, hhost⟩, hhash⟩
    obtain ⟨hm, i, hi⟩ := result_of_latest? hlatest
    obtain ⟨content, hn⟩ := (h.stands hm hi).artifact
    rw [hhost, hhash] at hn
    exact ⟨(artifactFile record.visit.name record.visit.kind, .file content),
      List.mem_filter.mpr ⟨(mem_children hsingle).mpr hn, isArtifactName_artifactFile _ _⟩, rfl⟩
  · rintro a b ⟨⟨-, hhost⟩, hhash⟩ ⟨⟨-, hhost'⟩, hhash'⟩ hlt
    rw [Visit.trail, Visit.trail, hhost, hhash, hhost', hhash']
    exact List.cons_lt_cons_iff.mpr (Or.inr ⟨rfl, List.cons_lt_cons_iff.mpr (Or.inr
      ⟨rfl, List.cons_lt_cons_iff.mpr (Or.inl hlt)⟩)⟩)

/-- The directory of a host lists the visits that published last in it. -/
theorem lists_host (h : Shelved root r origin past t)
    (hd : t.DirectoryAt (join root host) (r ++ [host]))
    (hw : t.walk (join root host) = .ok (r ++ [host])) :
    Lists root (fun record => latest? past record.visit.slot = some record ∧
      record.visit.key.host = host) (artifactsOf t host (join root host)) := by
  obtain ⟨children, hchildren, hsorted, hmem⟩ :=
    exists_directoriesBelow hw hd.node (h.single.append [host])
  unfold artifactsOf
  rw [hchildren]
  refine Lists.flatten (fun record => record.visit.key.hash) hsorted ?_ ?_ ?_
  · rintro ⟨hash, path⟩ hc
    obtain ⟨hn, rfl⟩ := (hmem _ _).mp hc
    obtain ⟨hd', hw'⟩ := h.directoryAt_hash hd hn
    exact h.lists_hash hd' hw'
  · rintro record ⟨hlatest, hhost⟩
    obtain ⟨hm, i, hi⟩ := result_of_latest? hlatest
    have hn := (h.stands hm hi).hash
    rw [hhost] at hn
    exact ⟨(record.visit.key.hash, _), (hmem _ _).mpr ⟨hn, rfl⟩, rfl⟩
  · rintro a b ⟨-, hhost⟩ ⟨-, hhost'⟩ hlt
    rw [Visit.trail, Visit.trail, hhost, hhost']
    exact List.cons_lt_cons_iff.mpr (Or.inr ⟨rfl, List.cons_lt_cons_iff.mpr (Or.inl hlt)⟩)

/-- The root lists the visits that published last. -/
theorem lists_root (h : Shelved root r origin past t) (hne : root ≠ "") :
    Lists root (fun record => latest? past record.visit.slot = some record) (listing t root) := by
  rcases look_of_free hne h.ground.path h.ground.names fun q hq => h.ground.free hq with hlook | hd
  · -- without a root no visit has been answered
    refine ⟨[], by rw [listing, hlook]; rfl, List.Pairwise.nil, fun record => ?_⟩
    refine ⟨fun hm => absurd hm List.not_mem_nil, fun hlatest => ?_⟩
    obtain ⟨hm, i, hi⟩ := result_of_latest? hlatest
    have hroot := (h.stands hm hi).root
    rw [look_eq_ok.mpr ⟨r, hroot.walk_eq hne h.ground.path, hroot.node⟩] at hlook
    cases hlook
  · rw [h.ground.place] at hd
    have hw := hd.walk_eq hne h.ground.path
    obtain ⟨children, hchildren, hsorted, hmem⟩ := exists_directoriesBelow hw hd.node h.single
    rw [listing, look_eq_ok.mpr ⟨r, hw, hd.node⟩]
    dsimp only
    rw [hchildren]
    refine Lists.flatten (fun record => record.visit.key.host) hsorted ?_ ?_ ?_
    · rintro ⟨host, path⟩ hc
      obtain ⟨hn, rfl⟩ := (hmem _ _).mp hc
      obtain ⟨hd', hw'⟩ := h.directoryAt_host hd hn
      exact h.lists_host hd' hw'
    · intro record hlatest
      obtain ⟨hm, i, hi⟩ := result_of_latest? hlatest
      exact ⟨(record.visit.key.host, _), (hmem _ _).mpr ⟨(h.stands hm hi).host, rfl⟩, rfl⟩
    · intro a b _ _ hlt
      exact List.cons_lt_cons_iff.mpr (Or.inl hlt)

end Shelved

/-! ## Any number of visits -/

/-- What a listing has found after some visits: of each artifact, the visit that published it
last. -/
structure Catalogue (root : String) (h : History) (found : List Record) : Prop where
  /-- The listing succeeds, with the metadata of these visits. -/
  listed : listing h.tree root = .ok (found.map (·.visit.entry root))
  /-- It goes by hosts, then by hashes, then by file names, and has nothing twice. -/
  ordered : found.Pairwise fun a b => a.visit.trail < b.visit.trail
  /-- It has nothing but visits that published, and no later one did for the same artifact. -/
  latest : ∀ record, record ∈ found ↔ latest? h.past record.visit.slot = some record
  /-- Whatever visit was answered, its artifact is listed. -/
  answered : ∀ record ∈ h.past, ∀ i, record.result = .ok i →
    ∃ listed ∈ found, listed.visit.trail = record.visit.trail

theorem EmptyRoot.shelved {root : String} {t : FileTree} (hroot : EmptyRoot root t)
    {visits : List Visit}
    (hhosts : ∀ v ∈ visits, v.request.host ≠ some "." ∧ v.request.host ≠ some "..")
    (htools : ∀ v ∈ visits, v.tool.Leaves) (htimes : ∀ v ∈ visits, v.now.Valid) :
    Shelved root (t.placeOf root) t (History.run root t visits).past
      (History.run root t visits).tree := by
  obtain ⟨hg, hnone⟩ := hroot.ground
  obtain ⟨hinventory, hground⟩ :=
    (Inventory.of_empty hnone).run hg (fun v hv => (hhosts v hv).2) htools
  refine ⟨hground, hinventory, hnone,
    (SingleBelow.of_none hnone).of_edited (History.edited htools { tree := t }), ?_, ?_⟩
  · intro record hm
    exact (hhosts _ (History.exists_record.mpr ⟨record, hm, rfl⟩)).1
  · intro record hm
    exact htimes _ (History.exists_record.mpr ⟨record, hm, rfl⟩)

/-- **A listing is exact.** Whatever visits are made of a store that starts from an empty root, by
whatever processes, with or without caching and with tools that leave whatever they do at their
output paths, a listing finds each artifact that some visit was answered, and nothing else. The hosts
have to be directories of their own, and the root has to have a path. -/
theorem listing_is_exact {root : String} {t : FileTree} (hroot : EmptyRoot root t)
    (hpath : root ≠ "") (visits : List Visit)
    (hhosts : ∀ v ∈ visits, v.request.host ≠ some "." ∧ v.request.host ≠ some "..")
    (htools : ∀ v ∈ visits, v.tool.Leaves) (htimes : ∀ v ∈ visits, v.now.Valid) :
    ∃ found, Catalogue root (History.run root t visits) found := by
  have h := hroot.shelved hhosts htools htimes
  obtain ⟨found, hlisted, hordered, hlatest⟩ := h.lists_root hpath
  refine ⟨found, hlisted, hordered, hlatest, fun record hm i hi => ?_⟩
  obtain ⟨content, hn⟩ := (h.stands hm hi).artifact
  have hplace := h.place_slot hm .artifact
  rw [Role.file] at hplace
  rw [← hplace] at hn
  obtain ⟨-, listed, hlast, -⟩ := h.inventory.artifact hn
  obtain ⟨hm', -, hslot⟩ := latest?_eq_some hlast
  rw [← hslot] at hlast
  exact ⟨listed, (hlatest listed).mpr hlast, (h.trail_eq_iff hm' hm).mpr hslot⟩

/-- A script, the same again from another address and in another mode, then with a tool that leaves a
directory and fails, and a page of another host. -/
theorem listing_is_exact_after_failures :
    let good := Tool.leaving fun job => (.file (47 :: job.source), .ok ())
    let bad := Tool.leaving fun _ => (.directory, .error .noResponse)
    let visit (tool : Tool) (url : String) (kind : Kind) (mode : String) (second : Nat) : Visit :=
      { now := ⟨719528, second, 0⟩, tool, request := { url }, body := [97], kind, useCache := false
        mode, process := 7, staged := second }
    let visits := [visit good "x://h/app.js" .script "coverage" 1,
      visit good "x://h/more/app.js" .script "trace" 2, visit bad "x://h/app.js" .script "trace" 3,
      visit good "x://g/" .html "trace" 4]
    EmptyRoot "cache" {} ∧ ∃ found, Catalogue "cache" (History.run "cache" {} visits) found := by
  intro good bad visit visits
  have hhosts : ∀ url ∈ ["x://h/app.js", "x://h/more/app.js", "x://g/"],
      ({ url } : Request).host ≠ some "." ∧ ({ url } : Request).host ≠ some ".." := by
    decide +kernel
  have hrange : (⟨719528, 0, 0⟩ : Instant).inRange = true := by decide +kernel
  have htime : ∀ second < 86400, (⟨719528, second, 0⟩ : Instant).Valid :=
    fun second h => ⟨hrange, h, Or.inl (by simp)⟩
  refine ⟨emptyRoot_cache, listing_is_exact emptyRoot_cache (by decide) visits ?_ ?_ ?_⟩
  all_goals
    simp only [visits, List.forall_mem_cons, List.not_mem_nil, false_implies, implies_true,
      and_true]
  · exact ⟨hhosts _ (by simp), hhosts _ (by simp), hhosts _ (by simp), hhosts _ (by simp)⟩
  · exact ⟨Tool.leaving_leaves _, Tool.leaving_leaves _, Tool.leaving_leaves _,
      Tool.leaving_leaves _⟩
  · exact ⟨htime 1 (by decide), htime 2 (by decide), htime 3 (by decide), htime 4 (by decide)⟩

/-- At the empty path a listing finds nothing. -/
theorem listing_empty_path (t : FileTree) : listing t "" = .ok [] := rfl

/-- So what was answered there is not found. -/
theorem not_catalogue_of_answered {v : Visit} {t : FileTree}
    (h : (v.answer "" t).result.toOption.isSome = true) :
    ¬ ∃ found, Catalogue "" (History.run "" t [v]) found := by
  rintro ⟨found, hc⟩
  obtain ⟨i, hi⟩ := Option.isSome_iff_exists.mp h
  have hlisted := hc.listed
  rw [listing_empty_path, Except.ok.injEq, eq_comm, List.map_eq_nil_iff] at hlisted
  obtain ⟨listed, hfound, -⟩ :=
    hc.answered ⟨v, (v.answer "" t).result⟩ List.mem_cons_self i (eq_ok_of_toOption hi)
  rw [hlisted] at hfound
  exact List.not_mem_nil hfound

/-- The empty path is a true exception. A call works in the working directory then, but a listing
does not find it. -/
theorem not_catalogue_of_empty_path :
    let tool := Tool.leaving fun job => (.file (47 :: job.source), .ok ())
    let v : Visit :=
      { now := ⟨719528, 0, 0⟩, tool, request := { url := "x://h/app.js" }, body := [97]
        kind := .script, useCache := true, mode := "coverage", process := 7, staged := 0 }
    EmptyRoot "" {} ∧ ¬ ∃ found, Catalogue "" (History.run "" {} [v]) found := by
  intro tool v
  have hroot : EmptyRoot "" {} :=
    ⟨{}, rfl, rfl, fun p hp => by simp [node?, placeOf, start, hp]⟩
  have hcall : Call.of ⟨"", true, "coverage"⟩ ⟨{}, ⟨719528, 0, 0⟩, 7, 0⟩
      { url := "x://h/app.js" } [97] .script =
        ⟨[97], "h/ca978112ca1bbdcafac231b39a23dc4d", "h/ca978112ca1bbdcafac231b39a23dc4d/app.js",
          "h/ca978112ca1bbdcafac231b39a23dc4d/app.js.src",
          "h/ca978112ca1bbdcafac231b39a23dc4d/.app.js.7-0.tmp"⟩ := by decide +kernel
  have hresult : (v.answer "" {}).result.toOption.isSome = true := by
    unfold Visit.answer Ask.answer instrument
    simp only [v, hcall]
    decide +kernel
  exact ⟨hroot, not_catalogue_of_answered hresult⟩

end Interpose.Cache
