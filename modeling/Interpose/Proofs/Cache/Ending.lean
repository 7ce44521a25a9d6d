import Interpose.Proofs.Cache.Call

/-!
# How a call ends

With a tool that only leaves something at its output path (`Tool.Leaves`), a call ends in one of
three ways (`instrument_ends`). A hit changes nothing. A miss that publishes leaves the artifact, its
source and its metadata in its directory, and no staging file (`Call.Published`). And a call that
fails leaves every regular file as it was but its own source and its staging file, of which it only
leaves the source (`Call.Failed`).

So what is published stays as it is through any call that fails, also an older artifact of that very
call (`failed_call_keeps_published`).
-/

namespace Interpose

open FileTree

/-- A tool that does nothing but leave something at its output path, whatever that depends on. -/
def Tool.Leaves (tool : Tool) : Prop :=
  ∀ job t, ∃ left : Leaving, (tool job t).tree = left.apply job.output t

theorem Tool.Leaves.confined {tool : Tool} (h : tool.Leaves) : tool.Confined := by
  intro job t
  obtain ⟨left, he⟩ := h job t
  rw [he]
  exact left.apply_changed job.output t

theorem Tool.leaving_leaves (behave : Job → Leaving × Except Fault Unit) :
    (Tool.leaving behave).Leaves :=
  fun job _ => ⟨(behave job).1, rfl⟩

namespace FileTree

variable {t t' : FileTree} {path : String}

theorem node?_of_write {content : Bytes} (h : t.write path content = .ok t') :
    t'.node? (t.placeOf path) = some (.file content) := by
  obtain ⟨p, hw, hp, -, rfl⟩ := write_eq_ok.mp h
  rw [← eq_placeOf_of_walk hw, node?_put_same t (ne_nil_of_node?_ne hp)]

theorem node?_of_makeDirectory (h : t.makeDirectory path = .ok t') :
    t'.node? (t.placeOf path) = some .directory := by
  obtain ⟨bare, hsteps, hstart, hmake⟩ := exists_makeDirectory_eq path
  rw [hmake] at h
  obtain ⟨p, hw, hp, -, rfl⟩ := makeAt_eq_ok.mp h
  obtain rfl := eq_placeOf_of_walk hw
  have hplace : t.placeOf path = t.placeOf bare := by rw [placeOf, placeOf, hsteps, hstart]
  rw [hplace]
  exact node?_put_same t (ne_nil_of_node?_ne (t := t) (by simp [hp])) _

end FileTree

/-- What is left at a path and then removed leaves no regular file there that was not there
before. -/
theorem Leaving.node?_of_remove (left : Leaving) {path : String} {t : FileTree} {content : Bytes}
    (h : (((left.apply path t).remove path).toOption.getD (left.apply path t)).node?
      (t.placeOf path) = some (.file content)) :
    t.node? (t.placeOf path) = some (.file content) := by
  have hchanged := left.apply_changed path t
  cases hr : (left.apply path t).remove path with
  | ok u =>
    simp only [hr, Except.toOption, Option.getD_some] at h
    obtain ⟨p, hw, ⟨old, hp⟩, rfl⟩ := remove_eq_ok.mp hr
    rw [← hchanged.placeOf, ← eq_placeOf_of_walk hw,
      node?_erase_same _ (ne_nil_of_node?_ne (t := left.apply path t) (by simp [hp]))] at h
    cases h
  | error e =>
    simp only [hr, Except.toOption, Option.getD_none] at h
    cases left with
    | nothing => exact h
    | file new =>
      cases hw : t.write path new with
      | error e => simpa only [apply, hw, Except.toOption, Option.getD_none] using h
      | ok u =>
        -- a file that was written stands where the path leads, so it would have been removed
        obtain ⟨p, hwalk, -⟩ := write_eq_ok.mp hw
        obtain rfl := eq_placeOf_of_walk hwalk
        have := remove_eq_ok.mpr ⟨_, hchanged.walk hwalk, ⟨content, h⟩, rfl⟩
        rw [hr] at this
        cases this
    | directory =>
      cases hm : t.makeDirectory path with
      | error e => simpa only [apply, hm, Except.toOption, Option.getD_none] using h
      | ok u =>
        have hdir : (Leaving.directory.apply path t).node? (t.placeOf path) = some .directory := by
          simp only [apply, hm, Except.toOption, Option.getD_some]
          exact node?_of_makeDirectory hm
        rw [hdir] at h
        cases h

namespace Cache

open Interpose.Path

/-- The places of the directories that a call may make. -/
def Call.Ways (call : Call) (t : FileTree) (p : Place) : Prop :=
  isHopeless call.directory = false ∧ inReach t call.directory p

theorem Call.grow_ways (call : Call) (t : FileTree) (files : Place → Prop) :
    GrownAt (call.Ways t) files t (t.grow call.directory) := by
  cases hh : isHopeless call.directory with
  | true =>
    rw [grow, if_pos hh]
    exact GrownAt.refl _ _ _
  | false => exact (grow_inReach t call.directory files).mono (fun _ hw => ⟨hh, hw⟩) fun _ => id

/-! ## Calls that fail -/

/-- What a call that fails leaves: its source may have been written, and at its staging path is no
regular file that was not there before. -/
structure Call.Failed (call : Call) (t t' : FileTree) : Prop where
  grown : GrownAt (call.Ways t)
    (fun p => p = t.placeOf call.sourcePath ∨ p = t.placeOf call.staging) t t'
  source : GrownAt (call.Ways t) (· = t.placeOf call.staging) t t' ∨
    t'.node? (t.placeOf call.sourcePath) = some (.file call.source)
  staging : ∀ {content}, t'.node? (t.placeOf call.staging) = some (.file content) →
    t.node? (t.placeOf call.staging) = some (.file content)

/-- A regular file that is there after a call that failed was there before, or is its source. -/
theorem Call.Failed.file {call : Call} {t t' : FileTree} (h : call.Failed t t') {p : Place}
    {content : Bytes} (hp : t'.node? p = some (.file content)) :
    t.node? p = some (.file content) ∨ p = t.placeOf call.sourcePath ∧ content = call.source := by
  by_cases hst : p = t.placeOf call.staging
  · exact Or.inl (by rw [hst] at hp ⊢; exact h.staging hp)
  · by_cases hs : p = t.placeOf call.sourcePath
    · rcases h.source with hgrown | hsource
      · exact Or.inl (hgrown.file_before hst hp)
      · rw [hs, hsource] at hp
        exact Or.inr ⟨hs, (Node.file.inj (Option.some.inj hp)).symm⟩
    · exact Or.inl (h.grown.file_before (by simp [hs, hst]) hp)

variable {settings : Settings} {tool : Tool} {store : Store} {call : Call} {name : String}
  {kind : Kind} {process number : Nat} {url : String}

/-- A file of the call and one named alike, in whatever directory, have the same role if they have
the same place. -/
theorem Call.FilesOf.role_eq (hf : call.FilesOf name kind process number) {role role' : Role}
    {path : String} (hpath : path = join call.directory (role'.file name kind)) {t : FileTree}
    {directory : Place} {name' : String} {kind' : Kind}
    (h : directory ++ [role.file name' kind'] = t.placeOf path) : role = role' := by
  rw [hpath, placeOf_join t (hf.isComponent role')] at h
  exact (Role.place_injective h).2.1

/-- A run that fails leaves no regular file at its staging path that was not there before. -/
theorem runTool_staging_of_error (htool : tool.Leaves) (store : Store) {fault : Fault}
    (h : (runTool settings tool store call kind url).result = .error fault) (content : Bytes)
    (hp : (runTool settings tool store call kind url).store.tree.node?
      (store.tree.placeOf call.staging) = some (.file content)) :
    store.tree.node? (store.tree.placeOf call.staging) = some (.file content) := by
  unfold runTool at h hp
  simp only at h hp
  generalize hj : Job.mk kind call.source call.staging settings.mode url = job at h hp
  have hout : job.output = call.staging := by rw [← hj]
  obtain ⟨left, hleft⟩ := htool job store.tree
  rw [hout] at hleft
  cases hpub : publish job call.artifact (tool job store.tree) with
  | mk t result =>
    cases result with
    | ok body => simp [hpub] at h
    | error fault' =>
      simp only [hpub] at hp
      rw [tree_of_publish_error hpub, hleft] at hp
      exact left.node?_of_remove hp

theorem answerMiss_failed (htool : tool.Leaves) (store : Store)
    (hf : call.FilesOf name kind process number) {fault : Fault}
    (h : (answerMiss settings tool store call kind url).result = .error fault) :
    call.Failed store.tree (answerMiss settings tool store call kind url).store.tree := by
  have hgrow := call.grow_ways store.tree
  have hst := hf.isComponent (.staging process number)
  have notMade : ∀ {p content}, (store.tree.grow call.directory).node? p = some (.file content) →
      store.tree.node? p = some (.file content) := (hgrow fun _ => False).file_before id
  have hgrown := answerMiss_grown_of_error htool.confined store (hgrow _) h
  obtain ⟨trace, fault', -, he⟩ | ⟨t, hm, ⟨trace, fault', -, he⟩ | ⟨trace, t', hw, he⟩⟩ :=
    answerMiss_cases settings tool store call kind url
  · rw [he] at hgrown ⊢
    exact ⟨hgrown, Or.inl (hgrow _), notMade⟩
  · rw [he] at hgrown ⊢
    rw [← grow_of_makeDirectories hm] at hgrown ⊢
    exact ⟨hgrown, Or.inl (hgrow _), notMade⟩
  · rw [he] at h hgrown ⊢
    rw [grow_of_makeDirectories hm] at hgrow notMade
    have hplace : ∀ path, t.placeOf path = store.tree.placeOf path :=
      (hgrow fun _ => False).changed.placeOf
    have hplace' : ∀ path, t'.placeOf path = store.tree.placeOf path := fun path => by
      rw [(ChangedAt.write hw).placeOf, hplace]
    have hne : store.tree.placeOf call.staging ≠ store.tree.placeOf call.sourcePath := by
      rw [hf.staging, placeOf_join _ hst]
      exact fun he => by cases hf.role_eq hf.source he
    have hrun := runTool_changed_of_error htool.confined { store with tree := t' } h
    have hstaging := runTool_staging_of_error htool { store with tree := t' } h
    dsimp only at hrun hstaging
    rw [hplace'] at hrun hstaging
    refine ⟨hgrown, Or.inr ?_, fun hp => notMade ?_⟩
    · have hwritten := node?_of_write hw
      rw [hplace] at hwritten
      exact (hrun.elsewhere hne.symm).trans hwritten
    · have hbefore := hstaging _ hp
      rw [(ChangedAt.write hw).elsewhere (by rw [hplace]; exact hne)] at hbefore
      exact hbefore

/-! ## Calls that publish -/

/-- A name that is not longer than one that fits, and holds no zero, fits. -/
theorem fits_of_le {dir name name' : String} (hn : IsComponent name) (hn' : IsComponent name')
    (hzero : '\x00' ∉ name'.toList) (hsize : name'.utf8ByteSize ≤ name.utf8ByteSize)
    (h : Fits dir name) : Fits dir name' := by
  refine ⟨?_, Nat.le_trans hsize h.name⟩
  have hp := h.path
  unfold join at hp ⊢
  rw [isRooted_eq_false hn.no_slash] at hp
  rw [isRooted_eq_false hn'.no_slash]
  by_cases hb : dir = ""
  · simp only [hb, decide_true, Bool.or_true, if_true, isHopeless, Bool.or_eq_false_iff,
      decide_eq_false_iff_not, List.contains_eq_mem] at hp ⊢
    exact ⟨by omega, hzero⟩
  · by_cases hs : dir.toList.getLast? = some '/'
    all_goals
      simp only [hb, hs, decide_false, Bool.or_false, Bool.false_eq_true, if_false, if_true,
        isHopeless, Bool.or_eq_false_iff, decide_eq_false_iff_not, String.utf8ByteSize_append,
        List.contains_eq_mem, String.toList_append, List.mem_append, not_or] at hp ⊢
      exact ⟨by omega, hp.2.1, hzero⟩

/-- Of the names of a call's files, that of the staging file is the longest. -/
theorem Call.FilesOf.fits (hf : call.FilesOf name kind process number)
    (h : Fits call.directory ((Role.staging process number).file name kind)) :
    ∀ role ∈ Role.ofCall process number, Fits call.directory (role.file name kind) := by
  have hzero : '\x00' ∉ (artifactFile name kind).toList := by
    obtain ⟨front, hj⟩ := exists_toList_join call.directory
      (hf.isComponent (.staging process number)).no_slash
    have hp := h.path
    simp only [isHopeless, Bool.or_eq_false_iff, List.contains_eq_mem, decide_eq_false_iff_not,
      hj, List.mem_append, not_or] at hp
    intro hm
    exact hp.2.2 (by simp [Role.file, stagingFile, hm])
  have shorter : ∀ role : Role, '\x00' ∉ (role.file name kind).toList →
      (role.file name kind).utf8ByteSize ≤
        ((Role.staging process number).file name kind).utf8ByteSize →
      Fits call.directory (role.file name kind) := fun role =>
    fun hz hsize => fits_of_le (hf.isComponent (.staging process number)) (hf.isComponent role) hz
      hsize h
  have hsize : ((Role.staging process number).file name kind).utf8ByteSize =
      (artifactFile name kind).utf8ByteSize + (toString process).utf8ByteSize +
        (toString number).utf8ByteSize + 7 := by
    simp only [Role.file, stagingFile, String.utf8ByteSize_append]
    have : ".".utf8ByteSize = 1 ∧ "-".utf8ByteSize = 1 ∧ ".tmp".utf8ByteSize = 4 := by decide
    omega
  have hsrc : ".src".utf8ByteSize = 4 ∧ ".json".utf8ByteSize = 5 := by decide
  intro role hr
  simp only [Role.ofCall, List.mem_cons, List.not_mem_nil, or_false] at hr
  rcases hr with rfl | rfl | rfl | rfl
  · refine shorter _ hzero ?_
    rw [hsize]
    simp only [Role.file]
    omega
  · refine shorter _ (by simp [Role.file, sourceFile, hzero]) ?_
    rw [hsize]
    simp only [Role.file, sourceFile, String.utf8ByteSize_append]
    omega
  · refine shorter _ (by simp [Role.file, hzero]) ?_
    rw [hsize]
    simp only [Role.file, String.utf8ByteSize_append]
    omega
  · exact h

/-- What a miss that succeeds leaves in its directory. Metadata is recorded unless a directory
is in its place. -/
structure Call.Published (call : Call) (name : String) (kind : Kind) (process number : Nat)
    (m : Metadata) (body : Bytes) (t t' : FileTree) : Prop where
  grown : GrownAt (call.Ways t) (call.Touches t) t t'
  directoryAt : t'.DirectoryAt call.directory (t.placeOf call.directory)
  fits : ∀ role ∈ Role.ofCall process number, Fits call.directory (role.file name kind)
  artifact : t'.node? (t.placeOf call.directory ++ [Role.artifact.file name kind]) =
    some (.file body)
  source : t'.node? (t.placeOf call.directory ++ [Role.source.file name kind]) =
    some (.file call.source)
  metadata : t.node? (t.placeOf call.directory ++ [Role.metadata.file name kind]) ≠
      some .directory →
    ¬ call.Ways t (t.placeOf call.directory ++ [Role.metadata.file name kind]) →
    t'.node? (t.placeOf call.directory ++ [Role.metadata.file name kind]) =
      some (.file (Bytes.ofText m.toJson.pretty))
  staging : t'.node? (t.placeOf call.directory ++ [(Role.staging process number).file name kind]) =
    none

/-- Recording metadata in a directory that is there writes a file, unless a directory is in its
place. -/
theorem node?_recordMetadata {t : FileTree} {d : Place} {directory file artifact : String}
    (hd : t.DirectoryAt directory d) (hn : IsComponent file) (hfits : Fits directory file)
    (hpath : metadataPath artifact = join directory file)
    (hfree : t.node? (d ++ [file]) ≠ some .directory) (m : Metadata) :
    (recordMetadata t artifact m).1.node? (d ++ [file]) =
      some (.file (Bytes.ofText m.toJson.pretty)) := by
  unfold recordMetadata
  simp only [hpath]
  rw [(write_join_eq_ok hd hn).mpr ⟨hfits, hfree, rfl⟩]
  exact node?_put_same t (by simp) _

/-- Publishing moves a file within a call's directory, which is there. -/
theorem publish_moves (hf : call.FilesOf name kind process number) {job : Job}
    (hout : job.output = call.staging) {run : ToolRun} {t : FileTree} {body : Bytes}
    (h : publish job call.artifact run = (t, .ok body)) :
    t.DirectoryAt call.directory (run.tree.placeOf call.directory) ∧
      Fits call.directory ((Role.staging process number).file name kind) ∧
      t.node? (run.tree.placeOf call.directory ++ [Role.artifact.file name kind]) =
        some (.file body) ∧
      t.node? (run.tree.placeOf call.directory ++ [(Role.staging process number).file name kind]) =
        none := by
  have hart := hf.isComponent .artifact
  have hst := hf.isComponent (.staging process number)
  have hne : (Role.staging process number).file name kind ≠ Role.artifact.file name kind :=
    fun he => by cases (Role.file_injective he).1
  obtain ⟨-, hread, hmove⟩ := publish_eq_ok.mp h
  rw [hout, hf.staging] at hread hmove
  rw [hf.artifact] at hmove
  -- what was read could be walked to, so the directory is there
  have hd : run.tree.DirectoryAt call.directory (run.tree.placeOf call.directory) := by
    obtain ⟨p, hw, -⟩ := read_eq_ok.mp hread
    exact directoryAt_of_walk hst hw
  have hbody := ((read_join_eq_ok hd hst).mp hread).2
  have hd' := hd.of_changed (ChangedAt.rename hmove)
  obtain ⟨hfits, -, -, content, hcontent, rfl⟩ := (rename_join_eq_ok hd hst hart).mp hmove
  rw [hbody] at hcontent
  obtain rfl := Node.file.inj (Option.some.inj hcontent)
  refine ⟨hd', hfits, node?_put_same _ (by simp) _, ?_⟩
  rw [node?_put_other _ (by simp [hne]), node?_erase_same _ (by simp)]

/-- A run that succeeds moves what the tool wrote, and records metadata beside it. -/
theorem runTool_published (htool : tool.Confined) (store : Store)
    (hf : call.FilesOf name kind process number)
    (hsource : store.tree.node? (store.tree.placeOf call.directory ++ [Role.source.file name kind]) =
      some (.file call.source)) {i : Instrumented}
    (h : (runTool settings tool store call kind url).result = .ok i) :
    i.hit = false ∧
      call.Published name kind process number ⟨url, kind.extension, settings.mode, store.now⟩
        i.body store.tree (runTool settings tool store call kind url).store.tree := by
  have hchanged : ChangedAt (call.Makes store.tree) store.tree
      (runTool settings tool store call kind url).store.tree := runTool_changed htool store
  have hsourceAfter : (runTool settings tool store call kind url).store.tree.node?
      (store.tree.placeOf call.directory ++ [Role.source.file name kind]) =
        some (.file call.source) := by
    rw [hchanged.elsewhere, hsource]
    intro hp
    obtain ⟨role, -, hne, he⟩ := hf.exists_role_of_makes hp
    exact hne (Role.place_injective he).2.1.symm
  unfold runTool at h hchanged hsourceAfter ⊢
  simp only at h hchanged hsourceAfter ⊢
  generalize hj : Job.mk kind call.source call.staging settings.mode url = job at *
  have hout : job.output = call.staging := by rw [← hj]
  have hrun := htool job store.tree
  cases hp : publish job call.artifact (tool job store.tree) with
  | mk t result =>
    cases result with
    | error fault => simp [hp] at h
    | ok body =>
      simp only [hp, Except.ok.injEq] at h hchanged hsourceAfter ⊢
      subst h
      obtain ⟨hd, hfits, hartifact, hstaging⟩ := publish_moves hf hout hp
      have hfits := hf.fits hfits
      rw [hrun.placeOf] at hd hartifact hstaging
      have hpublished : ChangedAt (fun p => p = store.tree.placeOf call.staging ∨
          p = store.tree.placeOf call.artifact) store.tree
          (publish job call.artifact (tool job store.tree)).1 :=
        publish_changed (hrun.mono fun p hp => Or.inl (hout ▸ hp)) (Or.inl (by rw [hout]))
          (Or.inr rfl)
      rw [hp] at hpublished
      have hrecord := recordMetadata_changed t call.artifact
        ⟨url, kind.extension, settings.mode, store.now⟩
      -- each file of the call has its own place
      have hplace : ∀ (role role' : Role) {path : String},
          path = join call.directory (role'.file name kind) → role ≠ role' →
            store.tree.placeOf call.directory ++ [role.file name kind] ≠
              store.tree.placeOf path :=
        fun _ _ _ hpath hne he => hne (hf.role_eq hpath he)
      rw [hpublished.placeOf] at hrecord
      refine ⟨rfl, .of_changed _ (hchanged.mono fun _ => Or.inr), hd.of_changed hrecord, hfits, ?_,
        hsourceAfter, fun hfree _ => ?_, ?_⟩
      · rw [hrecord.elsewhere (hplace .artifact .metadata hf.metadata (by simp)), hartifact]
      · rw [← hpublished.elsewhere (not_or.mpr ⟨hplace .metadata (.staging _ _) hf.staging (by simp),
          hplace .metadata .artifact hf.artifact (by simp)⟩)] at hfree
        exact node?_recordMetadata hd (hf.isComponent .metadata)
          (hfits .metadata (by simp [Role.ofCall])) hf.metadata hfree _
      · rw [hrecord.elsewhere (hplace (.staging _ _) .metadata hf.metadata (by simp)), hstaging]

theorem answerMiss_published (htool : tool.Confined) (store : Store)
    (hf : call.FilesOf name kind process number) {i : Instrumented}
    (h : (answerMiss settings tool store call kind url).result = .ok i) :
    i.hit = false ∧
      call.Published name kind process number ⟨url, kind.extension, settings.mode, store.now⟩
        i.body store.tree (answerMiss settings tool store call kind url).store.tree := by
  obtain ⟨trace, fault, -, he⟩ | ⟨t, hm, ⟨trace, fault, -, he⟩ | ⟨trace, t', hw, he⟩⟩ :=
    answerMiss_cases settings tool store call kind url
  · simp [he] at h
  · simp [he] at h
  · have hgrown : GrownAt (call.Ways store.tree) (call.Touches store.tree) store.tree
        (answerMiss settings tool store call kind url).store.tree :=
      answerMiss_grown htool store (call.grow_ways _ _)
    have hmade := call.grow_ways store.tree fun _ => False
    rw [grow_of_makeDirectories hm] at hmade
    have hplace : t'.placeOf call.directory = store.tree.placeOf call.directory := by
      rw [(ChangedAt.write hw).placeOf, hmade.changed.placeOf]
    have hsource := node?_of_write hw
    rw [hf.source, placeOf_join t (hf.isComponent .source),
      ← (ChangedAt.write hw).placeOf] at hsource
    rw [he] at h hgrown ⊢
    obtain ⟨hhit, -, hd, hfits, hartifact, hsource, hmetadata, hstaging⟩ :=
      runTool_published htool { store with tree := t' } hf hsource h
    dsimp only at hd hartifact hsource hmetadata hstaging
    rw [hplace] at hd hartifact hsource hmetadata hstaging
    refine ⟨hhit, hgrown, hd, hfits, hartifact, hsource, fun hfree hway => ?_, hstaging⟩
    -- neither making directories nor writing the source puts a directory in the metadata's place
    have hne : store.tree.placeOf call.directory ++ [Role.metadata.file name kind] ≠
        t.placeOf call.sourcePath := by
      rw [← hmade.changed.placeOf]
      exact fun he => by cases hf.role_eq hf.source he
    have hbefore : t'.node? (store.tree.placeOf call.directory ++ [Role.metadata.file name kind]) =
        store.tree.node?
          (store.tree.placeOf call.directory ++ [Role.metadata.file name kind]) := by
      rw [(ChangedAt.write hw).elsewhere hne]
      rcases hmade.elsewhere id with hsame | ⟨hmade, -⟩
      · exact hsame
      · exact absurd hmade hway
    refine hmetadata (by rw [hbefore]; exact hfree) fun ⟨hh, hon⟩ => hway ⟨hh, ?_⟩
    rwa [inReach, (ChangedAt.write hw).start, hmade.changed.start] at hon

/-! ## All calls -/

/-- The three ways in which a call ends, with the tree it leaves and its result. -/
inductive Call.Ends (call : Call) (name : String) (kind : Kind) (process number : Nat)
    (m : Metadata) (t : FileTree) : FileTree → Except Fault Instrumented → Prop
  | hit {t' : FileTree} {i : Instrumented} (hit : i.hit = true) (same : t' = t)
      (read : t.read call.artifact = .ok i.body) :
      Ends call name kind process number m t t' (.ok i)
  | failed {t' : FileTree} {fault : Fault} (failed : call.Failed t t') :
      Ends call name kind process number m t t' (.error fault)
  | published {t' : FileTree} {i : Instrumented} (miss : i.hit = false)
      (published : call.Published name kind process number m i.body t t') :
      Ends call name kind process number m t t' (.ok i)

/-- **A call hits, fails or publishes.** -/
theorem instrument_ends (htool : tool.Leaves) (settings : Settings) (store : Store)
    (request : Request) (body : Bytes) (kind : Kind) :
    (Call.of settings store request body kind).Ends (artifactName request.pathComponents) kind
      store.process store.staged ⟨request.clientUrl, kind.extension, settings.mode, store.now⟩
      store.tree (instrument settings tool store request body kind).store.tree
      (instrument settings tool store request body kind).result := by
  have hf := call_filesOf settings store request body kind
  unfold instrument
  simp only [Answer.after]
  generalize Call.of settings store request body kind = call at hf ⊢
  split
  · rename_i hhit
    rw [Bool.and_eq_true, isFile_eq_true] at hhit
    obtain ⟨-, content, hread⟩ := hhit
    simp only [answerHit, hread]
    exact .hit rfl rfl hread
  · cases hr : (answerMiss settings tool store call kind request.clientUrl).result with
    | error fault => exact .failed (answerMiss_failed htool store hf hr)
    | ok i =>
      obtain ⟨hmiss, hpublished⟩ := answerMiss_published htool.confined store hf hr
      exact .published hmiss hpublished

/-- **A call that fails leaves what is published as it is.** Every artifact and every record of
metadata that is anywhere in the file tree stays, with its content, and none is made. The one regular
file that the call may have made or written is its own source, which then holds the normalized
body. And whatever artifact or metadata could be read by a path still can. -/
theorem failed_call_keeps_published (htool : tool.Leaves) (settings : Settings) (store : Store)
    (request : Request) (body : Bytes) (kind : Kind) {fault : Fault}
    (h : (instrument settings tool store request body kind).result = .error fault) :
    let before := store.tree
    let after := (instrument settings tool store request body kind).store.tree
    let source := before.placeOf (join
      ((Key.of request.host (normalize body)).directory settings.root)
      (sourceFile (artifactName request.pathComponents) kind))
    (∀ role ∈ [Role.artifact, .metadata], ∀ (directory : Place) (name : String) (kind : Kind)
      (content : Bytes), after.node? (directory ++ [role.file name kind]) = some (.file content) ↔
        before.node? (directory ++ [role.file name kind]) = some (.file content)) ∧
    (∀ (place : Place) (content : Bytes), after.node? place = some (.file content) →
      before.node? place = some (.file content) ∨ place = source ∧ content = normalize body) ∧
    (∀ role ∈ [Role.artifact, .metadata], ∀ (directory name : String) (kind : Kind)
      (content : Bytes), '/' ∉ name.toList →
        before.read (join directory (role.file name kind)) = .ok content →
          after.read (join directory (role.file name kind)) = .ok content) := by
  have hf := call_filesOf settings store request body kind
  have hends := instrument_ends htool settings store request body kind
  intro before after source
  rw [h] at hends
  obtain - | hfailed | - := hends
  have hsource : before.placeOf (Call.of settings store request body kind).sourcePath = source := by
    simp only [source, Call.of]
  -- artifacts and metadata are neither the source nor the staging file of any call
  have hapart : ∀ role ∈ [Role.artifact, .metadata], ∀ (directory : Place) (name : String)
      (kind' : Kind), ¬ (directory ++ [role.file name kind'] =
          before.placeOf (Call.of settings store request body kind).sourcePath ∨
        directory ++ [role.file name kind'] =
          before.placeOf (Call.of settings store request body kind).staging) := by
    intro role hrole directory name kind' he
    have hname : role = .source ∨ role = .staging store.process store.staged :=
      he.imp (hf.role_eq hf.source) (hf.role_eq hf.staging)
    simp only [List.mem_cons, List.not_mem_nil, or_false] at hrole
    rcases hrole with rfl | rfl <;> simp at hname
  refine ⟨fun role hrole directory name kind' content => ⟨fun hafter => ?_, fun hbefore => ?_⟩,
    fun place content hafter => ?_, fun role hrole directory name kind' content hname hread => ?_⟩
  · rcases hfailed.file hafter with hbefore | ⟨he, -⟩
    · exact hbefore
    · exact absurd (Or.inl he) (hapart role hrole directory name kind')
  · exact hfailed.grown.file (hapart role hrole directory name kind') hbefore
  · rw [← hsource]
    exact hfailed.file hafter
  · refine hfailed.grown.read ?_ hread
    rw [placeOf_join _ (isComponent_file role kind' hname)]
    exact hapart role hrole _ name kind'

/-- A tool that writes half an artifact and fails leaves the older artifact, also where it is not
looked for. -/
theorem failed_call_keeps_published_without_caching :
    let settings : Settings := ⟨"cache", false, "coverage"⟩
    let tool := Tool.leaving fun job => (.file (job.source.take 1), .error .noResponse)
    let request : Request := { url := "x://h/app.js" }
    let directory := ["cache", "h", "ca978112ca1bbdcafac231b39a23dc4d"]
    let tree : FileTree := ⟨[(["cache"], .directory), (["cache", "h"], .directory),
      (directory, .directory), (directory ++ ["app.js"], .file [47, 97])], []⟩
    let store : Store := { tree, now := ⟨0, 0, 0⟩, process := 7 }
    (∃ fault, (instrument settings tool store request [97] .script).result = .error fault) ∧
      (instrument settings tool store request [97] .script).store.tree.node?
        (directory ++ ["app.js"]) = some (.file [47, 97]) := by
  intro settings tool request directory tree store
  obtain ⟨fault, hfails⟩ : ∃ fault, (instrument settings tool store request [97] .script).result =
      .error fault := exists_instrument_error (fun _ _ => ⟨_, rfl⟩) rfl
  have hbefore : store.tree.node? (directory ++ ["app.js"]) = some (.file [47, 97]) := by decide
  refine ⟨⟨fault, hfails⟩, ?_⟩
  exact ((failed_call_keeps_published (Tool.leaving_leaves _) settings store request _ .script
    hfails).1 .artifact (by simp) directory "app" .script _).mpr hbefore

end Cache

end Interpose
