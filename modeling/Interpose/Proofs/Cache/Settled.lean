import Interpose.Proofs.Cache.Faithful

/-!
# Calls on a faithful store

Below a root that can be made, a call on a faithful store finds or makes its directory
(`exists_workable`), and answers what the tool makes of its source, hit or miss, whether or
not hits are looked for. The store stays as it was in that respect (`instrument_settled`).
-/

namespace Interpose.Cache

open Interpose.Path FileTree

variable {settings : Settings} {tool : Tool} {made : Kind → Bytes → Option Bytes} {store : Store}
  {call : Call} {name : String} {kind : Kind} {process number : Nat} {url : String}
  {sources : Bytes → Prop} {r : Place} {t : FileTree}

/-! ## Misses -/

theorem runTool_numbers (settings : Settings) (tool : Tool) (store : Store) (call : Call)
    (kind : Kind) (url : String) :
    (runTool settings tool store call kind url).store.process = store.process ∧
      (runTool settings tool store call kind url).store.staged = store.staged + 1 := by
  unfold runTool
  simp only
  split <;> exact ⟨rfl, rfl⟩

/-- A call whose directory can be made and whose files' names and paths are not too long. -/
structure Call.Workable (call : Call) (store : Store) (name : String) (kind : Kind) (r : Place)
    (above : List String) (t : FileTree) : Prop where
  files : call.FilesOf name kind store.process store.staged
  short : above.length ≤ 1
  down : ".." ∉ above ++ [contentHash call.source]
  place : store.tree.placeOf call.directory = spot r above call.source
  make : store.tree.makeDirectories call.directory = .ok t
  made : MadeAlong store.tree t r (above ++ [contentHash call.source])
  directoryAt : t.DirectoryAt call.directory (spot r above call.source)
  fits : ∀ role ∈ Role.ofCall store.process store.staged, Fits call.directory (role.file name kind)

/-- A store in which a call's directory and source are in place, and else its files are as in
another store. -/
structure Call.Ready (call : Call) (store ready : Store) (name : String) (kind : Kind) (d : Place) :
    Prop where
  process : ready.process = store.process
  staged : ready.staged = store.staged
  directoryAt : ready.tree.DirectoryAt call.directory d
  source : ready.tree.node? (d ++ [Role.source.file name kind]) = some (.file call.source)
  others : ∀ role : Role, role ≠ .source →
    ready.tree.node? (d ++ [role.file name kind]) = store.tree.node? (d ++ [role.file name kind])

variable {above : List String}

namespace Call.Workable

theorem onWay_of_along (h : call.Workable store name kind r above t) {p : Place}
    (hp : Along r (above ++ [contentHash call.source]) p) : OnWay r above call.source p := by
  obtain ⟨front, hf, rfl⟩ := hp
  exact ⟨front, hf, goal_eq_append (fun hm => h.down (hf.subset hm)) r⟩

/-- Making the directory changes no file of a source. -/
theorem node?_file (h : call.Workable store name kind r above t) (role : Role) :
    t.node? (spot r above call.source ++ [role.file name kind]) =
      store.tree.node? (spot r above call.source ++ [role.file name kind]) :=
  h.made.changed.elsewhere fun hp => not_onWay_file h.short (h.onWay_of_along hp)

/-- A miss makes directories on the way to its source, and changes its own files. -/
theorem grown (h : call.Workable store name kind r above t) (htool : tool.Confined)
    (settings : Settings) (url : String) : GrownAt (OnWay r above call.source)
      (OwnFile r above call.source name kind store.process store.staged) store.tree
      (answerMiss settings tool store call kind url).store.tree := by
  have hgrown : GrownAt (Along r (above ++ [contentHash call.source])) (call.Touches store.tree)
      store.tree (answerMiss settings tool store call kind url).store.tree :=
    answerMiss_grown htool store (by
      rw [grow_of_makeDirectories h.make]
      exact h.made.grown _)
  refine hgrown.mono (fun p hp => h.onWay_of_along hp) fun p hp => ?_
  obtain ⟨role, hr, rfl⟩ := h.files.exists_role hp
  exact ⟨role, hr, by rw [h.place]⟩

/-- A miss that fails leaves the artifact as it was. -/
theorem node?_artifact_of_error (h : call.Workable store name kind r above t)
    (htool : tool.Confined) {fault : Fault}
    (he : (answerMiss settings tool store call kind url).result = .error fault) :
    (answerMiss settings tool store call kind url).store.tree.node?
        (spot r above call.source ++ [Role.artifact.file name kind]) =
      store.tree.node? (spot r above call.source ++ [Role.artifact.file name kind]) := by
  have hgrown : GrownAt (Along r (above ++ [contentHash call.source])) _ store.tree _ :=
    answerMiss_grown_of_error htool store (by
      rw [grow_of_makeDirectories h.make]
      exact h.made.grown _) he
  have hother : ¬ (spot r above call.source ++ [Role.artifact.file name kind] =
        store.tree.placeOf call.sourcePath ∨
      spot r above call.source ++ [Role.artifact.file name kind] =
        store.tree.placeOf call.staging) := by
    rw [h.files.source, h.files.staging, placeOf_join _ (h.files.isComponent .source),
      placeOf_join _ (h.files.isComponent (.staging _ _)), h.place]
    rintro (heq | heq) <;> cases (Role.file_injective (spot_file_injective heq).2.2).1
  rcases hgrown.elsewhere hother with hsame | ⟨hway, -⟩
  · exact hsame
  · exact absurd (h.onWay_of_along hway) (not_onWay_file h.short)

/-- Where no directory is in the source's place, a miss writes the source and runs the tool. -/
theorem exists_ready (h : call.Workable store name kind r above t)
    (hfree : store.tree.node? (spot r above call.source ++ [Role.source.file name kind]) ≠
      some .directory) (settings : Settings) (tool : Tool) (url : String) :
    ∃ (ready : Store) (trace : Trace),
      answerMiss settings tool store call kind url =
        (runTool settings tool ready call kind url).after trace ∧
      call.Ready store ready name kind (spot r above call.source) := by
  rw [← h.node?_file] at hfree
  have hwrite : t.write call.sourcePath call.source = .ok
      (t.put (spot r above call.source ++ [Role.source.file name kind]) (.file call.source)) := by
    rw [h.files.source]
    exact (write_join_eq_ok h.directoryAt (h.files.isComponent .source)).mpr
      ⟨h.fits .source (by simp [Role.ofCall]), hfree, rfl⟩
  obtain ⟨trace, fault, hnot, -⟩ | ⟨t', hm, ⟨trace, fault, hnot, -⟩ | ⟨trace, u, hw, he⟩⟩ :=
    answerMiss_cases settings tool store call kind url
  · exact absurd h.make (hnot t)
  · obtain rfl := Except.ok.inj (h.make.symm.trans hm)
    exact absurd hwrite (hnot _)
  · obtain rfl := Except.ok.inj (h.make.symm.trans hm)
    obtain rfl := Except.ok.inj (hwrite.symm.trans hw)
    refine ⟨_, trace, he, rfl, rfl, h.directoryAt.of_changed (ChangedAt.put hfree _),
      node?_put_same t (by simp) _, fun role hne => ?_⟩
    dsimp only
    rw [node?_put_other t, h.node?_file]
    exact fun heq => hne (Role.file_injective (spot_file_injective heq).2.2).1

end Call.Workable

namespace Call.Ready

variable {ready : Store} {d : Place}

theorem filesOf (h : call.Ready store ready name kind d)
    (hf : call.FilesOf name kind store.process store.staged) :
    call.FilesOf name kind ready.process ready.staged := by
  rw [h.process, h.staged]
  exact hf

/-- The artifact that a run publishes is what it answers. -/
theorem node?_artifact (h : call.Ready store ready name kind d) (htool : tool.Confined)
    (hf : call.FilesOf name kind store.process store.staged) {i : Instrumented}
    (hi : (runTool settings tool ready call kind url).result = .ok i) :
    (runTool settings tool ready call kind url).store.tree.node?
      (d ++ [Role.artifact.file name kind]) = some (.file i.body) := by
  have hread := (read_of_runTool (h.filesOf hf) hi).2
  rw [hf.artifact, read_join_eq_ok (h.directoryAt.of_changed (runTool_changed htool ready))
    (hf.isComponent .artifact)] at hread
  exact hread.2

/-- Running the tool does not touch the source. -/
theorem node?_source (h : call.Ready store ready name kind d) (htool : tool.Confined)
    (hf : call.FilesOf name kind store.process store.staged) (settings : Settings) (url : String) :
    (runTool settings tool ready call kind url).store.tree.node?
      (d ++ [Role.source.file name kind]) = some (.file call.source) := by
  rw [(runTool_changed htool ready).elsewhere, h.source]
  intro hp
  obtain ⟨role, -, hne, he⟩ := (h.filesOf hf).exists_role_of_makes hp
  rw [← h.directoryAt.eq_placeOf] at he
  exact hne (Role.file_injective (List.cons.inj (List.append_cancel_left he)).1).1.symm

end Call.Ready

/-- **A miss answers what the tool makes, and keeps a store faithful.** -/
theorem answerMiss_faithful (htool : tool.Makes made) (h : call.Workable store name kind r above t)
    (hsource : sources call.source)
    (hunique : ∀ s, sources s → contentHash s = contentHash call.source → s = call.source)
    (hfaithful : Faithful made sources store.process store.staged r store.tree)
    (settings : Settings) (url : String) :
    (answerMiss settings tool store call kind url).result.toOption.map (·.body) =
        made kind call.source ∧
      (answerMiss settings tool store call kind url).store.process = store.process ∧
      (answerMiss settings tool store call kind url).store.staged = store.staged + 1 ∧
      Faithful made sources store.process (store.staged + 1) r
        (answerMiss settings tool store call kind url).store.tree := by
  have hgrown := h.grown htool.confined settings url
  have hkept : ∀ fault, (answerMiss settings tool store call kind url).result = .error fault → _ :=
    fun fault => h.node?_artifact_of_error htool.confined
  obtain ⟨ready, trace, he, hready⟩ :=
    h.exists_ready (hfaithful.source h.short) settings tool url
  have hresult : (runTool settings tool ready call kind url).result.toOption.map (·.body) =
      made kind call.source := by
    refine runTool_result htool (hready.filesOf h.files) hready.directoryAt ?_ ?_ ?_
    · rw [hready.process, hready.staged]
      exact h.fits
    · rw [hready.others _ (by simp), hready.process, hready.staged]
      exact hfaithful.staging h.short (Nat.le_refl _)
    · rw [hready.others _ (by simp)]
      intro hn
      obtain ⟨content, hc, -⟩ := hfaithful.artifact h.short hsource hn
      cases hc
  have hwritten := hready.node?_source htool.confined h.files settings url
  obtain ⟨hprocess, hstaged⟩ := runTool_numbers settings tool ready call kind url
  rw [he] at hgrown hkept ⊢
  refine ⟨hresult, hprocess.trans hready.process, hstaged.trans (by rw [hready.staged]),
    hfaithful.grown hgrown h.short hunique (fun node hn => ?_) (by
      dsimp only [Answer.after]
      rw [hwritten]
      exact nofun)⟩
  cases hr : (runTool settings tool ready call kind url).result with
  | ok i =>
    have hmade := hready.node?_artifact htool.confined h.files hr
    rw [hr] at hresult
    exact ⟨i.body, Option.some.inj (hn.symm.trans hmade), hresult.symm⟩
  | error fault =>
    rw [hkept fault hr] at hn
    exact hfaithful.artifact h.short hsource hn

/-! ## Settled stores -/

/-- An empty root: it can be made, and is then a directory with nothing below it. -/
def EmptyRoot (root : String) (t : FileTree) : Prop :=
  ∃ t', t.makeDirectories root = .ok t' ∧ t'.node? (t.placeOf root) = some .directory ∧
    ∀ p, p ≠ [] → t'.node? (t.placeOf root ++ p) = none

/-- A store whose root can be made, with a faithful tree below it. -/
def Settled (made : Kind → Bytes → Option Bytes) (sources : Bytes → Prop) (root : String)
    (store : Store) : Prop :=
  ∃ t, store.tree.makeDirectories root = .ok t ∧ t.DirectoryAt root (store.tree.placeOf root) ∧
    Faithful made sources store.process store.staged (store.tree.placeOf root) t ∧
    ∀ p, p ≠ [] → t.node? (store.tree.placeOf root ++ p) =
      store.tree.node? (store.tree.placeOf root ++ p)

variable {root : String}

theorem EmptyRoot.exists_root {t : FileTree} (h : EmptyRoot root t) :
    ∃ t', t.makeDirectories root = .ok t' ∧ MadeAlong t t' (t.start root) (steps root) ∧
      t'.node? (t.placeOf root) = some .directory ∧
      ∀ p, p ≠ [] → t'.node? (t.placeOf root ++ p) = none := by
  obtain ⟨t', hm, hnode, hnone⟩ := h
  have hfrom := (makeDirectories_eq_ok.mp hm).2
  refine ⟨t', hm, madeAlong_of_makeFrom ?_ hfrom, hnode, hnone⟩
  by_cases hs : steps root = []
  · rw [hs] at hfrom
    obtain rfl := Except.ok.inj hfrom
    rw [placeOf, hs, goal_nil] at hnode
    exact Or.inr hnode
  · exact Or.inl hs

/-- Making the root makes nothing below it. -/
theorem EmptyRoot.settled (h : EmptyRoot root store.tree) : Settled made sources root store := by
  obtain ⟨t, hm, hmade, hnode, hnone⟩ := h.exists_root
  refine ⟨t, hm, ⟨by rw [hmade.changed.start]; exact hmade.walk, hnode⟩,
    Faithful.of_empty hnone, fun p hp => ?_⟩
  rcases hmade.onlyDirectories (store.tree.placeOf root ++ p) with he | ⟨hbefore, -⟩
  · exact he
  · rw [hbefore, hnone p hp]

/-- Where the root is a directory, a store with a faithful tree is settled. -/
theorem Settled.of_directoryAt (hroot : isHopeless root = false) (hd : store.tree.DirectoryAt root r)
    (h : Faithful made sources store.process store.staged r store.tree) :
    Settled made sources root store := by
  rw [hd.eq_placeOf] at h hd
  exact ⟨store.tree, makeDirectories_eq_ok.mpr ⟨hroot, makeFrom_of_walkFrom hd.walk hd.node⟩, hd, h,
    fun _ _ => rfl⟩

/-! ## Calls -/

/-- No name or path of a source's files is too long, up to a number of staging files. -/
structure Fitting (root : String) (process bound : Nat) (request : Request) (source : Bytes) :
    Prop where
  host : (Key.of request.host source).host.utf8ByteSize ≤ nameLimit
  file : ∀ kind, ∀ number < bound, ∀ role ∈ Role.ofCall process number,
    Fits ((Key.of request.host source).directory root)
      (role.file (artifactName request.pathComponents) kind)

variable {bound : Nat} {request : Request} {body : Bytes}

theorem Key.host_eq {host : Option String} {source : Bytes} {name : String} (hne : name ≠ "")
    (hknown : name ≠ unknownHost) : (Key.of host source).host = name ↔ host = some name := by
  unfold Key.of
  cases host with
  | none => simp [Ne.symm hknown]
  | some h =>
    by_cases he : h = ""
    · simp [he, Ne.symm hknown, Ne.symm hne]
    · simp [he]

/-- The names that a call's directory adds to the root's place: at most that of the host, and the
hash. -/
theorem Fitting.names {source : Bytes} (h : Fitting root process bound request source)
    (hdots : request.host ≠ some "..") :
    (steps (Key.of request.host source).host).length ≤ 1 ∧
      ∀ n ∈ steps (Key.of request.host source).host ++ [contentHash source],
        n ≠ ".." ∧ n.utf8ByteSize ≤ nameLimit := by
  have hsize := utf8ByteSize_contentHash_le source
  have hhash : contentHash source ≠ ".." ∧ (contentHash source).utf8ByteSize ≤ nameLimit :=
    ⟨(isComponent_contentHash source).ne_dots, Nat.le_trans hsize (by decide)⟩
  rcases steps_host (Key.slash_not_mem_host request source) (Key.host_ne_empty _ _) with
    ⟨-, he⟩ | ⟨-, he⟩
  · rw [he]
    exact ⟨by simp, by simpa using hhash⟩
  · rw [he]
    have hbelow : (Key.of request.host source).host ≠ ".." :=
      fun h => hdots ((Key.host_eq (by decide) (by decide)).mp h)
    exact ⟨by simp, by simpa using ⟨⟨hbelow, h.host⟩, hhash⟩⟩

/-- In a faithful tree, no file is on the way to a source. -/
theorem Faithful.free {staged : Nat} (h : Faithful made sources process staged r t)
    (hr : t.node? r = some .directory) {above : List String} {s : Bytes} (ha : above.length ≤ 1)
    (hdots : ".." ∉ above ++ [contentHash s]) {q : Place}
    (hq : Along r (above ++ [contentHash s]) q) : ¬ t.IsFileAt q := by
  obtain ⟨front, hf, rfl⟩ := hq
  rw [goal_eq_append (fun hm => hdots (hf.subset hm))]
  have hlen := hf.length_le
  rw [List.length_append, List.length_singleton] at hlen
  match front, hf, hlen with
  | [], _, _ =>
    rw [List.append_nil]
    rintro ⟨content, hc⟩
    rw [hr] at hc
    cases hc
  | [x], _, _ => exact h.host
  | [x, y], hf, hlen =>
    have he : [x] ++ [y] = above ++ [contentHash s] := hf.eq_of_length (by
      simp only [List.length_append, List.length_cons, List.length_nil] at hlen ⊢
      omega)
    rw [(List.cons.inj (List.append_inj' he rfl).2).1]
    exact h.hash (not_mem_contentHash s (by decide))
  | _ :: _ :: _ :: _, _, hlen =>
    simp only [List.length_cons] at hlen
    omega

/-- Below a root that has been made, the directory of a call can be made. -/
theorem exists_workable (hm : store.tree.makeDirectories settings.root = .ok t)
    (hd : t.DirectoryAt settings.root (store.tree.placeOf settings.root))
    (hf : Faithful made sources store.process store.staged (store.tree.placeOf settings.root) t)
    (hdots : request.host ≠ some "..")
    (hfit : Fitting settings.root store.process bound request (normalize body))
    (hbound : store.staged < bound) (kind : Kind) :
    ∃ t', store.tree.makeDirectories (Call.of settings store request body kind).directory = .ok t' ∧
      (Call.of settings store request body kind).Workable { store with tree := t }
        (artifactName request.pathComponents) kind (store.tree.placeOf settings.root)
        (steps (Key.of request.host (normalize body)).host) t' := by
  have hfiles := call_filesOf settings store request body kind
  have hsteps : steps (Call.of settings store request body kind).directory = _ :=
    Key.steps_directory_of request (normalize body) settings.root
  have hstart : ∀ u : FileTree,
      u.start (Call.of settings store request body kind).directory = u.start settings.root :=
    fun u => Key.start_directory (Key.slash_not_mem_host request (normalize body))
      (isComponent_contentHash (normalize body)) u settings.root
  have hfits : ∀ role ∈ Role.ofCall store.process store.staged,
      Fits (Call.of settings store request body kind).directory
        (role.file (artifactName request.pathComponents) kind) := hfit.file kind _ hbound
  have hsource : normalize body = (Call.of settings store request body kind).source := rfl
  obtain ⟨hshort, hnames⟩ := hfit.names hdots
  rw [hsource] at hsteps hshort hnames ⊢
  generalize Call.of settings store request body kind = call at *
  generalize steps (Key.of request.host call.source).host = above at *
  have hhopeless : isHopeless call.directory = false :=
    (hfits .artifact (by simp [Role.ofCall])).directory (hfiles.isComponent .artifact)
  have hdown : ".." ∉ above ++ [contentHash call.source] := fun hm => (hnames _ hm).1 rfl
  obtain ⟨t', hmake⟩ := exists_makeFrom hd.node (fun n hn => Or.inr (hnames n hn).2)
    (fun q hq => hf.free hd.node hshort hdown hq)
  have make : ∀ u : FileTree, u.makeDirectories settings.root = .ok t →
      u.placeOf settings.root = store.tree.placeOf settings.root →
        u.makeDirectories call.directory = .ok t' := by
    intro u hu hplace
    rw [makeDirectories_eq_ok, hstart, hsteps, makeFrom_append_eq_ok]
    refine ⟨hhopeless, t, (makeDirectories_eq_ok.mp hu).2, ?_⟩
    change t.makeFrom (u.placeOf settings.root) _ = _
    rw [hplace]
    exact hmake
  have hroot : t.makeDirectories settings.root = .ok t :=
    makeDirectories_eq_ok.mpr ⟨(makeDirectories_eq_ok.mp hm).1, makeFrom_of_walkFrom hd.walk hd.node⟩
  have hmake' := make t hroot hd.eq_placeOf.symm
  have hplace : t.placeOf call.directory =
      spot (store.tree.placeOf settings.root) above call.source := by
    rw [placeOf, hstart, hsteps, goal_append, ← placeOf, ← hd.eq_placeOf, goal_eq_append hdown, spot]
  refine ⟨t', make _ hm rfl, hfiles, hshort, hdown, hplace, hmake',
    madeAlong_of_makeFrom (Or.inl (by simp)) hmake, ?_, hfits⟩
  rw [← hplace]
  exact (madeAlong_of_makeDirectories (by simp [hsteps]) hmake').2

/-- A miss only depends on the tree in which its directory has been made. -/
theorem answerMiss_congr {t t' : FileTree} (h : store.tree.makeDirectories call.directory = .ok t')
    (h' : t.makeDirectories call.directory = .ok t') :
    answerMiss settings tool store call kind url =
      answerMiss settings tool { store with tree := t } call kind url := by
  unfold answerMiss
  simp only [h, h']

/-- **A call on a settled store answers what the tool makes of its source, and keeps the store
settled.** -/
theorem instrument_settled (htool : tool.Makes made)
    (hstore : Settled made sources settings.root store)
    (hdots : request.host ≠ some "..")
    (hfit : Fitting settings.root store.process bound request (normalize body))
    (hbound : store.staged < bound) (hsource : sources (normalize body))
    (hunique : ∀ s, sources s → contentHash s = contentHash (normalize body) → s = normalize body)
    (kind : Kind) :
    (instrument settings tool store request body kind).result.toOption.map (·.body) =
        made kind (normalize body) ∧
      Settled made sources settings.root (instrument settings tool store request body kind).store ∧
      (instrument settings tool store request body kind).store.process = store.process ∧
      (instrument settings tool store request body kind).store.staged ≤ store.staged + 1 := by
  obtain ⟨t, hm, hd, hf, hbelow⟩ := hstore
  obtain ⟨t', hmake, hwork⟩ := exists_workable hm hd hf hdots hfit hbound kind
  by_cases hhit : settings.useCache && store.tree.isFile
      (Call.of settings store request body kind).artifact
  · -- a hit reads the artifact that the tool made
    rw [Bool.and_eq_true, isFile_eq_true] at hhit
    obtain ⟨hcache, content, hread⟩ := hhit
    have hanswer : (instrument settings tool store request body kind).result = _ ∧
        (instrument settings tool store request body kind).store = store ∧ _ :=
      instrument_eq_hit hcache hread
    obtain ⟨hresult, hsame, -⟩ := hanswer
    obtain ⟨p, hwalk, hnode⟩ := read_eq_ok.mp hread
    have hplace : store.tree.placeOf (Call.of settings store request body kind).directory =
        spot (store.tree.placeOf settings.root)
          (steps (Key.of request.host (normalize body)).host) (normalize body) := by
      have hmade := madeAlong_of_makeDirectories (Key.steps_directory_ne_nil _ _ _) hmake
      rw [← hmade.1.changed.placeOf, hwork.made.changed.placeOf, hwork.place]
      rfl
    rw [eq_placeOf_of_walk hwalk, hwork.files.placeOf_artifact, hplace, spot, List.append_assoc,
      ← hbelow _ (by simp), ← List.append_assoc, ← spot] at hnode
    obtain ⟨content', hc, hmade⟩ := hf.artifact hwork.short hsource hnode
    obtain rfl := Node.file.inj hc
    rw [hresult, hsame]
    exact ⟨hmade.symm, ⟨t, hm, hd, hf, hbelow⟩, rfl, Nat.le_succ _⟩
  · -- a miss finds a faithful tree below the root that it makes
    have hanswer : instrument settings tool store request body kind =
        (answerMiss settings tool { store with tree := t }
          (Call.of settings store request body kind) kind request.clientUrl).after
            (.normalizing body) := by
      rw [← answerMiss_congr hmake hwork.make]
      unfold instrument
      exact congrArg (Answer.after · _) (if_neg hhit)
    obtain ⟨hresult, hprocess, hstaged, hfaithful⟩ :=
      answerMiss_faithful htool hwork hsource hunique hf settings request.clientUrl
    rw [hanswer]
    refine ⟨hresult, Settled.of_directoryAt (makeDirectories_eq_ok.mp hm).1
      (hd.of_changed (hwork.grown htool.confined settings request.clientUrl).changed) ?_,
      hprocess, Nat.le_of_eq hstaged⟩
    dsimp only [Answer.after]
    rw [hprocess, hstaged]
    exact hfaithful

end Interpose.Cache
