import Interpose.Proofs.Cache.Inventory

/-!
# What is left at staging paths

After the tool has run, a call takes away the file at its staging path, or has moved it to the
artifact's place. Both work on files only. So of what a tool leaves at its output path, a file goes
and a directory stays: the directories of the file tree are those that the tool left
(`SameDirectories`, `Visit.answer_cases`).

A visit thus leaves something at a place that is named like a staging file only if its tool leaves a
directory at that very place (`Visit.directory_after_iff`, `Visit.file_before_of_staging`), and what
is left there is never taken away. So after any visits something stands at such a place if and only
if one of the tools left a directory there (`leftover_iff`). Places on the way to the root and those
of hosts are left out of this, since directories are made there under whatever names they have
(`not_leftover_of_host`).
-/

namespace Interpose

namespace FileTree

variable {places : Place → Prop} {t t' t'' : FileTree} {path : String}

/-- Two trees with the same directories. -/
def SameDirectories (t t' : FileTree) : Prop :=
  ∀ p, t'.node? p = some .directory ↔ t.node? p = some .directory

namespace SameDirectories

theorem refl (t : FileTree) : SameDirectories t t := fun _ => Iff.rfl

theorem trans (h : SameDirectories t t') (h' : SameDirectories t' t'') : SameDirectories t t'' :=
  fun p => (h' p).trans (h p)

/-- Changes that make no directory keep the directories. -/
theorem of_changed (h : ChangedAt places t t')
    (hnone : ∀ p, places p → t'.node? p ≠ some .directory) : SameDirectories t t' := by
  refine fun p => ⟨fun hp => ?_, h.directory⟩
  rw [← h.elsewhere fun hplace => hnone p hplace hp, hp]

theorem write {content : Bytes} (h : t.write path content = .ok t') : SameDirectories t t' := by
  refine of_changed (ChangedAt.write h) ?_
  rintro p rfl
  simp [node?_of_write h]

theorem remove (h : t.remove path = .ok t') : SameDirectories t t' := by
  refine of_changed (ChangedAt.remove h) ?_
  rintro p rfl
  obtain ⟨p, hw, ⟨content, hp⟩, rfl⟩ := remove_eq_ok.mp h
  rw [← eq_placeOf_of_walk hw, node?_erase_same t (ne_nil_of_node?_ne (t := t) (by simp [hp]))]
  nofun

theorem rename {target : String} (h : t.rename path target = .ok t') : SameDirectories t t' := by
  refine of_changed (ChangedAt.rename h) fun r hr => ?_
  obtain ⟨p, q, content, hw, hw', hp, hq, rfl⟩ := rename_eq_ok.mp h
  rw [← eq_placeOf_of_walk hw, ← eq_placeOf_of_walk hw'] at hr
  by_cases he : r = q
  · subst he
    simp [node?_put_same _ (ne_nil_of_node?_ne hq)]
  · obtain rfl := hr.resolve_right he
    rw [node?_put_other _ he, node?_erase_same t (ne_nil_of_node?_ne (t := t) (by simp [hp]))]
    nofun

end SameDirectories

/-- Each step leads down by one level at most. -/
theorem length_goal_le (p : Place) (names : List String) :
    (goal p names).length ≤ p.length + names.length := by
  induction names generalizing p with
  | nil => exact Nat.le_refl _
  | cons name rest ih =>
    have hnext : (next p name).length ≤ p.length + 1 := by
      unfold next
      split
      · rw [List.length_dropLast]
        omega
      · simp
    have hrest := ih (next p name)
    rw [goal_cons, List.length_cons]
    omega

/-- A place that is deeper than a path has steps is not on its way. -/
theorem not_onWay_of_length {p : Place}
    (h : (t.start path).length + (Path.steps path).length < p.length) : ¬ onWay t path p := by
  rintro ⟨front, hfront, rfl⟩
  have hlength := length_goal_le (t.start path) front
  have hprefix := hfront.length_le
  omega

end FileTree

namespace Cache

open Interpose.Path FileTree

/-- Running the tool leaves the directories that the tool leaves. -/
theorem runTool_sameDirectories (settings : Settings) (tool : Tool) (store : Store) (call : Call)
    (kind : Kind) (url : String) :
    SameDirectories (tool ⟨kind, call.source, call.staging, settings.mode, url⟩ store.tree).tree
      (runTool settings tool store call kind url).store.tree := by
  unfold runTool
  simp only
  generalize Job.mk kind call.source call.staging settings.mode url = job
  cases hp : publish job call.artifact (tool job store.tree) with
  | mk t result =>
    cases result with
    | error fault =>
      obtain rfl := tree_of_publish_error hp
      simp only
      cases hr : (tool job store.tree).tree.remove call.staging with
      | error e => exact .refl _
      | ok t' => exact .remove hr
    | ok body =>
      obtain ⟨-, -, hm⟩ := publish_eq_ok.mp hp
      refine (SameDirectories.rename hm).trans ?_
      simp only [recordMetadata]
      split
      · rename_i t' hw
        exact .write hw
      · exact .refl _

/-- Whether a place is named like a staging file. -/
def IsStaging (place : Place) : Prop :=
  ∃ directory name kind process number, place = directory ++ [stagingFile name kind process number]

/-- A file named like a staging file has the role of one. -/
theorem IsStaging.exists_role {place : Place} (h : IsStaging place) :
    ∃ directory name kind process number,
      place = directory ++ [(Role.staging process number).file name kind] := h

namespace Visit

variable {v : Visit} {root : String} {t : FileTree} {place : Place}

/-- The job that a visit hands to its tool. -/
def job (v : Visit) (root : String) (t : FileTree) : Job where
  kind := v.kind
  source := (v.call root t).source
  output := (v.call root t).staging
  mode := v.mode
  url := v.request.clientUrl

/-- The tree that the tool leaves, if a visit comes to run it. -/
def toolTree? (v : Visit) (root : String) (t : FileTree) : Option FileTree :=
  let call := v.call root t
  if v.useCache && t.isFile call.artifact then none
  else
    match t.makeDirectories call.directory with
    | .error _ => none
    | .ok made =>
      match made.write call.sourcePath call.source with
      | .error _ => none
      | .ok written => some (v.tool (v.job root t) written).tree

/-- Whether the tool of a visit leaves a directory at its output path, and that is the place. -/
def LeavesDirectoryAt (v : Visit) (root : String) (t : FileTree) (place : Place) : Prop :=
  place = t.placeOf (v.path root (.staging v.process v.staged)) ∧
    ∃ left, v.toolTree? root t = some left ∧ left.node? place = some .directory

/-- A visit that does not run its tool makes directories on its way at most; one that does leaves
the directories that the tool leaves. -/
theorem answer_cases (v : Visit) (root : String) (t : FileTree) :
    (v.toolTree? root t = none ∧
      GrownAt ((v.call root t).Ways t) (fun _ => False) t (v.answer root t).store.tree) ∨
    ∃ written, v.toolTree? root t = some (v.tool (v.job root t) written).tree ∧
      GrownAt ((v.call root t).Ways t) (· = t.placeOf (v.call root t).sourcePath) t written ∧
      SameDirectories (v.tool (v.job root t) written).tree (v.answer root t).store.tree := by
  have hgrow := (v.call root t).grow_ways t
  have hanswer : (v.answer root t).store.tree =
      (if v.useCache && t.isFile (v.call root t).artifact then
        answerHit ⟨t, v.now, v.process, v.staged⟩ (v.call root t).artifact v.request.clientUrl
      else answerMiss ⟨root, v.useCache, v.mode⟩ v.tool ⟨t, v.now, v.process, v.staged⟩
        (v.call root t) v.kind v.request.clientUrl).store.tree := rfl
  rw [hanswer]
  unfold toolTree?
  simp only
  split
  · rw [answerHit_store]
    exact .inl ⟨rfl, .refl _ _ _⟩
  · unfold answerMiss
    simp only
    cases hm : t.makeDirectories (v.call root t).directory with
    | error e => exact .inl ⟨rfl, hgrow _⟩
    | ok made =>
      simp only
      rw [grow_of_makeDirectories hm] at hgrow
      cases hw : made.write (v.call root t).sourcePath (v.call root t).source with
      | error e => exact .inl ⟨rfl, hgrow _⟩
      | ok written =>
        refine .inr ⟨written, rfl, (hgrow _).trans (.of_changed _ ?_),
          runTool_sameDirectories _ _ _ _ _ _⟩
        refine (ChangedAt.write hw).mono fun p hp => ?_
        rw [hp, (hgrow fun _ => False).changed.placeOf]

theorem output_job (v : Visit) (root : String) (t : FileTree) :
    (v.job root t).output = v.path root (.staging v.process v.staged) := by
  simp only [job]
  rw [(v.filesOf root t).staging, v.directory_call, path]

theorem changed (htool : v.tool.Leaves) (root : String) (t : FileTree) :
    ChangedAt (fun p => onWay t (v.call root t).directory p ∨ (v.call root t).Touches t p) t
      (v.answer root t).store.tree :=
  (instrument_grown htool.confined _ _ _ _ _).changed

/-- A visit makes no directory at a place that is named like a staging file, unless it is on the way
to the root, or that of the host. -/
theorem not_ways_of_isStaging (hplace : IsStaging place) (hroot : ¬ onWay t root place)
    (hhost : place ≠ t.placeOf (join root v.key.host)) : ¬ (v.call root t).Ways t place := by
  rintro ⟨-, front, hfront, -, he⟩
  have hslash := Key.slash_not_mem_host v.request (normalize v.body)
  rw [directory_call, steps_directory, hash_slot, ← List.append_assoc,
    List.prefix_concat_iff] at hfront
  rw [directory_call, start_directory] at he
  have notRoot : ¬ front <+: steps root := fun h => hroot ⟨front, h, he⟩
  rcases hfront with rfl | hfront
  · -- the last step is a hash
    obtain ⟨directory, name, kind, process, number, rfl⟩ := hplace.exists_role
    rw [goal_append, goal_cons, goal_nil, next_of_ne (isComponent_contentHash _).ne_dots] at he
    have hlast := (List.cons.inj (List.append_inj' he rfl).2).1
    exact file_ne_contentHash _ _ _ _ hlast
  · rcases steps_host hslash (Key.host_ne_empty _ _) with ⟨-, habove⟩ | ⟨-, habove⟩
    · rw [slot, Ask.key, habove, List.append_nil] at hfront
      exact notRoot hfront
    · rw [slot, Ask.key, habove] at hfront
      rcases List.prefix_concat_iff.mp hfront with rfl | hfront
      · refine hhost ?_
        rw [he, placeOf, Ask.key, start_join t hslash, steps_join hslash, habove]
      · exact notRoot hfront

/-- A regular file at a place that is named like a staging file was there before. -/
theorem file_before_of_staging (htool : v.tool.Leaves) (hplace : IsStaging place)
    {content : Bytes} (h : (v.answer root t).store.tree.node? place = some (.file content)) :
    t.node? place = some (.file content) := by
  obtain ⟨directory, name, kind, process, number, rfl⟩ := hplace.exists_role
  have hf := v.filesOf root t
  have hends := v.ends htool root t
  generalize (v.answer root t).store.tree = t' at h hends
  generalize (v.answer root t).result = result at hends
  cases hends with
  | hit hit same read =>
    rw [same] at h
    exact h
  | failed failed =>
    rcases failed.file h with hbefore | ⟨he, -⟩
    · exact hbefore
    · cases hf.role_eq hf.source he
  | published miss published =>
    refine published.grown.file_before (fun htouch => ?_) h
    obtain ⟨role, hrole, he⟩ := hf.exists_role htouch
    obtain ⟨-, rfl, -, -⟩ := Role.place_injective he
    obtain ⟨rfl, rfl⟩ : process = v.process ∧ number = v.staged := by
      simpa [Role.ofCall] using hrole
    rw [he, published.staging] at h
    cases h

/-- **A directory at a place that is named like a staging file was there before, or is one that the
tool left there.** -/
theorem directory_after_iff (htool : v.tool.Leaves) (hplace : IsStaging place)
    (hways : ¬ (v.call root t).Ways t place) :
    (v.answer root t).store.tree.node? place = some .directory ↔
      t.node? place = some .directory ∨ v.LeavesDirectoryAt root t place := by
  obtain ⟨hnone, hgrown⟩ | ⟨written, hran, hgrown, hsame⟩ := v.answer_cases root t
  · refine ⟨fun h => .inl ((hgrown.directory_before id h).resolve_right hways), ?_⟩
    rintro (h | ⟨-, left, hran, -⟩)
    · exact hgrown.directory h
    · rw [hnone] at hran
      cases hran
  · have hleft := htool.confined (v.job root t) written
    have hstaging : written.placeOf (v.job root t).output =
        t.placeOf (v.path root (.staging v.process v.staged)) := by
      rw [output_job, hgrown.changed.placeOf]
    have hsource : place ≠ t.placeOf (v.call root t).sourcePath := by
      obtain ⟨directory, name, kind, process, number, rfl⟩ := hplace.exists_role
      have hf := v.filesOf root t
      exact fun he => nomatch hf.role_eq hf.source he
    rw [hsame]
    constructor
    · intro h
      by_cases hown : place = t.placeOf (v.path root (.staging v.process v.staged))
      · exact .inr ⟨hown, _, hran, h⟩
      · rw [← hstaging] at hown
        rw [hleft.elsewhere hown] at h
        exact .inl ((hgrown.directory_before hsource h).resolve_right hways)
    · rintro (h | ⟨-, left, hleft', h⟩)
      · exact hleft.directory (hgrown.directory h)
      · rw [hran] at hleft'
        rwa [Option.some.inj hleft']

end Visit

/-! ## Any number of visits -/

/-- Whether one of some visits leaves a directory at its staging path, and that is the place. -/
inductive Leftover (root : String) (place : Place) : FileTree → List Visit → Prop
  | now {t : FileTree} {v : Visit} {rest : List Visit} (h : v.LeavesDirectoryAt root t place) :
    Leftover root place t (v :: rest)
  | later {t : FileTree} {v : Visit} {rest : List Visit}
    (h : Leftover root place (v.answer root t).store.tree rest) : Leftover root place t (v :: rest)

section Run

variable {root : String} {t : FileTree} {place : Place} {visits : List Visit}

theorem not_leftover_nil : ¬ Leftover root place t [] := nofun

theorem leftover_cons {v : Visit} : Leftover root place t (v :: visits) ↔
    v.LeavesDirectoryAt root t place ∨
      Leftover root place (v.answer root t).store.tree visits := by
  constructor
  · rintro (h | h)
    · exact .inl h
    · exact .inr h
  · rintro (h | h)
    · exact .now h
    · exact .later h

variable (htools : ∀ v ∈ visits, v.tool.Leaves) (hplace : IsStaging place)

include htools hplace

theorem file_before_run (past : List Record) {content : Bytes}
    (h : (visits.foldl (History.visit root) ⟨t, past⟩).tree.node? place = some (.file content)) :
    t.node? place = some (.file content) := by
  induction visits generalizing t past with
  | nil => exact h
  | cons v rest ih =>
    obtain ⟨htool, hrest⟩ := List.forall_mem_cons.mp htools
    exact Visit.file_before_of_staging htool hplace (ih hrest _ h)

theorem directory_after_run_iff (past : List Record) (hroot : ¬ onWay t root place)
    (hhosts : ∀ v ∈ visits, place ≠ t.placeOf (join root v.key.host)) :
    (visits.foldl (History.visit root) ⟨t, past⟩).tree.node? place = some .directory ↔
      t.node? place = some .directory ∨ Leftover root place t visits := by
  induction visits generalizing t past with
  | nil => exact ⟨.inl, fun h => h.resolve_right not_leftover_nil⟩
  | cons v rest ih =>
    obtain ⟨htool, hrest⟩ := List.forall_mem_cons.mp htools
    obtain ⟨hhost, hothers⟩ := List.forall_mem_cons.mp hhosts
    have hchanged := v.changed htool root t
    have hroot' : ¬ onWay (v.answer root t).store.tree root place := by
      rwa [onWay, hchanged.start]
    have hhosts' : ∀ w ∈ rest,
        place ≠ (v.answer root t).store.tree.placeOf (join root w.key.host) := by
      simpa only [hchanged.placeOf] using hothers
    have hstep := Visit.directory_after_iff htool hplace
      (Visit.not_ways_of_isStaging hplace hroot hhost)
    rw [List.foldl_cons, History.visit, ih hrest _ hroot' hhosts', hstep, leftover_cons, or_assoc]

/-- **Only directories are left at staging paths, and all of them.** Take a place that is named like
a staging file, where nothing stood, and that is neither on the way to the root nor the place of a
host. After any visits, by whatever processes, with or without caching and with tools that do
whatever they do at their output paths, something stands there if and only if it is a directory that
the tool of one of the visits left at its output path. -/
theorem leftover_iff (hroot : ¬ onWay t root place)
    (hhosts : ∀ v ∈ visits, place ≠ t.placeOf (join root v.key.host))
    (hbefore : t.node? place = none) (node : Node) :
    (History.run root t visits).tree.node? place = some node ↔
      node = .directory ∧ Leftover root place t visits := by
  have hdirectory := directory_after_run_iff htools hplace [] hroot hhosts
  rw [hbefore] at hdirectory
  cases node with
  | file content =>
    refine ⟨fun h => ?_, fun h => nomatch h.1⟩
    rw [file_before_run htools hplace [] h] at hbefore
    cases hbefore
  | directory => simpa [History.run] using hdirectory

end Run

/-- A tool that leaves a directory at its output path and succeeds. -/
theorem leftover_iff_for_directory :
    let tool := Tool.leaving fun _ => (.directory, .ok ())
    let v : Visit :=
      { now := ⟨0, 0, 0⟩, tool, request := { url := "x://h/app.js" }, body := [97], kind := .script
        useCache := false, mode := "coverage", process := 7, staged := 0 }
    let place : Place :=
      ["cache", "h", "ca978112ca1bbdcafac231b39a23dc4d"] ++ [stagingFile "app" .script 7 0]
    (History.run "cache" {} [v]).tree.node? place = some .directory := by
  intro tool v place
  have htools : ∀ v' ∈ [v], v'.tool.Leaves := by
    simpa [v] using Tool.leaving_leaves _
  have hroot : ¬ onWay {} "cache" place := not_onWay_of_length (by decide)
  have hhosts : ∀ v' ∈ [v], place ≠ ({} : FileTree).placeOf (join "cache" v'.key.host) := by
    rw [List.forall_mem_singleton]
    decide +kernel
  have hown : place = ({} : FileTree).placeOf (v.path "cache" (.staging v.process v.staged)) := by
    decide +kernel
  have hleft : (v.toolTree? "cache" {}).map (·.node? place) = some (some .directory) := by
    decide +kernel
  obtain ⟨left, hran, hnode⟩ := Option.map_eq_some_iff.mp hleft
  exact (leftover_iff htools ⟨_, "app", .script, 7, 0, rfl⟩ hroot hhosts rfl .directory).mpr
    ⟨rfl, .now ⟨hown, left, hran, hnode⟩⟩

/-- The directory of a host may be named like a staging file. No tool left it, and yet it stays. -/
theorem not_leftover_of_host :
    let tool := Tool.leaving fun _ => (.nothing, .error .noResponse)
    let v : Visit :=
      { now := ⟨0, 0, 0⟩, tool, request := { url := "x://.a.js.1-2.tmp/app.js" }, body := [97]
        kind := .script, useCache := false, mode := "coverage", process := 7, staged := 0 }
    let place : Place := ["cache"] ++ [stagingFile "a" .script 1 2]
    (History.run "cache" {} [v]).tree.node? place = some .directory ∧
      ¬ Leftover "cache" place {} [v] := by
  intro tool v place
  refine ⟨by decide +kernel, fun h => ?_⟩
  obtain ⟨hown, -⟩ := (leftover_cons.mp h).resolve_right not_leftover_nil
  -- a staging file is in the directory of a hash, which is deeper than that of a host
  have hhost : v.request.host ≠ some ".." := by decide +kernel
  have hroot : ({} : FileTree).placeOf "cache" = ["cache"] := by decide +kernel
  rw [Visit.placeOf_path hhost, hroot] at hown
  have hlength := congrArg List.length hown
  simp [place, Slot.place] at hlength

end Cache

end Interpose
