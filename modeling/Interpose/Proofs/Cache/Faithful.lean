import Interpose.Proofs.Cache.Call

/-!
# A store that says what the tool says

A tool that makes of each kind and source always the same artifact, or none (`Tool.Makes`), fills a
store with those artifacts and no others. `Faithful` is what such a store keeps: wherever the
artifact of a source stands, it is the one that the tool makes; nothing is in the way of the
directories and sources of later calls; and the next staging files are not there yet.

Directories on the way to a source and changes to its own files keep a store faithful, as long as
its artifact is the one that the tool makes (`Faithful.grown`). That is what a run of the tool
publishes (`runTool_result`).
-/

namespace Interpose

open FileTree

/-- A tool that makes of each kind and source always the same artifact, or none. -/
def Tool.Makes (tool : Tool) (made : Kind → Bytes → Option Bytes) : Prop :=
  ∀ job t, ∃ left : Leaving, (tool job t).tree = left.apply job.output t ∧
    match made job.kind job.source with
    | some content => left = .file content ∧ (tool job t).result = .ok ()
    | none => (tool job t).result = .ok () → ∀ content, left ≠ .file content

theorem Tool.Makes.confined {tool : Tool} {made : Kind → Bytes → Option Bytes}
    (h : tool.Makes made) : tool.Confined := by
  intro job t
  obtain ⟨left, he, -⟩ := h job t
  rw [he]
  exact left.apply_changed job.output t

/-- A tool that leaves something at its output path makes what it leaves there with success. -/
theorem Tool.leaving_makes {behave : Job → Leaving × Except Fault Unit}
    {made : Kind → Bytes → Option Bytes}
    (h : ∀ job, match made job.kind job.source with
      | some content => behave job = (.file content, .ok ())
      | none => (behave job).2 = .ok () → ∀ content, (behave job).1 ≠ .file content) :
    (Tool.leaving behave).Makes made := by
  intro job t
  refine ⟨(behave job).1, rfl, ?_⟩
  have hjob := h job
  cases hm : made job.kind job.source with
  | some content =>
    rw [hm] at hjob
    exact ⟨congrArg Prod.fst hjob, congrArg Prod.snd hjob⟩
  | none =>
    rw [hm] at hjob
    exact hjob

/-! ## What is left at an output path -/

section Leaving

open Interpose.Path

variable {t : FileTree} {directory file : String} {d : Place}

theorem Leaving.apply_file (hd : t.DirectoryAt directory d) (hn : IsComponent file)
    (hfits : Fits directory file) (hnone : t.node? (d ++ [file]) = none) (content : Bytes) :
    (Leaving.file content).apply (join directory file) t =
      t.put (d ++ [file]) (.file content) := by
  have hw : t.write (join directory file) content = .ok (t.put (d ++ [file]) (.file content)) :=
    (write_join_eq_ok hd hn).mpr ⟨hfits, by simp [hnone], rfl⟩
  simp only [apply, hw]
  rfl

/-- What can be read at an output path where nothing stood is the file that was left. -/
theorem Leaving.eq_file_of_read {left : Leaving} (hd : t.DirectoryAt directory d)
    (hn : IsComponent file) (hnone : t.node? (d ++ [file]) = none) {content : Bytes}
    (h : (left.apply (join directory file) t).read (join directory file) = .ok content) :
    ∃ content', left = .file content' := by
  have hread := ((read_join_eq_ok (hd.of_changed (left.apply_changed _ t)) hn).mp h).2
  cases left with
  | file content' => exact ⟨content', rfl⟩
  | nothing =>
    rw [apply, hnone] at hread
    cases hread
  | directory =>
    cases hm : t.makeDirectory (join directory file) with
    | error e =>
      simp only [apply, hm] at hread
      change t.node? (d ++ [file]) = _ at hread
      rw [hnone] at hread
      cases hread
    | ok t' =>
      obtain ⟨-, -, rfl⟩ := (makeDirectory_join_eq_ok hd hn).mp hm
      simp only [apply, hm] at hread
      change (t.put _ _).node? (d ++ [file]) = _ at hread
      rw [node?_put_same t (by simp)] at hread
      cases hread

end Leaving

namespace Cache

open Interpose.Path

/-! ## A run of such a tool -/

variable {settings : Settings} {tool : Tool} {made : Kind → Bytes → Option Bytes} {store : Store}
  {call : Call} {name : String} {kind : Kind} {process number : Nat} {url : String} {d : Place}

/-- Where a call's staging file can be made and its artifact can be put, the tool's run gives what
the tool makes of the source. -/
theorem runTool_result (htool : tool.Makes made) (hf : call.FilesOf name kind process number)
    (hd : store.tree.DirectoryAt call.directory d)
    (hfits : ∀ r ∈ Role.ofCall process number, Fits call.directory (r.file name kind))
    (hstaging : store.tree.node? (d ++ [(Role.staging process number).file name kind]) = none)
    (hartifact : store.tree.node? (d ++ [Role.artifact.file name kind]) ≠ some .directory) :
    (runTool settings tool store call kind url).result.toOption.map (·.body) =
      made kind call.source := by
  have hst := hf.isComponent (.staging process number)
  have hart := hf.isComponent .artifact
  have hne : Role.artifact.file name kind ≠ (Role.staging process number).file name kind :=
    fun he => by cases (Role.file_injective he).1
  unfold runTool
  simp only
  generalize hj : Job.mk kind call.source call.staging settings.mode url = job
  have hout : job.output = join call.directory ((Role.staging process number).file name kind) := by
    rw [← hj, ← hf.staging]
  have hkind : made job.kind job.source = made kind call.source := by rw [← hj]
  obtain ⟨left, htree, hmade⟩ := htool job store.tree
  rw [hkind] at hmade
  rw [hout] at htree
  cases hm : made kind call.source with
  | some content =>
    rw [hm] at hmade
    obtain ⟨rfl, hresult⟩ := hmade
    have hfst := hfits (.staging process number) (by simp [Role.ofCall])
    have hfart := hfits .artifact (by simp [Role.ofCall])
    rw [Leaving.apply_file hd hst hfst hstaging] at htree
    have hd' : (tool job store.tree).tree.DirectoryAt call.directory d := by
      rw [htree]
      exact hd.of_changed (ChangedAt.put (by simp [hstaging]) _)
    have hfile : (tool job store.tree).tree.node?
        (d ++ [(Role.staging process number).file name kind]) = some (.file content) := by
      rw [htree, node?_put_same _ (by simp)]
    have hthere : (tool job store.tree).tree.node? (d ++ [Role.artifact.file name kind]) ≠
        some .directory := by
      rw [htree, node?_put_other _ (by simp [hne])]
      exact hartifact
    have hread := (read_join_eq_ok hd' hst).mpr ⟨hfst, hfile⟩
    have hrename := (rename_join_eq_ok hd' hst hart).mpr
      ⟨hfst, hfart, hthere, content, hfile, rfl⟩
    rw [← hout] at hread hrename
    rw [← hf.artifact] at hrename
    rw [publish_eq_ok.mpr ⟨hresult, hread, hrename⟩]
    rfl
  | none =>
    rw [hm] at hmade
    cases hp : publish job call.artifact (tool job store.tree) with
    | mk t result =>
      cases result with
      | error fault => rfl
      | ok body =>
        obtain ⟨hresult, hread, -⟩ := publish_eq_ok.mp hp
        rw [htree, hout] at hread
        obtain ⟨content, rfl⟩ := Leaving.eq_file_of_read hd hst hstaging hread
        exact absurd rfl (hmade hresult content)

/-! ## Faithful stores -/

/-- The place of the directory of a source, given the root's place and what the host adds to it. -/
def spot (r : Place) (above : List String) (s : Bytes) : Place := r ++ (above ++ [contentHash s])

theorem spot_file_injective {r : Place} {above above' : List String} {s s' : Bytes}
    {file file' : String} (h : spot r above s ++ [file] = spot r above' s' ++ [file']) :
    above = above' ∧ contentHash s = contentHash s' ∧ file = file' := by
  obtain ⟨hspot, hfile⟩ := List.append_inj' h (by simp)
  obtain ⟨habove, hhash⟩ := List.append_inj' (List.append_cancel_left hspot) (by simp)
  exact ⟨habove, (List.cons.inj hhash).1, (List.cons.inj hfile).1⟩

/-- The places on the way to the directory of a source, below the root's place. -/
def OnWay (r : Place) (above : List String) (s : Bytes) (p : Place) : Prop :=
  ∃ front, front <+: above ++ [contentHash s] ∧ p = r ++ front

/-- The places of the files that a call for a source works on. -/
def OwnFile (r : Place) (above : List String) (s : Bytes) (name : String) (kind : Kind)
    (process number : Nat) (p : Place) : Prop :=
  ∃ role ∈ Role.ofCall process number, p = spot r above s ++ [role.file name kind]

/-- A file in the directory of some host and hash is on the way to no source. -/
theorem not_onWay_file {r : Place} {above above' : List String} {hash : String} {s' : Bytes}
    {role : Role} {name : String} {kind : Kind} (ha : above'.length ≤ 1) :
    ¬ OnWay r above' s' (r ++ (above ++ [hash]) ++ [role.file name kind]) := by
  rintro ⟨front, hf, he⟩
  rw [List.append_assoc] at he
  obtain rfl := List.append_cancel_left he
  rw [List.prefix_concat_iff] at hf
  rcases hf with hf | hf
  · exact file_ne_contentHash role name kind s' (List.cons.inj (List.append_inj' hf (by simp)).2).1
  · have := hf.length_le
    simp only [List.length_append, List.length_singleton] at this
    omega

/-- A file of a source is a call's own only if the call is for it. -/
theorem OwnFile.of_file {r : Place} {above above' : List String} {s s' : Bytes}
    {name name' : String} {kind kind' : Kind} {number : Nat} {role : Role}
    (h : OwnFile r above s name kind process number
      (spot r above' s' ++ [role.file name' kind'])) :
    role ∈ Role.ofCall process number ∧ above' = above ∧ contentHash s' = contentHash s ∧
      name' = name ∧ kind' = kind := by
  obtain ⟨role', hr, he⟩ := h
  obtain ⟨hab, hhash, hfile⟩ := spot_file_injective he
  obtain ⟨rfl, hn, hk⟩ := Role.file_injective hfile
  exact ⟨hr, hab, hhash, hn, hk⟩

theorem not_ownFile_host {r : Place} {above : List String} {s : Bytes} {name : String}
    {kind : Kind} {number : Nat} {x : String} :
    ¬ OwnFile r above s name kind process number (r ++ [x]) := by
  rintro ⟨role, -, he⟩
  have := congrArg List.length he
  simp only [spot, List.length_append, List.length_singleton] at this
  omega

theorem not_ownFile_hash {r : Place} {above : List String} {s : Bytes} {name : String}
    {kind : Kind} {number : Nat} {x y : String} (hy : '.' ∉ y.toList) :
    ¬ OwnFile r above s name kind process number (r ++ [x, y]) := by
  rintro ⟨role, -, he⟩
  rw [show r ++ [x, y] = r ++ [x] ++ [y] by simp] at he
  have hlast := (List.cons.inj (List.append_inj' he (by simp)).2).1
  rw [hlast] at hy
  exact hy (dot_mem_file role name kind)

/-- A file tree in which the artifacts of some sources are those that the tool makes, below the
place `r` of the root: nothing is in the way of their directories and files, and the staging files
from a number on are not there yet. A host adds at most one name to the root's place. -/
structure Faithful (made : Kind → Bytes → Option Bytes) (sources : Bytes → Prop)
    (process staged : Nat) (r : Place) (t : FileTree) : Prop where
  host : ∀ {x}, ¬ t.IsFileAt (r ++ [x])
  hash : ∀ {x y : String}, '.' ∉ y.toList → ¬ t.IsFileAt (r ++ [x, y])
  artifact : ∀ {above s name kind node}, above.length ≤ 1 → sources s →
    t.node? (spot r above s ++ [Role.artifact.file name kind]) = some node →
      ∃ content, node = .file content ∧ made kind s = some content
  source : ∀ {above s name kind}, above.length ≤ 1 →
    t.node? (spot r above s ++ [Role.source.file name kind]) ≠ some .directory
  staging : ∀ {above s name kind number}, above.length ≤ 1 → staged ≤ number →
    t.node? (spot r above s ++ [(Role.staging process number).file name kind]) = none

variable {sources : Bytes → Prop} {staged : Nat} {r : Place} {t t' : FileTree}

/-- Nothing stands below the root of an empty store. -/
theorem Faithful.of_empty (h : ∀ p, p ≠ [] → t.node? (r ++ p) = none) :
    Faithful made sources process staged r t where
  host := by
    rintro x ⟨content, hc⟩
    rw [h [x] (by simp)] at hc
    cases hc
  hash := by
    rintro x y - ⟨content, hc⟩
    rw [h [x, y] (by simp)] at hc
    cases hc
  artifact := by
    intro above s name kind node _ _ hn
    rw [spot, List.append_assoc, h _ (by simp)] at hn
    cases hn
  source := by
    intro above s name kind _
    rw [spot, List.append_assoc, h _ (by simp)]
    exact nofun
  staging := by
    intro above s name kind number _ _
    rw [spot, List.append_assoc, h _ (by simp)]

section Growth

variable {above : List String} {s : Bytes} {name : String} {kind : Kind}
  (hg : GrownAt (OnWay r above s) (OwnFile r above s name kind process staged) t t')

include hg

/-- The files of a source that are not the call's own stay as they are. -/
theorem node?_file_of_grown (ha : above.length ≤ 1) {above' : List String} {s' : Bytes} {role : Role}
    {name' : String} {kind' : Kind}
    (hn : ¬ OwnFile r above s name kind process staged
      (spot r above' s' ++ [role.file name' kind'])) :
    t'.node? (spot r above' s' ++ [role.file name' kind']) =
      t.node? (spot r above' s' ++ [role.file name' kind']) := by
  rcases hg.elsewhere hn with he | ⟨hw, -⟩
  · exact he
  · exact absurd hw (not_onWay_file ha)

/-- No file is made elsewhere. -/
theorem not_isFileAt_of_grown {p : Place} (hn : ¬ OwnFile r above s name kind process staged p)
    (hnot : ¬ t.IsFileAt p) : ¬ t'.IsFileAt p := by
  rintro ⟨content, hc⟩
  rcases hg.elsewhere hn with he | ⟨-, -, hd⟩
  · exact hnot ⟨content, he ▸ hc⟩
  · rw [hc] at hd
    cases hd

/-- **A store stays faithful** when directories are made on the way to a source and files of that
source change, if its artifact is then what the tool makes and its source no directory. -/
theorem Faithful.grown (h : Faithful made sources process staged r t) (ha : above.length ≤ 1)
    (hunique : ∀ s', sources s' → contentHash s' = contentHash s → s' = s)
    (hartifact : ∀ node, t'.node? (spot r above s ++ [Role.artifact.file name kind]) = some node →
      ∃ content, node = .file content ∧ made kind s = some content)
    (hsource : t'.node? (spot r above s ++ [Role.source.file name kind]) ≠ some .directory) :
    Faithful made sources process (staged + 1) r t' := by
  refine ⟨?_, ?_, ?_, ?_, ?_⟩
  · exact not_isFileAt_of_grown hg not_ownFile_host h.host
  · intro x y hy
    exact not_isFileAt_of_grown hg (not_ownFile_hash hy) (h.hash hy)
  · intro above' s' name' kind' node hab hs hn
    by_cases hp : OwnFile r above s name kind process staged
        (spot r above' s' ++ [Role.artifact.file name' kind'])
    · obtain ⟨-, rfl, hhash, rfl, rfl⟩ := hp.of_file
      obtain rfl := hunique s' hs hhash
      exact hartifact node hn
    · rw [node?_file_of_grown hg ha hp] at hn
      exact h.artifact hab hs hn
  · intro above' s' name' kind' hab
    by_cases hp : OwnFile r above s name kind process staged
        (spot r above' s' ++ [Role.source.file name' kind'])
    · obtain ⟨-, rfl, hhash, rfl, rfl⟩ := hp.of_file
      rw [spot, hhash]
      exact hsource
    · rw [node?_file_of_grown hg ha hp]
      exact h.source hab
  · intro above' s' name' kind' number hab hnumber
    have hp : ¬ OwnFile r above s name kind process staged
        (spot r above' s' ++ [(Role.staging process number).file name' kind']) := by
      intro hp
      have := hp.of_file.1
      simp only [Role.ofCall, List.mem_cons, reduceCtorEq, Role.staging.injEq, true_and,
        List.not_mem_nil, or_false, false_or] at this
      omega
    rw [node?_file_of_grown hg ha hp]
    exact h.staging hab (by omega)

end Growth

end Cache

end Interpose
