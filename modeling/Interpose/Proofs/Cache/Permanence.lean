import Interpose.Proofs.Cache.Call
import Interpose.Proofs.Text.Utf16

/-!
# The first success is permanent

With caching on, an artifact that is in place is never replaced. A call of other files cannot touch
it, since the name of a file tells its role and whose it is; and a call of the same files finds it
and is a hit (`answer_keeps_artifact`). So whatever calls come in between, a later call for the same
host, name, kind and source is answered with the body that the first success gave
(`first_success_is_permanent`).

The one subtle case is a call of the same place by another path: hosts of one or two points lead to
other depths, and under a root at the top both lead to the same one. Then the place is there by
either path (`directoryAt_of_same_place`), and only the length of a path can keep it from being
read; but a path that is too long for the artifact is too long for its source, which is written
first.
-/

namespace Interpose.Cache

open Interpose.Path FileTree

/-! ## One place by two paths -/

/-- Where the directory of a key is there, so are the root and the directory above, and the last
step leads down from it. -/
theorem exists_above_of_directoryAt {t : FileTree} {root : String} {key : Key} {d : Place}
    (hhost : '/' ∉ key.host.toList) (hhash : IsComponent key.hash)
    (h : t.DirectoryAt (key.directory root) d) :
    ∃ r above, t.walkFrom (t.start root) (steps root) = .ok r ∧ t.node? r = some .directory ∧
      t.walkFrom r (steps key.host) = .ok above ∧ t.node? above = some .directory ∧
      key.hash.utf8ByteSize ≤ nameLimit ∧ d = above ++ [key.hash] := by
  have hw := h.walk
  rw [Key.start_directory hhost hhash, Key.steps_directory hhost hhash,
    walkFrom_append_eq_ok] at hw
  obtain ⟨r, hr, hw⟩ := hw
  obtain ⟨above, ha, hl⟩ := walkFrom_append_eq_ok.mp hw
  obtain ⟨hdir, hsize, hd⟩ := (walkFrom_singleton_eq_ok hhash.ne_dots).mp hl
  refine ⟨r, above, hr, ?_, ha, hdir, hsize, hd⟩
  cases hs : steps key.host with
  | nil =>
    rw [hs] at ha
    obtain rfl : r = above := Except.ok.inj ha
    exact hdir
  | cons name rest =>
    rw [hs] at ha
    exact (walkFrom_cons_eq_ok.mp ha).1

/-- A host that leads from the root to a place to which another host leads does so by an open
way. -/
theorem walkFrom_host_of_same {t : FileTree} {r above : Place} {host host' : String}
    (hs : '/' ∉ host.toList) (hne : host ≠ "") (hs' : '/' ∉ host'.toList) (hne' : host' ≠ "")
    (hr : t.node? r = some .directory) (h : t.walkFrom r (steps host) = .ok above)
    (hgoal : goal r (steps host') = above) : t.walkFrom r (steps host') = .ok above := by
  rcases steps_host hs' hne' with ⟨-, he'⟩ | ⟨-, he'⟩
  · rw [he'] at hgoal ⊢
    exact congrArg Except.ok hgoal
  · rw [he'] at hgoal ⊢
    refine walkFrom_cons_eq_ok.mpr ⟨hr, ?_, congrArg Except.ok hgoal⟩
    by_cases hd' : host' = ".."
    · exact Or.inl hd'
    -- a step down from the root can only be the other host's own
    rw [goal_cons, goal_nil, next_of_ne hd'] at hgoal
    have hlen := congrArg List.length hgoal
    rw [List.length_append, List.length_singleton] at hlen
    rcases steps_host hs hne with ⟨-, he⟩ | ⟨-, he⟩
    · rw [he] at h
      obtain rfl : r = above := Except.ok.inj h
      omega
    · rw [he] at h
      obtain ⟨-, hwalk, hlast⟩ := walkFrom_cons_eq_ok.mp h
      obtain rfl : next r host = above := Except.ok.inj hlast
      by_cases hd : host = ".."
      · rw [next, if_pos hd, List.length_dropLast] at hlen
        omega
      · rw [next_of_ne hd] at hgoal
        obtain rfl := (List.cons.inj (List.append_cancel_left hgoal)).1
        exact hwalk

theorem directoryAt_of_same_place {t : FileTree} {root : String} {key key' : Key} {d : Place}
    (hhost : '/' ∉ key.host.toList) (hne : key.host ≠ "") (hhash : IsComponent key.hash)
    (hhost' : '/' ∉ key'.host.toList) (hne' : key'.host ≠ "") (hhash' : IsComponent key'.hash)
    (h : t.DirectoryAt (key.directory root) d) (hd : t.placeOf (key'.directory root) = d) :
    t.DirectoryAt (key'.directory root) d := by
  obtain ⟨r, above, hr, hrdir, ha, hadir, hsize, rfl⟩ :=
    exists_above_of_directoryAt hhost hhash h
  have hroot := eq_goal_of_walkFrom hr
  rw [placeOf, Key.start_directory hhost' hhash', Key.steps_directory hhost' hhash', goal_append,
    goal_append, goal_cons, goal_nil, next_of_ne hhash'.ne_dots, ← hroot] at hd
  obtain ⟨habove, hhashes⟩ := List.append_inj' hd (by simp)
  have hhashes : key'.hash = key.hash := (List.cons.inj hhashes).1
  refine ⟨?_, h.node⟩
  rw [Key.start_directory hhost' hhash', Key.steps_directory hhost' hhash']
  refine walkFrom_append_eq_ok.mpr ⟨r, hr, walkFrom_append_eq_ok.mpr ⟨above, ?_, ?_⟩⟩
  · exact walkFrom_host_of_same hhost hne hhost' hne' hrdir ha habove
  · exact (walkFrom_singleton_eq_ok hhash'.ne_dots).mpr ⟨hadir, by rw [hhashes]; exact hsize,
      by rw [hhashes]⟩

/-- A call that misses although a file is in its artifact's place, and its directory is there,
leaves the file as it is: it cannot even write its source. -/
theorem answerMiss_keeps {settings : Settings} {tool : Tool} {store : Store} {call : Call}
    {name : String} {kind : Kind} {process number : Nat} {url path : String} {body : Bytes}
    (hf : call.FilesOf name kind process number) (hs : steps call.directory ≠ [])
    (hdir : store.tree.DirectoryAt call.directory (store.tree.placeOf call.directory))
    (hmiss : store.tree.isFile call.artifact = false)
    (hplace : store.tree.placeOf path = store.tree.placeOf call.artifact)
    (h : store.tree.read path = .ok body) :
    (answerMiss settings tool store call kind url).store.tree.read path = .ok body := by
  obtain ⟨trace, fault, -, he⟩ | ⟨t, hm, ⟨trace, fault, -, he⟩ | ⟨trace, t', hw, he⟩⟩ :=
    answerMiss_cases settings tool store call kind url
  · rw [he]
    exact (grow_grown _ _ fun _ => False).read id h
  · rw [he]
    exact ((madeAlong_of_makeDirectories hs hm).1.grown fun _ => False).read id h
  · obtain ⟨-, hat⟩ := madeAlong_of_makeDirectories hs hm
    rw [hf.source] at hw
    have hfits : Fits call.directory (Role.artifact.file name kind) :=
      Fits.of_append (hf.isComponent .artifact)
        ((write_join_eq_ok hat (hf.isComponent .source)).mp hw).1
    obtain ⟨p, hp, hfile⟩ := read_eq_ok.mp h
    obtain rfl := eq_placeOf_of_walk hp
    rw [hplace, hf.placeOf_artifact] at hfile
    have hhit := (isFile_join hdir (hf.isComponent .artifact)).mpr ⟨hfits, body, hfile⟩
    rw [← hf.artifact, hmiss] at hhit
    cases hhit

/-! ## Runs of calls -/

/-- A call to be made of a store: when, with what tool, and for what. -/
structure Ask where
  now : Instant
  tool : Tool
  request : Request
  body : Bytes
  kind : Kind

namespace Ask

/-- What a store answers. -/
def answer (ask : Ask) (settings : Settings) (store : Store) : Answer Instrumented :=
  instrument settings ask.tool { store with now := ask.now } ask.request ask.body ask.kind

/-- The place in the cache of what is asked for. -/
def key (ask : Ask) : Key := Key.of ask.request.host (normalize ask.body)

/-- The name of the artifact asked for. -/
def name (ask : Ask) : String := artifactName ask.request.pathComponents

/-- The path of the artifact asked for. -/
def artifact (ask : Ask) (root : String) : String :=
  join (ask.key.directory root) (artifactFile ask.name ask.kind)

/-- What the call for it works with. -/
def call (ask : Ask) (settings : Settings) (store : Store) : Call :=
  Call.of settings { store with now := ask.now } ask.request ask.body ask.kind

variable {settings : Settings} {store : Store}

theorem call_directory (ask : Ask) (settings : Settings) (store : Store) :
    (ask.call settings store).directory = ask.key.directory settings.root := by
  simp only [call, Call.of, key]

theorem call_artifact (ask : Ask) (settings : Settings) (store : Store) :
    (ask.call settings store).artifact = ask.artifact settings.root := by
  simp only [call, Call.of, artifact, key, name]

theorem call_filesOf (ask : Ask) (settings : Settings) (store : Store) :
    (ask.call settings store).FilesOf ask.name ask.kind store.process store.staged :=
  Cache.call_filesOf settings { store with now := ask.now } ask.request ask.body ask.kind

theorem isComponent_artifactFile (ask : Ask) : IsComponent (artifactFile ask.name ask.kind) :=
  isComponent_file .artifact ask.kind (slash_not_mem_artifactName _)

theorem directoryAt_of_same_place {ask other : Ask} {t : FileTree} {root : String} {d : Place}
    (h : t.DirectoryAt (ask.key.directory root) d)
    (hd : t.placeOf (other.key.directory root) = d) :
    t.DirectoryAt (other.key.directory root) d :=
  Cache.directoryAt_of_same_place (Key.slash_not_mem_host _ _) (Key.host_ne_empty _ _)
    (isComponent_contentHash _) (Key.slash_not_mem_host _ _) (Key.host_ne_empty _ _)
    (isComponent_contentHash _) h hd

theorem read_of_answer {ask : Ask} {i : Instrumented}
    (h : (ask.answer settings store).result = .ok i) :
    i.artifact = ask.artifact settings.root ∧
      (ask.answer settings store).store.tree.read (ask.artifact settings.root) = .ok i.body := by
  rw [← ask.call_artifact settings store]
  exact read_of_instrument h

theorem answer_eq_hit {ask : Ask} (hcache : settings.useCache = true) {body : Bytes}
    (h : store.tree.read (ask.artifact settings.root) = .ok body) :
    (ask.answer settings store).result = .ok ⟨body, true, ask.artifact settings.root⟩ ∧
      (ask.answer settings store).store = { store with now := ask.now } ∧
      (ask.answer settings store).trace.jobs = [] := by
  rw [← ask.call_artifact settings store] at h ⊢
  exact instrument_eq_hit hcache h

/-- A call is a hit, which changes nothing, or has no artifact to answer from. -/
theorem answer_store_cases (hcache : settings.useCache = true) (ask : Ask) (store : Store) :
    (ask.answer settings store).store = { store with now := ask.now } ∨
      store.tree.isFile (ask.call settings store).artifact = false ∧
        (ask.answer settings store).store = (answerMiss settings ask.tool
          { store with now := ask.now } (ask.call settings store) ask.kind
          ask.request.clientUrl).store := by
  unfold answer instrument call
  simp only [hcache, Bool.true_and, Answer.after]
  split
  · exact Or.inl (answerHit_store _)
  · rename_i hmiss
    exact Or.inr ⟨Bool.eq_false_iff.mpr hmiss, rfl⟩

/-- A call makes the directories on its way and changes its own files only. -/
theorem answer_grown {ask : Ask} (htool : ask.tool.Confined) :
    GrownAt (onWay store.tree (ask.call settings store).directory)
      ((ask.call settings store).Touches store.tree) store.tree
      (ask.answer settings store).store.tree :=
  instrument_grown htool settings { store with now := ask.now } ask.request ask.body ask.kind

end Ask

/-- The store after calls one after the other. -/
def Store.answerAll (store : Store) (settings : Settings) (asks : List Ask) : Store :=
  asks.foldl (fun store ask => (ask.answer settings store).store) store

/-- One call leaves every artifact that is in place as it is. -/
theorem answer_keeps_artifact {settings : Settings} (hcache : settings.useCache = true)
    {store : Store} {ask other : Ask} (hother : other.tool.Confined) {body : Bytes}
    (h : store.tree.read (ask.artifact settings.root) = .ok body) :
    (other.answer settings store).store.tree.read (ask.artifact settings.root) = .ok body := by
  by_cases ht : (other.call settings store).Touches store.tree
      (store.tree.placeOf (ask.artifact settings.root))
  · have hf := other.call_filesOf settings store
    obtain ⟨r, -, hr⟩ := hf.exists_role ht
    rw [Ask.artifact, placeOf_join _ ask.isComponent_artifactFile, Ask.call_directory] at hr
    obtain ⟨hplace, hfile⟩ := List.append_inj' hr (by simp)
    have hfile : artifactFile ask.name ask.kind = r.file other.name other.kind :=
      (List.cons.inj hfile).1
    obtain ⟨rfl, -, -⟩ := Role.file_injective (r := .artifact) hfile
    rcases other.answer_store_cases hcache store with he | ⟨hmiss, he⟩
    · rw [he]
      exact h
    · rw [he]
      obtain ⟨p, hp, -⟩ := read_eq_ok.mp h
      have hdir := directoryAt_of_walk ask.isComponent_artifactFile hp
      refine answerMiss_keeps hf ?_ ?_ hmiss ?_ h
      · rw [Ask.call_directory]
        exact Key.steps_directory_ne_nil _ _ _
      · rw [Ask.call_directory]
        rw [hplace] at hdir
        exact Ask.directoryAt_of_same_place hdir rfl
      · dsimp only
        rw [hf.placeOf_artifact, Ask.artifact, placeOf_join _ ask.isComponent_artifactFile, hfile,
          Ask.call_directory, hplace]
  · exact (Ask.answer_grown hother).read ht h

theorem answerAll_keeps_artifact {settings : Settings} (hcache : settings.useCache = true)
    {asks : List Ask} (hasks : ∀ other ∈ asks, other.tool.Confined) {store : Store} {ask : Ask}
    {body : Bytes} (h : store.tree.read (ask.artifact settings.root) = .ok body) :
    (store.answerAll settings asks).tree.read (ask.artifact settings.root) = .ok body := by
  induction asks generalizing store with
  | nil => exact h
  | cons other rest ih =>
    have hother := answer_keeps_artifact hcache (hasks other (by simp)) h
    exact ih (fun a ha => hasks a (by simp [ha])) hother

/-! ## Calls for the same artifact -/

/-- Two sources that normalizing makes one: they have the same normalized form, or are the same text
in two encodings. -/
def SameSource (a b : Bytes) : Prop :=
  normalize a = normalize b ∨
    ∃ (text : String) (e e' : Encoding), a = e.write text ∧ b = e'.write text

theorem SameSource.normalize_eq {a b : Bytes} (h : SameSource a b) : normalize a = normalize b := by
  rcases h with h | ⟨text, e, e', rfl, rfl⟩
  · exact h
  · rw [normalize_write, normalize_write]

/-- Two calls for one artifact: they agree in host, artifact name, kind and source. -/
structure Ask.Same (a b : Ask) : Prop where
  host : a.request.host = b.request.host
  name : a.name = b.name
  kind : a.kind = b.kind
  source : SameSource a.body b.body

theorem Ask.Same.artifact {a b : Ask} (h : a.Same b) (root : String) :
    a.artifact root = b.artifact root := by
  unfold Ask.artifact Ask.key
  rw [h.host, h.name, h.kind, h.source.normalize_eq]

/-- **The first success is permanent.** Once a call has been answered with a body, every later call
for the same artifact is a hit with that body: it runs no tool and changes nothing, whatever calls
with whatever tools come in between. -/
theorem first_success_is_permanent (settings : Settings) (hcache : settings.useCache = true)
    (store : Store) (first later : Ask) (between : List Ask) (i : Instrumented)
    (hfirst : (first.answer settings store).result = .ok i)
    (hbetween : ∀ ask ∈ between, ask.tool.Confined) (hsame : first.Same later) :
    (later.answer settings (store.answerAll settings (first :: between))).result =
        .ok { i with hit := true } ∧
      (later.answer settings (store.answerAll settings (first :: between))).store =
        { store.answerAll settings (first :: between) with now := later.now } ∧
      (later.answer settings (store.answerAll settings (first :: between))).trace.jobs = [] := by
  obtain ⟨hi, hread⟩ := Ask.read_of_answer hfirst
  have hthere : (store.answerAll settings (first :: between)).tree.read
      (first.artifact settings.root) = .ok i.body :=
    answerAll_keeps_artifact hcache hbetween hread
  rw [hi]
  rw [hsame.artifact] at hthere ⊢
  exact Ask.answer_eq_hit hcache hthere

/-- A script that was instrumented once is a hit when it comes again in UTF-16, although the tool
now fails, and failed on another script in between. -/
theorem first_success_is_permanent_for_utf16 :
    let settings : Settings := ⟨"cache", true, "coverage"⟩
    let good := Tool.leaving fun _ => (.file (Bytes.ofText "b"), .ok ())
    let bad := Tool.leaving fun _ => (.directory, .error .noResponse)
    let first : Ask := ⟨⟨0, 0, 0⟩, good, { url := "x://h/app.js" }, Bytes.ofText "a", .script⟩
    let other : Ask := ⟨⟨0, 1, 0⟩, bad, { url := "x://h/app.js.src" }, Bytes.ofText "c", .script⟩
    let later : Ask :=
      ⟨⟨0, 2, 0⟩, bad, { url := "x://h/1/app.js" }, Utf16.encode .bigEndian "a", .script⟩
    let store : Store := { tree := {}, now := ⟨0, 0, 0⟩, process := 7 }
    let i : Instrumented :=
      ⟨Bytes.ofText "b", false, "cache/h/ca978112ca1bbdcafac231b39a23dc4d/app.js"⟩
    (later.answer settings (store.answerAll settings [first, other])).result =
        .ok { i with hit := true } ∧
      (later.answer settings (store.answerAll settings [first, other])).store =
        { store.answerAll settings [first, other] with now := later.now } ∧
      (later.answer settings (store.answerAll settings [first, other])).trace.jobs = [] := by
  intro settings good bad first other later store i
  have hfirst : (first.answer settings store).result.toOption = some i := by decide +kernel
  have hbetween : ∀ ask ∈ [other], ask.tool.Confined := by
    intro ask ha
    obtain rfl := List.mem_singleton.mp ha
    exact Tool.leaving_confined _
  have hsame : first.Same later :=
    ⟨by decide +kernel, by decide +kernel, rfl,
      Or.inr ⟨"a", .utf8, .utf16 .bigEndian, rfl, rfl⟩⟩
  exact first_success_is_permanent settings rfl store first later [other] i
    (eq_ok_of_toOption hfirst) hbetween hsame

end Interpose.Cache
