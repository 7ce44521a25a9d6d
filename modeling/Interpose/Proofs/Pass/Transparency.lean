import Interpose.Proofs.Cache.Settled
import Interpose.Proofs.Pass.Ending

/-!
# The cache does not show

Of the store and the tool, a pass takes only the instrumented body (`Pass.run_congr`). With a tool
that makes of each kind and source always the same artifact, or none, that is the same on every
settled store, with caching on or off (`instrumented_settled`). So flows that are replayed one after
the other come out as each would alone, without caching, in whatever order they are replayed
(`replayEach_eq_alone`).

A host of two points is left out: its directory is beside the root and not below it, where anything
may stand.
-/

namespace Interpose

open Cache (Store Settled EmptyRoot Fitting)

/-- The source that a pass over a flow may hand to the tool. -/
def Flow.source? (f : Flow) : Option Bytes := f.decoded?.map fun r => normalize r.body

/-! ## Passes on settled stores -/

/-- A proxy with caching on or off. -/
def Proxy.caching (proxy : Proxy) (useCache : Bool) : Proxy :=
  { proxy with settings := { proxy.settings with useCache } }

/-- Replay flows one after the other, each at its time, on the store that the one before left. -/
def Flow.replayEach (proxy : Proxy) : Store → List (Instant × Flow) → List (Outcome × Flow)
  | _, [] => []
  | store, (now, f) :: rest =>
    let r := f.replay proxy { store with now }
    (r.outcome, r.flow) :: replayEach proxy r.store rest

/-- What a flow comes to when it is replayed alone, without caching. -/
def Flow.alone (proxy : Proxy) (store : Store) (f : Flow) : Outcome × Flow :=
  let r := f.replay (proxy.caching false) store
  (r.outcome, r.flow)

variable {proxy : Proxy} {made : Kind → Bytes → Option Bytes} {sources : Bytes → Prop}
  {store : Store} {bound : Nat} {request : Request} {body : Bytes}

/-- On a settled store, a body becomes what the tool makes of its source, or stays as it is. -/
theorem instrumented_settled (htool : proxy.tool.Makes made)
    (hstore : Settled made sources proxy.settings.root store) (hdots : request.host ≠ some "..")
    (hfit : Fitting proxy.settings.root store.process bound request (normalize body))
    (hbound : store.staged < bound) (hsource : sources (normalize body))
    (hunique : ∀ s, sources s → contentHash s = contentHash (normalize body) → s = normalize body)
    (kind : Kind) :
    (Pass.instrumented proxy store request body kind).2.2 =
        (made kind (normalize body)).getD body ∧
      Settled made sources proxy.settings.root
        (Pass.instrumented proxy store request body kind).1 ∧
      (Pass.instrumented proxy store request body kind).1.process = store.process ∧
      (Pass.instrumented proxy store request body kind).1.staged ≤ store.staged + 1 := by
  obtain ⟨hmade, hrest⟩ :=
    Cache.instrument_settled htool hstore hdots hfit hbound hsource hunique kind
  rw [Pass.instrumented_store, Pass.instrumented_body, hmade]
  exact ⟨rfl, hrest⟩

/-- A replay on a settled store serves what the tool makes, and leaves a settled store. -/
theorem replay_settled {f : Flow} (proxy : Proxy) (store : Store) (htool : proxy.tool.Makes made)
    (hstore : Settled made sources proxy.settings.root store) (hbound : store.staged < bound)
    (hdots : ∀ s, f.source? = some s → f.preprocess.request.host ≠ some "..")
    (hfit : ∀ s, f.source? = some s →
      Fitting proxy.settings.root store.process bound f.preprocess.request s)
    (hsource : ∀ s, f.source? = some s → sources s ∧
      ∀ s', sources s' → contentHash s' = contentHash s → s' = s) :
    (∀ r, f.preprocess.decoded? = some r → ∀ kind,
      (Pass.instrumented proxy store f.preprocess.request r.body kind).2.2 =
        (made kind (normalize r.body)).getD r.body) ∧
      Settled made sources proxy.settings.root (f.replay proxy store).store ∧
      (f.replay proxy store).store.process = store.process ∧
      (f.replay proxy store).store.staged ≤ store.staged + 1 := by
  have served : ∀ r, f.preprocess.decoded? = some r → ∀ kind, _ := fun r hr kind =>
    have hs : f.source? = some (normalize r.body) := congrArg (Option.map _) hr
    instrumented_settled htool hstore (hdots _ hs) (hfit _ hs) hbound (hsource _ hs).1
      (hsource _ hs).2 kind
  refine ⟨fun r hr kind => (served r hr kind).1, ?_⟩
  exact Pass.run_store
    (P := fun store' => Settled made sources proxy.settings.root store' ∧
      store'.process = store.process ∧ store'.staged ≤ store.staged + 1)
    ⟨hstore, rfl, Nat.le_succ _⟩ (fun r hr kind => (served r hr kind).2)

/-- On any settled store, with caching on or off, a replay comes to what it does alone. -/
theorem replay_eq_alone {f : Flow} {store' : Store} (useCache : Bool)
    (h : ∀ r, f.preprocess.decoded? = some r → ∀ kind,
      (Pass.instrumented (proxy.caching useCache) store f.preprocess.request r.body kind).2.2 =
        (made kind (normalize r.body)).getD r.body)
    (halone : ∀ r, f.preprocess.decoded? = some r → ∀ kind,
      (Pass.instrumented (proxy.caching false) store' f.preprocess.request r.body kind).2.2 =
        (made kind (normalize r.body)).getD r.body) :
    ((f.replay (proxy.caching useCache) store).outcome,
      (f.replay (proxy.caching useCache) store).flow) = f.alone proxy store' := by
  have hrun := Pass.run_congr (proxy.caching useCache) (proxy.caching false) store store' rfl rfl
    fun r hr kind => (h r hr kind).trans (halone r hr kind).symm
  exact Prod.ext hrun.1 hrun.2

/-- Replayed one after the other on a settled store, flows come out as each would alone on another.
-/
theorem replayEach_eq_alone {store₀ : Store} (htool : proxy.tool.Makes made)
    (hstore : Settled made sources proxy.settings.root store)
    (hstore₀ : Settled made sources proxy.settings.root store₀) (useCache : Bool)
    (hprocess : store.process = store₀.process) (hbound₀ : store₀.staged < bound)
    (arrivals : List (Instant × Flow)) (hbound : store.staged + arrivals.length ≤ bound)
    (hdots : ∀ a ∈ arrivals, ∀ s, a.2.source? = some s → a.2.preprocess.request.host ≠ some "..")
    (hfit : ∀ a ∈ arrivals, ∀ s, a.2.source? = some s →
      Fitting proxy.settings.root store₀.process bound a.2.preprocess.request s)
    (hsource : ∀ a ∈ arrivals, ∀ s, a.2.source? = some s → sources s ∧
      ∀ s', sources s' → contentHash s' = contentHash s → s' = s) :
    Flow.replayEach (proxy.caching useCache) store arrivals =
      arrivals.map fun a => a.2.alone proxy store₀ := by
  induction arrivals generalizing store with
  | nil => rfl
  | cons first rest ih =>
    rw [List.forall_mem_cons] at hdots hfit hsource
    rw [List.length_cons] at hbound
    have hlt : store.staged < bound := by omega
    have hfit' := hfit.1
    rw [← hprocess] at hfit'
    obtain ⟨hserved, hnext, hprocess', hstaged⟩ := replay_settled (proxy.caching useCache)
      { store with now := first.1 } htool hstore hlt hdots.1 hfit' hsource.1
    obtain ⟨hserved₀, -⟩ := replay_settled (proxy.caching false) store₀ htool hstore₀ hbound₀
      hdots.1 hfit.1 hsource.1
    rw [List.map_cons, ← replay_eq_alone useCache hserved hserved₀]
    have hrest : (first.2.replay (proxy.caching useCache)
        { store with now := first.1 }).store.staged + rest.length ≤ bound := by
      dsimp only at hstaged
      omega
    exact congrArg _ (ih hnext (hprocess'.trans hprocess) hrest hdots.2 hfit.2 hsource.2)

/-- **Caching does not show.** Let a tool make of each kind and source always the same artifact, or
none. On an empty root, flows come out with caching as they do without, and each flow comes out as
it would alone, in whatever order and at whatever times the flows arrive. -/
theorem caching_is_transparent (proxy : Proxy) (made : Kind → Bytes → Option Bytes) (store : Store)
    (arrivals : List (Instant × Flow)) (htool : proxy.tool.Makes made)
    (hroot : EmptyRoot proxy.settings.root store.tree)
    (hdots : ∀ a ∈ arrivals, ∀ s, a.2.source? = some s → a.2.preprocess.request.host ≠ some "..")
    (hfit : ∀ a ∈ arrivals, ∀ s, a.2.source? = some s →
      Fitting proxy.settings.root store.process (store.staged + arrivals.length)
        a.2.preprocess.request s)
    (hhash : ∀ a ∈ arrivals, ∀ b ∈ arrivals, ∀ s s', a.2.source? = some s → b.2.source? = some s' →
      contentHash s = contentHash s' → s = s') :
    Flow.replayEach (proxy.caching true) store arrivals =
        Flow.replayEach (proxy.caching false) store arrivals ∧
      ∀ (useCache : Bool) (order : List (Instant × Flow)),
        (order.map (·.2)).Perm (arrivals.map (·.2)) →
          Flow.replayEach (proxy.caching useCache) store order =
            order.map fun a => a.2.alone proxy store := by
  have hstore : Settled made (fun s => ∃ b ∈ arrivals, b.2.source? = some s)
      proxy.settings.root store := hroot.settled
  have each : ∀ (useCache : Bool) (order : List (Instant × Flow)),
      (order.map (·.2)).Perm (arrivals.map (·.2)) →
        Flow.replayEach (proxy.caching useCache) store order =
          order.map fun a => a.2.alone proxy store := by
    intro useCache order horder
    have hlen : order.length = arrivals.length := by simpa using horder.length_eq
    -- a flow of the one order is a flow of the other, though maybe at another time
    have hflow : ∀ a ∈ order, ∃ b ∈ arrivals, b.2 = a.2 := fun a ha =>
      List.mem_map.mp (horder.subset (List.mem_map_of_mem ha))
    cases order with
    | nil => rfl
    | cons first rest =>
      have hbound : store.staged + (first :: rest).length ≤ store.staged + arrivals.length := by
        omega
      refine replayEach_eq_alone htool hstore hstore useCache rfl ?_ (first :: rest) hbound ?_ ?_ ?_
      · rw [← hlen, List.length_cons]
        omega
      · intro a ha
        obtain ⟨b, hb, he⟩ := hflow a ha
        exact he ▸ hdots b hb
      · intro a ha
        obtain ⟨b, hb, he⟩ := hflow a ha
        exact he ▸ hfit b hb
      · intro a ha s hs
        obtain ⟨b, hb, he⟩ := hflow a ha
        rw [← he] at hs
        exact ⟨⟨b, hb, hs⟩, fun s' ⟨b', hb', hs'⟩ hsame => hhash b' hb' b hb s' s hs' hs hsame⟩
  exact ⟨(each true arrivals (List.Perm.refl _)).trans (each false arrivals (List.Perm.refl _)).symm,
    each⟩

/-- A script that is asked for twice comes out the same with caching and without, around a page on
which the tool fails and leaves a directory. -/
theorem caching_is_transparent_for_scripts :
    let tool := Tool.leaving fun job => match job.kind with
      | .script => (.file (47 :: job.source), .ok ())
      | .html => (.directory, .error .noResponse)
    let proxy : Proxy := ⟨⟨"cache", true, "coverage"⟩, {}, tool, fun _ => ⟨false, []⟩⟩
    let store : Store := { tree := {}, now := ⟨0, 0, 0⟩, process := 7 }
    let flow (url : String) (body : Bytes) : Flow :=
      { request := { url }, response := some { status := 200, body } }
    let arrivals : List (Instant × Flow) :=
      [(⟨0, 0, 0⟩, flow "x://h/app.js" [97]), (⟨0, 1, 0⟩, flow "x://h/app.html" [98]),
        (⟨0, 2, 0⟩, flow "x://h/1/app.js" [97])]
    Flow.replayEach (proxy.caching true) store arrivals =
        Flow.replayEach (proxy.caching false) store arrivals ∧
      ∀ (useCache : Bool) (order : List (Instant × Flow)),
        (order.map (·.2)).Perm (arrivals.map (·.2)) →
          Flow.replayEach (proxy.caching useCache) store order =
            order.map fun a => a.2.alone proxy store := by
  intro tool proxy store flow arrivals
  let made : Kind → Bytes → Option Bytes := fun kind s =>
    match kind with
    | .script => some (47 :: s)
    | .html => none
  have htool : proxy.tool.Makes made := by
    refine Tool.leaving_makes fun job => ?_
    obtain ⟨kind, source, output, mode, url⟩ := job
    cases kind with
    | script => exact rfl
    | html => exact nofun
  have hroot : EmptyRoot proxy.settings.root store.tree := by
    have hplace : store.tree.placeOf proxy.settings.root = ["cache"] := by decide +kernel
    have hmade : (store.tree.makeDirectories proxy.settings.root).toOption =
        some ⟨[(["cache"], .directory)], []⟩ := by decide +kernel
    refine ⟨_, FileTree.eq_ok_of_toOption hmade, by rw [hplace]; rfl, fun p hp => ?_⟩
    simp [hplace, FileTree.node?, hp]
  have hsources : ∀ a ∈ arrivals, a.2.source? = some [97] ∨ a.2.source? = some [98] := by
    decide +kernel
  have hhost : ∀ a ∈ arrivals, a.2.preprocess.request.host = some "h" := by decide +kernel
  have hname : ∀ a ∈ arrivals,
      Cache.artifactName a.2.preprocess.request.pathComponents = "app" := by decide +kernel
  have hhashes : contentHash [97] = "ca978112ca1bbdcafac231b39a23dc4d" ∧
      contentHash [98] = "3e23e8160039594a33894f6564e1b134" := by decide +kernel
  have hdirectory : ∀ hash ∈ ["ca978112ca1bbdcafac231b39a23dc4d",
      "3e23e8160039594a33894f6564e1b134"],
      ((Cache.Key.mk "h" hash).directory proxy.settings.root).utf8ByteSize = 40 ∧
        '\x00' ∉ ((Cache.Key.mk "h" hash).directory proxy.settings.root).toList := by decide +kernel
  have hfiles : ∀ kind ∈ [Kind.html, .script], ∀ number < 3, ∀ role ∈ Cache.Role.ofCall 7 number,
      (role.file "app" kind).utf8ByteSize ≤ 20 ∧ '\x00' ∉ (role.file "app" kind).toList := by
    decide +kernel
  refine caching_is_transparent proxy made store arrivals htool hroot ?_ ?_ ?_
  · intro a ha s _
    rw [hhost a ha]
    decide
  · intro a ha s hs
    have hkey : Cache.Key.of a.2.preprocess.request.host s = ⟨"h", contentHash s⟩ := by
      rw [hhost a ha]
      simp [Cache.Key.of]
    obtain ⟨hsize, hzero⟩ := hdirectory (contentHash s) (by
      rcases hsources a ha with h | h <;> obtain rfl := Option.some.inj (h.symm.trans hs) <;>
        simp [hhashes])
    have hpath : FileTree.pathLimit = 4095 := rfl
    have hlimit : FileTree.nameLimit = 255 := rfl
    refine ⟨by rw [hkey]; exact show "h".utf8ByteSize ≤ _ by decide,
      fun kind number hnumber role hrole => ?_⟩
    obtain ⟨hfile, hclean⟩ := hfiles kind (by cases kind <;> simp) number hnumber role hrole
    rw [hkey, hname a ha]
    have hslash := Cache.slash_not_mem_file role kind (show '/' ∉ "app".toList by decide)
    exact FileTree.Fits.of_size hslash hzero hclean (by omega) (by omega)
  · intro a ha b hb s s' hs hs' hsame
    rcases hsources a ha with h | h <;> rcases hsources b hb with h' | h' <;>
      obtain rfl := Option.some.inj (h.symm.trans hs) <;>
      obtain rfl := Option.some.inj (h'.symm.trans hs') <;> simp [hhashes] at hsame ⊢

/-- The host of two points is a true exception. The root is empty, and yet an artifact is found: a
file that stands beside the root. -/
theorem not_transparent_for_parent_host :
    let tool := Tool.leaving fun job => (.file (47 :: job.source), .ok ())
    let proxy : Proxy := ⟨⟨"cache", true, "coverage"⟩, {}, tool, fun _ => ⟨false, []⟩⟩
    let beside := "ca978112ca1bbdcafac231b39a23dc4d"
    let tree : FileTree :=
      ⟨[(["cache"], .directory), ([beside], .directory), ([beside, "app.js"], .file [])], []⟩
    let store : Store := { tree, now := ⟨0, 0, 0⟩, process := 7 }
    let flow : Flow :=
      { request := { url := "x://../app.js" }, response := some { status := 200, body := [97] } }
    EmptyRoot proxy.settings.root store.tree ∧
      Flow.replayEach (proxy.caching true) store [(⟨0, 0, 0⟩, flow)] ≠
        Flow.replayEach (proxy.caching false) store [(⟨0, 0, 0⟩, flow)] := by
  intro tool proxy beside tree store flow
  have hplace : store.tree.placeOf proxy.settings.root = ["cache"] := by decide +kernel
  have hmade : (store.tree.makeDirectories proxy.settings.root).toOption = some tree := by
    decide +kernel
  refine ⟨⟨_, FileTree.eq_ok_of_toOption hmade, by rw [hplace]; rfl, fun p hp => ?_⟩, by
    decide +kernel⟩
  simp [hplace, tree, FileTree.node?, hp, beside]

end Interpose
