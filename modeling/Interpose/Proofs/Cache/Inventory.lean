import Interpose.Proofs.Cache.Ending
import Interpose.Proofs.Cache.Permanence
import Interpose.Proofs.Cache.Settled

/-!
# What a store holds after any calls

A `Visit` is a call that some process makes of the store below a root, with settings, a tool and a
time of its own. A `History` is the file tree that visits one after the other have left, and the
record of their results, the latest first.

`Inventory` tells what stands below the root after such a history. Regular files are artifacts,
their sources and metadata, each at the place of the visit it is for; a source has the hash that its
directory is named for; and an artifact has beside it its source, and the metadata of the latest
visit that published it. One visit keeps this (`Inventory.visit`), since it hits, fails or publishes;
so every history from an empty root does (`Inventory.run`).

The one condition is that no host leads up from the root.
-/

namespace Interpose.Cache

open Interpose.Path FileTree

/-! ## Slots -/

/-- The roles of the files that a call may leave. -/
def Role.lasting : List Role := [.artifact, .source, .metadata]

/-- What the files of an artifact are named for: the step of its host, which is none for a single
point, the hash, and the artifact's name and kind. -/
structure Slot where
  above : List String
  hash : String
  name : String
  kind : Kind
  deriving DecidableEq, Repr

namespace Slot

/-- The place of a file, given the place of the root. -/
def place (slot : Slot) (r : Place) (role : Role) : Place :=
  r ++ (slot.above ++ [slot.hash]) ++ [role.file slot.name slot.kind]

/-- The place of a file tells its slot and its role. -/
theorem place_injective {slot slot' : Slot} {r : Place} {role role' : Role}
    (h : slot.place r role = slot'.place r role') : slot = slot' ∧ role = role' := by
  obtain ⟨hd, hrole, hname, hkind⟩ := Role.place_injective h
  obtain ⟨habove, hhash⟩ := List.append_inj' (List.append_cancel_left hd) rfl
  cases slot
  cases slot'
  simp only [mk.injEq]
  exact ⟨⟨habove, (List.cons.inj hhash).1, hname, hkind⟩, hrole⟩

theorem place_ne_of_role {slot slot' : Slot} {r : Place} {role role' : Role} (h : role ≠ role') :
    slot.place r role ≠ slot'.place r role' :=
  fun he => h (place_injective he).2

end Slot

/-! ## Visits -/

/-- A call that a process makes of a store. -/
structure Visit extends Ask where
  useCache : Bool
  mode : String
  process : Nat
  staged : Nat

namespace Visit

/-- What the store answers on a file tree. -/
def answer (v : Visit) (root : String) (t : FileTree) : Answer Instrumented :=
  v.toAsk.answer ⟨root, v.useCache, v.mode⟩ ⟨t, v.now, v.process, v.staged⟩

/-- The path of a file that the visit is for. -/
def path (v : Visit) (root : String) (role : Role) : String :=
  join (v.key.directory root) (role.file v.name v.kind)

/-- The slot that the visit is for. -/
def slot (v : Visit) : Slot := ⟨steps v.key.host, v.key.hash, v.name, v.kind⟩

/-- The metadata that the visit records if it publishes. -/
def metadata (v : Visit) : Metadata := ⟨v.request.clientUrl, v.kind.extension, v.mode, v.now⟩

/-- What the call for the visit works with. -/
def call (v : Visit) (root : String) (t : FileTree) : Call :=
  v.toAsk.call ⟨root, v.useCache, v.mode⟩ ⟨t, v.now, v.process, v.staged⟩

theorem ends {v : Visit} (htool : v.tool.Leaves) (root : String) (t : FileTree) :
    (v.call root t).Ends v.name v.kind v.process v.staged v.metadata t
      (v.answer root t).store.tree (v.answer root t).result :=
  instrument_ends htool _ _ _ _ _

theorem filesOf (v : Visit) (root : String) (t : FileTree) :
    (v.call root t).FilesOf v.name v.kind v.process v.staged :=
  v.toAsk.call_filesOf _ _

theorem directory_call (v : Visit) (root : String) (t : FileTree) :
    (v.call root t).directory = v.key.directory root :=
  v.toAsk.call_directory _ _

theorem hash_slot (v : Visit) : v.slot.hash = contentHash (normalize v.body) := rfl

theorem isComponent_file (v : Visit) (role : Role) : IsComponent (role.file v.name v.kind) :=
  Cache.isComponent_file role v.kind (slash_not_mem_artifactName _)

theorem length_above (v : Visit) : v.slot.above.length ≤ 1 := by
  rcases steps_host (Key.slash_not_mem_host v.request (normalize v.body))
    (Key.host_ne_empty _ _) with ⟨-, he⟩ | ⟨-, he⟩
  all_goals
    rw [slot, Ask.key, he]
    simp

variable {v : Visit} {root : String}

/-- No step to the directory of a visit leads up, unless its host does. -/
theorem dots_not_mem (hhost : v.request.host ≠ some "..") :
    ".." ∉ v.slot.above ++ [v.slot.hash] := by
  rw [List.mem_append, List.mem_singleton, not_or]
  refine ⟨?_, (isComponent_contentHash (normalize v.body)).ne_dots.symm⟩
  rcases steps_host (Key.slash_not_mem_host v.request (normalize v.body))
    (Key.host_ne_empty _ _) with ⟨-, he⟩ | ⟨-, he⟩
  · rw [slot, Ask.key, he]
    simp
  · rw [slot, Ask.key, he, List.mem_singleton]
    exact fun hd => hhost ((Key.host_eq (by decide) (by decide)).mp hd.symm)

theorem start_directory (v : Visit) (root : String) (t : FileTree) :
    t.start (v.key.directory root) = t.start root :=
  Key.start_directory (Key.slash_not_mem_host _ _) (isComponent_contentHash _) t root

theorem steps_directory (v : Visit) (root : String) :
    steps (v.key.directory root) = steps root ++ (v.slot.above ++ [v.slot.hash]) := by
  have h := Key.steps_directory_of v.request (normalize v.body) root
  rw [hash_slot, slot, Ask.key]
  dsimp only
  rw [h]

theorem placeOf_directory (hhost : v.request.host ≠ some "..") (t : FileTree) :
    t.placeOf (v.key.directory root) = t.placeOf root ++ (v.slot.above ++ [v.slot.hash]) := by
  rw [placeOf, start_directory, steps_directory, goal_append, goal_eq_append (dots_not_mem hhost)]
  rfl

theorem placeOf_path (hhost : v.request.host ≠ some "..") (t : FileTree) (role : Role) :
    t.placeOf (v.path root role) = v.slot.place (t.placeOf root) role := by
  rw [path, placeOf_join t (v.isComponent_file role), placeOf_directory hhost]
  rfl

/-- The places below the root of the directories that a visit may make, by the names that lead there
from the root. -/
def Reaches (v : Visit) (root : String) (names : List String) : Prop :=
  isHopeless (v.key.directory root) = false ∧ names <+: v.slot.above ++ [v.slot.hash] ∧
    ∀ name ∈ names, Walkable name

theorem Reaches.onWay {names : List String} (h : v.Reaches root names) (r : Place) :
    OnWay r v.slot.above (normalize v.body) (r ++ names) :=
  ⟨names, h.2.1, rfl⟩

/-- The way to the directory of a visit leads to the root and from there down. -/
theorem onWay_or_reaches (hhost : v.request.host ≠ some "..") {t : FileTree} {p : Place}
    (hhopeless : isHopeless (v.key.directory root) = false)
    (h : inReach t (v.key.directory root) p) :
    onWay t root p ∨ ∃ names, v.Reaches root names ∧ p = t.placeOf root ++ names := by
  obtain ⟨front, hf, hwalk, rfl⟩ := h
  rw [steps_directory] at hf
  rw [start_directory]
  obtain ⟨rest, he⟩ := hf
  rcases List.append_eq_append_iff.mp he with ⟨more, hroot, -⟩ | ⟨below, rfl, hbelow⟩
  · exact Or.inl ⟨front, ⟨more, hroot.symm⟩, rfl⟩
  · have hb : below <+: v.slot.above ++ [v.slot.hash] := ⟨rest, hbelow.symm⟩
    rw [goal_append, goal_eq_append fun hm => dots_not_mem hhost (hb.subset hm)]
    have hnames : ∀ name ∈ below, Walkable name :=
      fun name hn => hwalk name (List.mem_append_right _ hn)
    exact Or.inr ⟨below, ⟨hhopeless, hb, hnames⟩, rfl⟩

end Visit

/-! ## Histories -/

/-- A visit and its result. -/
structure Record where
  visit : Visit
  result : Except Fault Instrumented

/-- Whether a visit published: it succeeded, and was no hit. -/
def Record.published (record : Record) : Bool :=
  match record.result with
  | .ok i => !i.hit
  | .error _ => false

/-- The latest visit that published for a slot. -/
def latest? (past : List Record) (slot : Slot) : Option Record :=
  past.find? fun record => record.published && record.visit.slot = slot

theorem latest?_eq_some {past : List Record} {slot : Slot} {record : Record}
    (h : latest? past slot = some record) :
    record ∈ past ∧ record.published = true ∧ record.visit.slot = slot := by
  have hp := List.find?_some h
  rw [Bool.and_eq_true, decide_eq_true_eq] at hp
  exact ⟨List.mem_of_find?_eq_some h, hp⟩

theorem latest?_cons_self {record : Record} (h : record.published = true) (past : List Record) :
    latest? (record :: past) record.visit.slot = some record :=
  List.find?_cons_of_pos (by simp [h])

theorem latest?_cons_of_ne {record : Record} {slot : Slot} (h : record.visit.slot ≠ slot)
    (past : List Record) : latest? (record :: past) slot = latest? past slot :=
  List.find?_cons_of_neg (by simp [h])

theorem latest?_cons_of_not {record : Record} (h : record.published = false) (past : List Record)
    (slot : Slot) : latest? (record :: past) slot = latest? past slot :=
  List.find?_cons_of_neg (by simp [h])

/-- A visit that published was answered. -/
theorem result_of_latest? {past : List Record} {slot : Slot} {record : Record}
    (h : latest? past slot = some record) : record ∈ past ∧ ∃ i, record.result = .ok i := by
  obtain ⟨hm, hpublished, -⟩ := latest?_eq_some h
  refine ⟨hm, ?_⟩
  cases hr : record.result with
  | ok i => exact ⟨i, rfl⟩
  | error fault => simp [Record.published, hr] at hpublished

/-- A file tree, and the visits that have made it what it is, the latest first. -/
structure History where
  tree : FileTree
  past : List Record := []

/-- The history with one more visit. -/
def History.visit (root : String) (h : History) (v : Visit) : History :=
  { tree := (v.answer root h.tree).store.tree
    past := ⟨v, (v.answer root h.tree).result⟩ :: h.past }

/-- The history of visits one after the other. -/
def History.run (root : String) (t : FileTree) (visits : List Visit) : History :=
  visits.foldl (History.visit root) { tree := t }

/-! ## The root -/

/-- A root that can be made: no file is in the way, and the way does not lead below the root. -/
structure Ground (root : String) (r : Place) (t : FileTree) : Prop where
  place : t.placeOf root = r
  path : isHopeless root = false
  names : ∀ name ∈ steps root, Walkable name
  free : ∀ {q}, onWay t root q → ¬ t.IsFileAt q
  outside : ∀ {q p}, onWay t root q → p ≠ [] → q ≠ r ++ p

variable {root : String} {r : Place} {origin t t' : FileTree} {past : List Record} {v : Visit}

theorem EmptyRoot.ground (h : EmptyRoot root t) :
    Ground root (t.placeOf root) t ∧ ∀ p, p ≠ [] → t.node? (t.placeOf root ++ p) = none := by
  obtain ⟨t', hm, hmade, hnode, hnone⟩ := h.exists_root
  refine ⟨⟨rfl, (makeDirectories_eq_ok.mp hm).1, walkable_of_walkFrom hmade.walk, ?_, ?_⟩, ?_⟩
  · rintro q hq ⟨content, hc⟩
    have hdir := node?_of_along hmade.walk hmade.node hq
    rcases hmade.onlyDirectories q with hsame | ⟨hbefore, -⟩
    · rw [hsame, hc] at hdir
      cases hdir
    · rw [hbefore] at hc
      cases hc
  · rintro q p hq hp rfl
    have hdir := node?_of_along hmade.walk hmade.node hq
    rw [hnone p hp] at hdir
    cases hdir
  · intro p hp
    rcases hmade.onlyDirectories (t.placeOf root ++ p) with hsame | ⟨hbefore, -⟩
    · rw [← hsame, hnone p hp]
    · exact hbefore

/-- Changes below the root leave the way to it as it was. -/
theorem Ground.grown (hg : Ground root r t) {ways files : Place → Prop} (h : GrownAt ways files t t')
    (hfiles : ∀ p, files p → ∃ q ≠ [], p = r ++ q) : Ground root r t' := by
  have hway : onWay t' root = onWay t root := by
    unfold onWay
    rw [h.changed.start]
  refine ⟨h.changed.placeOf root ▸ hg.place, hg.path, hg.names, ?_, ?_⟩
  · rintro q hq ⟨content, hc⟩
    rw [hway] at hq
    have hn : ¬ files q := by
      intro hf
      obtain ⟨p, hp, he⟩ := hfiles q hf
      exact hg.outside hq hp he
    exact hg.free hq ⟨content, h.file_before hn hc⟩
  · intro q p hq
    rw [hway] at hq
    exact hg.outside hq

/-! ## The inventory -/

/-- What stands in a file tree after some visits of a store whose root is at the place `r`, given
the tree from which they started. -/
structure Inventory (root : String) (r : Place) (origin : FileTree) (past : List Record)
    (t : FileTree) : Prop where
  hosts : ∀ record ∈ past, record.visit.request.host ≠ some ".."
  /-- Every regular file was there from the start, or is the artifact, source or metadata that some
  visit was for. -/
  file : ∀ {p content}, t.node? p = some (.file content) → origin.node? p = some (.file content) ∨
    ∃ record ∈ past, ∃ role ∈ Role.lasting, p = record.visit.slot.place r role
  /-- Every directory below the root is one that some visit may make on its way, or was left at the
  staging path of one. -/
  directory : ∀ {p}, p ≠ [] → t.node? (r ++ p) = some .directory → ∃ record ∈ past,
    record.visit.Reaches root p ∨
      r ++ p = record.visit.slot.place r (.staging record.visit.process record.visit.staged)
  /-- A source has the hash of its directory. -/
  source : ∀ {slot : Slot} {content}, t.node? (slot.place r .source) = some (.file content) →
    contentHash content = slot.hash
  /-- An artifact has beside it its source, and the metadata of the latest visit that published
  it. -/
  artifact : ∀ {slot : Slot} {content}, t.node? (slot.place r .artifact) = some (.file content) →
    (∃ source, t.node? (slot.place r .source) = some (.file source)) ∧
      ∃ record, latest? past slot = some record ∧ t.node? (slot.place r .metadata) =
        some (.file (Bytes.ofText record.visit.metadata.toJson.pretty))
  /-- What a visit was answered can be read. -/
  success : ∀ record ∈ past, ∀ i, record.result = .ok i →
    ∃ content, t.read (record.visit.path root .artifact) = .ok content
  /-- The metadata of a visit that published is at a path that is not too long. -/
  fits : ∀ record ∈ past, record.published = true →
    Fits (record.visit.key.directory root)
      (Role.metadata.file record.visit.name record.visit.kind)

namespace Inventory

/-- Nothing stands below an empty root. -/
theorem of_empty (h : ∀ p, p ≠ [] → t.node? (r ++ p) = none) : Inventory root r t [] t where
  hosts := fun _ hm => absurd hm List.not_mem_nil
  file := Or.inl
  directory := by
    intro p hp hn
    rw [h p hp] at hn
    cases hn
  source := by
    intro slot content hn
    rw [Slot.place, List.append_assoc, h _ (by simp)] at hn
    cases hn
  artifact := by
    intro slot content hn
    rw [Slot.place, List.append_assoc, h _ (by simp)] at hn
    cases hn
  success := fun _ hm => absurd hm List.not_mem_nil
  fits := fun _ hm => absurd hm List.not_mem_nil

theorem file_cons (h : Inventory root r origin past t) (record : Record) {p : Place}
    {content : Bytes} (hp : t.node? p = some (.file content)) :
    origin.node? p = some (.file content) ∨
      ∃ record' ∈ record :: past, ∃ role ∈ Role.lasting, p = record'.visit.slot.place r role := by
  rcases h.file hp with ho | ⟨record', hm, hrole⟩
  · exact Or.inl ho
  · exact Or.inr ⟨record', List.mem_cons_of_mem _ hm, hrole⟩

theorem directory_cons (h : Inventory root r origin past t) (record : Record) {p : Place}
    (hp : p ≠ []) (hn : t.node? (r ++ p) = some .directory) :
    ∃ record' ∈ record :: past, record'.visit.Reaches root p ∨
      r ++ p =
        record'.visit.slot.place r (.staging record'.visit.process record'.visit.staged) := by
  obtain ⟨record', hm, hwhy⟩ := h.directory hp hn
  exact ⟨record', List.mem_cons_of_mem _ hm, hwhy⟩

/-- No directory is in the place of a file that lasts. -/
theorem free (h : Inventory root r origin past t) {role : Role} (hrole : role ∈ Role.lasting)
    (slot : Slot) : t.node? (slot.place r role) ≠ some .directory := by
  intro hd
  rw [Slot.place, List.append_assoc] at hd
  obtain ⟨record, -, hway | he⟩ := h.directory (by simp) hd
  · have hon := hway.onWay r
    rw [← List.append_assoc] at hon
    exact not_onWay_file record.visit.length_above hon
  · rw [← List.append_assoc] at he
    have hsame : slot.place r role =
      record.visit.slot.place r (.staging record.visit.process record.visit.staged) := he
    obtain ⟨-, rfl⟩ := Slot.place_injective hsame
    simp [Role.lasting] at hrole

end Inventory

/-! ## One visit -/

/-- What a visit that publishes leaves in its slot. -/
structure Visit.Left (v : Visit) (r : Place) (body : Bytes) (t : FileTree) : Prop where
  artifact : t.node? (v.slot.place r .artifact) = some (.file body)
  source : t.node? (v.slot.place r .source) = some (.file (normalize v.body))
  metadata : t.node? (v.slot.place r .metadata) =
    some (.file (Bytes.ofText v.metadata.toJson.pretty))
  staging : t.node? (v.slot.place r (.staging v.process v.staged)) = none

/-- At the place of each file of its call there is a file that lasts, or nothing. -/
theorem Visit.Left.file_or_none {body : Bytes} (h : v.Left r body t) {role : Role}
    (hrole : role ∈ Role.ofCall v.process v.staged) :
    (role ∈ Role.lasting ∧ ∃ content, t.node? (v.slot.place r role) = some (.file content)) ∨
      t.node? (v.slot.place r role) = none := by
  simp only [Role.ofCall, List.mem_cons, List.not_mem_nil, or_false] at hrole
  rcases hrole with rfl | rfl | rfl | rfl
  · exact Or.inl ⟨by simp [Role.lasting], _, h.artifact⟩
  · exact Or.inl ⟨by simp [Role.lasting], _, h.source⟩
  · exact Or.inl ⟨by simp [Role.lasting], _, h.metadata⟩
  · exact Or.inr h.staging

section Visit

variable (hg : Ground root r t) (hhost : v.request.host ≠ some "..")

include hg hhost

theorem placeOf_call_directory (role : Role) :
    t.placeOf (v.call root t).directory ++ [role.file v.name v.kind] = v.slot.place r role := by
  rw [Visit.directory_call, Visit.placeOf_directory hhost, hg.place]
  rfl

theorem placeOf_call {path : String} {role : Role}
    (h : path = join (v.call root t).directory (role.file v.name v.kind)) :
    t.placeOf path = v.slot.place r role := by
  rw [h, placeOf_join t (v.isComponent_file role), placeOf_call_directory hg hhost]

/-- Below the root, a visit makes directories on the way to its own only. -/
theorem reaches_of_ways {p : Place} (hp : p ≠ []) (h : (v.call root t).Ways t (r ++ p)) :
    v.Reaches root p := by
  obtain ⟨hhopeless, hway⟩ := h
  rw [Visit.directory_call] at hhopeless hway
  rcases Visit.onWay_or_reaches hhost hhopeless hway with hroot | ⟨names, hreaches, he⟩
  · exact absurd rfl (hg.outside hroot hp)
  · rw [hg.place] at he
    rwa [List.append_cancel_left he]

/-- So it makes none in the place of a file. -/
theorem not_ways_place (slot : Slot) (role : Role) :
    ¬ (v.call root t).Ways t (slot.place r role) := by
  intro hway
  rw [Slot.place, List.append_assoc] at hway
  have hon := (reaches_of_ways hg hhost (by simp) hway).onWay r
  rw [← List.append_assoc] at hon
  exact not_onWay_file v.length_above hon

theorem exists_role_of_touches {p : Place} (h : (v.call root t).Touches t p) :
    ∃ role ∈ Role.ofCall v.process v.staged, p = v.slot.place r role := by
  obtain ⟨role, hr, rfl⟩ := (v.filesOf root t).exists_role h
  exact ⟨role, hr, placeOf_call_directory hg hhost role⟩

variable (h : Inventory root r origin past t)

include h

omit hg in
/-- A hit is one more visit, whose answer can be read. -/
theorem Inventory.hit {i : Instrumented} (hi : i.hit = true) {content : Bytes}
    (hread : t.read (v.path root .artifact) = .ok content) :
    Inventory root r origin (⟨v, .ok i⟩ :: past) t := by
  have hnot : Record.published ⟨v, .ok i⟩ = false := by simp [Record.published, hi]
  refine ⟨List.forall_mem_cons.mpr ⟨hhost, h.hosts⟩, fun hn => h.file_cons _ hn,
    fun hp hn => h.directory_cons _ hp hn, h.source, fun hn => ?_, ?_, ?_⟩
  · rw [latest?_cons_of_not hnot]
    exact h.artifact hn
  · exact List.forall_mem_cons.mpr ⟨fun _ _ => ⟨content, hread⟩, h.success⟩
  · exact List.forall_mem_cons.mpr ⟨fun hp => by simp [hnot] at hp, h.fits⟩

/-- A visit that fails leaves at most its source, and maybe a directory at its staging path. -/
theorem Inventory.failed {fault : Fault} (hf : (v.call root t).Failed t t') :
    Inventory root r origin (⟨v, .error fault⟩ :: past) t' := by
  have hsource := placeOf_call hg hhost (v.filesOf root t).source
  have hstaging := placeOf_call hg hhost (v.filesOf root t).staging
  have hgrown := hf.grown
  have hwritten := hf.source
  simp only [hsource, hstaging] at hgrown hwritten
  -- artifacts and metadata are not touched
  have hother : ∀ (slot : Slot) {role : Role}, role = .artifact ∨ role = .metadata →
      ¬ (slot.place r role = v.slot.place r .source ∨
        slot.place r role = v.slot.place r (.staging v.process v.staged)) := by
    rintro slot role (rfl | rfl) (he | he) <;> cases (Slot.place_injective he).2
  refine ⟨List.forall_mem_cons.mpr ⟨hhost, h.hosts⟩, fun hn => ?_, fun {p} hp hn => ?_,
    fun {slot content} hn => ?_, fun {slot content} hn => ?_, ?_, ?_⟩
  · rcases hf.file hn with hbefore | ⟨he, -⟩
    · exact h.file_cons _ hbefore
    · exact Or.inr
        ⟨_, List.mem_cons_self, .source, by simp [Role.lasting], he.trans hsource⟩
  · have hbefore : t.node? (r ++ p) = some .directory ∨ (v.call root t).Ways t (r ++ p) ∨
        r ++ p = v.slot.place r (.staging v.process v.staged) := by
      by_cases hst : r ++ p = v.slot.place r (.staging v.process v.staged)
      · exact Or.inr (Or.inr hst)
      · rw [← or_assoc]
        left
        by_cases hs : r ++ p = v.slot.place r .source
        · rcases hwritten with hunwritten | hfile
          · exact hunwritten.directory_before hst hn
          · rw [hs, hfile] at hn
            cases hn
        · exact hgrown.directory_before (by simp [hs, hst]) hn
    rcases hbefore with hbefore | hway | hst
    · exact h.directory_cons _ hp hbefore
    · exact ⟨_, List.mem_cons_self, Or.inl (reaches_of_ways hg hhost hp hway)⟩
    · exact ⟨_, List.mem_cons_self, Or.inr hst⟩
  · rcases hf.file hn with hbefore | ⟨he, rfl⟩
    · exact h.source hbefore
    · obtain ⟨rfl, -⟩ := Slot.place_injective (he.trans hsource)
      rfl
  · have hbefore := hgrown.file_before (hother slot (Or.inl rfl)) hn
    obtain ⟨⟨source, hs⟩, record, hlatest, hm⟩ := h.artifact hbefore
    refine ⟨?_, record, by rw [latest?_cons_of_not rfl, hlatest],
      hgrown.file (hother slot (Or.inr rfl)) hm⟩
    have hst : slot.place r .source ≠ v.slot.place r (.staging v.process v.staged) :=
      Slot.place_ne_of_role (by simp)
    rcases hwritten with hunwritten | hfile
    · exact ⟨source, hunwritten.file hst hs⟩
    · by_cases he : slot.place r .source = v.slot.place r .source
      · rw [he]
        exact ⟨_, hfile⟩
      · exact ⟨source, hgrown.file (by simp [he, hst]) hs⟩
  · refine List.forall_mem_cons.mpr ⟨fun i hi => (by cases hi), fun record hm i hi => ?_⟩
    obtain ⟨content, hread⟩ := h.success record hm i hi
    refine ⟨content, hgrown.read ?_ hread⟩
    rw [Visit.placeOf_path (h.hosts record hm), hg.place]
    exact hother _ (Or.inl rfl)
  · exact List.forall_mem_cons.mpr ⟨fun hp => (by cases hp), h.fits⟩

theorem Inventory.left {body : Bytes}
    (hp : (v.call root t).Published v.name v.kind v.process v.staged v.metadata body t t') :
    v.Left r body t' := by
  have hartifact := hp.artifact
  have hsource := hp.source
  have hmetadata := hp.metadata
  have hstaging := hp.staging
  simp only [placeOf_call_directory hg hhost] at hartifact hsource hmetadata hstaging
  exact ⟨hartifact, hsource,
    hmetadata (h.free (by simp [Role.lasting]) _) (not_ways_place hg hhost _ _), hstaging⟩

/-- A visit that publishes leaves its artifact, with its source and its metadata. -/
theorem Inventory.published {i : Instrumented} (hi : i.hit = false)
    (hp : (v.call root t).Published v.name v.kind v.process v.staged v.metadata i.body t t') :
    Inventory root r origin (⟨v, .ok i⟩ :: past) t' := by
  have hpublished : Record.published ⟨v, .ok i⟩ = true := by simp [Record.published, hi]
  have hgrown : GrownAt ((v.call root t).Ways t)
      (fun p => ∃ role ∈ Role.ofCall v.process v.staged, p = v.slot.place r role) t t' :=
    hp.grown.mono (fun _ => id) fun _ => exists_role_of_touches hg hhost
  have hleft := h.left hg hhost hp
  have hread : t'.read (v.path root .artifact) = .ok i.body := by
    have hd := hp.directoryAt
    have hfits := hp.fits .artifact (by simp [Role.ofCall])
    rw [Visit.directory_call] at hd hfits
    refine (read_join_eq_ok hd (v.isComponent_file .artifact)).mpr ⟨hfits, ?_⟩
    rw [Visit.placeOf_directory hhost, hg.place]
    exact hleft.artifact
  -- the files of another slot are not touched
  have hother : ∀ {slot : Slot} (role : Role), v.slot ≠ slot →
      ¬ ∃ role' ∈ Role.ofCall v.process v.staged, slot.place r role = v.slot.place r role' := by
    rintro slot role hne ⟨role', -, he⟩
    exact hne (Slot.place_injective he).1.symm
  refine ⟨List.forall_mem_cons.mpr ⟨hhost, h.hosts⟩, fun {p content} hn => ?_,
    fun {p} hp hn => ?_, fun {slot content} hn => ?_, fun {slot content} hn => ?_, ?_, ?_⟩
  · by_cases hown : ∃ role ∈ Role.ofCall v.process v.staged, p = v.slot.place r role
    · obtain ⟨role, hrole, rfl⟩ := hown
      rcases hleft.file_or_none hrole with ⟨hlasting, -⟩ | hnone
      · exact Or.inr ⟨_, List.mem_cons_self, role, hlasting, rfl⟩
      · rw [hnone] at hn
        cases hn
    · exact h.file_cons _ (hgrown.file_before hown hn)
  · have hown : ¬ ∃ role ∈ Role.ofCall v.process v.staged, r ++ p = v.slot.place r role := by
      rintro ⟨role, hrole, he⟩
      rw [he] at hn
      rcases hleft.file_or_none hrole with ⟨-, content, hfile⟩ | hnone
      · simp [hfile] at hn
      · simp [hnone] at hn
    rcases hgrown.directory_before hown hn with hbefore | hway
    · exact h.directory_cons _ hp hbefore
    · exact ⟨_, List.mem_cons_self, Or.inl (reaches_of_ways hg hhost hp hway)⟩
  · by_cases hslot : v.slot = slot
    · rw [← hslot, hleft.source] at hn
      obtain rfl := Node.file.inj (Option.some.inj hn)
      rw [← hslot]
      rfl
    · exact h.source (hgrown.file_before (hother .source hslot) hn)
  · by_cases hslot : v.slot = slot
    · subst hslot
      exact ⟨⟨_, hleft.source⟩, ⟨v, .ok i⟩, latest?_cons_self hpublished past, hleft.metadata⟩
    · obtain ⟨⟨source, hs⟩, record, hlatest, hm⟩ :=
        h.artifact (hgrown.file_before (hother .artifact hslot) hn)
      refine ⟨⟨source, hgrown.file (hother .source hslot) hs⟩, record, ?_,
        hgrown.file (hother .metadata hslot) hm⟩
      rw [latest?_cons_of_ne, hlatest]
      exact hslot
  · refine List.forall_mem_cons.mpr ⟨fun _ _ => ⟨_, hread⟩, fun record hm i' hi' => ?_⟩
    obtain ⟨content, hbefore⟩ := h.success record hm i' hi'
    have hplace : t.placeOf (record.visit.path root .artifact) =
        record.visit.slot.place r .artifact := by
      rw [Visit.placeOf_path (h.hosts record hm), hg.place]
    by_cases hslot : v.slot = record.visit.slot
    · -- the same slot is reached by the same way, and its artifact is now the new one
      obtain ⟨p, hw, -⟩ := read_eq_ok.mp hbefore
      refine ⟨i.body, read_eq_ok.mpr ⟨p, hgrown.changed.walk hw, ?_⟩⟩
      rw [eq_placeOf_of_walk hw, hplace, ← hslot, hleft.artifact]
    · exact ⟨content, hgrown.read (by rw [hplace]; exact hother .artifact hslot) hbefore⟩
  · refine List.forall_mem_cons.mpr ⟨fun _ => ?_, h.fits⟩
    have hfits := hp.fits .metadata (by simp [Role.ofCall])
    rwa [Visit.directory_call] at hfits

/-- **A visit keeps the inventory.** -/
theorem Inventory.visit (htool : v.tool.Leaves) :
    Inventory root r origin (⟨v, (v.answer root t).result⟩ :: past)
        (v.answer root t).store.tree ∧
      Ground root r (v.answer root t).store.tree := by
  have hends := v.ends htool root t
  have hf := v.filesOf root t
  generalize (v.answer root t).store.tree = t' at hends ⊢
  generalize (v.answer root t).result = result at hends ⊢
  have hbelow : ∀ role, ∃ q ≠ [], v.slot.place r role = r ++ q :=
    fun role => ⟨_, by simp, List.append_assoc _ _ [_]⟩
  cases hends with
  | hit hit same read =>
    rw [hf.artifact, Visit.directory_call] at read
    subst same
    exact ⟨h.hit hhost hit read, hg⟩
  | failed failed =>
    refine ⟨h.failed hg hhost failed, hg.grown failed.grown ?_⟩
    rintro p (he | he)
    · rw [he, placeOf_call hg hhost hf.source]
      exact hbelow _
    · rw [he, placeOf_call hg hhost hf.staging]
      exact hbelow _
  | published miss published =>
    refine ⟨h.published hg hhost miss published, hg.grown published.grown ?_⟩
    intro p hp
    obtain ⟨role, -, he⟩ := exists_role_of_touches hg hhost hp
    rw [he]
    exact hbelow _

end Visit

/-! ## Any number of visits -/

/-- **Every history keeps the inventory.** -/
theorem Inventory.run (hg : Ground root r t) (h : Inventory root r origin past t)
    {visits : List Visit} (hhosts : ∀ v ∈ visits, v.request.host ≠ some "..")
    (htools : ∀ v ∈ visits, v.tool.Leaves) :
    Inventory root r origin (visits.foldl (History.visit root) ⟨t, past⟩).past
        (visits.foldl (History.visit root) ⟨t, past⟩).tree ∧
      Ground root r (visits.foldl (History.visit root) ⟨t, past⟩).tree := by
  induction visits generalizing t past with
  | nil => exact ⟨h, hg⟩
  | cons v rest ih =>
    obtain ⟨h', hg'⟩ := h.visit hg (hhosts v List.mem_cons_self) (htools v List.mem_cons_self)
    exact ih hg' h' (fun w hw => hhosts w (List.mem_cons_of_mem _ hw))
      fun w hw => htools w (List.mem_cons_of_mem _ hw)

theorem History.visits_foldl (root : String) (visits : List Visit) (h : History) :
    (visits.foldl (History.visit root) h).past.map (·.visit) =
      visits.reverse ++ h.past.map (·.visit) := by
  induction visits generalizing h with
  | nil => rfl
  | cons v rest ih => simp [ih, History.visit]

/-- The visits of a history, the latest first. -/
theorem History.visits_run (root : String) (t : FileTree) (visits : List Visit) :
    (History.run root t visits).past.map (·.visit) = visits.reverse := by
  simp [History.run, visits_foldl]

theorem History.exists_record {root : String} {t : FileTree} {visits : List Visit} {v : Visit} :
    v ∈ visits ↔ ∃ record ∈ (History.run root t visits).past, record.visit = v := by
  rw [← List.mem_reverse, ← visits_run root t, List.mem_map]

/-- A store whose files belong together, after visits that started from another tree. -/
structure InOrder (root : String) (visits : List Visit) (before after : FileTree) : Prop where
  /-- Every regular file that was written is an artifact, its source or its metadata, in the
  directory of a host and a hash below the root. -/
  files : ∀ (place : Place) (content : Bytes), after.node? place = some (.file content) →
    before.node? place = some (.file content) ∨
      ∃ v ∈ visits, ∃ role ∈ Role.lasting, place = before.placeOf (v.path root role)
  /-- No file can be two of these, or for two artifacts. -/
  apart : ∀ role ∈ Role.lasting, ∀ role' ∈ Role.lasting, ∀ (name name' : String) (kind kind' : Kind),
    role.file name kind = role'.file name' kind' → role = role' ∧ name = name' ∧ kind = kind'
  /-- The hash of a source is that of its directory. -/
  sources : ∀ v ∈ visits, ∀ content,
    after.node? (before.placeOf (v.path root .source)) = some (.file content) →
      contentHash content = v.key.hash
  /-- Beside an artifact are its source and its metadata, of its kind. -/
  artifacts : ∀ v ∈ visits, ∀ content,
    after.node? (before.placeOf (v.path root .artifact)) = some (.file content) →
      (∃ source, after.node? (before.placeOf (v.path root .source)) = some (.file source)) ∧
      ∃ m : Metadata, m.kind = v.kind.extension ∧
        after.node? (before.placeOf (v.path root .metadata)) =
          some (.file (Bytes.ofText m.toJson.pretty))

/-- **The files of a store belong together.** Whatever visits are made of a store that starts from
an empty root, by whatever processes, with or without caching and with tools that leave whatever
they do at their output paths, its files are in order, unless a host leads up from the root. -/
theorem run_inOrder {root : String} {t : FileTree} (hroot : EmptyRoot root t) (visits : List Visit)
    (hhosts : ∀ v ∈ visits, v.request.host ≠ some "..") (htools : ∀ v ∈ visits, v.tool.Leaves) :
    InOrder root visits t (History.run root t visits).tree := by
  obtain ⟨hg, hnone⟩ := hroot.ground
  obtain ⟨h, -⟩ := (Inventory.of_empty hnone).run hg hhosts htools
  have hplace : ∀ v ∈ visits, ∀ role,
      t.placeOf (v.path root role) = v.slot.place (t.placeOf root) role :=
    fun v hv => Visit.placeOf_path (hhosts v hv) t
  refine ⟨fun place content hp => ?_, fun _ _ _ _ _ _ _ _ => Role.file_injective,
    fun v hv content hp => ?_, fun v hv content hp => ?_⟩
  · rcases h.file hp with hbefore | ⟨record, hm, role, hrole, rfl⟩
    · exact Or.inl hbefore
    · have hv := History.exists_record.mpr ⟨record, hm, rfl⟩
      exact Or.inr ⟨_, hv, role, hrole, (hplace _ hv role).symm⟩
  · rw [hplace v hv] at hp
    exact h.source hp
  · simp only [hplace v hv] at hp ⊢
    obtain ⟨hsource, record, hlatest, hmetadata⟩ := h.artifact hp
    refine ⟨hsource, record.visit.metadata, ?_, hmetadata⟩
    exact congrArg (fun slot => slot.kind.extension) (latest?_eq_some hlatest).2.2

/-- A root that is not there yet, in a tree with nothing in it. -/
theorem emptyRoot_cache : EmptyRoot "cache" {} := by
  have hplace : ({} : FileTree).placeOf "cache" = ["cache"] := by decide +kernel
  have hmade : (({} : FileTree).makeDirectories "cache").toOption =
      some ⟨[(["cache"], .directory)], []⟩ := by decide +kernel
  refine ⟨_, FileTree.eq_ok_of_toOption hmade, by rw [hplace]; rfl, fun p hp => ?_⟩
  simp [hplace, FileTree.node?, hp]

/-- A script, then a page whose artifact is named like the script, from another process and with a
tool that leaves a directory and fails, then the script again with a tool that fails. -/
theorem run_inOrder_after_failures :
    let good := Tool.leaving fun job => (.file (47 :: job.source), .ok ())
    let bad := Tool.leaving fun _ => (.directory, .error .noResponse)
    let visit (tool : Tool) (url : String) (kind : Kind) (process : Nat) : Visit :=
      { now := ⟨0, 0, 0⟩, tool, request := { url }, body := [97], kind, useCache := false
        mode := "coverage", process, staged := 0 }
    let visits := [visit good "x://h/app.js" .script 7, visit bad "x://h/app.js.html" .html 8,
      visit bad "x://h/app.js" .script 9]
    EmptyRoot "cache" {} ∧ InOrder "cache" visits {} (History.run "cache" {} visits).tree := by
  intro good bad visit visits
  have hroot := emptyRoot_cache
  have hhosts : ∀ url ∈ ["x://h/app.js", "x://h/app.js.html"],
      ({ url } : Request).host ≠ some ".." := by decide +kernel
  refine ⟨hroot, run_inOrder hroot visits ?_ ?_⟩
  · simp only [visits, List.forall_mem_cons, List.not_mem_nil, false_implies, implies_true, and_true]
    exact ⟨hhosts _ (by simp), hhosts _ (by simp), hhosts _ (by simp)⟩
  · simp only [visits, List.forall_mem_cons, List.not_mem_nil, false_implies, implies_true, and_true]
    exact ⟨Tool.leaving_leaves _, Tool.leaving_leaves _, Tool.leaving_leaves _⟩

/-- The host of two points is a true exception. The artifact comes to stand beside the root, where a
directory may be in the place of its metadata. -/
theorem not_inOrder_of_parent_host :
    let tool := Tool.leaving fun job => (.file (47 :: job.source), .ok ())
    let v : Visit :=
      { now := ⟨0, 0, 0⟩, tool, request := { url := "x://../app.js" }, body := [97]
        kind := .script, useCache := true, mode := "coverage", process := 7, staged := 0 }
    let beside := "ca978112ca1bbdcafac231b39a23dc4d"
    let tree : FileTree := ⟨[(["cache"], .directory), ([beside], .directory),
      ([beside, "app.js.json"], .directory)], []⟩
    EmptyRoot "cache" tree ∧ ¬ InOrder "cache" [v] tree (History.run "cache" tree [v]).tree := by
  intro tool v beside tree
  have hplace : tree.placeOf "cache" = ["cache"] := by decide +kernel
  have hmade : (tree.makeDirectories "cache").toOption = some tree := by decide +kernel
  have hfiles : tree.placeOf (v.path "cache" .artifact) = [beside, "app.js"] ∧
      tree.placeOf (v.path "cache" .metadata) = [beside, "app.js.json"] := by decide +kernel
  have hnodes : (History.run "cache" tree [v]).tree.node? [beside, "app.js"] =
        some (.file [47, 97]) ∧
      (History.run "cache" tree [v]).tree.node? [beside, "app.js.json"] = some .directory := by
    decide +kernel
  refine ⟨⟨_, FileTree.eq_ok_of_toOption hmade, by rw [hplace]; rfl, fun p hp => ?_⟩, fun h => ?_⟩
  · simp [hplace, tree, FileTree.node?, hp, beside]
  · obtain ⟨-, m, -, hfile⟩ := h.artifacts v List.mem_cons_self [47, 97]
      (by rw [hfiles.1]; exact hnodes.1)
    rw [hfiles.2] at hfile
    exact absurd (hnodes.2.symm.trans hfile) (by simp)

end Interpose.Cache
