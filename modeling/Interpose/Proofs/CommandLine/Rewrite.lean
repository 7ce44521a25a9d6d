import Interpose.CommandLine.Run
import Interpose.Proofs.Http.Recording
import Interpose.Proofs.Json.Line
import Interpose.Proofs.Pass.Redirect
import Mathlib.Data.List.Forall2

/-!
# Rewriting recorded flows

The flows of a rewriting are all loaded before the first is replayed, so a file that holds none ends
it before anything else is done (`loadAll_cases`). Replaying is a run of the store through the
flows: each flow is replayed on the store that those before it leave (`replayAll_store`,
`getElem?_replayAll`). What is printed is one line for each flow (`splitText_printFlows`), and as a
replay keeps a flow recordable (`Flow.recordable_replay`), the lines read back as the replayed flows
(`rewrite_all_or_nothing`).
-/

namespace Interpose

/-! ## Replayed flows -/

/-- A pass leaves a flow that can be recorded: it sets no status but 200 and 500. -/
theorem Pass.recordable_run {f : Flow} (h : f.Recordable) (proxy : Proxy) (store : Cache.Store) :
    (run proxy store f).flow.Recordable := by
  cases hd : f.decoded? with
  | none =>
    obtain ⟨trace, -, -, hrun⟩ := run_of_undecoded hd
    rw [hrun]
    exact h
  | some decoded =>
    obtain ⟨-, before, hbefore, hdecode⟩ := Flow.decoded?_eq_some.mp hd
    obtain ⟨-, -, -, hrun⟩ := run_of_decoded hd proxy store
    have hstatus := (complete_led proxy store f.request hdecode).status
    have hbound := h before hbefore
    rw [hrun]
    rintro after ⟨⟩
    rw [hstatus]
    split
    · decide
    · split
      · decide
      · exact hbound

/-- Both hooks leave a flow that can be recorded. -/
theorem Flow.recordable_replay {f : Flow} (h : f.Recordable) (proxy : Proxy)
    (store : Cache.Store) : (f.replay proxy store).flow.Recordable :=
  Pass.recordable_run (f := f.preprocess) h proxy store

/-- The store that replaying flows one after the other leaves. -/
def storeAfter (proxy : Proxy) (store : Cache.Store) (flows : List Flow) : Cache.Store :=
  flows.foldl (fun store f => (f.replay proxy store).store) store

namespace CommandLine

theorem replayAll_store (proxy : Proxy) (store : Cache.Store) (flows : List Flow) :
    (replayAll proxy store flows).1 = storeAfter proxy store flows := by
  induction flows generalizing store with
  | nil => rfl
  | cons f flows ih => exact ih (f.replay proxy store).store

/-- Each flow is replayed on the store that those before it leave. -/
theorem getElem?_replayAll (proxy : Proxy) (store : Cache.Store) (flows : List Flow) (i : Nat) :
    (replayAll proxy store flows).2.2[i]? =
      flows[i]?.map fun f => (f.replay proxy (storeAfter proxy store (flows.take i))).flow := by
  induction flows generalizing store i with
  | nil => rfl
  | cons f flows ih =>
    cases i with
    | zero => rfl
    | succ i => exact ih (f.replay proxy store).store i

theorem length_replayAll (proxy : Proxy) (store : Cache.Store) (flows : List Flow) :
    (replayAll proxy store flows).2.2.length = flows.length := by
  induction flows generalizing store with
  | nil => rfl
  | cons f flows ih => exact congrArg (· + 1) (ih (f.replay proxy store).store)

/-! ## Loading -/

/-- A file that holds a flow. -/
def Holds (t : FileTree) (path : String) (f : Flow) : Prop :=
  ∃ content, t.read path = .ok content ∧ Flow.read? content = some f

/-- A file that holds no flow, and why. -/
inductive HoldsNone (t : FileTree) (path : String) : Fault → Prop
  | unreadable {e : Obstacle} (h : t.read path = .error e) :
    HoldsNone t path (.io ("reading " ++ path))
  | notFlow {content : Bytes} (hread : t.read path = .ok content)
    (h : Flow.read? content = none) : HoldsNone t path (.invalidFlow path "not a flow")

theorem loadFlow_cases (t : FileTree) (path : String) :
    (∃ fault, HoldsNone t path fault ∧ loadFlow t path = .error fault) ∨
      ∃ f, Holds t path f ∧ loadFlow t path = .ok f := by
  unfold loadFlow
  cases hread : t.read path with
  | error e => exact .inl ⟨_, .unreadable hread, rfl⟩
  | ok content =>
    cases hf : Flow.read? content with
    | none => exact .inl ⟨_, .notFlow hread hf, by simp [hf]⟩
    | some f => exact .inr ⟨f, ⟨content, hread, hf⟩, by simp [hf]⟩

/-- Loading ends with the fault of the first file that holds no flow, or with the flows of all. -/
theorem loadAll_cases (t : FileTree) (paths : List String) :
    (∃ before p after fault, paths = before ++ p :: after ∧ (∀ q ∈ before, ∃ f, Holds t q f) ∧
      HoldsNone t p fault ∧ paths.mapM (loadFlow t) = .error fault) ∨
    ∃ flows, List.Forall₂ (Holds t) paths flows ∧ paths.mapM (loadFlow t) = .ok flows := by
  induction paths with
  | nil => exact .inr ⟨[], .nil, rfl⟩
  | cons p paths ih =>
    obtain ⟨fault, hnone, hload⟩ | ⟨f, hf, hload⟩ := loadFlow_cases t p
    · exact .inl ⟨[], p, paths, fault, rfl, by simp, hnone, by rw [List.mapM_cons, hload]; rfl⟩
    · obtain ⟨before, q, after, fault, rfl, hbefore, hnone, hrest⟩ | ⟨flows, hflows, hrest⟩ := ih
      · refine .inl ⟨p :: before, q, after, fault, rfl, ?_, hnone, ?_⟩
        · exact List.forall_mem_cons.mpr ⟨⟨f, hf⟩, hbefore⟩
        · rw [List.mapM_cons, hload, hrest]
          rfl
      · refine .inr ⟨f :: flows, .cons hf hflows, ?_⟩
        rw [List.mapM_cons, hload, hrest]
        rfl

/-- Loaded flows can be recorded. -/
theorem recordable_of_holds {t : FileTree} {paths : List String} {flows : List Flow}
    (h : List.Forall₂ (Holds t) paths flows) : ∀ f ∈ flows, f.Recordable := by
  induction h with
  | nil => simp
  | cons hf _ ih =>
    obtain ⟨content, -, hread⟩ := hf
    exact List.forall_mem_cons.mpr ⟨Flow.recordable_of_read? hread, ih⟩

/-! ## Printing -/

/-- Lines without a line feed are got back by splitting, with what stands behind the last one. -/
theorem splitText_lines {lines : List String} (h : ∀ l ∈ lines, '\n' ∉ l.toList) :
    splitText '\n' (String.join (lines.map line)) = lines ++ [""] := by
  induction lines with
  | nil => rfl
  | cons l lines ih =>
    obtain ⟨hl, hlines⟩ := List.forall_mem_cons.mp h
    have htext : (String.join ((l :: lines).map line)).toList =
        l.toList ++ '\n' :: (String.join (lines.map line)).toList := by
      simp [line, String.toList_join]
    unfold splitText at ih ⊢
    rw [htext, List.splitOn_append_cons_self, List.splitOn_eq_singleton hl, List.map_append,
      ih hlines]
    simp

/-- The text of a flow has no line feed in it, whatever the flow holds. -/
theorem splitText_printFlows (flows : List Flow) :
    splitText '\n' (printFlows flows) = flows.map Flow.compact ++ [""] := by
  rw [← splitText_lines fun l hl => ?_, printFlows, List.map_map]
  · rfl
  · obtain ⟨f, -, rfl⟩ := List.mem_map.mp hl
    exact (Json.compact_unbroken f.toJson).lineFeed_not_mem

/-- What is printed for a flow reads as the replayed flow. -/
theorem read?_printed {flows : List Flow} (h : ∀ f ∈ flows, f.Recordable) (proxy : Proxy)
    (store : Cache.Store) (i : Nat) :
    (((replayAll proxy store flows).2.2.map Flow.compact)[i]?.map fun l =>
        Flow.read? (Bytes.ofText l)) =
      flows[i]?.map fun f =>
        some (f.replay proxy (storeAfter proxy store (flows.take i))).flow := by
  rw [List.getElem?_map, getElem?_replayAll]
  cases hf : flows[i]? with
  | none => rfl
  | some f =>
    have hreplayed := Flow.recordable_replay (h f (List.mem_of_getElem? hf)) proxy
      (storeAfter proxy store (flows.take i))
    simp only [Option.map_some, Flow.read?_compact hreplayed]

/-! ## The command -/

/-- **Rewriting is all or nothing on what it reads, and faithful in what it prints.** If some file
holds no flow, the first such one decides: its fault is all that is printed, the file tree stays as
it was, and no program is run, since the end is the same whatever programs do. Otherwise the output
consists of a line for each file, in order, and each reads as the flow of its file, replayed on the
store that the flows before it leave. -/
theorem rewrite_all_or_nothing (w : World) (config : String) (c : Config) (style : LogStyle)
    (paths : List String) :
    let finished := fun programs =>
      finish style w.now (carryOut { w with programs } config c (.rewrite paths 1 none))
    let proxy := proxyOf w c
    let start : Cache.Store := ⟨w.tree, w.now, w.process, 0⟩
    (∃ before p after fault, paths = before ++ p :: after ∧
      (∀ q ∈ before, ∃ f, Holds w.tree q f) ∧ HoldsNone w.tree p fault ∧
      ∀ programs, finished programs = { tree := w.tree, err := faultText fault, code := 1 }) ∨
    ∃ flows lines, List.Forall₂ (Holds w.tree) paths flows ∧
      (finished w.programs).code = 0 ∧
      (finished w.programs).tree = (storeAfter proxy start flows).tree ∧
      splitText '\n' (finished w.programs).out = lines ++ [""] ∧
      lines.length = paths.length ∧
      ∀ i, lines[i]?.map (fun l => Flow.read? (Bytes.ofText l)) =
        flows[i]?.map fun (f : Flow) =>
          some (f.replay proxy (storeAfter proxy start (flows.take i))).flow := by
  intro finished proxy start
  obtain ⟨before, p, after, fault, hpaths, hbefore, hnone, hload⟩ | ⟨flows, hflows, hload⟩ :=
    loadAll_cases w.tree paths
  · refine .inl ⟨before, p, after, fault, hpaths, hbefore, hnone, fun programs => ?_⟩
    simp [finished, carryOut, rewrite, hload, finish, LogStyle.shown]
  · obtain ⟨log, hrewrite⟩ : ∃ log, carryOut w config c (.rewrite paths 1 none) =
        { tree := (replayAll proxy start flows).1.tree
          out := printFlows (replayAll proxy start flows).2.2
          log } := by
      simp only [carryOut, rewrite, hload]
      exact ⟨_, rfl⟩
    refine .inr ⟨flows, (replayAll proxy start flows).2.2.map Flow.compact, hflows, ?_, ?_, ?_, ?_,
      fun i => ?_⟩
    · simp only [finished, hrewrite, finish]
    · simp only [finished, hrewrite, finish, replayAll_store]
    · simp only [finished, hrewrite, finish, splitText_printFlows]
    · rw [List.length_map, length_replayAll, hflows.length_eq]
    · exact read?_printed (recordable_of_holds hflows) proxy start i

end CommandLine

end Interpose
