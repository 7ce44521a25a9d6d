import Interpose.Proofs.Pass.Work
import Interpose.Proofs.Text.Utf16
import Mathlib.Data.List.TakeWhile

/-!
# Blank pages

Whether a page is blank is asked twice. The classification looks at the text of the page, in UTF-8 and
without the blanks around it; the work on the page looks at its bytes as they came. On a page without
a byte-order mark the two agree: it is served empty, and nothing is made of it (`Quiet`). But a mark
is no blank (`exists_not_blank_of_detect`), so a blank page in UTF-16 is worked on like any other. It
stays quiet only where an artifact answers for it that is empty itself (`blank_page_quiet_iff`).
-/

namespace Interpose

open Cache (Store Answer Instrumented)

/-! ## Blanks and marks -/

/-- Trimming leaves nothing of blanks only. -/
theorem Bytes.trim_eq_nil_iff {s : Bytes} : trim s = [] ↔ ∀ b ∈ s, isBlank b = true := by
  rw [trim, trimEnd, List.reverse_eq_nil_iff, List.dropWhile_eq_nil_iff]
  simp only [List.mem_reverse]
  constructor
  · intro h b hb
    rw [← List.takeWhile_append_dropWhile (p := isBlank) (l := s), List.mem_append] at hb
    rcases hb with hfront | hback
    · exact List.mem_takeWhile_imp hfront
    · exact h b hback
  · exact fun h b hb => h b ((List.dropWhile_sublist _).subset hb)

/-- A marked source starts with a byte that is no blank. -/
theorem Utf16.exists_not_blank_of_detect {s : Bytes} {order : ByteOrder}
    (h : detect s = some order) : ∃ b ∈ s, Bytes.isBlank b = false := by
  match s with
  | [] => cases h
  | [_] => cases h
  | a :: b :: rest =>
    refine ⟨a, by simp, ?_⟩
    simp only [detect] at h
    by_cases hbig : a = 0xFE ∧ b = 0xFF
    · rw [hbig.1]
      rfl
    · rw [if_neg hbig] at h
      by_cases hlittle : a = 0xFF ∧ b = 0xFE
      · rw [hlittle.1]
        rfl
      · rw [if_neg hlittle] at h
        cases h

theorem trim_ne_nil_of_detect {s : Bytes} {order : Utf16.ByteOrder}
    (h : Utf16.detect s = some order) : Bytes.trim s ≠ [] := by
  obtain ⟨b, hb, hthere⟩ := Utf16.exists_not_blank_of_detect h
  intro hnil
  rw [Bytes.trim_eq_nil_iff.mp hnil b hb] at hthere
  cases hthere

/-- Of the encodings of a text, those in UTF-16 are marked. -/
theorem detect_write (e : Encoding) (text : String) :
    Utf16.detect (e.write text) = none ↔ e = .utf8 := by
  cases e with
  | utf8 => simp [Encoding.write, Utf16.detect_ofText]
  | utf16 order =>
    have hmarked : Utf16.detect (Utf16.encode order text) = some order := Utf16.detect_mark order _
    simp [Encoding.write, hmarked]

/-! ## Answers without a job -/

namespace Cache

/-- A call that succeeds has found an artifact and changed nothing, or has given the tool a job. -/
theorem instrument_of_ok {settings : Settings} {tool : Tool} {store : Store} {request : Request}
    {body : Bytes} {kind : Kind} {i : Instrumented}
    (h : (instrument settings tool store request body kind).result = .ok i) :
    (i.hit = true ∧ (instrument settings tool store request body kind).store = store ∧
      (instrument settings tool store request body kind).trace.jobs = []) ∨
    (i.hit = false ∧ (instrument settings tool store request body kind).trace.jobs ≠ []) := by
  unfold instrument at h ⊢
  simp only [Answer.after, Trace.jobs_append, Trace.jobs_normalizing, List.nil_append] at h ⊢
  generalize Call.of settings store request body kind = call at h ⊢
  split at h
  · rename_i hhit
    rw [if_pos hhit]
    refine Or.inl ⟨?_, answerHit_store _, (trace_answerHit _ _ _).1⟩
    unfold answerHit at h
    simp only at h
    split at h
    · exact (Except.ok.inj h) ▸ rfl
    · cases h
  · rename_i hmiss
    rw [if_neg hmiss]
    refine Or.inr ?_
    obtain ⟨_, fault, -, he⟩ | ⟨t, -, ⟨_, fault, -, he⟩ | ⟨trace, t', -, he⟩⟩ :=
      answerMiss_cases settings tool store call kind request.clientUrl
    · simp [he] at h
    · simp [he] at h
    · simp only [he, Answer.after, Trace.jobs_append, trace_runTool] at h ⊢
      refine ⟨?_, by simp⟩
      unfold runTool at h
      simp only at h
      split at h
      · cases h
      · exact (Except.ok.inj h) ▸ rfl

end Cache

namespace Pass

variable {proxy : Proxy} {store : Store} {flow : Flow} {decoded : Response}

/-- What a pass does with a body: the store that it leaves, the jobs that it gives the tool and the
body that it serves. -/
def Result.work (r : Result) : Store × List Job × Option Bytes :=
  (r.store, r.trace.jobs, r.flow.response.map (·.body))

/-- A pass that serves an empty body and makes nothing of the one that it found. -/
def Quiet (proxy : Proxy) (store : Store) (flow : Flow) : Prop :=
  (run proxy store flow).work = (store, [], some [])

/-- A page whose bytes are blank as they came is served empty. -/
theorem quiet_of_trim_eq_nil (hdecoded : flow.decoded? = some decoded)
    (hpage : (run proxy store flow).outcome = .completed (some .html))
    (hswitch : proxy.switches.html = true) (hblank : Bytes.trim decoded.body = []) :
    Quiet proxy store flow := by
  obtain ⟨-, -, -, hrun⟩ := run_of_decoded hdecoded proxy store
  rw [hrun, Outcome.completed.injEq] at hpage
  have hkept : handed proxy.switches decoded.body
      (complete proxy store flow.request decoded).2.2.2 = none := by
    simp [hpage, handed, hblank]
  obtain ⟨hstore, hjobs⟩ := complete_of_not_handed hkept
  obtain ⟨-, -, hresponse⟩ := complete_eq proxy store flow.request decoded
  have hbody : (complete proxy store flow.request decoded).2.2.1.body = [] := by
    rw [hresponse, body_relax, hpage]
    simp [onto, ontoHtml, hswitch, body_merged, hblank, setMediaType, Response.withBody]
  simp only [Quiet, Result.work, hrun, hstore, hjobs, Option.map_some, hbody]

/-- Any other page is answered for by the store. -/
theorem work_of_trim_ne_nil (hdecoded : flow.decoded? = some decoded)
    (hpage : (run proxy store flow).outcome = .completed (some .html))
    (hswitch : proxy.switches.html = true) (hthere : Bytes.trim decoded.body ≠ []) :
    let answer := Cache.instrument proxy.settings proxy.tool store flow.request decoded.body .html
    (run proxy store flow).work = (answer.store, answer.trace.jobs,
      some ((answer.result.toOption.map (·.body)).getD decoded.body)) := by
  obtain ⟨-, -, -, hrun⟩ := run_of_decoded hdecoded proxy store
  rw [hrun, Outcome.completed.injEq] at hpage
  have hhanded : handed proxy.switches decoded.body
      (complete proxy store flow.request decoded).2.2.2 = some .html := by
    simp [hpage, handed, hswitch, hthere]
  obtain ⟨hstore, hjobs, hbody⟩ := complete_of_handed hhanded
  simp only [Result.work, hrun, hstore, hjobs, Option.map_some, hbody]

/-- The store's answer leaves a pass quiet only if it is an empty artifact. A failed call serves the
body as it came, and one without an artifact has given the tool a job. -/
theorem work_eq_quiet_iff {settings : Cache.Settings} {tool : Tool} {request : Request}
    {body : Bytes} {kind : Kind} (hbody : body ≠ []) :
    let answer := Cache.instrument settings tool store request body kind
    (answer.store, answer.trace.jobs, some ((answer.result.toOption.map (·.body)).getD body)) =
        (store, [], some []) ↔
      ∃ artifact, answer.result = .ok ⟨[], true, artifact⟩ := by
  intro answer
  simp only [Prod.mk.injEq, Option.some.injEq]
  constructor
  · rintro ⟨-, hjobs, hempty⟩
    cases hresult : answer.result with
    | error fault =>
      rw [hresult] at hempty
      exact absurd hempty hbody
    | ok i =>
      obtain ⟨hhit, -, -⟩ | ⟨-, hmade⟩ := Cache.instrument_of_ok hresult
      · rw [hresult] at hempty
        obtain ⟨content, hit, artifact⟩ := i
        obtain rfl : content = [] := hempty
        obtain rfl : hit = true := hhit
        exact ⟨artifact, rfl⟩
      · exact absurd hjobs hmade
  · rintro ⟨artifact, hresult⟩
    obtain ⟨-, hstore, hjobs⟩ | ⟨hmiss, -⟩ := Cache.instrument_of_ok hresult
    · exact ⟨hstore, hjobs, by rw [hresult]; rfl⟩
    · cases hmiss

/-- **A blank page stays quiet exactly if it has no mark**, or an artifact answers for it that is
empty itself. Whatever the flow, the store, the tool and the checker are: a page whose text is blank
and that came without a mark is served empty, without the tool and without a file. One that came with
a mark is handed to the store like a page that is not blank. Of the encodings of a text, those in
UTF-16 have a mark. -/
theorem blank_page_quiet_iff (proxy : Proxy) (store : Store) (flow : Flow) (decoded : Response)
    (hdecoded : flow.decoded? = some decoded)
    (hpage : (run proxy store flow).outcome = .completed (some .html))
    (hswitch : proxy.switches.html = true)
    (hblank : ∀ b ∈ normalize decoded.body, Bytes.isBlank b = true) :
    let answer := Cache.instrument proxy.settings proxy.tool store flow.request decoded.body .html
    (Utf16.detect decoded.body ≠ none → (run proxy store flow).work =
      (answer.store, answer.trace.jobs,
        some ((answer.result.toOption.map (·.body)).getD decoded.body))) ∧
    (Quiet proxy store flow ↔ Utf16.detect decoded.body = none ∨
      ∃ artifact, answer.result = .ok ⟨[], true, artifact⟩) ∧
    ∀ (e : Encoding) (text : String), decoded.body = e.write text →
      (Utf16.detect decoded.body = none ↔ e = .utf8) := by
  intro answer
  refine ⟨fun hmark => ?_, ?_, fun e text hbody => hbody ▸ detect_write e text⟩
  · obtain ⟨order, horder⟩ := Option.ne_none_iff_exists'.mp hmark
    exact work_of_trim_ne_nil hdecoded hpage hswitch (trim_ne_nil_of_detect horder)
  · cases hmark : Utf16.detect decoded.body with
    | none =>
      have hsame : normalize decoded.body = decoded.body := by simp only [normalize, hmark]
      rw [hsame] at hblank
      have hquiet := quiet_of_trim_eq_nil hdecoded hpage hswitch (Bytes.trim_eq_nil_iff.mpr hblank)
      exact iff_of_true hquiet (Or.inl rfl)
    | some order =>
      have hthere := trim_ne_nil_of_detect hmark
      have hbody : decoded.body ≠ [] := fun hnil => hthere (by rw [hnil]; rfl)
      rw [Quiet, work_of_trim_ne_nil hdecoded hpage hswitch hthere]
      refine (work_eq_quiet_iff hbody).trans ?_
      simp [answer]

/-- A blank in UTF-16 as a page that the tool fails on: it is served as it came, mark and all. The
same blank in UTF-8 is served as an empty page. -/
theorem blank_page_quiet_iff_for_marked_blank :
    let proxy : Proxy := ⟨⟨"cache", false, "coverage"⟩, {},
      Tool.leaving fun _ => (.nothing, .error .noResponse), fun _ => ⟨false, []⟩⟩
    let store : Store := { tree := {}, now := ⟨0, 0, 0⟩, process := 7 }
    let page (body : Bytes) : Flow :=
      { request := { url := "x://h/a.html" }, response := some { status := 200, body } }
    (run proxy store (page [0xFF, 0xFE, 32, 0])).flow.response.map (·.body) =
      some [0xFF, 0xFE, 32, 0] ∧
    ¬Quiet proxy store (page [0xFF, 0xFE, 32, 0]) ∧ Quiet proxy store (page [32]) := by
  intro proxy store page
  have hdecoded : ∀ body, (page body).decoded? = some { status := 200, body } := fun body => rfl
  have hmarked : (run proxy store (page [0xFF, 0xFE, 32, 0])).outcome = .completed (some .html) := by
    decide +kernel
  have hunmarked : (run proxy store (page [32])).outcome = .completed (some .html) := by
    decide +kernel
  have hblank : ∀ b ∈ normalize [0xFF, 0xFE, 32, 0], Bytes.isBlank b = true := by decide +kernel
  have hblank' : ∀ b ∈ normalize [32], Bytes.isBlank b = true := by decide +kernel
  obtain ⟨fault, hfault⟩ : ∃ fault, (Cache.instrument proxy.settings proxy.tool store
      (page [0xFF, 0xFE, 32, 0]).request [0xFF, 0xFE, 32, 0] .html).result = .error fault :=
    Cache.exists_instrument_error (fun _ _ => ⟨_, rfl⟩) rfl
  obtain ⟨hwork, hquiet, -⟩ :=
    blank_page_quiet_iff proxy store _ _ (hdecoded _) hmarked rfl hblank
  obtain ⟨-, hquiet', -⟩ :=
    blank_page_quiet_iff proxy store _ _ (hdecoded _) hunmarked rfl hblank'
  refine ⟨?_, fun hq => ?_, hquiet'.mpr (Or.inl rfl)⟩
  · have hserved := congrArg (·.2.2) (hwork nofun)
    rw [hfault] at hserved
    exact hserved
  · rcases hquiet.mp hq with hnone | ⟨artifact, hanswer⟩
    · cases hnone
    · rw [hfault] at hanswer
      cases hanswer

end Pass

end Interpose
