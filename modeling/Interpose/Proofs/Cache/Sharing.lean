import Interpose.Proofs.Cache.Permanence
import Interpose.Proofs.Http.Preprocess
import Interpose.Proofs.Url.Front

/-!
# Requests that share their artifacts

Where the artifacts of a request lie is told by the host and the path that its URL leads to. Both
stand in the front of the URL, and the `sync` pieces behind it (`Sync.front_left`). So a request has
the same artifacts before and after the request hook, and requests that differ in the value of a
`sync` piece share theirs (`preprocess_keeps_artifacts`).

Blanks and control characters are left out of account: reading a URL drops them at its end, and
taking a piece out may move the end to one that stood inside.
-/

namespace Interpose

/-! ## Fronts -/

namespace Sync

variable {url front query tail : List Char}

/-- Two URLs that differ in the value of one `sync` piece and nowhere else. -/
def DifferInValue (url url' : String) : Prop :=
  ∃ front query query' tail before value value' after,
    Parts url front query tail ∧ Parts url' front query' tail ∧
      query.splitOn '&' = before ++ (start ++ value) :: after ∧
      query'.splitOn '&' = before ++ (start ++ value') :: after

theorem behind_marked (pieces : List (List Char)) (h : tail = [] ∨ ∃ rest, tail = '#' :: rest) :
    Url.Behind (marked pieces ++ tail) := by
  cases pieces with
  | nil =>
    rcases h with rfl | ⟨rest, rfl⟩
    · simp [marked, Url.Behind]
    · exact Url.behind_cons.mpr rfl
  | cons p pieces => exact Url.behind_cons.mpr rfl

/-- The front of a URL in its parts does not depend on the pieces of the query. -/
theorem front_parts (front : List Char) (pieces : List (List Char))
    (h : tail = [] ∨ ∃ rest, tail = '#' :: rest) :
    Url.front (String.ofList (front ++ marked pieces ++ tail)) =
      front.takeWhile fun c => !Url.endsPath c := by
  rw [Url.front, String.toList_ofList, List.append_assoc]
  exact (Url.takeWhile_path (behind_marked pieces h) front).1

theorem Parts.front_eq {url : String} (h : Parts url front query tail) :
    Url.front url = front.takeWhile fun c => !Url.endsPath c := by
  have htext : url = String.ofList (front ++ marked (query.splitOn '&') ++ tail) := by
    rw [marked_of_ne_nil (List.splitOn_ne_nil _ _), List.intercalate_splitOn, List.append_assoc,
      List.cons_append, ← h.text, String.ofList_toList]
  rw [htext, front_parts front _ h.tail]

/-- **Taking a `sync` piece out leaves the front as it is.** -/
theorem front_left (url : String) : Url.front (left url) = Url.front url := by
  obtain ⟨-, he⟩ | ⟨front, query, tail, before, value, after, hparts, -, hleft⟩ := left_cases url
  · rw [he]
  · rw [hleft, hparts.front_eq, front_parts front _ hparts.tail]

theorem DifferInValue.front_eq {url url' : String} (h : DifferInValue url url') :
    Url.front url = Url.front url' := by
  obtain ⟨front, query, query', tail, -, -, -, -, hparts, hparts', -⟩ := h
  rw [hparts.front_eq, hparts'.front_eq]

theorem isClean_left {url : String} (h : Url.IsClean url) : Url.IsClean (left url) := by
  intro c hc
  rcases mem_left hc with rfl | rfl | hurl
  · decide
  · decide
  · exact h c hurl

end Sync

namespace Cache

/-! ## Artifacts -/

/-- Two requests that have the same artifacts. -/
structure SameArtifacts (a b : Request) : Prop where
  host : a.host = b.host
  components : a.pathComponents = b.pathComponents
  name : artifactName a.pathComponents = artifactName b.pathComponents
  /-- Every body has the same artifact for both. -/
  artifact : ∀ settings store store' body kind,
    (Call.of settings store a body kind).artifact = (Call.of settings store' b body kind).artifact
  /-- A body that one of them was answered with is the answer to the other, without a tool, whatever
  calls come in between. -/
  shared : ∀ settings : Settings, settings.useCache = true →
    ∀ (store : Store) (first later : Ask) (between : List Ask) (i : Instrumented),
      first.request = a → later.request = b → first.body = later.body → first.kind = later.kind →
        (∀ ask ∈ between, ask.tool.Confined) → (first.answer settings store).result = .ok i →
          (later.answer settings (store.answerAll settings (first :: between))).result =
              .ok { i with hit := true } ∧
            (later.answer settings (store.answerAll settings (first :: between))).trace.jobs = []

/-- Requests to URLs that lead to the same host and path have the same artifacts. -/
theorem SameArtifacts.of_led {a b : Request} (h : Url.led a.url = Url.led b.url) :
    SameArtifacts a b := by
  rw [Request.led_url, Request.led_url] at h
  obtain ⟨hhost, hpath⟩ := Prod.mk.inj h
  refine ⟨hhost, hpath, congrArg artifactName hpath, fun settings store store' body kind => ?_,
    fun settings hcache store first later between i hfirst hlater hbody hkind hbetween hi => ?_⟩
  · simp only [Call.of, hhost, hpath]
  · have hsame : first.artifact settings.root = later.artifact settings.root := by
      simp only [Ask.artifact, Ask.key, Ask.name, hfirst, hlater, hbody, hkind, hhost, hpath]
    obtain ⟨hartifact, hread⟩ := Ask.read_of_answer hi
    have hthere : (store.answerAll settings (first :: between)).tree.read
        (first.artifact settings.root) = .ok i.body :=
      answerAll_keeps_artifact hcache hbetween hread
    rw [hartifact]
    rw [hsame] at hthere ⊢
    obtain ⟨hhit, -, hjobs⟩ := Ask.answer_eq_hit hcache hthere
    exact ⟨hhit, hjobs⟩

/-- Requests to URLs with the same front have the same artifacts. -/
theorem SameArtifacts.of_front {a b : Request} (ha : Url.IsClean a.url) (hb : Url.IsClean b.url)
    (h : Url.front a.url = Url.front b.url) : SameArtifacts a b :=
  .of_led (Url.led_congr ha hb h)

/-- **The request hook keeps the artifacts of a request**: the host, the path, the name, and for
every body the artifact and what the store answers. And two requests whose URLs differ only in the
value of one `sync` piece share their artifacts behind the hook. -/
theorem preprocess_keeps_artifacts (r : Request) (hclean : Url.IsClean r.url) :
    SameArtifacts r r.preprocess ∧
      ∀ r' : Request, Url.IsClean r'.url → Sync.DifferInValue r.url r'.url →
        SameArtifacts r.preprocess r'.preprocess := by
  have hfront : ∀ r : Request, Url.front r.preprocess.url = Url.front r.url := fun r => by
    rw [r.url_preprocess, Sync.front_left]
  have hleft : ∀ {r : Request}, Url.IsClean r.url → Url.IsClean r.preprocess.url := fun {r} h => by
    rw [r.url_preprocess]
    exact Sync.isClean_left h
  refine ⟨.of_front hclean (hleft hclean) (hfront r).symm, fun r' hclean' hdiffer => ?_⟩
  refine .of_front (hleft hclean) (hleft hclean') ?_
  rw [hfront, hfront, hdiffer.front_eq]

/-- Two requests that differ in the value of a second `sync` piece, with a fragment behind it. -/
theorem preprocess_keeps_artifacts_for_second_piece :
    let r : Request := { url := "https://a.example/static/app.js?sync=1&sync=2#top" }
    let r' : Request := { url := "https://a.example/static/app.js?sync=1&sync=#top" }
    Url.IsClean r.url ∧ r.preprocess.url = "https://a.example/static/app.js?sync=2#top" ∧
      SameArtifacts r r.preprocess ∧ SameArtifacts r.preprocess r'.preprocess := by
  intro r r'
  have hclean : Url.IsClean r.url := by decide
  have hclean' : Url.IsClean r'.url := by decide
  obtain ⟨hsame, hshared⟩ := preprocess_keeps_artifacts r hclean
  refine ⟨hclean, by decide, hsame, hshared r' hclean' ?_⟩
  exact ⟨"https://a.example/static/app.js".toList, "sync=1&sync=2".toList, "sync=1&sync=".toList,
    "#top".toList, ["sync=1".toList], ['2'], [], [],
    ⟨by decide, by decide, by decide, Or.inr ⟨_, rfl⟩⟩,
    ⟨by decide, by decide, by decide, Or.inr ⟨_, rfl⟩⟩, by decide, by decide⟩

/-- A blank inside a URL may come to stand at its end, where it is dropped. -/
example :
    let r : Request := { url := "https://x/y ?sync=1" }
    r.pathComponents = ["y%20"] ∧ r.preprocess.pathComponents = ["y"] := by
  decide +kernel

end Cache

end Interpose
