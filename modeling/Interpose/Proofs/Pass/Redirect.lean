import Interpose.Proofs.Pass.Tool

/-!
# Where a response leads

A pass sets the status of a response in three places and its target in two. A response without
content gets the status of one with content, a redirect carries the request's query on, an HTML page
in a script's place becomes a failure, and a redirect to the request's own URL does so too and loses
its target. Each step that depends on the target is told here by the target and the status alone
(`get?_mergeQuery`, `status_relax`, `get?_relax`).

Put together, the status and the target that a completed pass leaves are told by the response that
it found (`Led`, `completed_status_and_target`). So no completed pass leaves a redirect to the
request itself or a response without content.
-/

namespace Interpose

open Headers
open Cache (Store)

namespace Response

/-- Where a response leads once a redirect carries the given pieces of query on. -/
def target? (r : Response) (pieces : List String) : Option String :=
  (r.headers.get? location).map fun target =>
    if (r.status = 301 ∨ r.status = 302) ∧ pieces ≠ [] then mergedTarget target pieces else target

/-! ## Carrying a query on -/

/-- Carrying a query on leaves the target so told. -/
theorem get?_mergeQuery (r : Response) (pieces : List String) :
    (r.mergeQuery (.scan r.headers) pieces).headers.get? location = r.target? pieces := by
  rw [HeaderIndex.scan_eq]
  unfold mergeQuery target?
  by_cases hmerge : (r.status = 301 ∨ r.status = 302) ∧ pieces ≠ []
  · simp only [if_pos hmerge]
    cases hk : r.headers.key? location with
    | none =>
      have hnone : r.headers.get? location = none := get?_eq_none.mpr (key?_eq_none.mp hk)
      simp [hnone]
    | some key =>
      have hspelling : sameText key location = true := (key?_eq_some hk).1
      cases hg : r.headers.get? location with
      | none => simp [get?_congr hspelling, hg]
      | some target => simp [get?_congr hspelling, hg, get?_set hspelling]
  · simp [hmerge]

theorem target?_decode {r decoded : Response} (h : r.decode = .ok decoded)
    (pieces : List String) : decoded.target? pieces = r.target? pieces := by
  have hlocation : decoded.headers.get? location = r.headers.get? location :=
    (changedAt_decode h).1.get? (by simp [sameText, lowerText_names])
  rw [target?, target?, hlocation, status_decode h]

/-! ## Breaking a loop -/

variable {d : Headers} {r : Response}

/-- A response leads to a URL if that is its target, as long as the index knows of a target. -/
theorem loopsTo_scan (hfound : d.contains location = false → r.headers.get? location = none)
    (url : String) : r.loopsTo (.scan d) url = (r.headers.get? location == some url) := by
  rw [HeaderIndex.scan_eq]
  unfold loopsTo
  cases hk : d.key? location with
  | none => simp [hfound (key?_eq_none.mp hk)]
  | some key => simp [get?_congr (key?_eq_some hk).1]

theorem breakLoop_scan (hfound : d.contains location = false → r.headers.get? location = none)
    (url : String) :
    (r.breakLoop (.scan d) url).status =
        (if r.headers.get? location = some url then 500 else r.status) ∧
      (r.breakLoop (.scan d) url).headers.get? location =
        if r.headers.get? location = some url then none else r.headers.get? location := by
  have hloops := loopsTo_scan hfound url
  unfold breakLoop
  rw [hloops, HeaderIndex.scan_eq]
  cases hk : d.key? location with
  | none => simp [hfound (key?_eq_none.mp hk)]
  | some key =>
    by_cases hown : r.headers.get? location = some url
    · have hgone : (r.headers.remove key).get? location = none :=
        get?_eq_none.mpr (contains_remove (key?_eq_some hk).1 _)
      simp [hown, hgone]
    · simp [hown]

end Response

namespace Pass

open Response

variable {d : Headers} {r : Response}

theorem target?_withContent (r : Response) (pieces : List String) :
    (withContent r).target? pieces = r.target? pieces := by
  unfold withContent
  split
  · rename_i hempty
    simp [target?, hempty]
  · rfl

/-- A response that a pass works on leads where the one that it decoded leads. -/
theorem get?_merged (request : Request) (decoded : Response) :
    (merged request decoded).headers.get? location = decoded.target? request.customQuery := by
  rw [merged, ← headers_withContent decoded, get?_mergeQuery, target?_withContent]

theorem status_relax (hfound : d.contains location = false → r.headers.get? location = none)
    (request : Request) : (relax request r (.scan d)).1.status =
      if r.headers.get? location = some request.url then 500 else r.status := by
  have hdrop : ∀ (r : Response) index, (r.dropPolicy index).status = r.status := by
    intro r index
    unfold Response.dropPolicy
    split <;> rfl
  rw [← (breakLoop_scan hfound request.url).1]
  exact hdrop _ _

theorem get?_relax (hfound : d.contains location = false → r.headers.get? location = none)
    (request : Request) : (relax request r (.scan d)).1.headers.get? location =
      if r.headers.get? location = some request.url then none else r.headers.get? location := by
  have hread := changedAt_allowReading d (r.breakLoop (.scan d) request.url) request
  have hdrop := changedAt_dropPolicy d
    ((r.breakLoop (.scan d) request.url).allowReading (.scan d) request)
  rw [← (breakLoop_scan hfound request.url).2, relax,
    hdrop.get? (by simp [sameText, lowerText_names]),
    hread.get? (by simp [sameText, lowerText_names])]

/-! ## Completed passes -/

/-- What a pass of a kind leaves of the status and target of a response that it found and decoded. -/
structure Led (request : Request) (kind : Option Kind) (before decoded after : Response) :
    Prop where
  /-- A redirect to the request itself and an HTML page in a script's place are failures, and a
  response without content gets the status of one with content. -/
  status : after.status =
    if before.target? request.customQuery = some request.url ∨
        (kind = some .script ∧ Sniff.looksLikeHtml (Classification.lookedAt decoded.body)) then 500
    else if before.status = 204 then 200
    else before.status
  /-- A redirect to the request itself has no target left. -/
  broken : before.target? request.customQuery = some request.url →
    after.headers.contains location = false
  /-- Any other target is kept, with the query that it carries on. -/
  kept : before.target? request.customQuery ≠ some request.url →
    after.headers.get? location = before.target? request.customQuery
  /-- No redirect to the request itself is left. -/
  notOwn : after.headers.get? location ≠ some request.url
  /-- No response without content is left. -/
  content : after.status ≠ 204

theorem complete_led (proxy : Proxy) (store : Store) (request : Request) {before decoded : Response}
    (hdecode : before.decode = .ok decoded) :
    Led request (complete proxy store request decoded).2.2.2 before decoded
      (complete proxy store request decoded).2.2.1 := by
  obtain ⟨-, -, hresponse⟩ := complete_eq proxy store request decoded
  generalize (complete proxy store request decoded).2.2.2 = kind at hresponse ⊢
  generalize hworked : (onto proxy store request (merged request decoded) (.scan decoded.headers)
    kind).2.2 = worked at hresponse
  have htarget : worked.headers.get? location = before.target? request.customQuery := by
    obtain ⟨honto, -, -⟩ :=
      onto_relaxed (changedAt_merged request decoded) proxy store request kind
    rw [← hworked, honto.get? (by simp [sameText, lowerText_names]), get?_merged,
      target?_decode hdecode]
  have hfound : decoded.headers.contains location = false →
      worked.headers.get? location = none := fun hnone => by
    rw [htarget, ← target?_decode hdecode, target?, get?_eq_none.mpr hnone]
    rfl
  have hstatus : worked.status =
      if kind = some .script ∧ Sniff.looksLikeHtml (Classification.lookedAt decoded.body) then 500
      else if before.status = 204 then 200 else before.status := by
    rw [← hworked, status_onto, body_merged, merged, status_mergeQuery, status_withContent,
      status_decode hdecode]
  have hleft : (complete proxy store request decoded).2.2.1.headers.get? location =
      if before.target? request.customQuery = some request.url then none
      else before.target? request.customQuery := by
    rw [hresponse, get?_relax hfound, htarget]
  have hfinal : (complete proxy store request decoded).2.2.1.status =
      if before.target? request.customQuery = some request.url then 500 else worked.status := by
    rw [hresponse, status_relax hfound, htarget]
  refine ⟨?_, fun hown => ?_, fun hother => ?_, ?_, ?_⟩
  · rw [hfinal, hstatus]
    by_cases hown : before.target? request.customQuery = some request.url
    · simp [hown]
    · simp [hown]
  · rw [← get?_eq_none, hleft, if_pos hown]
  · rw [hleft, if_neg hother]
  · rw [hleft]
    split
    · simp
    · assumption
  · rw [hfinal, hstatus]
    by_cases hempty : before.status = 204
    · simp only [if_pos hempty]
      repeat' split
      all_goals omega
    · simp only [if_neg hempty]
      repeat' split
      all_goals omega

/-- **The status and the target of a completed pass.** Whatever the store, the tool and the checker
do, both are told by the response that the pass found and by the kind that it completed with. -/
theorem completed_status_and_target (proxy : Proxy) (store : Store) (flow : Flow)
    (kind : Option Kind) (h : (run proxy store flow).outcome = .completed kind) :
    ∃ before decoded after, flow.response = some before ∧ before.decode = .ok decoded ∧
      (run proxy store flow).flow = { flow with response := some after } ∧
      Led flow.request kind before decoded after := by
  obtain ⟨before, decoded, -, hbefore, hdecode, rfl, hrun⟩ := run_of_completed h
  exact ⟨before, decoded, _, hbefore, hdecode, hrun, complete_led proxy store flow.request hdecode⟩

/-- A redirect that leads to the request itself only once it carries the request's query on. -/
theorem completed_status_and_target_for_merged_loop :
    let proxy : Proxy := ⟨⟨"cache", true, "coverage"⟩, {},
      Tool.leaving fun _ => (.nothing, .ok ()), fun _ => ⟨false, []⟩⟩
    let store : Store := { tree := {}, now := ⟨0, 0, 0⟩, process := 7 }
    let before : Response := { status := 302, headers := ⟨[("Location", "x://h/a")]⟩ }
    let flow : Flow :=
      { request := { url := "x://h/a?b=1", customQuery := ["b=1"] }, response := some before }
    (run proxy store flow).outcome = .completed none ∧
    ∃ after, (run proxy store flow).flow.response = some after ∧ after.status = 500 ∧
      after.headers.contains location = false := by
  intro proxy store before flow
  have hunknown : (run proxy store flow).outcome = .completed none := by decide +kernel
  have hlocation : before.headers.get? location = some "x://h/a" := by decide +kernel
  have hcarried : mergedTarget "x://h/a" ["b=1"] = "x://h/a?b=1" := by cbv
  have htarget : before.target? flow.request.customQuery = some flow.request.url := by
    rw [target?, hlocation, Option.map_some, if_pos (by simp [before, flow]), hcarried]
  obtain ⟨before', decoded, after, hbefore, -, hrun, hled⟩ :=
    completed_status_and_target proxy store flow none hunknown
  obtain rfl : before = before' := Option.some.inj hbefore
  refine ⟨hunknown, after, by rw [hrun], ?_, hled.broken htarget⟩
  rw [hled.status, if_pos (Or.inl htarget)]

end Pass

end Interpose
