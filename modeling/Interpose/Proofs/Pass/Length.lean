import Interpose.Proofs.Pass.Tool

/-!
# The length that a response gives

A response may give the length of its body once, several times or not at all, and what it gives may
be wrong. Every change on the way of a pass either touches neither the body nor its length, or it
leaves one length where there was any, in the spelling of the first, and it is that of the new body
(`LengthFollows`). Changes one after the other do the same (`LengthFollows.trans`). So decoding,
setting a body and a completed pass keep what is true, set right what is wrong as soon as they
touch the body, and never add a length (`length_stays_truthful`).
-/

namespace Interpose

open Headers
open Cache (Store)

namespace Response

/-- A response that gives no other length than that of its body. -/
def Truthful (r : Response) : Prop :=
  ∀ value ∈ r.headers.getAll contentLength, value = toString r.body.length

/-- What a change leaves of a body and the length given for it. -/
inductive LengthFollows (r r' : Response) : Prop
  | untouched (hbody : r'.body = r.body)
      (hunder : r'.headers.under contentLength = r.headers.under contentLength)
  | adjusted
      (hunder : r'.headers.under contentLength =
        ((r.headers.under contentLength).head?.map fun e => (e.1, toString r'.body.length)).toList)

variable {r r' r'' : Response}

namespace LengthFollows

theorem refl (r : Response) : LengthFollows r r := .untouched rfl rfl

theorem trans (h : LengthFollows r r') (h' : LengthFollows r' r'') : LengthFollows r r'' := by
  cases h' with
  | untouched hbody' hunder' =>
    cases h with
    | untouched hbody hunder => exact .untouched (hbody'.trans hbody) (hunder'.trans hunder)
    | adjusted hunder => exact .adjusted (by rw [hunder', hunder, hbody'])
  | adjusted hunder' =>
    cases h with
    | untouched hbody hunder => exact .adjusted (by rw [hunder', hunder])
    | adjusted hunder =>
      -- the second change finds the one length that the first has left, if it has left any
      refine .adjusted ?_
      rw [hunder', hunder]
      cases (r.headers.under contentLength).head? <;> rfl

theorem of_changedAt {names : List String} (hbody : r'.body = r.body)
    (hc : ChangedAt names r.headers r'.headers)
    (hn : ∀ n ∈ names, sameText n contentLength = false) : LengthFollows r r' :=
  .untouched hbody (hc.under hn)

theorem withBody (r : Response) (body : Bytes) : LengthFollows r (r.withBody body) := by
  refine .adjusted ?_
  unfold Response.withBody
  cases hfirst : (r.headers.under contentLength).head? with
  | none =>
    have hnone : r.headers.under contentLength = [] := List.head?_eq_none_iff.mp hfirst
    simp [under_eq_nil.mp hnone, hnone]
  | some first =>
    have hsome : r.headers.under contentLength ≠ [] := fun hnone => by simp [hnone] at hfirst
    have hthere : r.headers.contains contentLength = true := by
      simpa [under_eq_nil] using hsome
    simp [hthere, under_set, key?_eq, hfirst]

theorem decode {decoded : Response} (h : r.decode = .ok decoded) : LengthFollows r decoded := by
  obtain ⟨-, rfl⟩ | ⟨value, body, -, -, rfl⟩ := decode_eq_ok h
  · exact refl _
  · have hremove : LengthFollows r { r with headers := r.headers.remove contentEncoding } :=
      of_changedAt rfl (.remove (sameText_self contentEncoding) _)
        (by simp [sameText, lowerText_names])
    exact hremove.trans (withBody _ body)

end LengthFollows

/-- What becomes of the length that a response gives when the response is changed. -/
structure LengthKept (r r' : Response) : Prop where
  /-- What was true stays true. -/
  truthful : r.Truthful → r'.Truthful
  /-- If the body has changed, one length is left of any, in the spelling of the first, and it is
  the body's. -/
  adjusted : r'.body ≠ r.body → ∀ first, (r.headers.under contentLength).head? = some first →
    r'.headers.under contentLength = [(first.1, toString r'.body.length)]
  /-- No length is added. -/
  absent : r.headers.contains contentLength = false → r'.headers.contains contentLength = false

theorem LengthFollows.kept (h : LengthFollows r r') : LengthKept r r' := by
  cases h with
  | untouched hbody hunder =>
    refine ⟨fun htrue value hvalue => ?_, fun hchanged => (hchanged hbody).elim, fun habsent => ?_⟩
    · rw [getAll_eq, hunder] at hvalue
      rw [hbody]
      exact htrue value hvalue
    · rw [← under_eq_nil, hunder, under_eq_nil]
      exact habsent
  | adjusted hunder =>
    refine ⟨fun _ value hvalue => ?_, fun _ first hfirst => ?_, fun habsent => ?_⟩
    · rw [getAll_eq, hunder] at hvalue
      cases hfirst : (r.headers.under contentLength).head? with
      | none => simp [hfirst] at hvalue
      | some first => simpa [hfirst] using hvalue
    · rw [hunder, hfirst]
      rfl
    · rw [← under_eq_nil, hunder, under_eq_nil.mpr habsent]
      rfl

end Response

namespace Pass

open Response (LengthFollows LengthKept)

variable {proxy : Proxy} {store : Store} {request : Request} {decoded : Response}

theorem lengthFollows_merged (request : Request) (decoded : Response) :
    LengthFollows decoded (merged request decoded) :=
  .of_changedAt (body_merged request decoded) (changedAt_merged request decoded)
    (by simp [sameText, lowerText_names])

/-- Work on content of some kind sets the body or leaves it, and then sets the media type. -/
theorem lengthFollows_onto (proxy : Proxy) (store : Store) (request : Request) (r : Response)
    (d : Headers) (kind : Option Kind) :
    LengthFollows r (onto proxy store request r (.scan d) kind).2.2 := by
  cases kind with
  | none => exact .refl r
  | some k =>
    obtain ⟨store', trace, body', hserved⟩ := onto_served proxy store request r.body k
    rw [hserved r (.scan d) rfl]
    have hfailed : LengthFollows r (servedAs k r) :=
      .untouched (body_servedAs k r) (by rw [headers_servedAs])
    have hbody : LengthFollows (servedAs k r)
        (body'.elim (servedAs k r) (servedAs k r).withBody) := by
      cases body' with
      | none => exact .refl _
      | some body => exact .withBody _ body
    have htype : ∀ r : Response, LengthFollows r (setMediaType r (.scan d) k) := fun r =>
      .of_changedAt rfl (changedAt_setMediaType r d k) (by simp [sameText, lowerText_names])
    exact (hfailed.trans hbody).trans (htype _)

theorem lengthFollows_complete (proxy : Proxy) (store : Store) (request : Request)
    (decoded : Response) :
    LengthFollows decoded (complete proxy store request decoded).2.2.1 := by
  obtain ⟨-, -, hresponse⟩ := complete_eq proxy store request decoded
  rw [hresponse]
  have hworked := (lengthFollows_merged request decoded).trans
    (lengthFollows_onto proxy store request (merged request decoded) decoded.headers
      (complete proxy store request decoded).2.2.2)
  refine hworked.trans (.of_changedAt (body_relax ..)
    (relax_relaxed (changedAt_worked proxy store request decoded _) request).1 ?_)
  simp [sameText, lowerText_names]

/-- **The length that a response gives stays truthful.** A body that is set, a response that is
decoded, and one failing that is left as it is, and a pass that completes, whatever the store, the
tool and the checker are: where every length given was the body's it still is; where any was given
and the body has changed, one is left, in the first one's spelling, and it is the new body's; and
where none was given none is. -/
theorem length_stays_truthful (proxy : Proxy) (store : Store) (flow : Flow) (kind : Option Kind)
    (r : Response) (body : Bytes) :
    LengthKept r (r.withBody body) ∧
    LengthKept r (r.decode.toOption.getD r) ∧
    ((run proxy store flow).outcome = .completed kind → ∃ before after,
      flow.response = some before ∧ (run proxy store flow).flow.response = some after ∧
        LengthKept before after) := by
  refine ⟨(LengthFollows.withBody r body).kept, ?_, fun hcompleted => ?_⟩
  · cases hd : r.decode with
    | error fault => exact (LengthFollows.refl r).kept
    | ok decoded => exact (LengthFollows.decode hd).kept
  · obtain ⟨before, decoded, -, hbefore, hdecode, -, hrun⟩ := run_of_completed hcompleted
    refine ⟨before, _, hbefore, by rw [hrun], ?_⟩
    have hdecoded := LengthFollows.decode hdecode
    exact (hdecoded.trans (lengthFollows_complete proxy store flow.request decoded)).kept

/-- A blank page in an encoding, with two lengths, both wrong: the one left is that of the empty
page. -/
theorem length_stays_truthful_for_blank_page :
    let proxy : Proxy := ⟨⟨"cache", true, "coverage"⟩, {},
      Tool.leaving fun _ => (.nothing, .ok ()), fun _ => ⟨false, []⟩⟩
    let store : Store := { tree := {}, now := ⟨0, 0, 0⟩, process := 7 }
    let headers : Headers :=
      ⟨[("Content-Length", "9"), ("Content-Encoding", "deflate"), ("Content-Length", "12")]⟩
    let before : Response := { status := 200, headers, body := [1, 1, 0, 0xFE, 0xFF, 32] }
    let flow : Flow := { request := { url := "x://h/a.html" }, response := some before }
    (run proxy store flow).outcome = .completed (some .html) ∧
    ∃ after, (run proxy store flow).flow.response = some after ∧ before.LengthKept after ∧
      after.body = [] ∧ after.headers.under contentLength = [("Content-Length", "0")] := by
  intro proxy store headers before flow
  have hpage : (run proxy store flow).outcome = .completed (some .html) := by decide +kernel
  have hempty : (run proxy store flow).flow.response.map (·.body) = some [] := by decide +kernel
  have hfirst : (headers.under contentLength).head? = some ("Content-Length", "9") := by
    decide +kernel
  obtain ⟨-, -, hkept⟩ := length_stays_truthful proxy store flow (some .html) before []
  obtain ⟨before', after, hbefore, hafter, hkept⟩ := hkept hpage
  obtain rfl : before = before' := Option.some.inj hbefore
  have hbody : after.body = [] := by simpa [hafter] using hempty
  refine ⟨hpage, after, hafter, hkept, hbody, ?_⟩
  rw [hkept.adjusted (by simp [hbody, before]) _ hfirst, hbody]
  rfl

end Pass

end Interpose
