import Interpose.Proofs.Pass.Hint
import Interpose.Proofs.Pass.Length

/-!
# What decoding undoes

Decoding heeds the encodings of the first header that lists some (`heeded`). It succeeds exactly on
a body that went through them, and gives back the body that did (`decode_body_iff`). Of any other
body it is told where it stops: at the last encoding that the body reached so far is not in, which
the fault names (`decode_undoes_stack`).

With the headers gathered in one, all encodings that they list are heeded (`heeded_gathered`), while
decoding drops the others unheeded. This makes no difference to any body exactly if the later headers
list none that does anything, or the first one lists an unknown one (`decodes_as_gathered_iff`).
-/

namespace Interpose

open Headers
open Cache (Store)

namespace Response

variable {r decoded : Response} {value : String} {content body : Bytes} {fault : Fault} {h : Headers}

/-! ## The encodings that are heeded -/

/-- The encodings that decoding heeds, which are those of the first header. -/
def heeded (h : Headers) : List String := ((h.get? contentEncoding).map encodings).getD []

/-- The encodings that only the other headers list. -/
def unheeded (h : Headers) : List String := (h.getAll contentEncoding).tail.flatMap encodings

/-- The encodings that the headers list, in the order of their entries. -/
def listed (h : Headers) : List String := (h.getAll contentEncoding).flatMap encodings

/-- A header list with the content encodings that it lists gathered in the first of their entries. -/
def gathered (h : Headers) : Headers :=
  if h.contains contentEncoding then
    h.set contentEncoding (", ".intercalate (h.getAll contentEncoding))
  else h

theorem heeded_of_get? (hvalue : h.get? contentEncoding = some value) :
    heeded h = encodings value := by
  rw [heeded, hvalue]
  rfl

theorem listed_eq (h : Headers) : listed h = heeded h ++ unheeded h := by
  rw [listed, heeded, unheeded, get?_eq_head?_getAll]
  cases h.getAll contentEncoding <;> rfl

/-- **Gathered in one header, all encodings are heeded.** -/
theorem heeded_gathered (h : Headers) : heeded (gathered h) = listed h := by
  unfold gathered
  cases hc : h.contains contentEncoding with
  | false =>
    rw [if_neg (by decide), heeded, listed, get?_eq_head?_getAll, getAll_eq_nil.mpr hc]
    rfl
  | true =>
    have hsome : h.getAll contentEncoding ≠ [] := fun hnil => by simp [getAll_eq_nil, hc] at hnil
    rw [if_pos rfl, heeded_of_get? (get?_set (sameText_self contentEncoding) h _),
      encodings_intercalate _ hsome, listed]

/-! ## What decoding succeeds on -/

/-- **Decoding gives back the body that went through the encodings that it heeds.** -/
theorem decode_body_iff : r.decode.toOption.map (·.body) = some content ↔
    EncodedBy (heeded r.headers) content r.body := by
  rw [← undoAll_reverse_eq_ok_iff, decode, heeded]
  cases r.headers.get? contentEncoding with
  | none => simp [Except.toOption, undoAll]
  | some value =>
    cases hundo : undoAll (encodings value).reverse r.body with
    | error fault => simp [Except.toOption, hundo]
    | ok body => simp [Except.toOption, hundo, withBody]

theorem decode_eq_ok_iff : (∃ decoded, r.decode = .ok decoded ∧ decoded.body = content) ↔
    EncodedBy (heeded r.headers) content r.body := by
  rw [← decode_body_iff]
  cases r.decode <;> simp [Except.toOption]

/-- What stops decoding is the last encoding that the body is not in, once those after it are
undone. -/
theorem decode_eq_error (h : r.decode = .error fault)
    (hvalue : r.headers.get? contentEncoding = some value) :
    ∃ before piece after reached reason, splitText ',' value = before ++ piece :: after ∧
      EncodedBy (after.map canonical) reached r.body ∧
      (∀ content, ¬EncodedIn (canonical piece) content reached) ∧
      fault = .decode (canonical piece) reason := by
  have hundo : undoAll (encodings value).reverse r.body = .error fault := by
    rw [decode_of_get? hvalue] at h
    cases hu : undoAll (encodings value).reverse r.body with
    | error fault' => simpa [hu, Except.map] using h
    | ok body => simp [hu, Except.map] at h
  obtain ⟨before, name, after, reached, reason, hnames, hafter, hnot, hfault⟩ :=
    undoAll_reverse_eq_error hundo
  rw [encodings_eq, List.map_eq_append_iff] at hnames
  obtain ⟨pieces, rest, hpieces, -, hrest⟩ := hnames
  obtain ⟨piece, pieces', rfl, rfl, rfl⟩ := List.map_eq_cons_iff.mp hrest
  exact ⟨pieces, piece, pieces', reached, reason, hpieces, hafter, hnot, hfault⟩

theorem getAll_withBody (r : Response) (body : Bytes) :
    (r.withBody body).headers.getAll contentLength =
      if r.headers.contains contentLength then [toString body.length] else [] := by
  unfold withBody
  cases hc : r.headers.contains contentLength with
  | false => simp [getAll_eq_nil, hc]
  | true => simp [getAll_eq, under_set]

/-- What decoding leaves of a response: its status, no encoding, one length where there was any,
which is that of the decoded body, and all other headers. -/
structure Undone (r decoded : Response) : Prop where
  status : decoded.status = r.status
  headers : ChangedAt [contentEncoding, contentLength] r.headers decoded.headers
  encodings : decoded.headers.contains contentEncoding = false
  length : decoded.headers.getAll contentLength =
    if r.headers.contains contentLength then [toString decoded.body.length] else []

theorem undone_of_decode (h : r.decode = .ok decoded)
    (hvalue : r.headers.get? contentEncoding = some value) : Undone r decoded := by
  obtain ⟨hheaders, hencodings⟩ := changedAt_decode h
  refine ⟨status_decode h, hheaders, hencodings, ?_⟩
  obtain ⟨hnone, -⟩ | ⟨-, body, -, -, rfl⟩ := decode_eq_ok h
  · rw [hvalue] at hnone
    cases hnone
  · have hremove := ChangedAt.remove (sameText_self contentEncoding) r.headers
    rw [getAll_withBody, hremove.contains (by simp [sameText, lowerText_names])]
    rfl

/-- **Decoding undoes a stack of encodings, or changes nothing.** The members of the list may be in
any letter case, with blanks around them or empty. A body that went through them from the first to
the last decodes to the one that did, and no other body decodes to it; status and other headers stay,
no encoding is left, and a length that was given becomes that of the decoded body. If decoding fails,
then at the last member that the body is not in once those after it are undone; the fault names this
member, and a pass leaves the flow as it was but for the error. -/
theorem decode_undoes_stack (r : Response) (value : String)
    (hvalue : r.headers.get? contentEncoding = some value) :
    (∀ content, EncodedBy ((splitText ',' value).map canonical) content r.body ↔
      ∃ decoded, r.decode = .ok decoded ∧ decoded.body = content) ∧
    (∀ decoded, r.decode = .ok decoded → Undone r decoded) ∧
    ∀ fault, r.decode = .error fault →
      (∃ before piece after reached reason, splitText ',' value = before ++ piece :: after ∧
        EncodedBy (after.map canonical) reached r.body ∧
        (∀ content, ¬EncodedIn (canonical piece) content reached) ∧
        fault = .decode (canonical piece) reason) ∧
      ∀ proxy store flow, flow.error = none → flow.response = some r →
        (Pass.run proxy store flow).flow = { flow with error := some fault.message } := by
  refine ⟨fun content => ?_, fun decoded hdecode => undone_of_decode hdecode hvalue,
    fun fault hfault => ⟨decode_eq_error hfault hvalue, fun proxy store flow herror hresponse => ?_⟩⟩
  · rw [decode_eq_ok_iff, heeded_of_get? hvalue, encodings_eq]
  · simp [Pass.run, herror, hresponse, hfault]

/-- A stack of five, of which two do nothing; and one that stops at an unknown encoding, though not
before the one after it is undone. -/
theorem decode_undoes_stack_of_mixed_spelling :
    let content : Bytes := [72, 105]
    let stacked : Response :=
      { status := 200, body := Inflate.store (Gzip.store (Gzip.store content))
        headers := ⟨[("content-encoding", " GZip , ,x-gzip, Deflate ,IDENTITY"),
          ("Content-Length", "9")]⟩ }
    let unknown : Response :=
      { status := 200, body := Inflate.store content
        headers := ⟨[("Content-Encoding", "Br, Deflate")]⟩ }
    (∃ decoded, stacked.decode = .ok decoded ∧ decoded.body = content ∧
      decoded.headers.getAll contentLength = ["2"]) ∧
    ∃ reason, unknown.decode = .error (.decode "br" reason) := by
  intro content stacked unknown
  have hspelling : lowerText "content-encoding" = "content-encoding" ∧
      lowerText "Content-Encoding" = "content-encoding" ∧
      lowerText "Content-Length" = "content-length" := by decide +kernel
  have hstacked : stacked.headers.get? contentEncoding =
      some " GZip , ,x-gzip, Deflate ,IDENTITY" := by
    simp [stacked, get?, named, sameText, lowerText_names, hspelling]
  have hthere : stacked.headers.contains contentLength = true := by
    simp [stacked, contains, named, sameText, lowerText_names, hspelling]
  have hunknown : unknown.headers.get? contentEncoding = some "Br, Deflate" := by
    simp [unknown, get?, named, sameText, lowerText_names, hspelling]
  have hnames : (splitText ',' " GZip , ,x-gzip, Deflate ,IDENTITY").map canonical =
      ["gzip", "", "x-gzip", "deflate", "identity"] := by decide +kernel
  have hpieces : splitText ',' "Br, Deflate" = ["Br", " Deflate"] := by decide +kernel
  have hbr : canonical "Br" = "br" := by decide +kernel
  have hdeflate : canonical " Deflate" = "deflate" := by decide +kernel
  constructor
  · obtain ⟨hbody, hundone, -⟩ := decode_undoes_stack stacked _ hstacked
    have hlist : EncodedBy ["gzip", "", "x-gzip", "deflate", "identity"] content stacked.body :=
      .cons (.gzip (Or.inl rfl) (Gzip.decode?_store content)) <| .cons (.plain (by decide)) <|
        .cons (.gzip (Or.inr rfl) (Gzip.decode?_store _)) <| .cons (encodedIn_raw _) <|
          .cons (.plain (by decide)) (.nil _)
    obtain ⟨decoded, hdecode, hcontent⟩ := (hbody content).mp (by rw [hnames]; exact hlist)
    have hlength := (hundone decoded hdecode).length
    rw [if_pos hthere, hcontent, show toString content.length = "2" by decide +kernel] at hlength
    exact ⟨decoded, hdecode, hcontent, hlength⟩
  · obtain ⟨hbody, -, hfails⟩ := decode_undoes_stack unknown _ hunknown
    rw [hpieces, List.map_cons, hbr] at hbody
    cases hdecode : unknown.decode with
    | ok decoded =>
      have hknown := ((hbody decoded.body).mpr ⟨decoded, hdecode, rfl⟩).known "br" (by simp)
      exact absurd hknown (by decide)
    | error fault =>
      obtain ⟨⟨before, piece, after, reached, reason, hlist, hafter, hnot, rfl⟩, -⟩ :=
        hfails fault hdecode
      rw [hpieces] at hlist
      rcases before with _ | ⟨first, _ | ⟨second, before⟩⟩
      · obtain ⟨rfl, -⟩ := List.cons.inj hlist
        exact ⟨reason, by rw [hbr]⟩
      · -- the last member is no failure, as the body is in it
        obtain ⟨-, hlist⟩ := List.cons.inj hlist
        obtain ⟨rfl, rfl⟩ := List.cons.inj hlist
        obtain ⟨⟩ := hafter
        rw [hdeflate] at hnot
        exact absurd (encodedIn_raw content) (hnot content)
      · simp at hlist

/-! ## Encodings that are dropped unheeded -/

/-- Header lists of which decoding heeds all encodings that matter: those that it drops unheeded leave
every body as it is, or one that it heeds is unknown. -/
def HeedsEnough (h : Headers) : Prop :=
  (∀ name ∈ unheeded h, name ∈ plainEncodings) ∨ ∃ name ∈ heeded h, name ∉ knownEncodings

/-- Where decoding heeds enough, a body went through all encodings if it went through the heeded. -/
theorem HeedsEnough.encodedBy (henough : HeedsEnough h) :
    EncodedBy (listed h) content body ↔ EncodedBy (heeded h) content body := by
  rw [listed_eq]
  rcases henough with hplain | ⟨name, hname, hunknown⟩
  · have hnone : active (unheeded h) = [] := by simpa [active] using hplain
    rw [← encodedBy_active, active, List.filter_append, ← active, ← active, hnone, List.append_nil,
      encodedBy_active]
  · exact iff_of_false (fun hall => hunknown (hall.known name (List.mem_append_left _ hname)))
      fun hheeded => hunknown (hheeded.known name hname)

/-- **Where decoding heeds too little, it takes some body for decoded that is not.** The empty body,
stored in the heeded encodings, went through no longer list of them. -/
theorem heedsEnough_of_encodedBy
    (hall : ∀ content body, EncodedBy (heeded h) content body → EncodedBy (listed h) content body) :
    HeedsEnough h := by
  by_cases hknown : ∀ name ∈ heeded h, name ∈ knownEncodings
  · have hactive : ∀ name ∈ active (heeded h), name ∈ knownEncodings :=
      fun name hname => hknown name (List.mem_filter.mp hname).1
    have hlisted := encodedBy_active.mpr
      (hall [] _ (encodedBy_active.mp (encodedBy_storedForms hactive [])))
    have hlength := length_le_of_storedForms hactive (fun _ => not_plain_of_mem_active)
      (fun _ => not_plain_of_mem_active) hlisted
    rw [listed_eq, active, List.filter_append, List.length_append, ← active, ← active] at hlength
    have hnone : active (unheeded h) = [] := List.eq_nil_of_length_eq_zero (by omega)
    exact Or.inl (by simpa [active] using hnone)
  · push Not at hknown
    exact Or.inr hknown

/-- **Decoding treats several headers as one exactly if it heeds enough.** Then every body decodes as
it does with the encodings gathered in one header, and one that is decoded went through all
encodings that were listed. Else, for some body neither is so. -/
theorem decodes_as_gathered_iff (h : Headers) :
    ((∀ status body, (Response.mk status h body).decode.toOption.map (·.body) =
        (Response.mk status (gathered h) body).decode.toOption.map (·.body)) ↔ HeedsEnough h) ∧
    ((∀ status body decoded, (Response.mk status h body).decode = .ok decoded →
        EncodedBy (listed h) decoded.body body) ↔ HeedsEnough h) ∧
    ∀ status body decoded, (Response.mk status h body).decode = .ok decoded →
      EncodedBy (heeded h) decoded.body body ∧
        decoded.headers.contains contentEncoding = false := by
  have hsame : ∀ status body, ((Response.mk status h body).decode.toOption.map (·.body) =
      (Response.mk status (gathered h) body).decode.toOption.map (·.body) ↔
        ∀ content, EncodedBy (heeded h) content body ↔ EncodedBy (listed h) content body) := by
    intro status body
    rw [← heeded_gathered, Option.ext_iff]
    exact forall_congr' fun content => iff_congr decode_body_iff decode_body_iff
  have hheeded : ∀ status body decoded, (Response.mk status h body).decode = .ok decoded →
      EncodedBy (heeded h) decoded.body body := fun status body decoded hdecode =>
    decode_eq_ok_iff.mp ⟨decoded, hdecode, rfl⟩
  refine ⟨⟨fun halike => ?_, fun henough status body => ?_⟩,
    ⟨fun hundone => ?_, fun henough status body decoded hdecode => ?_⟩,
    fun status body decoded hdecode => ⟨hheeded _ _ _ hdecode, (changedAt_decode hdecode).2⟩⟩
  · exact heedsEnough_of_encodedBy fun content body hin =>
      ((hsame 200 body).mp (halike 200 body) content).mp hin
  · exact (hsame status body).mpr fun content => henough.encodedBy.symm
  · refine heedsEnough_of_encodedBy fun content body hin => ?_
    obtain ⟨decoded, hdecode, rfl⟩ := decode_eq_ok_iff.mpr (show
      EncodedBy (heeded (Response.mk 200 h body).headers) content _ from hin)
    exact hundone 200 body decoded hdecode
  · exact henough.encodedBy.mpr (hheeded _ _ _ hdecode)

/-- An encoding that does nothing hides one that is unknown: its header is dropped with the other, and
any body passes for decoded. -/
theorem not_decodes_as_gathered_for_hidden_encoding (status : Nat) (body : Bytes) :
    let headers : Headers := ⟨[("Content-Encoding", "identity"), ("content-encoding", "br")]⟩
    (Response.mk status headers body).decode = .ok ⟨status, {}, body⟩ ∧
    (Response.mk status (gathered headers) body).decode =
      .error (.decode "br" "unsupported content encoding") := by
  intro headers
  have hspelling : lowerText "Content-Encoding" = "content-encoding" ∧
      lowerText "content-encoding" = "content-encoding" := by decide +kernel
  have hnamed : ∀ name ∈ ["Content-Encoding", "content-encoding"], ∀ value,
      named contentEncoding (name, value) = true := by
    simp [named, sameText, lowerText_names, hspelling]
  have hfirst : headers.get? contentEncoding = some "identity" := by
    simp [headers, get?, hnamed]
  have hjoined : ", ".intercalate (headers.getAll contentEncoding) = "identity, br" := by
    simp [headers, getAll, hnamed, ← String.toList_inj]
  have hgathered : (gathered headers).get? contentEncoding = some "identity, br" := by
    have hthere : headers.contains contentEncoding = true := by simp [headers, contains, hnamed]
    rw [gathered, if_pos hthere, get?_set (sameText_self contentEncoding), hjoined]
  have hremove : headers.remove contentEncoding = {} := by simp [headers, remove, hnamed]
  have hlength : ({} : Headers).contains contentLength = false := rfl
  have hidentity : (encodings "identity").reverse = ["identity"] := by decide +kernel
  have hboth : (encodings "identity, br").reverse = ["br", "identity"] := by decide +kernel
  have hundo : undoAll ["identity"] body = .ok body := rfl
  have hstop : undoAll ["br", "identity"] body =
      .error (.decode "br" "unsupported content encoding") := rfl
  rw [decode_of_get? hfirst, decode_of_get? hgathered, hidentity, hboth, hundo, hstop]
  simp [Except.map, withBody, hremove, hlength]

end Response

end Interpose
