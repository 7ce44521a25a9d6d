import Interpose.Http.Flow
import Interpose.Proofs.Json.RoundTrip
import Interpose.Proofs.Text.Base64

/-!
# Recorded flows

A part of a flow is recorded as a record in which fields at their default are left out, and reading
puts the default back in their place (`Request.ofJson?_toJson` and its like). A body comes back from
whichever of its two forms it was written in, as the form is chosen by what can be read
(`Bytes.ofJson?_toJson`). So a flow is read back from either layout of its text
(`Flow.read?_compact`, `Flow.read?_pretty`).
-/

namespace Interpose

open Json (present record)

/-! ## Bodies -/

namespace Bytes

theorem ofJson?_toJson (body : Bytes) : ofJson? body.toJson = some body := by
  unfold toJson
  cases hd : Utf8.decode? body with
  | some s =>
    have hs : Bytes.ofText s = body := Utf8.ofText_decode? hd
    simp [ofJson?, record, Json.text, Json.sound, Json.soundMembers, Json.members?, soleText?,
      Json.text?, bodyDepth, hs]
  | none =>
    simp [ofJson?, record, Json.text, Json.sound, Json.soundMembers, Json.members?, soleText?,
      Json.text?, bodyDepth, Base64.decode?_encode]

theorem normal_toJson (body : Bytes) : body.toJson.Normal := by
  unfold toJson
  split <;> exact Json.normal_record (by simp)

end Bytes

/-! ## Headers -/

namespace Headers

theorem ofJson?_toJson (h : Headers) : ofJson? h.toJson = some h := by
  have hentries := Json.list?_map (f := entryOfJson?)
    (g := fun e => .array [.text e.1, .text e.2]) (fun _ => rfl) h.entries
  rw [ofJson?, toJson, hentries]
  rfl

theorem normal_toJson (h : Headers) : h.toJson.Normal := by
  refine .array fun v hv => ?_
  obtain ⟨e, -, rfl⟩ := List.mem_map.mp hv
  exact .array (by simp)

end Headers

/-! ## Requests -/

namespace Request

/-- The fields of a recorded request. -/
def table (r : Request) : List (String × Option Json) :=
  [("method", some (.text r.method)), ("url", some (.text r.url)),
    ("orig_url", r.askedUrl.map .text), ("headers", some r.headers.toJson),
    ("custom_query", if r.customQuery.isEmpty then none
      else some (.array (r.customQuery.map .text))),
    ("force_script", if r.forceScript then some (.bool true) else none),
    ("sync", r.sync.map .text)]

theorem toJson_eq (r : Request) : r.toJson = record (present r.table) := by
  obtain ⟨method, url, askedUrl, headers, customQuery, forceScript, sync⟩ := r
  cases askedUrl <;> cases customQuery <;> cases forceScript <;> cases sync <;> rfl

theorem ofJson?_toJson (r : Request) : ofJson? r.toJson = some r := by
  have hfields := Json.fields?_present r.table (by simp [table])
  have hnames : r.table.map (·.1) = fieldNames := rfl
  have hquery : Json.withDefault [] (Json.list? Json.text?) (if r.customQuery.isEmpty then none
      else some (.array (r.customQuery.map .text))) = some r.customQuery := by
    split
    · rename_i hempty
      rw [List.isEmpty_iff.mp hempty]
      rfl
    · exact Json.list?_map (g := Json.text) (fun _ => rfl) _
  have hforce : Json.withDefault false Json.bool?
      (if r.forceScript then some (.bool true) else none) = some r.forceScript := by
    cases r.forceScript <;> rfl
  rw [hnames, ← toJson_eq] at hfields
  rw [ofJson?, hfields]
  simp only [table, List.map_cons, List.map_nil, Json.withDefault_text, hquery, hforce]
  simp [Json.withDefault, Json.required, Json.text, Json.text?, Headers.ofJson?_toJson]

theorem normal_toJson (r : Request) : r.toJson.Normal := by
  rw [toJson_eq]
  refine Json.normal_present ?_
  simp [table, Headers.normal_toJson, Json.normal_texts, Json.Normal.bool]

end Request

/-! ## Responses -/

namespace Response

/-- The fields of a recorded response. -/
def table (r : Response) : List (String × Option Json) :=
  [("status_code", some (.nat r.status)), ("headers", some r.headers.toJson),
    ("body", some r.body.toJson)]

theorem toJson_eq (r : Response) : r.toJson = record (present r.table) := rfl

theorem ofJson?_toJson {r : Response} (h : r.status < 65536) : ofJson? r.toJson = some r := by
  have hfields := Json.fields?_present r.table (by simp [table])
  have hnames : r.table.map (·.1) = ["status_code", "headers", "body"] := rfl
  rw [hnames, ← toJson_eq] at hfields
  rw [ofJson?, hfields]
  simp [table, Json.withDefault, Json.required, Json.natBelow?, Json.nat, h,
    Headers.ofJson?_toJson, Bytes.ofJson?_toJson]

theorem normal_toJson (r : Response) : r.toJson.Normal := by
  rw [toJson_eq]
  refine Json.normal_present ?_
  simp [table, Headers.normal_toJson, Bytes.normal_toJson]

/-- A response that was read has a status of 16 bits. -/
theorem status_lt_of_ofJson? {v : Json} {r : Response} (h : ofJson? v = some r) :
    r.status < 65536 := by
  unfold ofJson? at h
  split at h
  · simp only [Option.pure_def, Option.bind_eq_bind, Option.bind_eq_some_iff] at h
    obtain ⟨n, hn, headers, -, body, -, hr⟩ := h
    obtain rfl := Option.some.inj hr
    obtain ⟨v, -, hv⟩ := Option.bind_eq_some_iff.mp hn
    exact Json.lt_of_natBelow? hv
  · cases h

end Response

/-! ## Flows -/

namespace Flow

/-- The fields of a recorded flow. -/
def table (f : Flow) : List (String × Option Json) :=
  [("request", some f.request.toJson), ("response", f.response.map Response.toJson),
    ("error", f.error.map .text)]

theorem toJson_eq (f : Flow) : f.toJson = record (present f.table) := by
  obtain ⟨request, response, error⟩ := f
  cases response <;> cases error <;> rfl

/-- Whether a flow can be recorded: its status is a number of 16 bits. -/
def Recordable (f : Flow) : Prop := ∀ r ∈ f.response, r.status < 65536

theorem ofJson?_toJson {f : Flow} (h : f.Recordable) : ofJson? f.toJson = some f := by
  have hfields := Json.fields?_present f.table (by simp [table])
  have hnames : f.table.map (·.1) = ["request", "response", "error"] := rfl
  have hresponse : Json.withDefault none (Json.optional? Response.ofJson?)
      (f.response.map Response.toJson) = some f.response := by
    cases hr : f.response with
    | none => rfl
    | some r =>
      rw [Option.map_some, Json.withDefault, Response.toJson_eq, Json.optional?_record,
        ← Response.toJson_eq, Response.ofJson?_toJson (h r hr), Option.map_some]
  rw [hnames, ← toJson_eq] at hfields
  rw [ofJson?, hfields]
  simp only [table, List.map_cons, List.map_nil, Json.withDefault_text, hresponse]
  simp [Json.required, Request.ofJson?_toJson]

theorem normal_toJson (f : Flow) : f.toJson.Normal := by
  rw [toJson_eq]
  refine Json.normal_present ?_
  simp [table, Request.normal_toJson, Response.normal_toJson]

/-- A flow that was read can be recorded. -/
theorem recordable_of_read? {text : Bytes} {f : Flow} (h : read? text = some f) :
    f.Recordable := by
  obtain ⟨v, -, hv⟩ := Option.bind_eq_some_iff.mp h
  unfold ofJson? at hv
  split at hv
  · simp only [Option.pure_def, Option.bind_eq_bind, Option.bind_eq_some_iff] at hv
    obtain ⟨request, -, response?, hresponse, error, -, hf⟩ := hv
    obtain rfl := Option.some.inj hf
    rintro r rfl
    obtain ⟨v, hr⟩ := Json.of_optional? hresponse
    exact Response.status_lt_of_ofJson? hr
  · cases hv

theorem read?_compact {f : Flow} (h : f.Recordable) : read? (Bytes.ofText f.compact) = some f := by
  rw [read?, compact, Json.read?_compact (normal_toJson f)]
  exact ofJson?_toJson h

theorem read?_pretty {f : Flow} (h : f.Recordable) : read? (Bytes.ofText f.pretty) = some f := by
  rw [read?, pretty, Json.read?_pretty (normal_toJson f)]
  exact ofJson?_toJson h

/-- **A recorded flow is read back**, from the text on one line and from the one with a line for
each member, whatever texts and bytes are in it. -/
theorem recording_reads_back (f : Flow) (h : f.Recordable) :
    read? (Bytes.ofText f.compact) = some f ∧ read? (Bytes.ofText f.pretty) = some f :=
  ⟨read?_compact h, read?_pretty h⟩

/-- A body that is no text, texts in which characters have to be escaped, and empty ones. -/
theorem recording_reads_back_for_bytes :
    let f : Flow := {
      request := {
        url := "http://h/\"\\\x00\x1f\u2028😀", askedUrl := some "",
        customQuery := ["", "\n"], forceScript := true }
      response := some {
        status := 65535, headers := ⟨[("", "\x7f"), ("", "")]⟩, body := [0xFF, 0x0A] }
      error := some "null" }
    Utf8.decode? [0xFF, 0x0A] = none ∧ f.Recordable ∧
      read? (Bytes.ofText f.compact) = some f ∧ read? (Bytes.ofText f.pretty) = some f := by
  intro f
  have hstatus : f.Recordable := by
    rintro r ⟨⟩
    decide
  exact ⟨by decide, hstatus, recording_reads_back f hstatus⟩

end Flow

end Interpose
