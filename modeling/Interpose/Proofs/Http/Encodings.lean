import Interpose.Http.Response
import Interpose.Proofs.Compression.Stored
import Interpose.Proofs.Text.Ascii
import Mathlib.Data.List.Induction

/-!
# Encodings undone one after the other

A header value lists encodings in the order in which they were applied, each in any letter case and
with blanks around it (`encodings_eq`). `EncodedIn` says that a body is a form of another one in an
encoding, and `EncodedBy` that it went through a list of them. Undoing a list from its end gives a
body back exactly if it went through the list (`undoAll_reverse_eq_ok_iff`). Otherwise what is
undone goes as far as it can, and the fault names the encoding that the body reached so is not in
(`undoAll_reverse_eq_error`).

Every body has a form in every encoding that is known: the one that holds it without compressing it
(`storedForm`). Such a form is one of no other body (`eq_of_storedForm`), so that stored forms come
off one at a time, and no longer list of encodings leads to them (`length_le_of_storedForms`).
-/

namespace Interpose.Response

/-! ## Lists of encodings -/

/-- An encoding as it is known: in lower case and without the blanks around it. -/
def canonical (piece : String) : String := lowerText (String.ofList (Blank.trim piece.toList))

theorem isBlank_toLower (c : Char) : Blank.isBlank c.toLower = Blank.isBlank c := by
  rcases toLower_cases c with ⟨-, heq⟩ | ⟨hbounds, hlower⟩
  · rw [heq]
  · rw [Bool.eq_iff_iff]
    simp only [Blank.isBlank, hlower]
    simp
    omega

theorem toLower_eq_comma (c : Char) : (c.toLower == ',') = (c == ',') := by
  rw [Bool.eq_iff_iff, beq_iff_eq, beq_iff_eq]
  rcases toLower_cases c with ⟨-, heq⟩ | ⟨hbounds, hlower⟩
  · rw [heq]
  · refine iff_of_false (fun h => ?_) ?_
    · rw [h] at hlower
      change 44 = _ at hlower
      omega
    · rintro rfl
      exact absurd hbounds.1 (by decide)

theorem trim_map_toLower (s : List Char) :
    Blank.trim (s.map Char.toLower) = (Blank.trim s).map Char.toLower := by
  have hblank : Blank.isBlank ∘ Char.toLower = Blank.isBlank := funext isBlank_toLower
  simp only [Blank.trim, List.dropWhile_map, ← List.map_reverse, hblank]

theorem splitOn_map_toLower (s : List Char) :
    (s.map Char.toLower).splitOn ',' = (s.splitOn ',').map (List.map Char.toLower) := by
  induction s with
  | nil => simp
  | cons c s ih =>
    rw [List.map_cons, List.splitOn_cons_eq_if_modifyHead, List.splitOn_cons_eq_if_modifyHead,
      toLower_eq_comma, ih]
    split
    · rfl
    · cases hs : s.splitOn ',' <;> rfl

/-- **The encodings of a header value are its members in their known form.** -/
theorem encodings_eq (value : String) : encodings value = (splitText ',' value).map canonical := by
  rw [encodings, splitText, lowerText, String.toList_map, splitOn_map_toLower, List.map_map,
    List.map_map]
  refine List.map_congr_left fun piece _ => ?_
  simp [canonical, lowerText, trim_map_toLower, ← String.toList_inj]

/-- A blank in front of a list of encodings is one in front of its first member. -/
theorem encodings_blank (value : String) : encodings (" " ++ value) = encodings value := by
  have hspace : lowerText (" " ++ value) = " " ++ lowerText value := by
    rw [← String.toList_inj]
    simp [lowerText]
  unfold encodings
  rw [hspace, String.toList_append, show " ".toList = [' '] from rfl, List.singleton_append,
    List.splitOn_cons_eq_if_modifyHead, if_neg (by decide)]
  cases hs : (lowerText value).toList.splitOn ',' with
  | nil => rfl
  | cons piece rest =>
    have htrim : Blank.trim (' ' :: piece) = Blank.trim piece := by
      rw [Blank.trim, List.dropWhile_cons_of_pos (by decide), Blank.trim]
    simp [htrim]

/-- **Joined header values list their encodings one after the other.** -/
theorem encodings_intercalate (values : List String) (h : values ≠ []) :
    encodings (", ".intercalate values) = values.flatMap encodings := by
  induction values with
  | nil => exact absurd rfl h
  | cons value rest ih =>
    by_cases hrest : rest = []
    · subst hrest
      simp
    · have hjoin : lowerText (", ".intercalate (value :: rest)) =
          lowerText value ++ "," ++ lowerText (" " ++ ", ".intercalate rest) := by
        have hmore : rest.map String.toList ≠ [] := by simpa using hrest
        rw [← String.toList_inj]
        simp [lowerText, String.toList_intercalate, List.intercalate_cons_of_ne_nil hmore]
      rw [List.flatMap_cons, ← ih hrest, ← encodings_blank (", ".intercalate rest)]
      unfold encodings
      rw [hjoin, String.toList_append, String.toList_append, show ",".toList = [','] from rfl,
        List.append_assoc, List.singleton_append, List.splitOn_append_cons_self, List.map_append]

/-! ## Undoing a list of encodings -/

/-- The encodings that leave a body as it is. -/
def plainEncodings : List String := ["", "identity", "none"]

/-- The encodings that are known. -/
def knownEncodings : List String := plainEncodings ++ ["gzip", "x-gzip", "deflate"]

/-- A body `coded` that is `content` in an encoding: what an encoder makes of it that the decoder of
the encoding inverts. A deflated body is a zlib stream, or a raw one that is none. -/
inductive EncodedIn : String → Bytes → Bytes → Prop
  | plain {name : String} {content : Bytes} (hname : name ∈ plainEncodings) :
    EncodedIn name content content
  | gzip {name : String} {content coded : Bytes} (hname : name = "gzip" ∨ name = "x-gzip")
    (hdecode : Gzip.decode? coded = .ok content) : EncodedIn name content coded
  | zlib {content coded : Bytes} (hdecode : Zlib.decode? coded = some content) :
    EncodedIn "deflate" content coded
  | raw {content coded rest : Bytes} (hzlib : Zlib.decode? coded = none)
    (hdecode : inflate? coded = .ok (content, rest)) : EncodedIn "deflate" content coded

/-- A body that went through a list of encodings, from the first to the last. -/
inductive EncodedBy : List String → Bytes → Bytes → Prop
  | nil (body : Bytes) : EncodedBy [] body body
  | cons {name : String} {names : List String} {content inner coded : Bytes}
    (hfirst : EncodedIn name content inner) (hrest : EncodedBy names inner coded) :
    EncodedBy (name :: names) content coded

variable {name other : String} {names others : List String} {content coded body : Bytes}
  {fault : Fault}

theorem mem_plainEncodings :
    name ∈ plainEncodings ↔ name = "" ∨ name = "identity" ∨ name = "none" := by
  simp [plainEncodings]

theorem undo_of_plain (h : name ∈ plainEncodings) (body : Bytes) : undo name body = .ok body := by
  rcases mem_plainEncodings.mp h with rfl | rfl | rfl <;> rfl

/-- **An encoding is undone exactly on the bodies that are in it.** -/
theorem undo_eq_ok_iff : undo name coded = .ok content ↔ EncodedIn name content coded := by
  constructor
  · intro h
    unfold undo at h
    split at h
    · rename_i hplain
      obtain rfl := Except.ok.inj h
      exact .plain (by simpa [mem_plainEncodings, or_assoc] using hplain)
    · split at h
      · rename_i hgzip
        split at h
        · rename_i hdecode
          obtain rfl := Except.ok.inj h
          exact .gzip (by simpa using hgzip) hdecode
        · cases h
      · split at h
        · rename_i hdeflate
          subst hdeflate
          split at h
          · rename_i hdecode
            obtain rfl := Except.ok.inj h
            exact .zlib hdecode
          · rename_i hzlib
            split at h
            · rename_i hdecode
              obtain rfl := Except.ok.inj h
              exact .raw hzlib hdecode
            · cases h
        · cases h
  · rintro (hname | ⟨rfl | rfl, hdecode⟩ | hdecode | ⟨hzlib, hdecode⟩)
    · exact undo_of_plain hname _
    · simp [undo, hdecode]
    · simp [undo, hdecode]
    · simp [undo, hdecode]
    · simp [undo, hzlib, hdecode]

/-- What cannot be undone is named in the fault. -/
theorem undo_eq_error (h : undo name coded = .error fault) :
    (∀ content, ¬EncodedIn name content coded) ∧ ∃ reason, fault = .decode name reason := by
  refine ⟨fun content hin => ?_, ?_⟩
  · rw [undo_eq_ok_iff.mpr hin] at h
    cases h
  · unfold undo at h
    repeat' split at h
    all_goals cases h
    all_goals exact ⟨_, rfl⟩

theorem undoAll_append (names others : List String) (body : Bytes) :
    undoAll (names ++ others) body = (undoAll names body).bind (undoAll others) := by
  induction names generalizing body with
  | nil => rfl
  | cons name names ih =>
    rw [List.cons_append, undoAll, undoAll]
    cases hundo : undo name body with
    | error fault => rfl
    | ok inner => exact ih inner

theorem undoAll_singleton (name : String) (body : Bytes) : undoAll [name] body = undo name body := by
  rw [undoAll]
  cases undo name body <;> rfl

/-- **A list of encodings is undone from its end exactly on the bodies that went through it.** -/
theorem undoAll_reverse_eq_ok_iff :
    undoAll names.reverse coded = .ok content ↔ EncodedBy names content coded := by
  induction names generalizing content with
  | nil =>
    constructor
    · intro h
      obtain rfl := Except.ok.inj h
      exact .nil _
    · rintro ⟨⟩
      rfl
  | cons name names ih =>
    rw [List.reverse_cons, undoAll_append]
    constructor
    · intro h
      cases hrest : undoAll names.reverse coded with
      | error fault =>
        rw [hrest] at h
        cases h
      | ok inner =>
        rw [hrest] at h
        exact .cons (undo_eq_ok_iff.mp ((undoAll_singleton name inner).symm.trans h)) (ih.mp hrest)
    · rintro (_ | ⟨hfirst, hrest⟩)
      rw [ih.mpr hrest]
      exact (undoAll_singleton name _).trans (undo_eq_ok_iff.mpr hfirst)

/-- **What stops the undoing is the last encoding that the body is not in**, once those after it are
undone. -/
theorem undoAll_reverse_eq_error (h : undoAll names.reverse coded = .error fault) :
    ∃ before name after reached reason, names = before ++ name :: after ∧
      EncodedBy after reached coded ∧ (∀ content, ¬EncodedIn name content reached) ∧
      fault = .decode name reason := by
  induction names with
  | nil => cases h
  | cons first names ih =>
    rw [List.reverse_cons, undoAll_append] at h
    cases hrest : undoAll names.reverse coded with
    | error fault' =>
      rw [hrest] at h
      obtain rfl := Except.error.inj h
      obtain ⟨before, name, after, reached, reason, rfl, hstop⟩ := ih hrest
      exact ⟨first :: before, name, after, reached, reason, rfl, hstop⟩
    | ok reached =>
      rw [hrest] at h
      obtain ⟨hnot, reason, hfault⟩ := undo_eq_error ((undoAll_singleton first reached).symm.trans h)
      exact ⟨[], first, names, reached, reason, rfl, undoAll_reverse_eq_ok_iff.mp hrest, hnot, hfault⟩

theorem encodedBy_append : EncodedBy (names ++ others) content coded ↔
    ∃ inner, EncodedBy names content inner ∧ EncodedBy others inner coded := by
  induction names generalizing content with
  | nil =>
    constructor
    · exact fun h => ⟨content, .nil _, h⟩
    · rintro ⟨inner, ⟨⟩, h⟩
      exact h
  | cons name names ih =>
    constructor
    · rintro (_ | ⟨hfirst, hrest⟩)
      obtain ⟨inner, hnames, hothers⟩ := ih.mp hrest
      exact ⟨inner, .cons hfirst hnames, hothers⟩
    · rintro ⟨inner, _ | ⟨hfirst, hrest⟩, hothers⟩
      exact .cons hfirst (ih.mpr ⟨inner, hrest, hothers⟩)

theorem encodedBy_singleton : EncodedBy [name] content coded ↔ EncodedIn name content coded := by
  constructor
  · rintro (_ | ⟨hfirst, ⟨⟩⟩)
    exact hfirst
  · exact fun h => .cons h (.nil _)

theorem EncodedIn.known (h : EncodedIn name content coded) : name ∈ knownEncodings := by
  rcases h with hname | ⟨rfl | rfl, -⟩ | - | -
  · exact List.mem_append_left _ hname
  all_goals decide

theorem EncodedBy.known (h : EncodedBy names content coded) :
    ∀ name ∈ names, name ∈ knownEncodings := by
  induction h with
  | nil => simp
  | cons hfirst _ ih => exact List.forall_mem_cons.mpr ⟨hfirst.known, ih⟩

/-- An encoding that leaves a body as it is has no other form of it. -/
theorem EncodedIn.eq_of_plain (h : EncodedIn name content coded) (hname : name ∈ plainEncodings) :
    coded = content := by
  have hundo := undo_eq_ok_iff.mpr h
  rw [undo_of_plain hname] at hundo
  exact Except.ok.inj hundo

/-- The encodings of a list that may change a body. -/
def active (names : List String) : List String := names.filter (· ∉ plainEncodings)

theorem not_plain_of_mem_active (h : name ∈ active names) : name ∉ plainEncodings := by
  simpa using (List.mem_filter.mp h).2

/-- A list of encodings does what those of them do that may change a body. -/
theorem encodedBy_active : EncodedBy (active names) content coded ↔ EncodedBy names content coded := by
  induction names generalizing content with
  | nil => rfl
  | cons name names ih =>
    by_cases hname : name ∈ plainEncodings
    · rw [active, List.filter_cons_of_neg (by simpa using hname), ← active, ih]
      constructor
      · exact .cons (.plain hname)
      · rintro (_ | ⟨hfirst, hrest⟩)
        obtain rfl := hfirst.eq_of_plain hname
        exact hrest
    · rw [active, List.filter_cons_of_pos (by simpa using hname), ← active]
      constructor
      · rintro (_ | ⟨hfirst, hrest⟩)
        exact .cons hfirst (ih.mp hrest)
      · rintro (_ | ⟨hfirst, hrest⟩)
        exact .cons hfirst (ih.mpr hrest)

/-! ## Empty bodies -/

/-- An empty body is in no encoding but such as leave a body as it is. -/
theorem undo_empty (encoding : String) : (undo encoding []).toOption =
    if encoding ∈ plainEncodings then some [] else none := by
  have hgzip : Gzip.decode? [] = .error .endOfInput := rfl
  have hzlib : Zlib.decode? [] = none := rfl
  have hraw : inflate? [] = .error .incomplete := rfl
  by_cases hplain : encoding ∈ plainEncodings
  · rw [if_pos hplain, undo_of_plain hplain]
    rfl
  · have hnames : encoding ≠ "" ∧ encoding ≠ "identity" ∧ encoding ≠ "none" := by
      simpa [mem_plainEncodings] using hplain
    rw [if_neg hplain]
    unfold undo
    simp only [hnames.1, hnames.2.1, hnames.2.2, hgzip, hzlib, hraw]
    split
    · contradiction
    · split
      · rfl
      · split <;> rfl

/-- A stack of encodings is undone on an empty body only if none of them does anything. -/
theorem undoAll_empty (es : List String) : (undoAll es []).toOption =
    if ∀ e ∈ es, e ∈ plainEncodings then some [] else none := by
  induction es with
  | nil => rfl
  | cons e rest ih =>
    have hundo := undo_empty e
    rw [undoAll]
    by_cases hplain : e ∈ plainEncodings
    · rw [if_pos hplain] at hundo
      cases hu : undo e [] with
      | error fault => simp [hu, Except.toOption] at hundo
      | ok body =>
        obtain rfl : body = [] := by simpa [hu, Except.toOption] using hundo
        simpa [hplain] using ih
    · rw [if_neg hplain] at hundo
      cases hu : undo e [] with
      | error fault => simp [hplain, Except.toOption]
      | ok body => simp [hu, Except.toOption] at hundo

/-! ## Forms that hold a body as it is -/

/-- A form of a body in a known encoding that holds it without compressing it. -/
def storedForm (name : String) (body : Bytes) : Bytes :=
  if name = "gzip" ∨ name = "x-gzip" then Gzip.store body
  else if name = "deflate" then Zlib.store body
  else body

/-- The form of a body that goes through a list of encodings so. -/
def storedForms (names : List String) (body : Bytes) : Bytes :=
  names.foldl (fun body name => storedForm name body) body

theorem known_cases (h : name ∈ knownEncodings) (hactive : name ∉ plainEncodings) :
    (name = "gzip" ∨ name = "x-gzip") ∨ name = "deflate" := by
  rcases List.mem_append.mp h with hplain | hother
  · exact absurd hplain hactive
  · simpa [or_assoc] using hother

theorem encodedIn_storedForm (h : name ∈ knownEncodings) (body : Bytes) :
    EncodedIn name body (storedForm name body) := by
  by_cases hplain : name ∈ plainEncodings
  · rcases mem_plainEncodings.mp hplain with rfl | rfl | rfl <;> exact .plain hplain
  · unfold storedForm
    rcases known_cases h hplain with hgzip | rfl
    · rw [if_pos hgzip]
      exact .gzip hgzip (Gzip.decode?_store body)
    · exact .zlib (Zlib.decode?_store body)

/-- A raw stream of stored blocks does not pass for a zlib stream. -/
theorem encodedIn_raw (body : Bytes) : EncodedIn "deflate" body (Inflate.store body) := by
  have hzlib := Zlib.decode?_raw body []
  have hraw := inflate?_store body []
  rw [List.append_nil] at hzlib hraw
  exact .raw hzlib hraw

/-- **Every body has a form in every list of known encodings.** -/
theorem encodedBy_storedForms (h : ∀ name ∈ names, name ∈ knownEncodings) (body : Bytes) :
    EncodedBy names body (storedForms names body) := by
  induction names generalizing body with
  | nil => exact .nil body
  | cons name names ih =>
    rw [List.forall_mem_cons] at h
    exact .cons (encodedIn_storedForm h.1 body) (ih h.2 _)

/-- A stored form is a form of one body only. -/
theorem eq_of_storedForm (hname : name ∈ knownEncodings) (hactive : name ∉ plainEncodings)
    (hother : other ∉ plainEncodings) (h : EncodedIn other content (storedForm name body)) :
    content = body := by
  unfold storedForm at h
  rcases known_cases hname hactive with hgzip | rfl
  · rw [if_pos hgzip] at h
    rcases h with hplain | ⟨-, hdecode⟩ | hdecode | ⟨-, hdecode⟩
    · exact absurd hplain hother
    · rw [Gzip.decode?_store] at hdecode
      exact (Except.ok.inj hdecode).symm
    · rw [Zlib.decode?_gzip] at hdecode
      cases hdecode
    · rw [inflate?_gzip] at hdecode
      cases hdecode
  · rw [if_neg (by decide), if_pos rfl] at h
    rcases h with hplain | ⟨-, hdecode⟩ | hdecode | ⟨hzlib, -⟩
    · exact absurd hplain hother
    · obtain ⟨trouble, htrouble⟩ := Gzip.decode?_zlib body
      rw [htrouble] at hdecode
      cases hdecode
    · rw [Zlib.decode?_store] at hdecode
      exact (Option.some.inj hdecode).symm
    · rw [Zlib.decode?_store] at hzlib
      cases hzlib

/-- **Stored forms of the empty body come off one at a time**, so that no longer list of encodings
leads to them from the empty body. -/
theorem length_le_of_storedForms (hknown : ∀ name ∈ names, name ∈ knownEncodings)
    (hnames : ∀ name ∈ names, name ∉ plainEncodings)
    (hothers : ∀ name ∈ others, name ∉ plainEncodings)
    (h : EncodedBy others [] (storedForms names [])) : others.length ≤ names.length := by
  induction others using List.reverseRecOn generalizing names with
  | nil => exact Nat.zero_le _
  | append_singleton others other ih =>
    obtain ⟨inner, hrest, hlast⟩ := encodedBy_append.mp h
    rw [encodedBy_singleton] at hlast
    have hother : other ∉ plainEncodings := hothers other (by simp)
    rcases List.eq_nil_or_concat names with rfl | ⟨names, name, rfl⟩
    · have hundo : undo other [] = .ok inner := undo_eq_ok_iff.mpr hlast
      have hempty := undo_empty other
      rw [if_neg hother, hundo] at hempty
      cases hempty
    · rw [List.concat_eq_append] at *
      have hform : storedForms (names ++ [name]) [] = storedForm name (storedForms names []) := by
        simp [storedForms]
      rw [hform] at hlast
      obtain rfl := eq_of_storedForm (hknown name (by simp)) (hnames name (by simp)) hother hlast
      have hless := ih (fun n hn => hknown n (by simp [hn])) (fun n hn => hnames n (by simp [hn]))
        (fun n hn => hothers n (by simp [hn])) hrest
      simpa using hless

end Interpose.Response
