import Interpose.Sniff
import Interpose.Proofs.Text.Ascii

/-!
# The look at HTML and the marks in a body

A body without a mark is what dropping its marks leaves (`dropMarks_of_not_hasRun`), so it may be
looked at as it is. In the UTF-8 of a text the bytes of a mark stand only where the text has the
character U+FEFF: no byte but the first of a character is the first of a mark. So dropping marks
from the bytes drops this character from the text (`dropMarks_ofText`), and the look depends on the
text that remains and on nothing else (`html_look_ignores_only_marks`).
-/

namespace Interpose.Sniff

variable {b : UInt8} {c : Char} {rest body : Bytes}

/-! ## Dropping marks -/

theorem dropMarksFrom_append (kept more s : Bytes) :
    dropMarksFrom (kept ++ more) s = more.reverse ++ dropMarksFrom kept s := by
  fun_induction dropMarksFrom kept s with
  | case1 kept rest ih => rw [dropMarksFrom, ih]
  | case2 kept b rest hmark ih =>
    rw [dropMarksFrom, ← List.cons_append, ih]
    exact hmark
  | case3 kept => simp [dropMarksFrom]

theorem dropMarks_mark_append (rest : Bytes) : dropMarks (mark ++ rest) = dropMarks rest := rfl

/-- A byte that starts no mark stays. -/
theorem dropMarks_cons (h : ¬mark <+: b :: rest) : dropMarks (b :: rest) = b :: dropMarks rest := by
  have hcons : dropMarks (b :: rest) = dropMarksFrom [b] rest := by
    rw [dropMarks, dropMarksFrom]
    rintro rest' rfl rfl
    exact h ⟨rest', rfl⟩
  rw [hcons]
  exact dropMarksFrom_append [] [b] rest

theorem dropMarks_cons_of_ne (h : b ≠ 0xEF) : dropMarks (b :: rest) = b :: dropMarks rest :=
  dropMarks_cons fun hmark => h (List.cons_prefix_cons.mp hmark).1.symm

theorem dropMarks_of_not_hasRun (h : hasRun mark body = false) : dropMarks body = body := by
  induction body with
  | nil => rfl
  | cons b rest ih =>
    rw [hasRun, Bool.or_eq_false_iff] at h
    have hmark : ¬mark <+: b :: rest := by
      rw [← List.isPrefixOf_iff_prefix, h.1]
      exact Bool.false_ne_true
    rw [dropMarks_cons hmark, ih h.2]

/-- **The look at a body as it is and the look at it without its marks agree.** -/
theorem looksLikeHtml_eq (body : Bytes) : looksLikeHtml body = startsLikeHtml (dropMarks body) := by
  cases hmark : hasRun mark body with
  | true => rw [looksLikeHtml, if_pos hmark]
  | false => rw [looksLikeHtml, hmark, if_neg Bool.false_ne_true, dropMarks_of_not_hasRun hmark]

/-! ## Marks in a text -/

theorem utf8EncodeChar_mark : String.utf8EncodeChar '\uFEFF' = mark := by decide

/-- A character that is no mark keeps its bytes, whatever follows. -/
theorem dropMarks_utf8EncodeChar (h : c ≠ '\uFEFF') :
    dropMarks (String.utf8EncodeChar c ++ rest) = String.utf8EncodeChar c ++ dropMarks rest := by
  have htail : ∀ {b : UInt8} {rest : Bytes}, Utf8.IsTail b →
      dropMarks (b :: rest) = b :: dropMarks rest := fun {b rest} hb =>
    dropMarks_cons_of_ne (by rintro rfl; exact absurd hb.2 (by decide))
  have hspells := Utf8.spells_utf8EncodeChar c
  generalize String.utf8EncodeChar c = bytes at hspells ⊢
  cases hspells with
  | @one a ha =>
    have hfirst : a ≠ 0xEF := by rintro rfl; exact absurd ha (by decide)
    simp only [List.cons_append, List.nil_append, dropMarks_cons_of_ne hfirst]
  | @two a b ha hb =>
    have hfirst : a ≠ 0xEF := by rintro rfl; exact absurd ha.2 (by decide)
    simp only [List.cons_append, List.nil_append, dropMarks_cons_of_ne hfirst, htail hb]
  | @three a b d ha hb _ _ hd hn =>
    -- Three bytes may start like a mark. They are one only if they spell U+FEFF.
    have hfirst : ¬mark <+: a :: b :: d :: rest := by
      intro hmark
      simp only [mark, List.cons_prefix_cons, List.nil_prefix, and_true] at hmark
      obtain ⟨rfl, rfl, rfl⟩ := hmark
      exact h (Char.toNat_inj.mp hn.symm)
    simp only [List.cons_append, List.nil_append, dropMarks_cons hfirst, htail hb, htail hd]
  | @four a b d e ha hb _ _ hd he =>
    have hfirst : a ≠ 0xEF := by rintro rfl; exact absurd ha.1 (by decide)
    simp only [List.cons_append, List.nil_append, dropMarks_cons_of_ne hfirst, htail hb, htail hd,
      htail he]

/-- A text without its zero-width marks. -/
def unmarked (text : String) : String := String.ofList (text.toList.filter (· != '\uFEFF'))

/-- **Dropping marks from the bytes of a text drops the character U+FEFF from the text.** -/
theorem dropMarks_ofText (text : String) :
    dropMarks (Bytes.ofText text) = Bytes.ofText (unmarked text) := by
  unfold Bytes.ofText unmarked
  rw [String.toList_ofList]
  induction text.toList with
  | nil => rfl
  | cons c text ih =>
    rw [List.flatMap_cons]
    by_cases hc : c = '\uFEFF'
    · rw [hc, utf8EncodeChar_mark, dropMarks_mark_append, ih,
        List.filter_cons_of_neg (by decide)]
    · rw [dropMarks_utf8EncodeChar hc, ih, List.filter_cons_of_pos (by simpa using hc),
        List.flatMap_cons]

/-- Marks between the pieces of a text make no difference to what is left. -/
theorem unmarked_intercalate (pieces : List String) :
    unmarked ("\uFEFF".intercalate pieces) = unmarked (String.join pieces) := by
  unfold unmarked
  rw [String.toList_intercalate, String.toList_join]
  congr 1
  induction pieces with
  | nil => rfl
  | cons piece pieces ih =>
    rw [List.flatMap_cons, List.filter_append, ← ih]
    cases pieces with
    | nil => simp
    | cons next pieces => simp [List.intercalate_cons_cons]

/-! ## Starts -/

theorem startsWith_iff {start : Bytes} :
    startsWith start body = true ↔ start <+: body.map Bytes.lower := by
  rw [startsWith, List.isPrefixOf_iff_prefix, List.map_take, List.prefix_take_iff]
  exact and_iff_left (Nat.le_refl _)

/-- A text starts with ASCII characters, up to the case of letters, exactly if its bytes do. -/
theorem startsWith_ofText {start : String} (hstart : ∀ c ∈ start.toList, c.toNat < 0x80)
    (text : String) :
    startsWith (Bytes.ofText start) (Bytes.ofText text) = startsText (lowerText text) start := by
  rw [Bool.eq_iff_iff, startsWith_iff, Bytes.map_lower_ofText, Bytes.ofText_prefix_iff hstart,
    startsText, List.isPrefixOf_iff_prefix]

/-- How an HTML document starts. -/
def htmlStarts : List String := ["<!doctype", "<html"]

theorem startsLikeHtml_ofText (text : String) : startsLikeHtml (Bytes.ofText text) =
    htmlStarts.any (startsText (lowerText text)) := by
  rw [startsLikeHtml, startsWith_ofText (by simp), startsWith_ofText (by simp)]
  simp [htmlStarts]

/-! ## HTML and JSON -/

/-- What looks like HTML starts with an angle bracket or a mark. -/
theorem first_of_looksLikeHtml (h : looksLikeHtml (b :: rest) = true) : b = 0x3C ∨ b = 0xEF := by
  by_cases hb : b = 0xEF
  · exact Or.inr hb
  · rw [looksLikeHtml_eq, dropMarks_cons_of_ne hb, startsLikeHtml, Bool.or_eq_true, startsWith_iff,
      startsWith_iff] at h
    have hlower : Bytes.lower b = 0x3C := by
      rcases h with h | h <;> exact (List.cons_prefix_cons.mp h).1.symm
    by_cases hcapital : 65 ≤ b.toNat ∧ b.toNat ≤ 90
    · have hsum := Bytes.toNat_lower_of_capital hcapital
      rw [hlower] at hsum
      change 60 = _ at hsum
      omega
    · exact Or.inl (Bytes.lower_of_not_capital hcapital ▸ hlower)

/-- What looks like HTML is no JSON text. -/
theorem looksLikeJson_of_looksLikeHtml (h : looksLikeHtml body = true) :
    looksLikeJson body = false := by
  cases body with
  | nil => rfl
  | cons b rest =>
    have hfail : Json.Reader.step {} b = .fail := by
      rcases first_of_looksLikeHtml h with rfl | rfl <;> rfl
    have hfailed : rest.foldl Json.Reader.step .fail = .fail := by
      clear h
      induction rest with
      | nil => rfl
      | cons b rest ih => exact ih
    rw [looksLikeJson, Json.read?, List.foldl_cons, hfail, hfailed]
    rfl

/-- **The look at HTML ignores marks of no width and nothing else.** On a body without a mark the
two ways to look agree. A text looks like HTML exactly if it starts so up to the case of letters
once the character U+FEFF is dropped from it. So it makes no difference where such characters are
put into a text, or taken out of it. -/
theorem html_look_ignores_only_marks :
    (∀ body, hasRun mark body = false → startsLikeHtml body = startsLikeHtml (dropMarks body)) ∧
    (∀ body, looksLikeHtml body = startsLikeHtml (dropMarks body)) ∧
    (∀ text : String, looksLikeHtml (Bytes.ofText text) = true ↔
      ∃ start ∈ htmlStarts, startsText (lowerText (unmarked text)) start = true) ∧
    ∀ pieces : List String, looksLikeHtml (Bytes.ofText ("\uFEFF".intercalate pieces)) =
      looksLikeHtml (Bytes.ofText (String.join pieces)) := by
  refine ⟨fun body hmark => ?_, looksLikeHtml_eq, fun text => ?_, fun pieces => ?_⟩
  · rw [dropMarks_of_not_hasRun hmark]
  · rw [looksLikeHtml_eq, dropMarks_ofText, startsLikeHtml_ofText, List.any_eq_true]
  · rw [looksLikeHtml_eq, looksLikeHtml_eq, dropMarks_ofText, dropMarks_ofText,
      unmarked_intercalate]

example : looksLikeHtml (Bytes.ofText "\uFEFF<h\uFEFFTml>") = true := by decide +kernel

end Interpose.Sniff
