import Interpose.Classification
import Interpose.Proofs.Sniff

/-!
# What a classification says

The decision about a source in closed form (`decide_eq`): its kind (`kindOf`), the mismatches, which
are those that apply to it (`disagrees`), in a fixed order, and the sources that the checker was
asked about, which are none or the source itself.

From this form the kind, each mismatch and what the checker sees are told by conditions on the
declared type and the source (`Exact`, `classify_exact`). The checker is the expensive look, and a
source that looks like HTML is spared it only where the declared type is missing or names one of the
three kinds (`page_probed_iff`).
-/

namespace Interpose.Classification

/-! ## The closed form -/

/-- Whether a source is a script: it is no JSON text, and the checker accepts it. -/
def isScript (checker : Checker) (looked : Bytes) : Bool :=
  !Sniff.looksLikeJson looked && !(checker looked).faulty

/-- The kind of a source with a declared type. -/
def kindOf (checker : Checker) (declared : String) (looked : Bytes) : Option Kind :=
  if hasText declared "html" then
    if looked.isEmpty || Sniff.looksLikeHtml looked then some .html
    else if isScript checker looked then some .script
    else if declared = "text/html" then some .html
    else none
  else if hasText declared "javascript" then some .script
  else none

/-- Whether a source disagrees with its declared type in a given way. -/
def disagrees (checker : Checker) (declared : String) (looked : Bytes) : Mismatch → Bool
  | .notHtml => hasText declared "html" && !looked.isEmpty && !Sniff.looksLikeHtml looked
  | .looksLikeHtml => !hasText declared "html" && Sniff.looksLikeHtml looked
  | .looksLikeScript =>
    !looked.isEmpty && isScript checker looked &&
      if declared = "" then !Sniff.looksLikeHtml looked
      else !hasText declared "html" && !hasText declared "javascript" && !hasText declared "json"

/-- Whether a declared type and the cheap looks at a source leave open if it is a script. -/
def isOpen (declared : String) (looked : Bytes) : Bool :=
  !looked.isEmpty &&
    if declared = "" || hasText declared "html" then !Sniff.looksLikeHtml looked
    else !hasText declared "javascript" && !hasText declared "json"

variable (checker : Checker) (url declared : String) (looked : Bytes)

theorem asScript_fst : (asScript checker looked).1 = isScript checker looked := by
  unfold asScript isScript
  split <;> simp_all

theorem checked_asScript : (asScript checker looked).2.checked =
    if Sniff.looksLikeJson looked then [] else [looked] := by
  unfold asScript
  split <;> rfl

/-- A missing type mentions nothing. -/
theorem hasText_missing : hasText "" "html" = false ∧ hasText "" "javascript" = false := by decide

theorem looksLikeHtml_nil : Sniff.looksLikeHtml [] = false := by decide +kernel

variable {looked} in
theorem isEmpty_of_looksLikeHtml (h : Sniff.looksLikeHtml looked = true) :
    looked.isEmpty = false := by
  cases looked with
  | nil =>
    rw [looksLikeHtml_nil] at h
    cases h
  | cons b rest => rfl

/-- **The decision about a source, and what it asks the checker.** -/
theorem decide_eq : (decide checker url declared looked).1 =
      ⟨kindOf checker declared looked, declared,
        [.notHtml, .looksLikeHtml, .looksLikeScript].filter (disagrees checker declared looked)⟩ ∧
    (decide checker url declared looked).2.checked =
      if isOpen declared looked then (asScript checker looked).2.checked else [] := by
  unfold decide kindOf disagrees isOpen
  rw [← asScript_fst]
  obtain ⟨isScript, asked⟩ := asScript checker looked
  by_cases hd : declared = ""
  · subst hd
    simp only [hasText_missing]
    cases hl : Sniff.looksLikeHtml looked with
    | true => simp [isEmpty_of_looksLikeHtml hl, mismatchNote]
    | false => cases looked.isEmpty <;> cases isScript <;> simp [mismatchNote]
  · simp only [if_neg hd]
    cases hasText declared "html" with
    | true =>
      cases looked.isEmpty <;> cases Sniff.looksLikeHtml looked <;> cases isScript <;>
        simp [hd, mismatchNote]
    | false =>
      cases hasText declared "javascript" with
      | true => cases Sniff.looksLikeHtml looked <;> simp [hd, mismatchNote]
      | false =>
        cases hasText declared "json" with
        | true => cases Sniff.looksLikeHtml looked <;> simp [hd, mismatchNote]
        | false =>
          cases looked.isEmpty <;> cases Sniff.looksLikeHtml looked <;> cases isScript <;>
            simp [hd, mismatchNote]

/-- **The checker is asked about the source or about nothing.** -/
theorem checked_decide : (decide checker url declared looked).2.checked =
    if isOpen declared looked && !Sniff.looksLikeJson looked then [looked] else [] := by
  rw [(decide_eq checker url declared looked).2, checked_asScript]
  cases isOpen declared looked <;> cases Sniff.looksLikeJson looked <;> rfl

/-! ## What is said when -/

variable {checker declared looked}

theorem kindOf_eq_script : kindOf checker declared looked = some .script ↔
    (hasText declared "html" ∧ looked ≠ [] ∧ ¬Sniff.looksLikeHtml looked ∧
      isScript checker looked) ∨
    (¬hasText declared "html" ∧ hasText declared "javascript") := by
  unfold kindOf
  cases hasText declared "html" with
  | false => simp
  | true =>
    rw [← List.isEmpty_eq_false_iff]
    cases looked.isEmpty <;> cases Sniff.looksLikeHtml looked <;> cases isScript checker looked <;>
      simp

theorem kindOf_eq_html : kindOf checker declared looked = some .html ↔
    hasText declared "html" ∧ (looked = [] ∨ Sniff.looksLikeHtml looked ∨
      (¬isScript checker looked ∧ declared = "text/html")) := by
  unfold kindOf
  cases hasText declared "html" with
  | false => simp
  | true =>
    rw [← List.isEmpty_iff]
    cases looked.isEmpty <;> cases Sniff.looksLikeHtml looked <;> cases isScript checker looked <;>
      simp

/-- The ways in which a source disagrees with its declared type are noted, each once. -/
theorem mem_filter_disagrees (m : Mismatch) :
    m ∈ [.notHtml, .looksLikeHtml, .looksLikeScript].filter (disagrees checker declared looked) ↔
      disagrees checker declared looked m := by
  cases m <;> simp

/-! ## The classification of a body -/

theorem decision_classify (checker : Checker) (url : String) (body : Bytes)
    (declared : Option String) : (classify checker url body declared).1 =
      ⟨kindOf checker (lowerText (declared.getD "")) (lookedAt body), lowerText (declared.getD ""),
        [.notHtml, .looksLikeHtml, .looksLikeScript].filter
          (disagrees checker (lowerText (declared.getD "")) (lookedAt body))⟩ := by
  simp only [classify, decide_eq]

theorem checked_classify (checker : Checker) (url : String) (body : Bytes)
    (declared : Option String) : (classify checker url body declared).2.checked =
      if isOpen (lowerText (declared.getD "")) (lookedAt body) &&
        !Sniff.looksLikeJson (lookedAt body) then [lookedAt body] else [] := by
  simp only [classify, Trace.checked_append, Trace.checked_normalizing, checked_decide,
    List.nil_append]

theorem asked_classify (checker : Checker) (url : String) (body : Bytes)
    (declared : Option String) : (classify checker url body declared).2.checked = [] ∨
      ((classify checker url body declared).2.checked = [lookedAt body] ∧ lookedAt body ≠ [] ∧
        ¬Sniff.looksLikeJson (lookedAt body)) := by
  rw [checked_classify]
  generalize lowerText (declared.getD "") = d
  generalize lookedAt body = s
  cases hopen : isOpen d s && !Sniff.looksLikeJson s with
  | false => exact Or.inl rfl
  | true =>
    simp only [isOpen, Bool.and_eq_true, Bool.not_eq_true', List.isEmpty_eq_false_iff] at hopen
    exact Or.inr ⟨rfl, hopen.1.1, by simp [hopen.2]⟩

/-- What a classification says of a source `looked` with a declared type in lower case, and what it
asks the checker. -/
structure Exact (checker : Checker) (declared : String) (looked : Bytes) (decision : Decision)
    (asked : List Bytes) : Prop where
  /-- The declared type is passed on. -/
  passed : decision.declared = declared
  /-- A script is declared one, or is declared HTML and looks like a script instead. -/
  script : decision.kind = some .script ↔
    (hasText declared "html" ∧ looked ≠ [] ∧ ¬Sniff.looksLikeHtml looked ∧
      isScript checker looked) ∨
    (¬hasText declared "html" ∧ hasText declared "javascript")
  /-- HTML is declared HTML, and is blank, looks like it, or is no script and declared plainly. -/
  html : decision.kind = some .html ↔
    hasText declared "html" ∧ (looked = [] ∨ Sniff.looksLikeHtml looked ∨
      (¬isScript checker looked ∧ declared = "text/html"))
  notHtml : .notHtml ∈ decision.mismatches ↔
    hasText declared "html" ∧ looked ≠ [] ∧ ¬Sniff.looksLikeHtml looked
  looksLikeHtml : .looksLikeHtml ∈ decision.mismatches ↔
    ¬hasText declared "html" ∧ Sniff.looksLikeHtml looked
  looksLikeScript : .looksLikeScript ∈ decision.mismatches ↔
    looked ≠ [] ∧ isScript checker looked ∧
      ((declared = "" ∧ ¬Sniff.looksLikeHtml looked) ∨
        (declared ≠ "" ∧ ¬hasText declared "html" ∧ ¬hasText declared "javascript" ∧
          ¬hasText declared "json"))
  /-- No mismatch is noted twice. -/
  once : decision.mismatches.Nodup
  /-- The checker is asked once at most, and about no empty source and no JSON text. -/
  asked : asked = [] ∨ (asked = [looked] ∧ looked ≠ [] ∧ ¬Sniff.looksLikeJson looked)

/-- **Classification is sound and complete.** Whatever the URL, the body, the declared type and the
checker, the decision is the one that the table of conditions names, and no other. -/
theorem classify_exact (checker : Checker) (url : String) (body : Bytes)
    (declared : Option String) :
    Exact checker (lowerText (declared.getD "")) (lookedAt body)
      (classify checker url body declared).1 (classify checker url body declared).2.checked := by
  have hasked := asked_classify checker url body declared
  rw [decision_classify]
  generalize lowerText (declared.getD "") = d
  generalize lookedAt body = s at hasked ⊢
  refine ⟨rfl, kindOf_eq_script, kindOf_eq_html, ?_, ?_, ?_, ?_, hasked⟩
  · rw [mem_filter_disagrees]
    simp [disagrees, and_assoc]
  · rw [mem_filter_disagrees]
    simp [disagrees]
  · rw [mem_filter_disagrees]
    by_cases h : d = "" <;> simp [disagrees, h, and_assoc]
  · exact List.Pairwise.filter _ (by decide)

/-! ## Pages that the checker is asked about -/

/-- A declared type that names neither HTML nor a script nor JSON. -/
def DeclaresOther (declared : String) : Prop :=
  declared ≠ "" ∧ ¬hasText declared "html" ∧ ¬hasText declared "javascript" ∧
    ¬hasText declared "json"

theorem isOpen_of_looksLikeHtml (h : Sniff.looksLikeHtml looked = true) :
    isOpen declared looked = true ↔ DeclaresOther declared := by
  rw [isOpen, isEmpty_of_looksLikeHtml h, h, DeclaresOther]
  by_cases hmissing : declared = ""
  · simp [hmissing]
  · cases hhtml : hasText declared "html" <;> simp [hmissing]

/-- The ways in which a source that looks like HTML disagrees with its declared type. -/
theorem disagrees_of_looksLikeHtml (checker : Checker) (declared : String)
    (h : Sniff.looksLikeHtml looked = true) :
    (disagrees checker declared looked .looksLikeHtml = true ↔ hasText declared "html" = false) ∧
    (disagrees checker declared looked .looksLikeScript = true ↔
      DeclaresOther declared ∧ (checker looked).faulty = false) := by
  have hscript : isScript checker looked = !(checker looked).faulty := by
    rw [isScript, Sniff.looksLikeJson_of_looksLikeHtml h]
    rfl
  refine ⟨by simp [disagrees, h], ?_⟩
  rw [disagrees, isEmpty_of_looksLikeHtml h, hscript, h, DeclaresOther]
  by_cases hmissing : declared = ""
  · simp [hmissing]
  · simp [hmissing, and_assoc, and_comm]

/-- **When the checker is asked about a page.** It is asked about a source that looks like HTML
exactly if a type is declared that names none of the three kinds. If it accepts the source, the
decision notes both that it looks like HTML and that it looks like a script. -/
theorem page_probed_iff (checker : Checker) (url : String) (body : Bytes)
    (declared : Option String) :
    let type := lowerText (declared.getD "")
    let answer := classify checker url body declared
    (Sniff.looksLikeHtml (lookedAt body) = true ∧ answer.2.checked ≠ [] ↔
      Sniff.looksLikeHtml (lookedAt body) = true ∧ DeclaresOther type) ∧
    (.looksLikeHtml ∈ answer.1.mismatches ∧ .looksLikeScript ∈ answer.1.mismatches ↔
      Sniff.looksLikeHtml (lookedAt body) = true ∧ DeclaresOther type ∧
        (checker (lookedAt body)).faulty = false) := by
  intro type answer
  have hchecked : answer.2.checked = if isOpen type (lookedAt body) &&
      !Sniff.looksLikeJson (lookedAt body) then [lookedAt body] else [] :=
    checked_classify checker url body declared
  have hnoted : ∀ m, m ∈ answer.1.mismatches ↔ disagrees checker type (lookedAt body) m := by
    intro m
    rw [← mem_filter_disagrees, show answer.1 = _ from decision_classify checker url body declared]
  rw [hchecked, hnoted, hnoted]
  generalize lookedAt body = looked
  constructor
  · refine and_congr_right fun hpage => ?_
    rw [← isOpen_of_looksLikeHtml hpage, Sniff.looksLikeJson_of_looksLikeHtml hpage]
    cases isOpen type looked <;> simp
  · constructor
    · rintro ⟨hhtml, hscript⟩
      have hpage : Sniff.looksLikeHtml looked = true := (Bool.and_eq_true_iff.mp hhtml).2
      exact ⟨hpage, (disagrees_of_looksLikeHtml checker type hpage).2.mp hscript⟩
    · rintro ⟨hpage, hother, haccepted⟩
      obtain ⟨hhtml, hscript⟩ := disagrees_of_looksLikeHtml checker type hpage
      exact ⟨hhtml.mpr (by simpa using hother.2.1), hscript.mpr ⟨hother, haccepted⟩⟩

/-- A page declared as plain text. -/
theorem page_probed_for_plain_text :
    let answer := classify (fun _ => ⟨false, []⟩) "https://a.example/p" (Bytes.ofText "<html>;")
      (some "text/plain")
    answer.2.checked = [Bytes.ofText "<html>;"] ∧
      answer.1.mismatches = [.looksLikeHtml, .looksLikeScript] := by
  decide +kernel

end Interpose.Classification
