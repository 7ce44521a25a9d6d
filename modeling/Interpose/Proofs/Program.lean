import Interpose.Program
import Interpose.Proofs.Classification
import Interpose.Proofs.Pass.Work
import Interpose.Proofs.Text.Normalization
import Mathlib.Logic.Function.DependsOn

/-!
# What a checker program is given

A classification that asks a checker program runs it once, and what it says depends on this run and
on no other (`HadBy`). The input of the run is the source that is looked at, normalized once more
(`hadBy_classify_iff`).

The source has been normalized before its blanks were dropped. Where dropping them leaves a text in
UTF-16 that the body is none of, because blanks stood before its mark or behind its last code unit,
the second time changes the source: the program is then given another text than the one that is
looked at, and than the one that the tool is given (`checker_given_looked_at_iff`).
-/

namespace Interpose

/-! ## Results that depend on one run -/

/-- A result that is had by one run of a program: of the runs that there could be, it depends on a
set of them exactly if this one is among them. -/
def HadBy {α : Type} (result : Programs → α) (run : Invocation) : Prop :=
  ∀ runs : Set Invocation, DependsOn result runs ↔ run ∈ runs

/-- A result is had by one run at most. -/
theorem HadBy.unique {α : Type} {result : Programs → α} {run run' : Invocation}
    (h : HadBy result run) (h' : HadBy result run') : run = run' :=
  (h {run'}).mp ((h' {run'}).mpr rfl)

namespace Classification

variable {checker checker' : Checker} {looked : Bytes} {type : String}

/-! ## The checker's part in a classification -/

/-- The checker is heard on the source that is looked at and on no other. -/
theorem classify_congr {body : Bytes} (h : checker (lookedAt body) = checker' (lookedAt body))
    (url : String) (declared : Option String) :
    classify checker url body declared = classify checker' url body declared := by
  have hask : asScript checker (lookedAt body) = asScript checker' (lookedAt body) := by
    simp only [asScript, h]
  simp only [classify, decide, hask]

theorem open_of_asked {body : Bytes} {url : String} {declared : Option String}
    (h : (classify checker url body declared).2.checked ≠ []) :
    isOpen (lowerText (declared.getD "")) (lookedAt body) = true ∧
      Sniff.looksLikeJson (lookedAt body) = false := by
  rw [checked_classify] at h
  split at h
  · rename_i hopen
    simpa using hopen
  · exact absurd rfl h

/-- Where the checker is asked, the decision shows whether it accepts. -/
theorem accepted_iff (hopen : isOpen type looked = true)
    (hjson : Sniff.looksLikeJson looked = false) :
    (checker looked).faulty = false ↔ kindOf checker type looked = some .script ∨
      disagrees checker type looked .looksLikeScript = true := by
  have hscript : isScript checker looked = !(checker looked).faulty := by
    rw [isScript, hjson]
    rfl
  rw [isOpen, Bool.and_eq_true] at hopen
  obtain ⟨hthere, hopen⟩ := hopen
  rw [kindOf, disagrees, hscript]
  by_cases hmissing : type = ""
  · subst hmissing
    simp_all [hasText_missing]
  · cases hhtml : hasText type "html" <;> simp_all

/-- A checker that judges otherwise, where it is asked, makes another decision. -/
theorem classify_ne {body : Bytes} {url : String} {declared : Option String}
    (hasked : (classify checker url body declared).2.checked ≠ [])
    (hverdict : (checker (lookedAt body)).faulty ≠ (checker' (lookedAt body)).faulty) :
    classify checker url body declared ≠ classify checker' url body declared := by
  intro hsame
  obtain ⟨hopen, hjson⟩ := open_of_asked hasked
  have hdecision := congrArg Prod.fst hsame
  rw [decision_classify, decision_classify, Decision.mk.injEq] at hdecision
  have hnoted : disagrees checker (lowerText (declared.getD "")) (lookedAt body) .looksLikeScript =
      disagrees checker' (lowerText (declared.getD "")) (lookedAt body) .looksLikeScript := by
    rw [Bool.eq_iff_iff, ← mem_filter_disagrees, ← mem_filter_disagrees, hdecision.2.2]
  have haccepted : (checker (lookedAt body)).faulty = false ↔ _ := accepted_iff hopen hjson
  rw [hdecision.1, hnoted, ← accepted_iff hopen hjson] at haccepted
  exact hverdict (by rw [Bool.eq_iff_iff]; simpa using not_congr haccepted)

end Classification

/-! ## The runs of a checker program -/

section

variable {programs programs' : Programs} {command : List String} {limit : Option Nat}
  {tree : FileTree} {source : Bytes}

/-- The run of a checker program with an input. -/
def checkerRun (command : List String) (limit : Option Nat) (input : Bytes) : Invocation :=
  { argv := command, input, limit }

theorem programChecker_congr (hcommand : command ≠ [])
    (h : programs (checkerRun command limit (normalize source)) =
      programs' (checkerRun command limit (normalize source))) :
    programChecker programs command limit tree source =
      programChecker programs' command limit tree source := by
  cases command with
  | nil => exact absurd rfl hcommand
  | cons name arguments =>
    unfold checkerRun at h
    simp only [programChecker, runProgram, List.append_nil, h]

/-- Programs like given ones, but for one run, which ends as given. -/
def Programs.withRun (programs : Programs) (run : Invocation) (attempt : Attempt) : Programs :=
  Function.update programs run fun tree => (tree, attempt)

/-- A run can end so that the checker judges otherwise. -/
theorem exists_programChecker_ne (hcommand : command ≠ []) (limit : Option Nat) (tree : FileTree)
    (source : Bytes) (programs : Programs) :
    ∃ attempt, (programChecker programs command limit tree source).faulty ≠ (programChecker
      (programs.withRun (checkerRun command limit (normalize source)) attempt)
      command limit tree source).faulty := by
  have hverdict : ∀ attempt, (programChecker
      (programs.withRun (checkerRun command limit (normalize source)) attempt)
      command limit tree source).faulty =
        match attempt with
        | .finished captured => hasText captured.combined errorMark
        | _ => true := by
    intro attempt
    cases command with
    | nil => exact absurd rfl hcommand
    | cons name arguments =>
      simp only [programChecker, runProgram, Programs.withRun, checkerRun, List.append_nil,
        Function.update_self]
      cases attempt <;> rfl
  cases hbefore : (programChecker programs command limit tree source).faulty with
  | false => exact ⟨.refused, by rw [hverdict]; decide⟩
  | true => exact ⟨.finished ⟨.exited 0, [], []⟩, by rw [hverdict]; decide⟩

/-- **A classification that asks a checker program is had by one run of it**, whose input is the
source that is looked at, normalized once more. -/
theorem hadBy_classify_iff (hcommand : command ≠ []) {url : String} {body : Bytes}
    {declared : Option String} (hasked : (Classification.classify
      (programChecker programs command limit tree) url body declared).2.checked ≠ [])
    {run : Invocation} :
    HadBy (fun programs => Classification.classify (programChecker programs command limit tree)
      url body declared) run ↔
      run = checkerRun command limit (normalize (Classification.lookedAt body)) := by
  have hhad : HadBy (fun programs => Classification.classify
      (programChecker programs command limit tree) url body declared)
      (checkerRun command limit (normalize (Classification.lookedAt body))) := by
    intro runs
    constructor
    · intro hdepends
      by_contra hrun
      obtain ⟨attempt, hattempt⟩ := exists_programChecker_ne hcommand limit tree
        (Classification.lookedAt body) programs
      refine Classification.classify_ne hasked hattempt (hdepends fun other hother => ?_)
      have hne : other ≠ checkerRun command limit (normalize (Classification.lookedAt body)) := by
        rintro rfl
        exact hrun hother
      exact (Function.update_of_ne hne _ _).symm
    · intro hrun programs programs' hagree
      exact Classification.classify_congr (programChecker_congr hcommand (hagree _ hrun)) url
        declared
  exact ⟨fun h => h.unique hhad, fun h => h ▸ hhad⟩

end

/-! ## The source that is looked at, normalized once more -/

theorem Bytes.trim_subset (s : Bytes) : trim s ⊆ s := by
  intro b hb
  rw [trim, trimEnd, List.mem_reverse] at hb
  have hfront := (List.dropWhile_sublist _).subset hb
  exact (List.dropWhile_sublist _).subset (List.mem_reverse.mp hfront)

/-- A body that is a text in UTF-16 is looked at in UTF-8, and any other one as it came but for the
blanks around it. -/
theorem Classification.isEncoded_lookedAt_iff {body : Bytes} :
    Utf16.IsEncoded (lookedAt body) ↔
      ¬Utf16.IsEncoded body ∧ Utf16.IsEncoded (Bytes.trim body) := by
  rw [lookedAt]
  rcases Utf16.normalize_cases body with ⟨hbody, hsame⟩ | ⟨order, text, hbody, htext⟩
  · rw [hsame, and_iff_right hbody]
  · refine iff_of_false ?_ fun h => h.1 ⟨order, text, hbody⟩
    rw [htext]
    exact Utf16.not_isEncoded_of_bytes fun b hb => Utf16.ofText_lt text b (Bytes.trim_subset _ hb)

/-- **When a checker program is given the source that is looked at.** Whatever the command, the body
and the declared type are, as long as the checker is asked: the program is given the source that is
looked at, normalized once more. That is the source itself, and so the source of any job for the
same body without its blanks, exactly if the body is a text in UTF-16 with a mark or does not become
one without the blanks around it. -/
theorem checker_given_looked_at_iff {command : List String} (hcommand : command ≠ [])
    (limit : Option Nat) (tree : FileTree) (url : String) (body : Bytes) (declared : Option String)
    (hasked : ∃ programs, (Classification.classify (programChecker programs command limit tree)
      url body declared).2.checked ≠ []) :
    let result programs := Classification.classify (programChecker programs command limit tree)
      url body declared
    let looked := Classification.lookedAt body
    (∀ input, HadBy result (checkerRun command limit input) ↔ input = normalize looked) ∧
    (HadBy result (checkerRun command limit looked) ↔
      Utf16.IsEncoded body ∨ ¬Utf16.IsEncoded (Bytes.trim body)) ∧
    (normalize looked = looked ↔ Utf16.IsEncoded body ∨ ¬Utf16.IsEncoded (Bytes.trim body)) ∧
    ∀ settings tool store request kind job,
      job ∈ (Cache.instrument settings tool store request body kind).trace.jobs →
        looked = Bytes.trim job.source := by
  intro result looked
  obtain ⟨programs, hasked⟩ := hasked
  have hgiven : ∀ input, HadBy result (checkerRun command limit input) ↔
      input = normalize looked := by
    intro input
    refine (hadBy_classify_iff hcommand hasked).trans ?_
    simp [checkerRun, looked]
  have hsame : normalize looked = looked ↔
      Utf16.IsEncoded body ∨ ¬Utf16.IsEncoded (Bytes.trim body) := by
    rw [Utf16.normalize_eq_self_iff, Classification.isEncoded_lookedAt_iff]
    tauto
  refine ⟨hgiven, ?_, hsame, ?_⟩
  · rw [hgiven, ← hsame]
    exact eq_comm
  · intro settings tool store request kind job hjob
    rw [(Cache.jobs_instrument hjob).2.1]
    rfl

/-- A text in UTF-16 behind a blank: the tool is given it as it is, and the checker re-encoded. -/
theorem checker_given_looked_at_iff_for_hidden_mark :
    let body : Bytes := [0x20, 0xFE, 0xFF, 0, 0x6F, 0, 0x6B, 0, 0x3B]
    let result programs := Classification.classify (programChecker programs ["check"] none {})
      "https://a.example/p" body (some "text/plain")
    (∃ programs, (result programs).2.checked ≠ []) ∧
    HadBy result (checkerRun ["check"] none (Bytes.ofText "ok;")) ∧
    ¬HadBy result (checkerRun ["check"] none (Classification.lookedAt body)) := by
  intro body result
  have hasked : ∃ programs, (result programs).2.checked ≠ [] :=
    ⟨fun _ tree => (tree, .refused), by decide +kernel⟩
  obtain ⟨hgiven, hlooked, -⟩ := checker_given_looked_at_iff (by decide) none {}
    "https://a.example/p" body (some "text/plain") hasked
  refine ⟨hasked, (hgiven _).mpr (by decide +kernel), fun h => ?_⟩
  exact absurd (hlooked.mp h) (by decide +kernel)

end Interpose
