import Interpose.Files.Tree

/-!
# Paths that are joined from names

A *component* is a name that is one ordinary step of a path: it is not empty, holds no slash, and is
neither of the two names that stand for a directory already passed. Joining a name without slashes
adds its steps to those of the path (`steps_join`), so joining a component adds exactly one, and a
path that ends with a component may be a file (`wantsDirectory_join`).
-/

namespace Interpose.Path

/-- A name that is one ordinary step of a path. -/
structure IsComponent (name : String) : Prop where
  ne_empty : name ≠ ""
  no_slash : '/' ∉ name.toList
  ne_dot : name ≠ "."
  ne_dots : name ≠ ".."

theorem isRooted_eq_false {name : String} (h : '/' ∉ name.toList) : isRooted name = false := by
  unfold isRooted
  cases hc : name.toList with
  | nil => rfl
  | cons c rest =>
    rw [hc, List.mem_cons, not_or] at h
    simp [Ne.symm h.1]

/-- A joined path ends with the name, after nothing or after a slash. -/
theorem join_eq_append (base : String) {name : String} (h : '/' ∉ name.toList) :
    ∃ front, join base name = front ++ name ∧ (base = "" ∧ front = "" ∨
      base ≠ "" ∧ front.toList.getLast? = some '/' ∧ (front = base ∨ front = base ++ "/")) := by
  unfold join
  rw [isRooted_eq_false h]
  by_cases hb : base = ""
  · exact ⟨"", by simp [hb], Or.inl ⟨hb, rfl⟩⟩
  · by_cases hs : base.toList.getLast? = some '/'
    · exact ⟨base, by simp [hb, hs], Or.inr ⟨hb, hs, Or.inl rfl⟩⟩
    · refine ⟨base ++ "/", by simp [hb, hs], Or.inr ⟨hb, ?_, Or.inr rfl⟩⟩
      simp

/-- Joining is joining a beginning of the name and then writing the rest. -/
theorem join_append {base name : String} (h : '/' ∉ name.toList) (hn : name ≠ "") (rest : String) :
    join base (name ++ rest) = join base name ++ rest := by
  have hr : isRooted (name ++ rest) = isRooted name := by
    unfold isRooted
    cases hc : name.toList with
    | nil => exact absurd (String.toList_inj.mp (hc.trans String.toList_empty.symm)) hn
    | cons c cs => simp [String.toList_append, hc]
  unfold join
  rw [hr, isRooted_eq_false h]
  by_cases hb : base = ""
  · simp [hb]
  · by_cases hs : base.toList.getLast? = some '/' <;> simp [hb, hs, String.append_assoc]

/-! ## Steps -/

theorem splitText_append_slash {front : String} (h : front.toList.getLast? = some '/')
    (name : String) :
    ∃ inner : List Char, front.toList = inner ++ ['/'] ∧
      splitText '/' (front ++ name) =
        (inner.splitOn '/').map String.ofList ++ splitText '/' name := by
  obtain ⟨inner, hi⟩ := List.getLast?_eq_some_iff.mp h
  refine ⟨inner, hi, ?_⟩
  unfold splitText
  rw [String.toList_append, hi, List.append_assoc, List.singleton_append,
    List.splitOn_append_cons_self, List.map_append]

/-- What a slash at the end of a path adds are no steps. -/
theorem steps_append_of_slash {front : String} (h : front.toList.getLast? = some '/')
    (name : String) : steps (front ++ name) = steps front ++ steps name := by
  obtain ⟨inner, hi, hs⟩ := splitText_append_slash h name
  obtain ⟨inner', hi', hs'⟩ := splitText_append_slash h ""
  obtain rfl : inner = inner' := by
    rw [hi] at hi'
    exact List.append_cancel_right hi'
  rw [String.append_empty] at hs'
  unfold steps
  rw [hs, hs', List.filter_append, List.filter_append, List.append_assoc]
  rfl

theorem steps_slash (base : String) : steps (base ++ "/") = steps base := by
  unfold steps splitText
  rw [String.toList_append, show "/".toList = '/' :: [] from rfl, List.splitOn_append_cons_self]
  simp

theorem steps_append_slashes (base : String) {slashes : List Char} (h : ∀ c ∈ slashes, c = '/') :
    steps (base ++ String.ofList slashes) = steps base := by
  induction slashes generalizing base with
  | nil => simp
  | cons c rest ih =>
    obtain rfl : c = '/' := h c (by simp)
    rw [show String.ofList ('/' :: rest) = "/" ++ String.ofList rest by
      rw [← String.toList_inj]; simp, ← String.append_assoc,
      ih (base ++ "/") fun c hc => h c (by simp [hc]), steps_slash]

theorem steps_join {base name : String} (h : '/' ∉ name.toList) :
    steps (join base name) = steps base ++ steps name := by
  obtain ⟨front, hj, ⟨rfl, rfl⟩ | ⟨-, hl, hf⟩⟩ := join_eq_append base h
  · rw [hj, String.empty_append]
    rfl
  · rw [hj, steps_append_of_slash hl]
    rcases hf with rfl | rfl
    · rfl
    · rw [steps_slash]

theorem steps_of_no_slash {name : String} (h : '/' ∉ name.toList) :
    steps name = if name = "" ∨ name = "." then [] else [name] := by
  unfold steps splitText
  rw [List.splitOn_eq_singleton h]
  by_cases he : name = ""
  · simp [he]
  · by_cases hd : name = "." <;> simp [he, hd]

theorem steps_component {name : String} (h : IsComponent name) : steps name = [name] := by
  rw [steps_of_no_slash h.no_slash, if_neg (by simp [h.ne_empty, h.ne_dot])]

theorem steps_join_component {base name : String} (h : IsComponent name) :
    steps (join base name) = steps base ++ [name] := by
  rw [steps_join h.no_slash, steps_component h]

theorem isRooted_join {base name : String} (h : '/' ∉ name.toList) :
    isRooted (join base name) = isRooted base := by
  obtain ⟨front, hj, ⟨rfl, rfl⟩ | ⟨hb, -, hf⟩⟩ := join_eq_append base h
  · rw [hj, String.empty_append, isRooted_eq_false h]
    rfl
  · have hc : ∃ c cs, base.toList = c :: cs := by
      cases hc : base.toList with
      | nil => exact absurd (String.toList_inj.mp (hc.trans String.toList_empty.symm)) hb
      | cons c cs => exact ⟨c, cs, rfl⟩
    obtain ⟨c, cs, hc⟩ := hc
    unfold isRooted
    rcases hf with rfl | rfl <;> simp [hj, String.toList_append, hc]

/-! ## Paths of files -/

theorem exists_toList_join (base : String) {name : String} (h : '/' ∉ name.toList) :
    ∃ front : List Char, (join base name).toList = front ++ name.toList := by
  obtain ⟨front, hj, -⟩ := join_eq_append base h
  exact ⟨front.toList, by rw [hj, String.toList_append]⟩

theorem join_ne_empty {base name : String} (h : IsComponent name) : join base name ≠ "" := by
  obtain ⟨front, hj⟩ := exists_toList_join base h.no_slash
  intro he
  rw [he, String.toList_empty] at hj
  exact h.ne_empty (String.toList_inj.mp (List.append_eq_nil_iff.mp hj.symm).2)

/-- The last character of a joined path is that of the component. -/
theorem getLast?_join (base : String) {name : String} (h : IsComponent name) :
    ∃ c, c ≠ '/' ∧ (join base name).toList.getLast? = some c ∧ name.toList.getLast? = some c := by
  obtain ⟨front, hj⟩ := exists_toList_join base h.no_slash
  cases hl : name.toList.getLast? with
  | none =>
    rw [List.getLast?_eq_none_iff] at hl
    exact absurd (String.toList_inj.mp (hl.trans String.toList_empty.symm)) h.ne_empty
  | some c =>
    refine ⟨c, ?_, ?_, rfl⟩
    · rintro rfl
      exact h.no_slash (List.mem_of_getLast? hl)
    · rw [hj, List.getLast?_append, hl]
      rfl

/-- A path is what is left when slashes are taken from its end, and those slashes. -/
theorem eq_trimmed_append (path : String) :
    ∃ slashes : List Char, (∀ c ∈ slashes, c = '/') ∧
      path = String.ofList (path.toList.reverse.dropWhile (· == '/')).reverse ++
        String.ofList slashes := by
  refine ⟨(path.toList.reverse.takeWhile (· == '/')).reverse, fun c hc => ?_, ?_⟩
  · rw [List.mem_reverse] at hc
    exact beq_iff_eq.mp (List.all_eq_true.mp List.all_takeWhile c hc)
  · rw [← String.ofList_append, ← List.reverse_append, List.takeWhile_append_dropWhile,
      List.reverse_reverse, String.ofList_toList]

theorem steps_trimmed (path : String) :
    steps (String.ofList (path.toList.reverse.dropWhile (· == '/')).reverse) = steps path := by
  obtain ⟨slashes, hs, hp⟩ := eq_trimmed_append path
  conv => rhs; rw [hp]
  exact (steps_append_slashes _ hs).symm

theorem isRooted_trimmed {path : String}
    (h : String.ofList (path.toList.reverse.dropWhile (· == '/')).reverse ≠ "") :
    isRooted (String.ofList (path.toList.reverse.dropWhile (· == '/')).reverse) =
      isRooted path := by
  obtain ⟨slashes, -, hp⟩ := eq_trimmed_append path
  conv => rhs; rw [hp]
  generalize String.ofList (path.toList.reverse.dropWhile (· == '/')).reverse = bare at h
  unfold isRooted
  cases hc : bare.toList with
  | nil => exact absurd (String.toList_inj.mp (hc.trans String.toList_empty.symm)) h
  | cons c cs => simp [String.toList_append, hc]

theorem trimmed_join {base name : String} (h : IsComponent name) :
    String.ofList ((join base name).toList.reverse.dropWhile (· == '/')).reverse =
      join base name := by
  obtain ⟨c, hc, hl, -⟩ := getLast?_join base h
  obtain ⟨inner, hi⟩ := List.getLast?_eq_some_iff.mp hl
  rw [hi, List.reverse_append, List.reverse_singleton, List.singleton_append,
    List.dropWhile_cons_of_neg (by simpa using hc), ← List.singleton_append,
    ← List.reverse_singleton, ← List.reverse_append, List.reverse_reverse, ← hi,
    String.ofList_toList]

end Interpose.Path

namespace Interpose.FileTree

open Interpose.Path

theorem wantsDirectory_join {base name : String} (h : IsComponent name) :
    wantsDirectory (join base name) = false := by
  obtain ⟨c, hc, hl, hn⟩ := getLast?_join base h
  obtain ⟨front, hj⟩ := exists_toList_join base h.no_slash
  obtain ⟨inner, hi⟩ := List.getLast?_eq_some_iff.mp hn
  have hslash : endsText (join base name) "/" = false := by
    rw [endsText, Bool.eq_false_iff, Ne, List.isSuffixOf_iff_suffix]
    rintro ⟨pre, hp⟩
    rw [← hp, show "/".toList = ['/'] from rfl, List.getLast?_concat] at hl
    exact hc (Option.some.inj hl).symm
  have hdot : endsText (join base name) "/." = false := by
    rw [endsText, Bool.eq_false_iff, Ne, List.isSuffixOf_iff_suffix]
    rintro ⟨pre, hp⟩
    rw [hj, hi, show "/.".toList = ['/'] ++ ['.'] from rfl, ← List.append_assoc,
      ← List.append_assoc] at hp
    obtain ⟨hfront, hdot⟩ := List.append_inj' hp rfl
    -- the character before the final dot would be a slash of the name, or the name a single dot
    rcases List.eq_nil_or_concat inner with rfl | ⟨inner', d, rfl⟩
    · refine h.ne_dot (String.toList_inj.mp ?_)
      rw [hi, ← hdot]
      rfl
    · rw [List.concat_eq_append, ← List.append_assoc] at hfront
      have hd := (List.append_inj' hfront rfl).2
      refine h.no_slash ?_
      rw [hi, List.concat_eq_append, ← hd]
      simp
  have hself : join base name ≠ "." := by
    intro hd
    rw [hd, show ".".toList = [] ++ ['.'] from rfl, hi, ← List.append_assoc] at hj
    obtain ⟨hnil, hdot⟩ := List.append_inj' hj rfl
    refine h.ne_dot (String.toList_inj.mp ?_)
    rw [hi, ← hdot, (List.append_eq_nil_iff.mp hnil.symm).2]
    rfl
  simp [wantsDirectory, hslash, hdot, hself]

end Interpose.FileTree
