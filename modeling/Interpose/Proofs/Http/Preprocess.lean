import Interpose.Http.Request
import Interpose.Proofs.Http.Sync
import Mathlib.Logic.Function.Iterate

/-!
# What the request hook leaves

The request hook leaves the URL without its first `sync` piece, or as it is without one (`Sync.left`),
and the URL that it found beside it. So the hook run again and again takes the pieces out one after
the other, and each run finds what the run before has left (`url_iterate_preprocess`,
`clientUrl_iterate_preprocess`). A piece that is taken out makes the URL shorter
(`Sync.length_left_lt`): once changed, a URL never comes back (`Sync.iterate_left_eq_self_iff`).
-/

namespace Interpose

namespace Sync

/-- What is left of a URL without its first `sync` piece: the URL itself where it has none. -/
def left (url : String) : String := ((strip? url).map (·.1)).getD url

variable {url : String}

theorem left_of_none (h : strip? url = none) : left url = url := by rw [left, h]; rfl

theorem left_of_some {rest value : String} (h : strip? url = some (rest, value)) :
    left url = rest := by rw [left, h]; rfl

/-- A URL is left as it is, or falls into parts with a first `sync` piece, which is gone. -/
theorem left_cases (url : String) : strip? url = none ∧ left url = url ∨
    ∃ front query tail before value after, Parts url front query tail ∧
      query.splitOn '&' = before ++ (start ++ value) :: after ∧
      left url = String.ofList (front ++ marked (before ++ after) ++ tail) := by
  rcases url_cases url with
    hmark | ⟨front, query, tail, h, hnone | ⟨before, value, after, hsplit, hbefore⟩⟩
  · have hstrip := strip?_eq (strip_of_no_mark hmark)
    exact Or.inl ⟨hstrip, left_of_none hstrip⟩
  · have hstrip := strip?_eq (h.strip_of_none hnone)
    exact Or.inl ⟨hstrip, left_of_none hstrip⟩
  · have hstrip := strip?_eq (h.strip_of_first hsplit hbefore)
    exact Or.inr ⟨front, query, tail, before, value, after, h, hsplit, left_of_some hstrip⟩

/-- What is left of a URL brings no characters but separators. -/
theorem mem_left {c : Char} (h : c ∈ (left url).toList) : c = '?' ∨ c = '&' ∨ c ∈ url.toList := by
  obtain ⟨-, he⟩ | ⟨front, query, tail, before, value, after, hparts, hsplit, hleft⟩ :=
    left_cases url
  · exact Or.inr (Or.inr (by rwa [he] at h))
  · rw [hleft, String.toList_ofList, List.mem_append, List.mem_append] at h
    rw [hparts.text]
    rcases h with (hfront | hpieces) | htail
    · simp [hfront]
    · rcases mem_marked_left hsplit hpieces with he | he | hquery
      · exact Or.inl he
      · exact Or.inr (Or.inl he)
      · simp [hquery]
    · simp [htail]

/-- Each piece of a query comes with one separator, the mark or one between pieces. -/
theorem length_marked (pieces : List (List Char)) :
    (marked pieces).length = (closed pieces).length := by
  obtain ⟨sep, -, hclosed⟩ := exists_separator pieces
  simpa using (congrArg List.length hclosed).symm

/-- A piece that is taken out makes the URL shorter. -/
theorem length_left_lt (h : strip? url ≠ none) : (left url).length < url.length := by
  obtain ⟨hnone, -⟩ | ⟨front, query, tail, before, value, after, hparts, hsplit, hleft⟩ :=
    left_cases url
  · exact absurd hnone h
  · have hquery : '?' :: query = marked (before ++ (start ++ value) :: after) := by
      rw [marked_of_ne_nil (by simp), ← hsplit, List.intercalate_splitOn]
    have htext : url.toList = front ++ (marked (before ++ (start ++ value) :: after) ++ tail) := by
      rw [hparts.text, ← hquery, List.cons_append]
    have hlength := congrArg List.length htext
    rw [String.length_toList] at hlength
    rw [hleft, String.length_ofList, hlength]
    simp only [length_marked, closed, List.flatMap_append, List.flatMap_cons, List.length_append,
      List.length_singleton]
    omega

theorem length_left_le (url : String) : (left url).length ≤ url.length := by
  by_cases h : strip? url = none
  · exact Nat.le_of_eq (congrArg String.length (left_of_none h))
  · exact Nat.le_of_lt (length_left_lt h)

theorem length_iterate_left_le (n : Nat) (url : String) :
    (left^[n] url).length ≤ url.length := by
  induction n with
  | zero => exact Nat.le_refl _
  | succ n ih =>
    rw [Function.iterate_succ_apply']
    exact Nat.le_trans (length_left_le _) ih

/-- A URL from which pieces are taken out one after the other never comes back. -/
theorem iterate_left_eq_self_iff (n : Nat) (url : String) :
    left^[n] url = url ↔ n = 0 ∨ strip? url = none := by
  constructor
  · intro h
    cases n with
    | zero => exact Or.inl rfl
    | succ n =>
      refine Or.inr (by_contra fun hsome => ?_)
      have hle := length_iterate_left_le n (left url)
      rw [← Function.iterate_succ_apply, h] at hle
      exact absurd (length_left_lt hsome) (Nat.not_lt.mpr hle)
  · rintro (rfl | hnone)
    · rfl
    · exact Function.iterate_fixed (left_of_none hnone) n

end Sync

namespace Request

theorem url_preprocess (r : Request) : r.preprocess.url = Sync.left r.url := by
  unfold preprocess Sync.left
  cases Sync.strip? r.url <;> rfl

theorem clientUrl_preprocess (r : Request) : r.preprocess.clientUrl = r.url := by
  unfold preprocess
  cases Sync.strip? r.url <;> rfl

/-- Each run of the hook takes one piece out of the URL. -/
theorem url_iterate_preprocess (n : Nat) (r : Request) :
    (preprocess^[n] r).url = Sync.left^[n] r.url := by
  induction n with
  | zero => rfl
  | succ n ih =>
    rw [Function.iterate_succ_apply', Function.iterate_succ_apply', url_preprocess, ih]

/-- What each run of the hook notes is the URL that the runs before have left. -/
theorem clientUrl_iterate_preprocess (n : Nat) (r : Request) :
    (preprocess^[n + 1] r).clientUrl = Sync.left^[n] r.url := by
  rw [Function.iterate_succ_apply', clientUrl_preprocess, url_iterate_preprocess]

end Request

end Interpose
