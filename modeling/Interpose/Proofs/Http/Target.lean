import Interpose.Proofs.Http.Headers
import Interpose.Proofs.Http.Sync
import Mathlib.Data.List.TakeWhile

/-!
# Where a redirect carries a query

A client that follows a redirect sends the query of its target, which ends where the fragment
begins. So pieces that are to be carried on belong behind the query that is there, or behind a mark
of their own, and before the fragment (`carryingTarget`): then the path and the fragment stay what
they are, and the query is the one that was there with the pieces added (`Carries`).

Merging adds the pieces at the end of the target. That is the same where the target has no fragment.
Where it has one, the pieces become part of it, and the query that a client sends is as it was
(`carries_mergedTarget_iff`).
-/

namespace Interpose

open Headers
open Sync (trunk fragment behindMark)

namespace Sync

variable {s t : String}

/-- What is added to a text without a fragment may begin one. -/
theorem trunk_append_left (h : '#' ∉ s.toList) (t : String) :
    trunk (s ++ t) = s ++ trunk t ∧ fragment (s ++ t) = fragment t := by
  have hs := bne_of_not_mem h
  simp only [trunk, fragment, String.toList_append, List.takeWhile_append_of_pos hs,
    List.dropWhile_append_of_pos hs, String.ofList_append, String.ofList_toList, and_self]

theorem trunk_of_not_mem (h : '#' ∉ s.toList) : trunk s = s ∧ fragment s = "" := by
  obtain ⟨htrunk, hfragment⟩ := trunk_append_left h ""
  simp only [String.append_empty] at htrunk hfragment
  rw [htrunk, hfragment, show trunk "" = "" from rfl, String.append_empty]
  exact ⟨rfl, rfl⟩

/-- What is added to a text with a fragment is added to the fragment. -/
theorem trunk_append_right (h : '#' ∈ s.toList) (t : String) :
    trunk (s ++ t) = trunk s ∧ fragment (s ++ t) = fragment s ++ t := by
  obtain ⟨front, rest, htext, hfront⟩ := List.eq_append_cons_of_mem h
  have hne := bne_of_not_mem hfront
  have hlong : (s ++ t).toList = front ++ '#' :: (rest ++ t.toList) := by
    rw [String.toList_append, htext, List.append_assoc, List.cons_append]
  have hstop : ('#' != '#') = false := rfl
  simp only [trunk, fragment, hlong, htext, List.takeWhile_append_of_pos hne,
    List.dropWhile_append_of_pos hne, List.takeWhile_cons, List.dropWhile_cons, hstop]
  refine ⟨rfl, ?_⟩
  rw [← String.toList_inj]
  simp

/-- The path of a URL, with all that stands before it. -/
def path (url : String) : List Char := (trunk url).toList.takeWhile (· != '?')

/-- The query that is sent for a URL. -/
def query (url : String) : List Char := behindMark (trunk url)

/-- What is added to a text with a mark is added behind the mark. -/
theorem behindMark_append (h : '?' ∈ s.toList) (t : String) :
    behindMark (s ++ t) = behindMark s ++ t.toList ∧
      (s ++ t).toList.takeWhile (· != '?') = s.toList.takeWhile (· != '?') := by
  obtain ⟨front, rest, htext, hfront⟩ := List.eq_append_cons_of_mem h
  have hne := bne_of_not_mem hfront
  simp [behindMark, htext, List.takeWhile_append_of_pos hne, List.dropWhile_append_of_pos hne]

/-- A text without a mark is the path before a mark that is added. -/
theorem behindMark_append_mark (h : '?' ∉ s.toList) (t : String) :
    behindMark (s ++ ("?" ++ t)) = t.toList ∧
      (s ++ ("?" ++ t)).toList.takeWhile (· != '?') = s.toList.takeWhile (· != '?') := by
  have hs := bne_of_not_mem h
  simp [behindMark, List.takeWhile_append_of_pos hs, List.dropWhile_append_of_pos hs,
    List.takeWhile_eq_self_iff.mpr hs]

end Sync

namespace Response

open Sync (path query)

/-- What merging adds to a text: the pieces, behind a separator or a mark. -/
def carried (text : String) (pieces : List String) : String :=
  (if '?' ∈ text.toList then "&" else "?") ++ "&".intercalate pieces

/-- The target of a redirect with pieces added to the query that is sent for it. -/
def carryingTarget (target : String) (pieces : List String) : String :=
  trunk target ++ carried (trunk target) pieces ++ fragment target

/-- A target `merged` that leads where another one leads, with some text added to the query. -/
structure Carries (target added merged : String) : Prop where
  path : path merged = path target
  query : query merged =
    if '?' ∈ (trunk target).toList then query target ++ '&' :: added.toList else added.toList
  fragment : fragment merged = fragment target

variable {r : Response} {target : String} {pieces : List String}

theorem mergedTarget_eq (target : String) (pieces : List String) :
    mergedTarget target pieces = target ++ carried target pieces := by
  rw [mergedTarget, String.contains_char_eq, carried, String.append_assoc]
  simp only [decide_eq_true_eq]

/-- What is added neither is empty nor begins a fragment. -/
theorem exists_carried (text : String) (pieces : List String) :
    ∃ sep : Char, sep ≠ '#' ∧
      (carried text pieces).toList = sep :: ("&".intercalate pieces).toList := by
  unfold carried
  split
  · exact ⟨'&', by decide, by simp⟩
  · exact ⟨'?', by decide, by simp⟩

theorem hash_not_mem_carried (h : ∀ piece ∈ pieces, '#' ∉ piece.toList) (text : String) :
    '#' ∉ (carried text pieces).toList := by
  obtain ⟨sep, hsep, htext⟩ := exists_carried text pieces
  rw [htext, List.mem_cons, String.toList_intercalate]
  rintro (rfl | hmem)
  · exact hsep rfl
  · rcases Sync.mem_intercalate hmem with heq | ⟨p, hp, hin⟩
    · cases heq
    · obtain ⟨piece, hpiece, rfl⟩ := List.mem_map.mp hp
      exact h piece hpiece hin

/-! ## Targets with and without a fragment -/

theorem mergedTarget_of_no_hash (h : '#' ∉ target.toList) (pieces : List String) :
    mergedTarget target pieces = carryingTarget target pieces := by
  obtain ⟨htrunk, hfragment⟩ := Sync.trunk_of_not_mem h
  rw [mergedTarget_eq, carryingTarget, htrunk, hfragment, String.append_empty]

/-- Where a target has a fragment, merging adds to the fragment. -/
theorem mergedTarget_of_hash (h : '#' ∈ target.toList) (pieces : List String) :
    trunk (mergedTarget target pieces) = trunk target ∧
      fragment (mergedTarget target pieces) = fragment target ++ carried target pieces := by
  rw [mergedTarget_eq]
  exact Sync.trunk_append_right h _

/-- With something added to its query, a target has more before its fragment. -/
theorem trunk_carryingTarget_ne (target : String) (pieces : List String) :
    trunk (carryingTarget target pieces) ≠ trunk target := by
  obtain ⟨sep, hsep, htext⟩ := exists_carried (trunk target) pieces
  obtain ⟨hlong, -⟩ := Sync.trunk_append_left (Sync.hash_not_mem_trunk target)
    (carried (trunk target) pieces ++ fragment target)
  rw [carryingTarget, String.append_assoc, hlong]
  intro hsame
  have hnone := congrArg String.toList hsame
  rw [String.toList_append, List.append_right_eq_self, trunk, String.toList_ofList,
    String.toList_append, htext] at hnone
  simp [hsep] at hnone

/-- **Merging adds to the query exactly where there is no fragment.** -/
theorem mergedTarget_eq_iff : mergedTarget target pieces = carryingTarget target pieces ↔
    '#' ∉ target.toList := by
  refine ⟨fun heq hhash => ?_, fun h => mergedTarget_of_no_hash h pieces⟩
  refine trunk_carryingTarget_ne target pieces ?_
  rw [← heq]
  exact (mergedTarget_of_hash hhash pieces).1

/-- Pieces without a fragment of their own are carried as they should be. -/
theorem carries_carryingTarget (h : ∀ piece ∈ pieces, '#' ∉ piece.toList) (target : String) :
    Carries target ("&".intercalate pieces) (carryingTarget target pieces) := by
  have hhash : '#' ∉ (trunk target ++ carried (trunk target) pieces).toList := by
    rw [String.toList_append, List.mem_append, not_or]
    exact ⟨Sync.hash_not_mem_trunk target, hash_not_mem_carried h _⟩
  obtain ⟨htrunk, hfragment⟩ := Sync.trunk_append hhash target
  rw [← carryingTarget] at htrunk hfragment
  by_cases hmark : '?' ∈ (trunk target).toList
  · obtain ⟨hquery, hpath⟩ := Sync.behindMark_append hmark (carried (trunk target) pieces)
    refine ⟨?_, ?_, hfragment⟩
    · rw [path, htrunk, hpath, path]
    · rw [query, htrunk, hquery, if_pos hmark, carried, if_pos hmark, query]
      simp
  · obtain ⟨hquery, hpath⟩ := Sync.behindMark_append_mark hmark ("&".intercalate pieces)
    rw [carried, if_neg hmark] at htrunk
    refine ⟨?_, ?_, hfragment⟩
    · rw [path, htrunk, hpath, path]
    · rw [query, htrunk, hquery, if_neg hmark]

/-- **Merging keeps path and fragment and adds to the query exactly where there is no fragment.** -/
theorem carries_mergedTarget_iff (h : ∀ piece ∈ pieces, '#' ∉ piece.toList) :
    Carries target ("&".intercalate pieces) (mergedTarget target pieces) ↔
      '#' ∉ target.toList := by
  refine ⟨fun hcarries hhash => ?_, fun hnone => ?_⟩
  · obtain ⟨sep, -, htext⟩ := exists_carried target pieces
    have hsame := hcarries.fragment
    rw [(mergedTarget_of_hash hhash pieces).2, ← String.toList_inj, String.toList_append,
      List.append_right_eq_self, htext] at hsame
    cases hsame
  · rw [mergedTarget_of_no_hash hnone]
    exact carries_carryingTarget h target

/-! ## Redirects -/

/-- A redirect with a target takes the merged one, under the spelling that it has. -/
theorem mergeQuery_redirect (hstatus : r.status = 301 ∨ r.status = 302) (hpieces : pieces ≠ [])
    (htarget : r.headers.get? location = some target) :
    r.mergeQuery (.scan r.headers) pieces =
      { r with headers := r.headers.set location (mergedTarget target pieces) } := by
  have hthere : r.headers.contains location = true := by
    rw [← Bool.not_eq_false, ← get?_eq_none, htarget]
    simp
  obtain ⟨key, hkey⟩ : ∃ key, r.headers.key? location = some key := by
    rw [← Option.ne_none_iff_exists', ne_eq, key?_eq_none, hthere]
    simp
  have hspelling : sameText key location = true := (key?_eq_some hkey).1
  rw [mergeQuery, if_pos ⟨hstatus, hpieces⟩, HeaderIndex.scan_eq]
  simp only [hkey, get?_congr hspelling, htarget, set_congr hspelling hthere]

/-- **A redirect carries pieces on in its query exactly where its target has no fragment.** Merging
leaves one target and changes nothing else. Without a fragment, it is the target with the pieces
added to its query, so that a client is led to the same path and fragment with a longer query. With
a fragment it never is: the path and the query that a client sends stay as they were, and the pieces
end up in the fragment. -/
theorem redirect_carries_query_iff (r : Response) (pieces : List String) (target : String)
    (hstatus : r.status = 301 ∨ r.status = 302) (hpieces : pieces ≠ [])
    (htarget : r.headers.get? location = some target) :
    let after := r.mergeQuery (.scan r.headers) pieces
    after.status = r.status ∧ after.body = r.body ∧
    ChangedAt [location] r.headers after.headers ∧
    ∃ merged, after.headers.getAll location = [merged] ∧
      (merged = carryingTarget target pieces ↔ '#' ∉ target.toList) ∧
      ((∀ piece ∈ pieces, '#' ∉ piece.toList) →
        (Carries target ("&".intercalate pieces) merged ↔ '#' ∉ target.toList)) ∧
      ('#' ∈ target.toList → path merged = path target ∧ query merged = query target ∧
        fragment merged = fragment target ++ carried target pieces) := by
  intro after
  have hafter : after = _ := mergeQuery_redirect hstatus hpieces htarget
  rw [hafter]
  refine ⟨rfl, rfl, .set (sameText_self location) _ _, mergedTarget target pieces, ?_,
    mergedTarget_eq_iff, carries_mergedTarget_iff, fun hhash => ?_⟩
  · rw [getAll_eq, under_set]
    rfl
  · obtain ⟨htrunk, hfragment⟩ := mergedTarget_of_hash hhash pieces
    exact ⟨by rw [path, htrunk, path], by rw [query, htrunk, query], hfragment⟩

/-- A redirect to a heading of a page: what it should carry on as query is lost in the fragment. -/
theorem redirect_carries_query_iff_for_heading :
    let r : Response :=
      { status := 302, headers := ⟨[("LOCATION", "https://x/next?q=0#top"), ("Vary", "*")]⟩ }
    carryingTarget "https://x/next?q=0#top" ["a=1", "b=2"] = "https://x/next?q=0&a=1&b=2#top" ∧
    ∃ merged,
      (r.mergeQuery (.scan r.headers) ["a=1", "b=2"]).headers.getAll location = [merged] ∧
      merged ≠ "https://x/next?q=0&a=1&b=2#top" ∧ query merged = "q=0".toList ∧
      fragment merged = "#top&a=1&b=2" := by
  intro r
  have hspelling : lowerText "LOCATION" = "location" := by decide +kernel
  have htarget : r.headers.get? location = some "https://x/next?q=0#top" := by
    simp [r, get?, named, sameText, lowerText_names, hspelling]
  have hcarrying : carryingTarget "https://x/next?q=0#top" ["a=1", "b=2"] =
      "https://x/next?q=0&a=1&b=2#top" := by
    rw [← String.toList_inj]
    simp [carryingTarget, carried, trunk, fragment]
  have hquery : query "https://x/next?q=0#top" = "q=0".toList := by
    simp [query, behindMark, trunk]
  have hfragment : fragment "https://x/next?q=0#top" ++
      carried "https://x/next?q=0#top" ["a=1", "b=2"] = "#top&a=1&b=2" := by
    rw [← String.toList_inj]
    simp [carried, fragment]
  obtain ⟨-, -, -, merged, hmerged, hequal, -, hlost⟩ :=
    redirect_carries_query_iff r ["a=1", "b=2"] _ (Or.inr rfl) (by simp) htarget
  obtain ⟨-, hsent, hbehind⟩ := hlost (by decide)
  refine ⟨hcarrying, merged, hmerged, fun hall => ?_, hsent.trans hquery, hbehind.trans hfragment⟩
  rw [← hcarrying] at hall
  exact hequal.mp hall (by decide)

end Response

end Interpose
