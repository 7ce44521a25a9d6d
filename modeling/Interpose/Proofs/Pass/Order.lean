import Interpose.Proofs.Http.Multimap
import Interpose.Proofs.Pass.Index
import Mathlib.Data.List.Dedup
import Mathlib.Data.List.Perm.Basic

/-!
# The order of the changes that close a pass

A pass ends with three changes of its response (`Change.closing`): it breaks a redirect to the
request itself, lets the permitted origin read, and drops the policy. Each writes under a name of
its own, and looks only at names that the others leave alone, so any two of them commute
(`plainly_comm`). One that has been made finds nothing to do (`plainly_again`).

So neither their order nor their number matters to what they leave: repetitions can be left out of a
run (`foldl_plainly_dedup`), what is then left of it is the pass's own order up to a permutation, and
the runs that go through one index are those told by names (`foldl_apply_of_stands`). The main
statement is `closing_changes_any_order`.
-/

namespace Interpose

open Headers

/-- Only a change of who may send credentials changes the origin granted. -/
theorem grantedOrigin_of_changedAt {h h' : Headers} {name : String} (hc : ChangedAt [name] h h')
    (hn : sameText name allowCredentials = false) (request : Request) :
    grantedOrigin request h' = grantedOrigin request h := by
  unfold grantedOrigin
  rw [hc.get? (by simpa using hn)]

namespace Change

variable {request : Request} {change change' : Change} {changes : List Change}

/-- The changes that close a pass over the response to a request, in the order in which it makes
them. -/
def closing (request : Request) : List Change :=
  [breakLoop request.url, allowReading request, dropPolicy]

theorem relax_eq_foldl (request : Request) (r : Response) (index : HeaderIndex) :
    (Pass.relax request r index).1 = (closing request).foldl (apply index) r := rfl

/-! ## Two changes -/

theorem plainly_breakLoop_of_eq {r : Response} {url : String}
    (hloop : r.headers.get? location = some url) :
    plainly r (breakLoop url) = { r with headers := r.headers.remove location, status := 500 } :=
  if_pos hloop

theorem plainly_breakLoop_of_ne {r : Response} {url : String}
    (hloop : r.headers.get? location ≠ some url) : plainly r (breakLoop url) = r :=
  if_neg hloop

/-- Breaking a loop commutes with a change that leaves the target alone and does the same to a
response whose loop has been broken as to a whole one. -/
theorem breakLoop_comm {r : Response}
    (hlook : (plainly r change).headers.get? location = r.headers.get? location)
    (hbroken : plainly { r with headers := r.headers.remove location, status := 500 } change =
      { plainly r change with
        headers := (plainly r change).headers.remove location, status := 500 })
    (url : String) :
    plainly (plainly r (breakLoop url)) change = plainly (plainly r change) (breakLoop url) := by
  by_cases hloop : r.headers.get? location = some url
  · rw [plainly_breakLoop_of_eq hloop, plainly_breakLoop_of_eq (hlook.trans hloop), hbroken]
  · rw [plainly_breakLoop_of_ne hloop, plainly_breakLoop_of_ne (hlook ▸ hloop)]

theorem breakLoop_allowReading (r : Response) (url : String) (request : Request) :
    plainly (plainly r (breakLoop url)) (allowReading request) =
      plainly (plainly r (allowReading request)) (breakLoop url) := by
  refine breakLoop_comm ?_ ?_ url
  · exact (ChangedAt.set (sameText_self allowOrigin) r.headers _).get?
      (by simp [sameText, lowerText_names])
  · have hgranted := grantedOrigin_of_changedAt (.remove (sameText_self location) r.headers)
      (by simp [sameText, lowerText_names]) request
    have hremove := remove_set (n := allowOrigin) (m := location)
      (by simp [sameText, lowerText_names]) r.headers (grantedOrigin request r.headers)
    simp only [plainly, hgranted, hremove]

theorem breakLoop_dropPolicy (r : Response) (url : String) :
    plainly (plainly r (breakLoop url)) dropPolicy =
      plainly (plainly r dropPolicy) (breakLoop url) := by
  refine breakLoop_comm ?_ ?_ url
  · exact (ChangedAt.remove (sameText_self contentSecurityPolicy) r.headers).get?
      (by simp [sameText, lowerText_names])
  · simp only [plainly, remove_comm r.headers location]

theorem allowReading_dropPolicy (r : Response) (request : Request) :
    plainly (plainly r (allowReading request)) dropPolicy =
      plainly (plainly r dropPolicy) (allowReading request) := by
  have hgranted := grantedOrigin_of_changedAt
    (.remove (sameText_self contentSecurityPolicy) r.headers)
    (by simp [sameText, lowerText_names]) request
  have hremove := remove_set (n := allowOrigin) (m := contentSecurityPolicy)
    (by simp [sameText, lowerText_names]) r.headers (grantedOrigin request r.headers)
  simp only [plainly, hgranted, hremove]

/-- **Two closing changes commute.** -/
theorem plainly_comm (hc : change ∈ closing request) (hc' : change' ∈ closing request)
    (r : Response) :
    plainly (plainly r change) change' = plainly (plainly r change') change := by
  simp only [closing, List.mem_cons, List.not_mem_nil, or_false] at hc hc'
  rcases hc with rfl | rfl | rfl <;> rcases hc' with rfl | rfl | rfl
  · rfl
  · exact breakLoop_allowReading r request.url request
  · exact breakLoop_dropPolicy r request.url
  · exact (breakLoop_allowReading r request.url request).symm
  · rfl
  · exact allowReading_dropPolicy r request
  · exact (breakLoop_dropPolicy r request.url).symm
  · exact (allowReading_dropPolicy r request).symm
  · rfl

/-- **A closing change that has been made finds nothing to do.** -/
theorem plainly_again (hc : change ∈ closing request) (r : Response) :
    plainly (plainly r change) change = plainly r change := by
  simp only [closing, List.mem_cons, List.not_mem_nil, or_false] at hc
  rcases hc with rfl | rfl | rfl
  · by_cases hloop : r.headers.get? location = some request.url
    · -- no target is left to lead back
      have hnone : (r.headers.remove location).get? location = none :=
        get?_eq_none.mpr (contains_remove (sameText_self location) r.headers)
      rw [plainly_breakLoop_of_eq hloop, plainly_breakLoop_of_ne (by simp [hnone])]
    · rw [plainly_breakLoop_of_ne hloop, plainly_breakLoop_of_ne hloop]
  · have hgranted := grantedOrigin_of_changedAt
      (.set (sameText_self allowOrigin) r.headers (grantedOrigin request r.headers))
      (by simp [sameText, lowerText_names]) request
    simp only [plainly, hgranted, set_set]
  · have hnone := contains_remove (sameText_self contentSecurityPolicy) r.headers
    simp only [plainly, remove_of_missing hnone]

/-! ## Runs -/

/-- A closing change made before a run that makes it too might as well be left out. -/
theorem foldl_plainly_absorbs (hall : ∀ c ∈ changes, c ∈ closing request) (hc : change ∈ changes)
    (r : Response) : changes.foldl plainly (plainly r change) = changes.foldl plainly r := by
  induction changes generalizing r with
  | nil => cases hc
  | cons c rest ih =>
    rw [List.foldl_cons, List.foldl_cons]
    obtain rfl | hrest := List.mem_cons.mp hc
    · rw [plainly_again (hall change (by simp))]
    · -- it moves past the first of the run, towards where the run makes it too
      rw [plainly_comm (hall change hc) (hall c (by simp)),
        ih (fun c' hc' => hall c' (List.mem_cons_of_mem _ hc')) hrest]

/-- Repetitions can be left out of a run of closing changes. -/
theorem foldl_plainly_dedup (hall : ∀ c ∈ changes, c ∈ closing request) (r : Response) :
    changes.dedup.foldl plainly r = changes.foldl plainly r := by
  induction changes generalizing r with
  | nil => rfl
  | cons c rest ih =>
    have hrest : ∀ c' ∈ rest, c' ∈ closing request := fun c' hc' =>
      hall c' (List.mem_cons_of_mem _ hc')
    by_cases hc : c ∈ rest
    · rw [List.dedup_cons_of_mem hc, ih hrest, List.foldl_cons, foldl_plainly_absorbs hrest hc]
    · rw [List.dedup_cons_of_notMem hc, List.foldl_cons, List.foldl_cons, ih hrest]

/-- Through an index that stands at its start, a run of changes is the run told by names. -/
theorem foldl_apply_of_stands {index : HeaderIndex} {r : Response} (hi : index.Stands r.headers)
    (changes : List Change) : changes.foldl (apply index) r = changes.foldl plainly r := by
  induction changes generalizing r with
  | nil => rfl
  | cons change rest ih =>
    rw [List.foldl_cons, List.foldl_cons, (apply_of_stands hi change).1, ih (stands_after hi change)]

theorem nodup_closing (request : Request) : (closing request).Nodup := by
  simp [closing]

end Change

/-- **The closing changes may be made in any order, and any number of times.** -/
theorem closing_changes_any_order (request : Request) (r : Response) (changes : List Change)
    (hall : ∀ change, change ∈ changes ↔ change ∈ Change.closing request) :
    changes.foldl (Change.apply (.scan r.headers)) r =
      (Pass.relax request r (.scan r.headers)).1 := by
  have hclosing : ∀ change ∈ changes, change ∈ Change.closing request := fun change =>
    (hall change).mp
  have hperm : changes.dedup.Perm (Change.closing request) :=
    (List.perm_ext_iff_of_nodup changes.nodup_dedup (Change.nodup_closing request)).mpr
      fun change => List.mem_dedup.trans (hall change)
  have hstands := HeaderIndex.stands_scan r.headers
  calc changes.foldl (Change.apply (.scan r.headers)) r
      = changes.foldl Change.plainly r := Change.foldl_apply_of_stands hstands changes
    _ = changes.dedup.foldl Change.plainly r := (Change.foldl_plainly_dedup hclosing r).symm
    _ = (Change.closing request).foldl Change.plainly r :=
        hperm.foldl_eq' (fun change hc change' hc' =>
          Change.plainly_comm (hclosing change (List.mem_dedup.mp hc))
            (hclosing change' (List.mem_dedup.mp hc'))) r
    _ = (Change.closing request).foldl (Change.apply (.scan r.headers)) r :=
        (Change.foldl_apply_of_stands hstands _).symm
    _ = (Pass.relax request r (.scan r.headers)).1 :=
        (Change.relax_eq_foldl request r (.scan r.headers)).symm

/-- A redirect to the request itself with targets and policies in several spellings, and no origin
that may read yet. -/
theorem closing_changes_any_order_for_loop :
    let request : Request :=
      { url := "https://a.example/", headers := ⟨[("ORIGIN", "https://page")]⟩ }
    let r : Response :=
      { status := 302
        headers := ⟨[("LOCATION", "https://a.example/"), ("content-security-policy", "default-src"),
          ("Set-Cookie", "a=1"), ("Location", "https://b.example/"),
          ("access-control-allow-credentials", "true"), ("Content-Security-Policy", "img-src")]⟩
        body := [97] }
    let changes : List Change :=
      [.dropPolicy, .allowReading request, .dropPolicy, .breakLoop request.url,
        .allowReading request, .breakLoop request.url]
    (∀ change, change ∈ changes ↔ change ∈ Change.closing request) ∧
      changes.foldl (Change.apply (.scan r.headers)) r =
        (Pass.relax request r (.scan r.headers)).1 := by
  intro request r changes
  have hall : ∀ change, change ∈ changes ↔ change ∈ Change.closing request := fun change => by
    simp only [changes, Change.closing, List.mem_cons, List.not_mem_nil, or_false]
    tauto
  exact ⟨hall, closing_changes_any_order request r changes hall⟩

end Interpose
