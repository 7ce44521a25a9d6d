import Interpose.Proofs.Pass.Headers

/-!
# The index of a list that changes

The relaxing changes go through an index that is taken once, while the changes themselves remove,
rewrite and add the entries that it points to. An index *stands* for a list (`Stands`) as long as it
holds the spelling of each name that the list has entries under, and writes the permitted origin
under the key that a new index would choose. For a name without entries it may hold a spelling that
is gone.

On an index that stands, each change is what the names alone say (`Change.apply_of_stands`), and
leaves a list for which it stands (`Change.stands_after`). So a run of changes on one index is the
run that takes a new one before each change (`index_never_stale`).
-/

namespace Interpose

open Headers

/-! ## Spellings -/

/-- A spelling that is right for a name in a list: the one that the first entry has, or any spelling
of the name where there is no entry. -/
structure Spells (spelling : Option String) (name : String) (h : Headers) : Prop where
  spells : ∀ key, spelling = some key → sameText key name = true
  first : h.contains name = true → spelling = h.key? name

namespace Spells

variable {spelling : Option String} {name m : String} {h h' : Headers}

theorem key? (name : String) (h : Headers) : Spells (h.key? name) name h :=
  ⟨fun _ hk => (key?_eq_some hk).1, fun _ => rfl⟩

/-- A name is looked up under a spelling that is right for it. -/
theorem bind_get? (hs : Spells spelling name h) : spelling.bind h.get? = h.get? name := by
  cases hc : h.contains name with
  | false =>
    rw [get?_eq_none.mpr hc]
    cases spelling with
    | none => rfl
    | some key =>
      rw [Option.bind_some, get?_congr (hs.spells key rfl), get?_eq_none.mpr hc]
  | true =>
    obtain ⟨key, hkey⟩ : ∃ key, h.key? name = some key := by
      rw [← Option.ne_none_iff_exists', ne_eq, key?_eq_none, hc]
      simp
    rw [hs.first hc, hkey, Option.bind_some, get?_congr (key?_eq_some hkey).1]

theorem eq_none (hs : Spells none name h) : h.contains name = false := by
  rw [← get?_eq_none, ← hs.bind_get?, Option.bind_none]

/-- Changes under another name leave a spelling right. -/
theorem of_changedAt (hs : Spells spelling name h) (hc : ChangedAt [m] h h')
    (hm : sameText m name = false) : Spells spelling name h' := by
  refine ⟨hs.spells, fun hthere => ?_⟩
  rw [hc.contains (by simpa using hm)] at hthere
  rw [hc.key? (by simpa using hm)]
  exact hs.first hthere

theorem of_missing (hs : Spells spelling name h) (hnone : h'.contains name = false) :
    Spells spelling name h' :=
  ⟨hs.spells, fun hthere => by rw [hnone] at hthere; cases hthere⟩

end Spells

namespace HeaderIndex

/-- An index that stands for a list, so that the relaxing changes need no new one. -/
structure Stands (index : HeaderIndex) (h : Headers) : Prop where
  location : Spells index.location Headers.location h
  credentials : Spells index.allowCredentials Headers.allowCredentials h
  policy : Spells index.contentSecurityPolicy Headers.contentSecurityPolicy h
  /-- The permitted origin is written under the key that a new index would choose. -/
  origin : index.allowOriginKey = (h.key? Headers.allowOrigin).getD Headers.allowOrigin

theorem stands_scan (h : Headers) : (scan h).Stands h := by
  refine ⟨?_, ?_, ?_, allowOriginKey_scan h⟩ <;>
  · rw [scan_eq]
    exact Spells.key? _ h

end HeaderIndex

/-! ## Changes told by names -/

/-- A relaxing change of a response, with what it is made for. -/
inductive Change
  | merge (pieces : List String)
  | breakLoop (url : String)
  | allowReading (request : Request)
  | dropPolicy
  deriving DecidableEq, Repr

namespace Change

open HeaderIndex (Stands)

/-- The response after a change that goes through an index. -/
def apply (index : HeaderIndex) (r : Response) : Change → Response
  | merge pieces => r.mergeQuery index pieces
  | breakLoop url => r.breakLoop index url
  | allowReading request => r.allowReading index request
  | dropPolicy => r.dropPolicy index

/-- What a change through an index answers: whether it broke a loop, or dropped a policy. -/
def answer (index : HeaderIndex) (r : Response) : Change → Option Bool
  | merge _ => none
  | breakLoop url => some (r.loopsTo index url)
  | allowReading _ => none
  | dropPolicy => some (r.hasPolicy index)

/-- The response after a change, told by names. -/
def plainly (r : Response) : Change → Response
  | merge pieces =>
    if (r.status = 301 ∨ r.status = 302) ∧ pieces ≠ [] then
      match r.headers.get? location with
      | none => r
      | some target =>
        { r with headers := r.headers.set location (Response.mergedTarget target pieces) }
    else r
  | breakLoop url =>
    if r.headers.get? location = some url then
      { r with headers := r.headers.remove location, status := 500 }
    else r
  | allowReading request =>
    { r with headers := r.headers.set allowOrigin (grantedOrigin request r.headers) }
  | dropPolicy => { r with headers := r.headers.remove contentSecurityPolicy }

/-- What a change answers, told by names. -/
def plainAnswer (r : Response) : Change → Option Bool
  | merge _ => none
  | breakLoop url => some (r.headers.get? location == some url)
  | allowReading _ => none
  | dropPolicy => some (r.headers.contains contentSecurityPolicy)

variable {index : HeaderIndex} {r : Response}

theorem loopsTo_of_stands (hi : index.Stands r.headers) (url : String) :
    r.loopsTo index url = (r.headers.get? location == some url) := by
  have hlook := hi.location.bind_get?
  unfold Response.loopsTo
  cases hk : index.location with
  | none =>
    rw [hk] at hlook
    rw [← hlook]
    rfl
  | some key =>
    rw [hk] at hlook
    rw [← hlook]
    rfl

theorem mergeQuery_of_stands (hi : index.Stands r.headers) (pieces : List String) :
    r.mergeQuery index pieces = plainly r (merge pieces) := by
  have hlook := hi.location.bind_get?
  simp only [Response.mergeQuery, plainly]
  split
  · cases hk : index.location with
    | none =>
      rw [hk, Option.bind_none] at hlook
      simp only [← hlook]
    | some key =>
      rw [hk, Option.bind_some] at hlook
      simp only [hlook]
      cases hg : r.headers.get? location with
      | none => rfl
      | some target =>
        simp only [set_congr (hi.location.spells key hk) (contains_of_get? hg)]
  · rfl

theorem breakLoop_of_stands (hi : index.Stands r.headers) (url : String) :
    r.breakLoop index url = plainly r (breakLoop url) := by
  simp only [Response.breakLoop, plainly, loopsTo_of_stands hi url]
  cases hk : index.location with
  | none =>
    have hnone : r.headers.get? location = none :=
      get?_eq_none.mpr (Spells.eq_none (hk ▸ hi.location))
    simp [hnone]
  | some key => simp only [beq_iff_eq, remove_congr (hi.location.spells key hk)]

theorem allowReading_of_stands (hi : index.Stands r.headers) (request : Request) :
    r.allowReading index request = plainly r (allowReading request) := by
  have hgranted : r.permittedOrigin index request = grantedOrigin request r.headers := by
    rw [← Response.permittedOrigin_scan rfl request]
    unfold Response.permittedOrigin
    rw [hi.credentials.bind_get?, (HeaderIndex.stands_scan r.headers).credentials.bind_get?]
  rw [Response.allowReading, hgranted, hi.origin, set_spelling id]
  rfl

theorem dropPolicy_of_stands (hi : index.Stands r.headers) :
    r.dropPolicy index = plainly r dropPolicy ∧
      r.hasPolicy index = r.headers.contains contentSecurityPolicy := by
  simp only [Response.dropPolicy, Response.hasPolicy, plainly]
  cases hk : index.contentSecurityPolicy with
  | none =>
    have hnone : r.headers.contains contentSecurityPolicy = false :=
      Spells.eq_none (hk ▸ hi.policy)
    rw [remove_of_missing hnone, hnone]
    exact ⟨rfl, rfl⟩
  | some key =>
    have hspells := hi.policy.spells key hk
    simp only [remove_congr hspells, Headers.contains, named_congr hspells, and_self]

/-- **Through an index that stands, a change is what the names say.** -/
theorem apply_of_stands (hi : index.Stands r.headers) (change : Change) :
    change.apply index r = change.plainly r ∧ change.answer index r = change.plainAnswer r := by
  cases change with
  | merge pieces => exact ⟨mergeQuery_of_stands hi pieces, rfl⟩
  | breakLoop url =>
    exact ⟨breakLoop_of_stands hi url, congrArg some (loopsTo_of_stands hi url)⟩
  | allowReading request => exact ⟨allowReading_of_stands hi request, rfl⟩
  | dropPolicy =>
    exact ⟨(dropPolicy_of_stands hi).1, congrArg some (dropPolicy_of_stands hi).2⟩

/-! ## What stands after a change -/

variable {h h' : Headers}

/-- An index still stands where targets have changed, as long as it knows the spelling of those that
are left. -/
theorem stands_of_location (hi : index.Stands h) (hc : ChangedAt [location] h h')
    (hl : Spells index.location location h') : index.Stands h' := by
  refine ⟨hl, hi.credentials.of_changedAt hc ?_, hi.policy.of_changedAt hc ?_, ?_⟩
  · simp [sameText, lowerText_names]
  · simp [sameText, lowerText_names]
  · rw [hc.key? (by simp [sameText, lowerText_names])]
    exact hi.origin

/-- **An index that stands goes on to stand after a change.** -/
theorem stands_after (hi : index.Stands r.headers) (change : Change) :
    index.Stands (change.plainly r).headers := by
  have hself := sameText_self
  cases change with
  | merge pieces =>
    simp only [plainly]
    split
    · split
      · exact hi
      · rename_i target htarget
        have hthere := contains_of_get? htarget
        refine stands_of_location hi (.set (hself location) _ _)
          ⟨hi.location.spells, fun _ => ?_⟩
        -- the target was there, so it keeps the spelling that it had
        rw [key?_set (hself location), hi.location.first hthere]
        cases hk : r.headers.key? location with
        | none => rw [key?_eq_none.mp hk] at hthere; cases hthere
        | some key => rfl
    · exact hi
  | breakLoop url =>
    simp only [plainly]
    split
    · exact stands_of_location hi (.remove (hself location) _)
        (hi.location.of_missing (contains_remove (hself location) _))
    · exact hi
  | allowReading request =>
    have hc := ChangedAt.set (hself allowOrigin) r.headers (grantedOrigin request r.headers)
    refine ⟨hi.location.of_changedAt hc ?_, hi.credentials.of_changedAt hc ?_,
      hi.policy.of_changedAt hc ?_, ?_⟩
    · simp [sameText, lowerText_names]
    · simp [sameText, lowerText_names]
    · simp [sameText, lowerText_names]
    · dsimp only [plainly]
      rw [key?_set (hself allowOrigin), hi.origin]
      rfl
  | dropPolicy =>
    have hc := ChangedAt.remove (hself contentSecurityPolicy) r.headers
    refine ⟨hi.location.of_changedAt hc ?_, hi.credentials.of_changedAt hc ?_,
      hi.policy.of_missing (contains_remove (hself _) _), ?_⟩
    · simp [sameText, lowerText_names]
    · simp [sameText, lowerText_names]
    · dsimp only [plainly]
      rw [hc.key? (by simp [sameText, lowerText_names])]
      exact hi.origin

/-! ## Runs -/

/-- What each of a run of changes answers and leaves, all through one index. -/
def runThrough (index : HeaderIndex) : Response → List Change → List (Option Bool × Response)
  | _, [] => []
  | r, change :: rest =>
    let after := change.apply index r
    (change.answer index r, after) :: runThrough index after rest

/-- What each of a run of changes answers and leaves, with a new index before each. -/
def runRescanning : Response → List Change → List (Option Bool × Response)
  | _, [] => []
  | r, change :: rest =>
    let index := HeaderIndex.scan r.headers
    let after := change.apply index r
    (change.answer index r, after) :: runRescanning after rest

/-- Through an index that stands at its start, a run of changes needs no other. -/
theorem runThrough_of_stands (hi : index.Stands r.headers) (changes : List Change) :
    runThrough index r changes = runRescanning r changes := by
  induction changes generalizing r with
  | nil => rfl
  | cons change rest ih =>
    obtain ⟨happly, hanswer⟩ := apply_of_stands hi change
    obtain ⟨happly', hanswer'⟩ := apply_of_stands (HeaderIndex.stands_scan r.headers) change
    rw [runThrough, runRescanning, happly, hanswer, happly', hanswer',
      ih (stands_after hi change)]

end Change

/-- **An index never goes stale.** Of any list, it holds the spelling of the first entry under each
of its names. And any run of relaxing changes, of any response and for any requests and pieces of
query, answers and leaves after each change the same through the one index taken at its start as
with a new index before each change. -/
theorem index_never_stale :
    (∀ h : Headers, HeaderIndex.scan h =
      { contentType := h.key? contentType
        allowOrigin := h.key? allowOrigin
        allowCredentials := h.key? allowCredentials
        contentSecurityPolicy := h.key? contentSecurityPolicy
        location := h.key? location
        origin := h.key? Headers.origin
        setCookie := h.key? setCookie }) ∧
    ∀ (r : Response) (changes : List Change),
      Change.runThrough (.scan r.headers) r changes = Change.runRescanning r changes :=
  ⟨HeaderIndex.scan_eq, fun r changes =>
    Change.runThrough_of_stands (HeaderIndex.stands_scan r.headers) changes⟩

end Interpose
