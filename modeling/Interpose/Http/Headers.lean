import Interpose.Bytes

/-!
# Header lists

A header list keeps entries in the order and with the spelling in which they came. Names are
compared up to ASCII case, and one name may have several entries.

The three changes a list knows are `set`, which leaves one entry under a name and keeps the place
and spelling of the first, `append`, and `remove`. None of them touches an entry of another name
(`set_frame`, `append_frame`, `remove_frame`).
-/

namespace Interpose

/-- A list of header names and values, in order. -/
structure Headers where
  entries : List (String × String) := []
  deriving DecidableEq, Repr

namespace Headers

/-! ## Names with a meaning -/

/-- The name of the body's media type. -/
def contentType : String := "Content-Type"
/-- The name of the body's length. -/
def contentLength : String := "Content-Length"
/-- The name of the encodings applied to the body. -/
def contentEncoding : String := "Content-Encoding"
/-- The name of the origin that may read the response. -/
def allowOrigin : String := "Access-Control-Allow-Origin"
/-- The name of the permission to read with credentials. -/
def allowCredentials : String := "Access-Control-Allow-Credentials"
/-- The name of the policy that restricts what a page may load. -/
def contentSecurityPolicy : String := "Content-Security-Policy"
/-- The name of a redirect's target. -/
def location : String := "Location"
/-- The name of the requesting page's origin. -/
def origin : String := "Origin"
/-- The name of a cookie to store. -/
def setCookie : String := "Set-Cookie"

/-! ## Looking up -/

/-- Whether an entry stands under a name. -/
def named (name : String) (entry : String × String) : Bool := sameText entry.1 name

/-- The value of the first entry under a name. -/
def get? (h : Headers) (name : String) : Option String :=
  (h.entries.find? (named name)).map (·.2)

/-- The values under a name, in order. -/
def getAll (h : Headers) (name : String) : List String :=
  (h.entries.filter (named name)).map (·.2)

/-- Whether a name has an entry. -/
def contains (h : Headers) (name : String) : Bool := h.entries.any (named name)

/-- The spelling of the first entry under a name. -/
def key? (h : Headers) (name : String) : Option String :=
  (h.entries.find? (named name)).map (·.1)

/-- The number of entries. -/
def size (h : Headers) : Nat := h.entries.length

/-! ## Changing -/

/-- Replace the first entry under `name` and drop the others of that name. -/
def replaceFirst (name value : String) : List (String × String) → List (String × String)
  | [] => []
  | e :: rest =>
    if named name e then (e.1, value) :: rest.filter (fun e => !named name e)
    else e :: replaceFirst name value rest

/-- Leave one entry under a name: the first keeps its place and spelling and takes the value, and
a name without an entry is added at the end. -/
def set (h : Headers) (name value : String) : Headers :=
  if h.contains name then ⟨replaceFirst name value h.entries⟩
  else ⟨h.entries ++ [(name, value)]⟩

/-- Add an entry at the end. -/
def append (h : Headers) (name value : String) : Headers := ⟨h.entries ++ [(name, value)]⟩

/-- Drop all entries under a name. -/
def remove (h : Headers) (name : String) : Headers :=
  ⟨h.entries.filter fun e => !named name e⟩

/-! ## What a change leaves alone -/

/-- The entries under other names. -/
def others (h : Headers) (name : String) : List (String × String) :=
  h.entries.filter fun e => !named name e

theorem others_replaceFirst (name value : String) (es : List (String × String)) :
    (replaceFirst name value es).filter (fun e => !named name e) =
      es.filter (fun e => !named name e) := by
  induction es with
  | nil => rfl
  | cons e rest ih =>
    by_cases h : named name e
    · have h' : named name (e.1, value) = true := h
      simp [replaceFirst, h, h']
    · simp [replaceFirst, h, ih]

theorem set_frame (h : Headers) (name value : String) :
    (h.set name value).others name = h.others name := by
  unfold set
  split
  · exact others_replaceFirst name value h.entries
  · simp [others, named, sameText_self]

theorem append_frame (h : Headers) (name value : String) :
    (h.append name value).others name = h.others name := by
  simp [append, others, named, sameText_self]

theorem remove_frame (h : Headers) (name : String) :
    (h.remove name).others name = h.others name := by
  simp [remove, others]

end Headers

end Interpose
