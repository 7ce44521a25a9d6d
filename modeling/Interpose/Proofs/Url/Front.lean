import Interpose.Http.Request
import Mathlib.Data.List.TakeWhile

/-!
# What the front of a URL decides

The *front* of a URL is its text before the first `?` or `#`. No part of a URL that leads somewhere
reaches past it: the scheme, the authority and the path are each read up to such a character as they
are read up to the end of the text (`readPath_append`, `takeHost_append`, `scheme?_append` and their
like). Only one place asks whether anything follows: user information without a host is refused
before a `?`, and read at the end. But then nothing is read that leads anywhere (`authority?_append`).

So for a text without blanks and control characters, which are dropped at the end of a URL and not
inside, the host and the path that a URL leads to are those of its front (`led_front`).
-/

namespace Interpose.Url

/-- A text that is part of the front of a URL. -/
def InFront (s : List Char) : Prop := ∀ c ∈ s, endsPath c = false

/-- A text that may follow the front of a URL. -/
def Behind (tail : List Char) : Prop := ∀ c, tail.head? = some c → endsPath c = true

variable {k : SchemeKind} {s tail : List Char} {c : Char}

theorem InFront.of_cons (h : InFront (c :: s)) : endsPath c = false ∧ InFront s :=
  List.forall_mem_cons.mp h

theorem InFront.mono {t : List Char} (h : InFront s) (ht : ∀ c ∈ t, c ∈ s) : InFront t :=
  fun c hc => h c (ht c hc)

theorem behind_cons : Behind (c :: tail) ↔ endsPath c = true := by simp [Behind]

/-! ## Characters that end a front -/

theorem isSlash_of_endsPath (hc : endsPath c = true) : isSlash k c = false := by
  simp only [endsPath, Bool.or_eq_true, beq_iff_eq] at hc
  rcases hc with rfl | rfl <;> cases k <;> decide

theorem endsAuthority_of_endsPath (hc : endsPath c = true) : endsAuthority k c = true := by
  rw [endsAuthority, hc, Bool.or_true]

theorem ne_of_endsPath {d : Char} (hc : endsPath c = true) (hd : endsPath d = false) : c ≠ d := by
  rintro rfl
  rw [hc] at hd
  cases hd

/-- What may follow a front starts with none of its characters. -/
theorem head?_append_beq {d : Char} (hd : endsPath d = false) (ht : Behind tail) (s : List Char) :
    ((s ++ tail).head? == some d) = (s.head? == some d) := by
  cases s with
  | nil =>
    cases tail with
    | nil => rfl
    | cons c rest => simpa using ne_of_endsPath (behind_cons.mp ht) hd
  | cons c s => rfl

/-- A run of characters among which none ends a front stays in the front. -/
theorem takeWhile_append {p : Char → Bool} (hp : ∀ c, endsPath c = true → p c = false)
    (ht : Behind tail) (s : List Char) :
    (s ++ tail).takeWhile p = s.takeWhile p ∧ (s ++ tail).dropWhile p = s.dropWhile p ++ tail := by
  induction s with
  | nil =>
    cases tail with
    | nil => exact ⟨rfl, rfl⟩
    | cons c rest => simp [hp c (behind_cons.mp ht)]
  | cons c s ih => cases hc : p c <;> simp [hc, ih]

/-- The front of a text is found in the front. -/
theorem takeWhile_path (ht : Behind tail) (s : List Char) :
    (s ++ tail).takeWhile (fun c => !endsPath c) = s.takeWhile (fun c => !endsPath c) ∧
      (s ++ tail).dropWhile (fun c => !endsPath c) =
        s.dropWhile (fun c => !endsPath c) ++ tail :=
  takeWhile_append (fun c hc => by rw [hc]; rfl) ht s

/-- The text of an authority is found in the front, and what follows it with the tail. -/
theorem takeWhile_authority (ht : Behind tail) (s : List Char) :
    (s ++ tail).takeWhile (fun c => !endsAuthority k c) =
        s.takeWhile (fun c => !endsAuthority k c) ∧
      (s ++ tail).drop (s.takeWhile fun c => !endsAuthority k c).length =
        s.drop (s.takeWhile fun c => !endsAuthority k c).length ++ tail := by
  refine ⟨(takeWhile_append (fun c hc => ?_) ht s).1, ?_⟩
  · rw [endsAuthority_of_endsPath hc]
    rfl
  · exact List.drop_append_of_le_length (List.takeWhile_prefix _).length_le

/-! ## Paths -/

theorem readPath_behind (ht : Behind tail) (path segment : List Char) :
    readPath k path segment tail = (addSegment k path segment.reverse false, tail) := by
  cases tail with
  | nil => rw [readPath]
  | cons c rest =>
    have hc := behind_cons.mp ht
    simp [readPath, hc, isSlash_of_endsPath hc]

/-- A path is read up to the end of the front. -/
theorem readPath_append (hs : InFront s) (ht : Behind tail) (path segment : List Char) :
    readPath k path segment (s ++ tail) = ((readPath k path segment s).1, tail) := by
  induction s generalizing path segment with
  | nil => rw [List.nil_append, readPath_behind ht, readPath]
  | cons c s ih =>
    obtain ⟨hc, hs⟩ := hs.of_cons
    rw [List.cons_append, readPath, readPath, hc]
    split
    · exact ih hs _ _
    · exact ih hs _ _

theorem pathFrom_append (hs : InFront s) (ht : Behind tail) (start : List Char) :
    pathFrom k start (s ++ tail) = ((pathFrom k start s).1, tail) := by
  simp only [pathFrom, readPath_append hs ht]

theorem startsAtDrive_append (hs : InFront s) (ht : Behind tail) :
    startsAtDrive k (s ++ tail) = startsAtDrive k s := by
  cases s with
  | nil =>
    cases tail with
    | nil => rfl
    | cons c rest => simp [startsAtDrive, isSlash_of_endsPath (behind_cons.mp ht)]
  | cons c s =>
    rw [List.cons_append, startsAtDrive, startsAtDrive, readPath_append hs.of_cons.2 ht]

theorem pathAfterHost_append (hs : InFront s) (ht : Behind tail) :
    pathAfterHost k (s ++ tail) = ((pathAfterHost k s).1, tail) := by
  cases s with
  | nil =>
    cases tail with
    | nil => cases k <;> rfl
    | cons c rest =>
      have hc := behind_cons.mp ht
      have hslash : c ≠ '/' := ne_of_endsPath hc (by decide)
      have hroot := pathFrom_append (k := k) (s := []) (by simp [InFront]) ht ['/']
      cases k <;> simp_all [pathAfterHost, isSlash_of_endsPath hc]
  | cons c s =>
    obtain ⟨hc, hs'⟩ := hs.of_cons
    have hwhole := fun start => pathFrom_append (k := k) hs ht start
    have hrest := fun start => pathFrom_append (k := k) hs' ht start
    rw [List.cons_append] at hwhole ⊢
    cases k with
    | other =>
      by_cases hslash : c = '/'
      · subst hslash
        exact hwhole []
      · simp [pathAfterHost, hc, hwhole]
    | file | special =>
      simp only [pathAfterHost]
      split
      · exact hrest ['/']
      · exact hwhole ['/']

theorem opaquePath_append (hs : InFront s) (ht : Behind tail) :
    opaquePath (s ++ tail) = ((opaquePath s).1, tail) := by
  obtain ⟨htake, hdrop⟩ := takeWhile_path ht s
  have hall : s.dropWhile (fun c => !endsPath c) = [] :=
    List.dropWhile_eq_nil_iff.mpr fun c hc => by rw [hs c hc]; rfl
  rw [opaquePath, opaquePath, htake, hdrop, hall, List.nil_append]

/-! ## Authorities -/

theorem splitUser_append (ht : Behind tail) (s : List Char) :
    splitUser k (s ++ tail) = ((splitUser k s).1, (splitUser k s).2 ++ tail) := by
  obtain ⟨htake, hdrop⟩ := takeWhile_authority (k := k) ht s
  simp only [splitUser, htake, hdrop]
  split
  · rw [List.append_assoc]
  · rfl

theorem mem_splitUser (hc : c ∈ (splitUser k s).2) : c ∈ s := by
  simp only [splitUser] at hc
  split at hc
  · rcases List.mem_append.mp hc with hhost | hrest
    · have hin := (List.takeWhile_sublist _).mem (List.mem_reverse.mp hhost)
      exact (List.takeWhile_sublist _).mem (List.mem_reverse.mp hin)
    · exact List.mem_of_mem_drop hrest
  · exact hc

/-- The text of a host is read up to the end of the front. -/
theorem takeHost_append (ht : Behind tail) (inside : Bool) (s : List Char) :
    takeHost k inside (s ++ tail) =
      ((takeHost k inside s).1, (takeHost k inside s).2 ++ tail) := by
  induction s generalizing inside with
  | nil =>
    cases tail with
    | nil => rfl
    | cons c rest =>
      simp [takeHost, endsAuthority_of_endsPath (behind_cons.mp ht)]
  | cons c s ih =>
    rw [List.cons_append, takeHost, takeHost]
    split
    · rfl
    · simp only [ih]

theorem mem_takeHost (inside : Bool) (hc : c ∈ (takeHost k inside s).2) : c ∈ s := by
  induction s generalizing inside with
  | nil => exact hc
  | cons d s ih =>
    rw [takeHost] at hc
    split at hc
    · exact hc
    · exact List.mem_cons_of_mem d (ih _ hc)

/-- The number of a port is read up to the end of the front. -/
theorem skipNumber?_append (ht : Behind tail) (acc : Nat) (s : List Char) :
    skipNumber? acc (s ++ tail) = (skipNumber? acc s).map (· ++ tail) := by
  induction s generalizing acc with
  | nil =>
    cases tail with
    | nil => rfl
    | cons c rest =>
      have hc := behind_cons.mp ht
      have hdigit : c.isDigit = false := by
        simp only [endsPath, Bool.or_eq_true, beq_iff_eq] at hc
        rcases hc with rfl | rfl <;> decide
      simp [skipNumber?, hc, hdigit]
  | cons c s ih =>
    rw [List.cons_append, skipNumber?, skipNumber?]
    split
    · dsimp only
      split
      · exact ih _
      · rfl
    · split <;> rfl

theorem mem_skipNumber? {acc : Nat} {rest : List Char} (h : skipNumber? acc s = some rest)
    (hc : c ∈ rest) : c ∈ s := by
  induction s generalizing acc with
  | nil =>
    obtain rfl := Option.some.inj h
    exact hc
  | cons d s ih =>
    rw [skipNumber?] at h
    split at h
    · dsimp only at h
      split at h
      · exact List.mem_cons_of_mem d (ih h)
      · cases h
    · split at h
      · obtain rfl := Option.some.inj h
        exact hc
      · cases h

/-- No text of a host is no host, or the empty one. -/
theorem host_nil : Host.plainText? [] = some "" ∧ Host.special? [] = none := by
  decide +kernel

/-- User information without a host is refused before a tail. At the end of a text it is refused
too, or is an authority without a host, and then nothing is left. -/
theorem authority?_append_of_missing (ht : Behind tail) (h : splitUser k s = (some [], [])) :
    authority? k (s ++ tail) = (authority? k s).map (fun a => (a.1, a.2 ++ tail)) ∨
      authority? k (s ++ tail) = none ∧ ∀ a, authority? k s = some a → a = (none, []) := by
  unfold authority?
  rw [splitUser_append ht, h]
  dsimp only
  rw [takeHost_append ht]
  cases k with
  | file | special => exact Or.inl (by simp [takeHost, host_nil])
  | other =>
    cases tail with
    | nil => exact Or.inl (by simp)
    | cons c rest =>
      have hends := endsAuthority_of_endsPath (k := .other) (behind_cons.mp ht)
      refine Or.inr ⟨?_, fun a ha => ?_⟩
      · simp [takeHost, host_nil, hends]
      · simpa [takeHost, host_nil, namesUser, eq_comm] using ha

theorem authority?_append_of_ne (ht : Behind tail) (h : splitUser k s ≠ (some [], [])) :
    authority? k (s ++ tail) = (authority? k s).map (fun a => (a.1, a.2 ++ tail)) := by
  unfold authority?
  rw [splitUser_append ht]
  generalize splitUser k s = split at h
  obtain ⟨user, afterUser⟩ := split
  dsimp only
  rw [takeHost_append ht]
  have hsame : (user == some [] && ((afterUser ++ tail).head?.map (endsAuthority k)).getD false) =
      (user == some [] && (afterUser.head?.map (endsAuthority k)).getD false) := by
    by_cases huser : user = some []
    · have hafter : afterUser ≠ [] := fun hnil => h (by rw [huser, hnil])
      obtain ⟨c, rest, rfl⟩ := List.exists_cons_of_ne_nil hafter
      rfl
    · rw [beq_false_of_ne huser, Bool.false_and, Bool.false_and]
  have hcolon := head?_append_beq (d := ':') (by decide) ht (takeHost k false afterUser).2
  rw [hsame, hcolon]
  generalize takeHost k false afterUser = host
  obtain ⟨hostText, afterHost⟩ := host
  dsimp only
  split
  · rfl
  · split
    · rfl
    · cases afterHost with
      | nil =>
        cases tail with
        | nil => rfl
        | cons c rest =>
          have hne : c ≠ ':' := ne_of_endsPath (behind_cons.mp ht) (by decide)
          simp [hne]
      | cons c rest =>
        by_cases hc : c = ':'
        · subst hc
          simp [skipNumber?_append ht, Function.comp_def]
        · simp [hc]

/-- **An authority is read up to the end of the front**, and what follows it is what followed there
with the tail, unless there is user information without a host. -/
theorem authority?_append (ht : Behind tail) (s : List Char) :
    authority? k (s ++ tail) = (authority? k s).map (fun a => (a.1, a.2 ++ tail)) ∨
      authority? k (s ++ tail) = none ∧ ∀ a, authority? k s = some a → a = (none, []) := by
  by_cases h : splitUser k s = (some [], [])
  · exact authority?_append_of_missing ht h
  · exact Or.inl (authority?_append_of_ne ht h)

/-- What follows an authority stands in the front with it. -/
theorem mem_authority? {host : Option String} {rest : List Char}
    (h : authority? k s = some (host, rest)) (hc : c ∈ rest) : c ∈ s := by
  unfold authority? at h
  dsimp only at h
  split at h
  · cases h
  · split at h
    · cases h
    · refine mem_splitUser (k := k) (mem_takeHost (k := k) false ?_)
      split at h
      · rename_i rest' hafter
        obtain ⟨rest'', hskip, he⟩ := Option.map_eq_some_iff.mp h
        obtain ⟨-, rfl⟩ := Prod.mk.inj he
        rw [hafter]
        exact List.mem_cons_of_mem _ (mem_skipNumber? hskip hc)
      · obtain ⟨-, rfl⟩ := Prod.mk.inj (Option.some.inj h)
        exact hc

/-! ## Whole URLs -/

/-- The segments of a path that are not empty. -/
def fullSegments (path : String) : List String :=
  (segments { scheme := "", host := none, path, query := none }).filter (· ≠ "")

/-- The host and the segments to which the parts of a URL lead: none where there are no parts. -/
def ledBy : Option (Option String × String × List Char) → Option String × List String
  | none => (none, [])
  | some (host, path, _) => (host, fullSegments path)

/-- A path that is read from the front leads where it leads alone. -/
theorem ledBy_pathFrom (hs : InFront s) (ht : Behind tail) (host : Option String)
    (start : List Char) : ledBy (some (host, pathFrom k start (s ++ tail))) =
      ledBy (some (host, pathFrom k start s)) := by
  rw [pathFrom_append hs ht]
  rfl

theorem fileParts?_append (hs : InFront s) (ht : Behind tail) :
    ledBy (fileParts? k (s ++ tail)) = ledBy (fileParts? k s) := by
  have hpath := fun start => ledBy_pathFrom (k := k) hs ht none start
  have hnotSlash : ∀ c rest, tail = c :: rest → isSlash k c = false := fun c rest he =>
    isSlash_of_endsPath (behind_cons.mp (he ▸ ht))
  rcases s with _ | ⟨c, _ | ⟨d, rest⟩⟩
  · cases tail with
    | nil => rfl
    | cons c rest => simpa [fileParts?, hnotSlash c rest rfl] using hpath ['/']
  · simp only [List.singleton_append, fileParts?] at hpath ⊢
    split
    · cases tail with
      | nil => rfl
      | cons d rest => simpa [hnotSlash d rest rfl] using hpath []
    · exact hpath ['/']
  · simp only [List.cons_append, fileParts?] at hpath ⊢
    have hrest := hs.of_cons.2.of_cons.2
    obtain ⟨htake, hdrop⟩ := takeWhile_authority (k := k) ht rest
    have hafter : InFront (rest.drop (rest.takeWhile fun c => !endsAuthority k c).length) :=
      hrest.mono fun c hc => List.mem_of_mem_drop hc
    rw [htake, hdrop]
    split
    · split
      · split
        · exact ledBy_pathFrom hrest ht none ['/']
        · split
          · rfl
          · exact ledBy_pathFrom hafter ht none ['/']
          · rw [startsAtDrive_append hafter ht, pathAfterHost_append hafter ht]
            rfl
      · exact hpath []
    · exact hpath ['/']

/-- The parts that start with an authority lead where they lead alone. -/
theorem ledBy_authority (hs : InFront s) (ht : Behind tail) :
    ledBy ((authority? k (s ++ tail)).map fun (host, rest) => (host, pathAfterHost k rest)) =
      ledBy ((authority? k s).map fun (host, rest) => (host, pathAfterHost k rest)) := by
  rcases authority?_append (k := k) ht s with he | ⟨hnone, hnowhere⟩
  · rw [he]
    cases ha : authority? k s with
    | none => rfl
    | some a =>
      have hrest : InFront a.2 := hs.mono fun c hc => mem_authority? ha hc
      simp [ledBy, pathAfterHost_append hrest ht]
  · rw [hnone]
    cases ha : authority? k s with
    | none => rfl
    | some a =>
      rw [hnowhere a ha]
      cases k <;> decide +kernel

/-- Where the scheme is none of the special ones, what starts with a slash has a path, and with two
an authority. -/
theorem otherParts?_append (hs : InFront s) (ht : Behind tail) :
    ledBy (parts? .other (s ++ tail)) = ledBy (parts? .other s) := by
  have hopaque : ∀ start : List Char, InFront start →
      ledBy (some (none, opaquePath (start ++ tail))) = ledBy (some (none, opaquePath start)) :=
    fun start hstart => by
      rw [opaquePath_append hstart ht]
      rfl
  have hne : ∀ c rest, tail = c :: rest → c ≠ '/' := fun c rest he =>
    ne_of_endsPath (behind_cons.mp (he ▸ ht)) (by decide)
  unfold parts?
  rcases s with _ | ⟨c, s⟩
  · cases tail with
    | nil => rfl
    | cons c rest => simpa [hne c rest rfl] using hopaque [] hs
  by_cases hc : c = '/'
  · subst hc
    have hpath := ledBy_pathFrom (k := .other) hs.of_cons.2 ht none ['/']
    rcases s with _ | ⟨d, s⟩
    · cases tail with
      | nil => rfl
      | cons d rest => simpa [hne d rest rfl] using hpath
    · by_cases hd : d = '/'
      · subst hd
        exact ledBy_authority hs.of_cons.2.of_cons.2 ht
      · simpa [hd] using hpath
  · simpa [hc] using hopaque (c :: s) hs

theorem parts?_append (hs : InFront s) (ht : Behind tail) :
    ledBy (parts? k (s ++ tail)) = ledBy (parts? k s) := by
  cases k with
  | file => exact fileParts?_append hs ht
  | special =>
    have hp : ∀ c, endsPath c = true → isSlash .special c = false := fun c => isSlash_of_endsPath
    simp only [parts?, (takeWhile_append hp ht s).2]
    exact ledBy_authority (hs.mono fun c hc => (List.dropWhile_sublist _).mem hc) ht
  | other => exact otherParts?_append hs ht

/-- A scheme is read in the front. -/
theorem scheme?_append (ht : Behind tail) (s : List Char) :
    scheme? (s ++ tail) = (scheme? s).map (fun a => (a.1, a.2 ++ tail)) := by
  have hends : ∀ c, endsPath c = true → c.isAlpha = false ∧
      (c.isAlphanum || c == '+' || c == '-' || c == '.') = false := by
    intro c hc
    simp only [endsPath, Bool.or_eq_true, beq_iff_eq] at hc
    rcases hc with rfl | rfl <;> decide
  obtain ⟨htake, hdrop⟩ := takeWhile_append (fun c hc => (hends c hc).2) ht s
  cases s with
  | nil =>
    cases tail with
    | nil => rfl
    | cons c rest => simp [scheme?, (hends c (behind_cons.mp ht)).1]
  | cons c s =>
    rw [List.cons_append] at htake hdrop ⊢
    simp only [scheme?, htake, hdrop]
    generalize List.dropWhile _ (c :: s) = rest
    cases c.isAlpha with
    | false => rfl
    | true =>
      cases rest with
      | nil =>
        cases tail with
        | nil => rfl
        | cons d rest =>
          have hne : d ≠ ':' := ne_of_endsPath (behind_cons.mp ht) (by decide)
          simp [hne]
      | cons d rest =>
        by_cases hd : d = ':'
        · subst hd
          rfl
        · simp [hd]

theorem mem_scheme? {scheme : String} {rest : List Char} (h : scheme? s = some (scheme, rest))
    (hc : c ∈ rest) : c ∈ s := by
  cases s with
  | nil => cases h
  | cons d s =>
    simp only [scheme?] at h
    split at h
    · rename_i hrest
      obtain ⟨-, rfl⟩ := Prod.mk.inj (Option.some.inj h)
      have hin := List.mem_cons_of_mem ':' hc
      rw [← hrest] at hin
      exact (List.dropWhile_sublist _).mem hin
    · cases h

/-! ## Where a URL leads -/

/-- The host and the segments that a URL leads to; none where it cannot be read. -/
def led (text : String) : Option String × List String :=
  match parse? text with
  | none => (none, [])
  | some u => (u.host, fullSegments u.path)

/-- A text of which reading a URL drops nothing. -/
def IsClean (text : String) : Prop := ∀ c ∈ text.toList, 0x20 < c.toNat

instance (text : String) : Decidable (IsClean text) :=
  List.decidableBAll (fun c : Char => 0x20 < c.toNat) text.toList

/-- The front of a URL. -/
def front (text : String) : List Char := text.toList.takeWhile fun c => !endsPath c

theorem cleaned_of_isClean {text : String} (h : IsClean text) : cleaned text = text.toList := by
  have hedge : ∀ s : List Char, (∀ c ∈ s, 0x20 < c.toNat) →
      s.dropWhile (fun c => decide (c.toNat ≤ 0x20)) = s := by
    intro s hs
    cases s with
    | nil => rfl
    | cons c s => simp [hs c List.mem_cons_self]
  rw [cleaned, hedge _ h, hedge _ fun c hc => h c (List.mem_reverse.mp hc), List.reverse_reverse]
  refine List.filter_eq_self.mpr fun c hc => ?_
  have hlarge := h c hc
  simp only [Bool.and_eq_true, bne_iff_ne]
  refine ⟨⟨?_, ?_⟩, ?_⟩ <;>
  · rintro rfl
    revert hlarge
    decide

theorem led_eq (text : String) : led text =
    match scheme? (cleaned text) with
    | none => (none, [])
    | some (scheme, rest) => ledBy (parts? (schemeKind scheme) rest) := by
  unfold led parse?
  cases scheme? (cleaned text) with
  | none => rfl
  | some a =>
    dsimp only
    cases parts? (schemeKind a.1) a.2 with
    | none => rfl
    | some parts => rfl

/-- A text falls into its front and what may follow one. -/
theorem front_append (text : String) :
    ∃ tail, text.toList = front text ++ tail ∧ InFront (front text) ∧ Behind tail := by
  refine ⟨text.toList.dropWhile fun c => !endsPath c, ?_, fun c hc => ?_, fun c hc => ?_⟩
  · rw [front, List.takeWhile_append_dropWhile]
  · simpa using List.all_eq_true.mp List.all_takeWhile c hc
  · have hstop := List.head?_dropWhile_not (fun c => !endsPath c) text.toList
    rw [hc] at hstop
    simpa using hstop

/-- A clean URL leads where its front leads. -/
theorem led_front {text : String} (h : IsClean text) :
    led text = led (String.ofList (front text)) := by
  obtain ⟨tail, htext, hfront, htail⟩ := front_append text
  have hclean : IsClean (String.ofList (front text)) := fun c hc => by
    rw [String.toList_ofList] at hc
    exact h c (by rw [htext]; exact List.mem_append_left _ hc)
  have hread := scheme?_append htail (front text)
  rw [← htext] at hread
  rw [led_eq, led_eq, cleaned_of_isClean h, cleaned_of_isClean hclean, String.toList_ofList, hread]
  cases hs : scheme? (front text) with
  | none => rfl
  | some a => exact parts?_append (hfront.mono fun c hc => mem_scheme? hs hc) htail

/-- **The front of a URL decides where it leads.** -/
theorem led_congr {text text' : String} (h : IsClean text) (h' : IsClean text')
    (hfront : front text = front text') : led text = led text' := by
  rw [led_front h, led_front h', hfront]

end Interpose.Url

namespace Interpose.Request

theorem led_url (r : Request) : Url.led r.url = (r.host, r.pathComponents) := by
  unfold Url.led host pathComponents
  cases Url.parse? r.url with
  | none => rfl
  | some u => rfl

end Interpose.Request
