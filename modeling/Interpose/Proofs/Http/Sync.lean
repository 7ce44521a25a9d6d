import Interpose.Http.Sync
import Interpose.Proofs.Text.Span

/-!
# What is left of a URL without its `sync` piece

A URL with a `?` falls into what stands before the first one, the query up to the next `#`, and the
tail from there on (`Parts`). The search for a `sync` piece carries an offset through the pieces of
the query, which at each piece is the size of what stands before it (`search_first`). So what is cut
out is one piece with one separator, and the pieces that are left stand as they did, in order and
between the same two parts (`strip_exact`).

The parts are told by the first `?`, wherever it is. So what is left of a URL with a fragment is
that of the text before the fragment, followed by the fragment, unless the first `?` stands in the
fragment and a `sync` piece behind it (`respectsFragment_iff`).
-/

namespace Interpose.Sync

/-- Whether a piece of a query is a `sync` piece. -/
def IsSync (piece : List Char) : Prop := start <+: piece

/-- The pieces of a query behind its mark; no pieces need no mark. -/
def marked : List (List Char) → List Char
  | [] => []
  | p :: rest => '?' :: ['&'].intercalate (p :: rest)

/-- A URL taken apart at its first `?` and the next `#`. -/
structure Parts (url : String) (front query tail : List Char) : Prop where
  text : url.toList = front ++ '?' :: (query ++ tail)
  front : '?' ∉ front
  query : '#' ∉ query
  tail : tail = [] ∨ ∃ rest, tail = '#' :: rest

theorem not_mem_takeWhile (c : Char) (s : List Char) : c ∉ s.takeWhile (· != c) := by
  intro h
  simpa using List.all_eq_true.mp List.all_takeWhile c h

theorem bne_of_not_mem {c : Char} {s : List Char} (h : c ∉ s) : ∀ d ∈ s, (d != c) = true :=
  fun d hd => by
    rw [bne_iff_ne]
    rintro rfl
    exact h hd

theorem dropWhile_eq (c : Char) (s : List Char) :
    s.dropWhile (· != c) = [] ∨ ∃ rest, s.dropWhile (· != c) = c :: rest := by
  induction s with
  | nil => exact Or.inl rfl
  | cons d s ih =>
    by_cases hd : d = c
    · exact Or.inr ⟨s, by simp [hd]⟩
    · simpa [hd] using ih

theorem exists_parts {url : String} (h : '?' ∈ url.toList) :
    ∃ front query tail, Parts url front query tail := by
  obtain ⟨front, rest, htext, hfront⟩ := List.eq_append_cons_of_mem h
  refine ⟨front, rest.takeWhile (· != '#'), rest.dropWhile (· != '#'), ?_, hfront,
    not_mem_takeWhile '#' rest, dropWhile_eq '#' rest⟩
  rw [htext, List.takeWhile_append_dropWhile]

/-! ## Pieces -/

/-- Pieces with a separator behind each. -/
def closed (pieces : List (List Char)) : List Char := pieces.flatMap (· ++ ['&'])

@[simp] theorem closed_nil : closed [] = [] := rfl

@[simp] theorem closed_cons (p : List Char) (rest : List (List Char)) :
    closed (p :: rest) = p ++ '&' :: closed rest := by simp [closed]

theorem intercalate_append (before : List (List Char)) {after : List (List Char)} (h : after ≠ []) :
    ['&'].intercalate (before ++ after) = closed before ++ ['&'].intercalate after := by
  induction before with
  | nil => rfl
  | cons p before ih =>
    rw [List.cons_append, List.intercalate_cons_of_ne_nil (by simp [h]), ih]
    simp

theorem closed_eq (p : List Char) (rest : List (List Char)) :
    closed (p :: rest) = ['&'].intercalate (p :: rest) ++ ['&'] := by
  induction rest generalizing p with
  | nil => simp
  | cons q rest ih =>
    rw [closed_cons, ih, List.intercalate_cons_cons]
    simp

theorem marked_of_ne_nil {pieces : List (List Char)} (h : pieces ≠ []) :
    marked pieces = '?' :: ['&'].intercalate pieces := by
  cases pieces with
  | nil => exact absurd rfl h
  | cons p rest => rfl

theorem mem_intercalate {c : Char} {pieces : List (List Char)} (h : c ∈ ['&'].intercalate pieces) :
    c = '&' ∨ ∃ p ∈ pieces, c ∈ p := by
  induction pieces with
  | nil => simp at h
  | cons p rest ih =>
    by_cases hrest : rest = []
    · rw [hrest, List.intercalate_singleton] at h
      exact Or.inr ⟨p, List.mem_cons_self, h⟩
    · rw [List.intercalate_cons_of_ne_nil hrest, List.mem_append, List.mem_append,
        List.mem_singleton] at h
      rcases h with (h | h) | h
      · exact Or.inr ⟨p, List.mem_cons_self, h⟩
      · exact Or.inl h
      · exact (ih h).imp_right fun ⟨q, hq, hc⟩ => ⟨q, List.mem_cons_of_mem _ hq, hc⟩

theorem mem_intercalate_of_mem {c : Char} {p : List Char} {pieces : List (List Char)}
    (hp : p ∈ pieces) (hc : c ∈ p) : c ∈ ['&'].intercalate pieces := by
  obtain ⟨before, after, rfl⟩ := List.append_of_mem hp
  rw [intercalate_append before (by simp)]
  cases after with
  | nil => simp [hc]
  | cons q after => simp [List.intercalate_cons_cons, hc]

theorem mem_marked {c : Char} {pieces : List (List Char)} (h : c ∈ marked pieces) :
    c = '?' ∨ c = '&' ∨ ∃ p ∈ pieces, c ∈ p := by
  cases pieces with
  | nil => cases h
  | cons p rest => exact (List.mem_cons.mp h).imp_right mem_intercalate

/-- The pieces of a query bring only its characters. -/
theorem mem_of_mem_piece {c : Char} {query p : List Char} (hp : p ∈ query.splitOn '&')
    (hc : c ∈ p) : c ∈ query := by
  have hmem := mem_intercalate_of_mem hp hc
  rwa [List.intercalate_splitOn] at hmem

/-- What stands before a piece ends with a separator, the mark or one between pieces. -/
theorem exists_separator (before : List (List Char)) : ∃ sep : Char, sep.utf8Size = 1 ∧
    '?' :: closed before = marked before ++ [sep] := by
  cases before with
  | nil => exact ⟨'?', rfl, rfl⟩
  | cons p rest => exact ⟨'&', rfl, by rw [closed_eq, marked, List.cons_append]⟩

theorem exists_first_sync (pieces : List (List Char)) : (∀ p ∈ pieces, ¬ IsSync p) ∨
    ∃ before value after, pieces = before ++ (start ++ value) :: after ∧
      ∀ p ∈ before, ¬ IsSync p := by
  induction pieces with
  | nil => exact Or.inl (by simp)
  | cons p rest ih =>
    by_cases hp : IsSync p
    · obtain ⟨value, rfl⟩ := hp
      exact Or.inr ⟨[], value, rest, rfl, by simp⟩
    · rcases ih with hnone | ⟨before, value, after, rfl, hbefore⟩
      · exact Or.inl (List.forall_mem_cons.mpr ⟨hp, hnone⟩)
      · exact Or.inr ⟨p :: before, value, after, rfl, List.forall_mem_cons.mpr ⟨hp, hbefore⟩⟩

/-- A URL has no mark, or falls into parts; and then no piece of its query is a `sync` piece, or
there is a first one. -/
theorem url_cases (url : String) : '?' ∉ url.toList ∨
    ∃ front query tail, Parts url front query tail ∧
      ((∀ p ∈ query.splitOn '&', ¬ IsSync p) ∨
        ∃ before value after, query.splitOn '&' = before ++ (start ++ value) :: after ∧
          ∀ p ∈ before, ¬ IsSync p) := by
  by_cases hmark : '?' ∈ url.toList
  · obtain ⟨front, query, tail, h⟩ := exists_parts hmark
    exact Or.inr ⟨front, query, tail, h, exists_first_sync _⟩
  · exact Or.inl hmark

/-! ## The search -/

theorem stripFront?_start {p : List Char} (h : ¬ IsSync p) : stripFront? start p = none := by
  cases hp : stripFront? start p with
  | none => rfl
  | some value => exact absurd ⟨value, (stripFront?_eq_some.mp hp).symm⟩ h

theorem search_eq_none (stop offset : Nat) {pieces : List (List Char)}
    (h : ∀ p ∈ pieces, ¬ IsSync p) : search stop offset pieces = none := by
  induction pieces generalizing offset with
  | nil => rfl
  | cons p rest ih =>
    obtain ⟨hp, hrest⟩ := List.forall_mem_cons.mp h
    simp only [search, stripFront?_start hp]
    exact ih _ hrest

/-- The search goes on behind pieces that are not looked for, with their separators. -/
theorem search_append (stop offset : Nat) {before : List (List Char)} (pieces : List (List Char))
    (h : ∀ p ∈ before, ¬ IsSync p) :
    search stop offset (before ++ pieces) =
      search stop (offset + Span.size (closed before)) pieces := by
  induction before generalizing offset with
  | nil => rfl
  | cons p before ih =>
    obtain ⟨hp, hbefore⟩ := List.forall_mem_cons.mp h
    have hsep : '&'.utf8Size = 1 := rfl
    simp only [List.cons_append, search, stripFront?_start hp]
    rw [ih _ hbefore, closed_cons, Span.size_append, Span.size_cons, hsep]
    simp only [Nat.add_assoc]

theorem search_sync (stop offset : Nat) (value : List Char) (after : List (List Char)) :
    search stop offset ((start ++ value) :: after) =
      if offset + Span.size (start ++ value) < stop then
        some ⟨offset, offset + Span.size (start ++ value) + 1, value⟩
      else some ⟨offset - 1, offset + Span.size (start ++ value), value⟩ := by
  simp only [search, stripFront?_eq_some.mpr rfl]

/-! ## Taking a piece out -/

theorem Cut.apply_append {front middle back value : List Char} {cut : Cut}
    (hfirst : cut.first = Span.size front) (hstop : cut.stop = Span.size (front ++ middle))
    (hvalue : cut.value = value) : cut.apply (front ++ (middle ++ back)) =
      .ok (String.ofList (front ++ back), String.ofList value) := by
  have hback :
      Span.behind (front ++ (middle ++ back)) (Span.size (front ++ middle)) = .ok back := by
    rw [← List.append_assoc, Span.behind_append]
  simp only [Cut.apply, hfirst, hstop, hvalue, Span.before_append, hback, bind, Except.bind]
  rfl

variable {url : String} {front query tail : List Char}

theorem strip_of_no_mark (h : '?' ∉ url.toList) : strip url = .ok none := by
  simp only [strip, Span.offset?_eq_none h]
  rfl

/-- A URL in its parts is cut as the search through the pieces of its query says. -/
theorem Parts.strip_eq (h : Parts url front query tail) : strip url =
    match search (Span.size (front ++ '?' :: query)) (Span.size front + 1) (query.splitOn '&') with
    | none => .ok none
    | some cut => (cut.apply url.toList).map some := by
  have hstart : Span.size front + 1 = Span.size (front ++ ['?']) := by
    rw [Span.size_append]
    rfl
  have hsize :
      Span.size (front ++ ['?']) + Span.size query = Span.size (front ++ '?' :: query) := by
    simp [Nat.add_assoc]
  have htext : url.toList = (front ++ ['?']) ++ (query ++ tail) := by simp [h.text]
  have hmark : Span.offset? '?' url.toList = some (Span.size front) := by
    rw [h.text, Span.offset?_append h.front]
  have hrest : Span.behind url.toList (Span.size front + 1) = .ok (query ++ tail) := by
    rw [htext, hstart, Span.behind_append]
  have hstop : queryEnd url.toList (query ++ tail) (Span.size front + 1) =
      Span.size (front ++ '?' :: query) := by
    unfold queryEnd
    rcases h.tail with rfl | ⟨rest, rfl⟩
    · rw [List.append_nil, Span.offset?_eq_none h.query, h.text, List.append_nil]
    · rw [Span.offset?_append h.query, ← hsize, ← hstart]
  have hquery : Span.between url.toList (Span.size front + 1) (Span.size (front ++ '?' :: query)) =
      .ok query := by
    rw [htext, hstart, ← hsize, Span.between_append]
  simp only [strip, hmark, hrest, hstop, hquery, bind, Except.bind]
  cases search (Span.size (front ++ '?' :: query)) (Span.size front + 1) (query.splitOn '&') with
  | none => rfl
  | some cut => cases h : cut.apply url.toList <;> rfl

theorem Parts.strip_of_none (h : Parts url front query tail)
    (hnone : ∀ p ∈ query.splitOn '&', ¬ IsSync p) : strip url = .ok none := by
  rw [h.strip_eq, search_eq_none _ _ hnone]

/-- The first `sync` piece goes, with the separator behind it if there is one, and else with the one
before it. -/
theorem Parts.strip_of_first (h : Parts url front query tail) {before after : List (List Char)}
    {value : List Char} (hsplit : query.splitOn '&' = before ++ (start ++ value) :: after)
    (hbefore : ∀ p ∈ before, ¬ IsSync p) :
    strip url = .ok (some
      (String.ofList (front ++ marked (before ++ after) ++ tail), String.ofList value)) := by
  have hmark : '?'.utf8Size = 1 := rfl
  have hamp : '&'.utf8Size = 1 := rfl
  have hquery : query = closed before ++ ['&'].intercalate ((start ++ value) :: after) := by
    rw [← intercalate_append before (by simp), ← hsplit, List.intercalate_splitOn]
  have hoffset : Span.size front + 1 + Span.size (closed before) =
      Span.size (front ++ '?' :: closed before) := by
    simp [hmark, Nat.add_assoc]
  rw [h.strip_eq, hsplit, search_append _ _ _ hbefore, search_sync, hoffset, h.text]
  generalize start ++ value = piece at hquery ⊢
  cases after with
  | nil =>
    -- the query ends here, so the separator before the piece goes
    rw [List.intercalate_singleton] at hquery
    obtain ⟨sep, hsep, hclosed⟩ := exists_separator before
    have hfront : front ++ '?' :: closed before = front ++ marked before ++ [sep] := by
      rw [hclosed, List.append_assoc]
    have htext : front ++ '?' :: (query ++ tail) =
        (front ++ marked before) ++ ((sep :: piece) ++ tail) := by
      rw [hquery, ← List.cons_append, ← List.cons_append, hclosed]
      simp
    have hsize : Span.size (front ++ '?' :: query) =
        Span.size (front ++ '?' :: closed before) + Span.size piece := by
      simp [hquery, Nat.add_assoc]
    rw [if_neg (by omega), htext, hfront]
    dsimp only
    rw [Cut.apply_append (by simp [hsep]) (by simp [hsep, Nat.add_assoc]) rfl, List.append_nil]
    rfl
  | cons next after =>
    rw [List.intercalate_cons_cons] at hquery
    have htext : front ++ '?' :: (query ++ tail) = (front ++ '?' :: closed before) ++
        ((piece ++ ['&']) ++ (['&'].intercalate (next :: after) ++ tail)) := by
      simp [hquery]
    have hsize : Span.size (front ++ '?' :: closed before) + Span.size piece <
        Span.size (front ++ '?' :: query) := by
      simp [hquery, hamp]
      omega
    rw [if_pos hsize, htext]
    dsimp only
    rw [Cut.apply_append rfl (by simp [hamp, Nat.add_assoc]) rfl, marked_of_ne_nil (by simp),
      intercalate_append before (by simp)]
    simp [Except.map]

theorem strip?_eq {answer : Option (String × String)} (h : strip url = .ok answer) :
    strip? url = answer := by
  rw [strip?, h]

/-- **What is left of a URL, and the value that is taken out of it.** No cut falls inside a
character. Without a `?` there is no `sync` piece. Else the URL falls into parts, and if a piece of
its query is a `sync` piece, the first one goes: all other pieces are left as they stand, in order and
between the same parts, also those that are empty, and the mark is left unless there is no other
piece. -/
theorem strip_exact (url : String) :
    strip url = .ok (strip? url) ∧
    ('?' ∉ url.toList → strip? url = none) ∧
    ('?' ∈ url.toList → ∃ front query tail, Parts url front query tail) ∧
    ∀ front query tail, Parts url front query tail →
      (strip? url = none ↔ ∀ piece ∈ query.splitOn '&', ¬ IsSync piece) ∧
      ∀ before value after, query.splitOn '&' = before ++ (start ++ value) :: after →
        (∀ piece ∈ before, ¬ IsSync piece) →
          strip? url = some (String.ofList (front ++ marked (before ++ after) ++ tail),
            String.ofList value) := by
  refine ⟨?_, fun h => strip?_eq (strip_of_no_mark h), exists_parts, fun front query tail h =>
    ⟨⟨fun hnone => ?_, fun hnone => strip?_eq (h.strip_of_none hnone)⟩,
      fun before value after hsplit hbefore => strip?_eq (h.strip_of_first hsplit hbefore)⟩⟩
  · rcases url_cases url with
      hmark | ⟨front, query, tail, h, hnone | ⟨before, value, after, hsplit, hbefore⟩⟩
    · rw [strip?_eq (strip_of_no_mark hmark), strip_of_no_mark hmark]
    · rw [strip?_eq (h.strip_of_none hnone), h.strip_of_none hnone]
    · rw [strip?_eq (h.strip_of_first hsplit hbefore), h.strip_of_first hsplit hbefore]
  · rcases exists_first_sync (query.splitOn '&') with hall | ⟨before, value, after, hsplit, hbefore⟩
    · exact hall
    · rw [strip?_eq (h.strip_of_first hsplit hbefore)] at hnone
      cases hnone

/-- Two `sync` pieces among empty ones, in a URL with characters of two bytes and a second `?`. -/
theorem strip_exact_for_empty_pieces :
    let url := "é?&sync=ü&&sync=2#f?"
    Parts url ['é'] "&sync=ü&&sync=2".toList "#f?".toList ∧
      strip? url = some ("é?&&sync=2#f?", "ü") := by
  intro url
  have hparts : Parts url ['é'] "&sync=ü&&sync=2".toList "#f?".toList :=
    ⟨by decide, by decide, by decide, Or.inr ⟨_, rfl⟩⟩
  refine ⟨hparts, ?_⟩
  exact ((strip_exact url).2.2.2 _ _ _ hparts).2 [[]] ['ü'] [[], "sync=2".toList] (by decide)
    (by simp [IsSync, start])

/-! ## The fragment -/

/-- The text of a URL before the first `#`. -/
def trunk (url : String) : String := String.ofList (url.toList.takeWhile (· != '#'))

/-- The text of a URL from the first `#` on. -/
def fragment (url : String) : String := String.ofList (url.toList.dropWhile (· != '#'))

/-- The text of a URL behind the first `?`. -/
def behindMark (url : String) : List Char := (url.toList.dropWhile (· != '?')).drop 1

theorem trunk_append_fragment (url : String) : trunk url ++ fragment url = url := by
  rw [trunk, fragment, ← String.ofList_append, List.takeWhile_append_dropWhile,
    String.ofList_toList]

theorem hash_not_mem_trunk (url : String) : '#' ∉ (trunk url).toList := by
  rw [trunk, String.toList_ofList]
  exact not_mem_takeWhile '#' _

theorem Parts.behindMark_eq (h : Parts url front query tail) : behindMark url = query ++ tail := by
  rw [behindMark, h.text, List.dropWhile_append_of_pos (bne_of_not_mem h.front)]
  simp

theorem trunk_append {text : String} (h : '#' ∉ text.toList) (url : String) :
    trunk (text ++ fragment url) = text ∧ fragment (text ++ fragment url) = fragment url := by
  have htext := bne_of_not_mem h
  simp only [trunk, fragment, String.toList_append, String.toList_ofList,
    List.takeWhile_append_of_pos htext, List.dropWhile_append_of_pos htext]
  rcases dropWhile_eq '#' url.toList with he | ⟨rest, he⟩
  · simp [he]
  · simp [he]

/-- A text without a mark in front of a URL is left as it is. -/
theorem strip?_append_left {text : String} (h : '?' ∉ text.toList) (url : String) :
    strip? (text ++ url) = (strip? url).map fun (rest, value) => (text ++ rest, value) := by
  have hparts : ∀ {front query tail}, Parts url front query tail →
      Parts (text ++ url) (text.toList ++ front) query tail :=
    fun hp => ⟨by simp [hp.text], by simp [h, hp.front], hp.query, hp.tail⟩
  rcases url_cases url with
    hmark | ⟨front, query, tail, hp, hnone | ⟨before, value, after, hsplit, hbefore⟩⟩
  · have hmark' : '?' ∉ (text ++ url).toList := by simp [h, hmark]
    rw [strip?_eq (strip_of_no_mark hmark), strip?_eq (strip_of_no_mark hmark'), Option.map_none]
  · rw [strip?_eq (hp.strip_of_none hnone), strip?_eq ((hparts hp).strip_of_none hnone),
      Option.map_none]
  · rw [strip?_eq (hp.strip_of_first hsplit hbefore),
      strip?_eq ((hparts hp).strip_of_first hsplit hbefore)]
    simp

/-- Where the mark stands before the fragment, the fragment is the tail. -/
theorem exists_parts_of_trunk (h : '?' ∈ (trunk url).toList) : ∃ front query,
    Parts (trunk url) front query [] ∧ Parts url front query (fragment url).toList := by
  have hhash := hash_not_mem_trunk url
  obtain ⟨front, query, tail, hp⟩ := exists_parts h
  obtain rfl : tail = [] := by
    rcases hp.tail with rfl | ⟨rest, rfl⟩
    · rfl
    · simp [hp.text] at hhash
  refine ⟨front, query, hp, ⟨?_, hp.front, hp.query, ?_⟩⟩
  · have htext := congrArg String.toList (trunk_append_fragment url)
    rw [String.toList_append, hp.text] at htext
    simpa using htext.symm
  · rw [fragment, String.toList_ofList]
    exact dropWhile_eq '#' _

/-- Then what is left of the URL is what is left of the text before, and the fragment. -/
theorem strip?_of_trunk (h : '?' ∈ (trunk url).toList) : strip? url =
    (strip? (trunk url)).map fun (rest, value) => (rest ++ fragment url, value) := by
  obtain ⟨front, query, htrunk, hurl⟩ := exists_parts_of_trunk h
  rcases exists_first_sync (query.splitOn '&') with hnone | ⟨before, value, after, hsplit, hbefore⟩
  · rw [strip?_eq (hurl.strip_of_none hnone), strip?_eq (htrunk.strip_of_none hnone),
      Option.map_none]
  · rw [strip?_eq (hurl.strip_of_first hsplit hbefore),
      strip?_eq (htrunk.strip_of_first hsplit hbefore)]
    simp [String.append_assoc]

/-- The pieces that are left bring only characters of the query. -/
theorem mem_marked_left {before after : List (List Char)} {piece : List Char} {c : Char}
    (hsplit : query.splitOn '&' = before ++ piece :: after) (hc : c ∈ marked (before ++ after)) :
    c = '?' ∨ c = '&' ∨ c ∈ query := by
  refine (mem_marked hc).imp_right (Or.imp_right fun ⟨p, hp, hc⟩ => mem_of_mem_piece (p := p) ?_ hc)
  rw [hsplit]
  simp only [List.mem_append, List.mem_cons] at hp ⊢
  exact hp.imp_right Or.inr

theorem hash_not_mem_left {rest value : String} (hurl : '#' ∉ url.toList)
    (h : strip? url = some (rest, value)) : '#' ∉ rest.toList := by
  rcases url_cases url with
    hmark | ⟨front, query, tail, hp, hnone | ⟨before, value, after, hsplit, hbefore⟩⟩
  · rw [strip?_eq (strip_of_no_mark hmark)] at h
    cases h
  · rw [strip?_eq (hp.strip_of_none hnone)] at h
    cases h
  · rw [strip?_eq (hp.strip_of_first hsplit hbefore)] at h
    obtain ⟨rfl, -⟩ := Prod.mk.inj (Option.some.inj h)
    rw [hp.text] at hurl
    simp only [List.mem_append, List.mem_cons, not_or] at hurl
    simp only [String.toList_ofList, List.mem_append, not_or]
    refine ⟨⟨hurl.1, fun hmem => ?_⟩, hurl.2.2.2⟩
    rcases mem_marked_left hsplit hmem with he | he | hquery
    · exact absurd he (by decide)
    · exact absurd he (by decide)
    · exact hp.query hquery

/-- Where the text before the fragment decides about the whole URL: without a mark or a `sync` piece
in it there is nothing to take out, and what is left is what is left of that text, followed by the
fragment. -/
structure RespectsFragment (url : String) : Prop where
  absent : '?' ∉ (trunk url).toList ∨
    (∀ piece ∈ (behindMark (trunk url)).splitOn '&', ¬ IsSync piece) → strip? url = none
  kept : ∀ rest value, strip? url = some (rest, value) →
    fragment rest = fragment url ∧ strip? (trunk url) = some (trunk rest, value)

/-- **The fragment is respected unless the first mark stands in it, with a `sync` piece behind.** -/
theorem respectsFragment_iff (url : String) :
    RespectsFragment url ↔ '?' ∈ (trunk url).toList ∨ strip? (fragment url) = none := by
  by_cases hmark : '?' ∈ (trunk url).toList
  · refine ⟨fun _ => Or.inl hmark, fun _ => ⟨fun hno => ?_, fun rest value h => ?_⟩⟩
    · obtain ⟨front, query, htrunk, hurl⟩ := exists_parts_of_trunk hmark
      have hpieces := hno.resolve_left (not_not_intro hmark)
      rw [htrunk.behindMark_eq, List.append_nil] at hpieces
      exact strip?_eq (hurl.strip_of_none hpieces)
    · rw [strip?_of_trunk hmark, Option.map_eq_some_iff] at h
      obtain ⟨⟨kept, value'⟩, htrunk, he⟩ := h
      obtain ⟨rfl, rfl⟩ := Prod.mk.inj he
      obtain ⟨ht, hf⟩ := trunk_append (hash_not_mem_left (hash_not_mem_trunk url) htrunk) url
      exact ⟨hf, by rw [ht, htrunk]⟩
  · have hurl := strip?_append_left hmark (fragment url)
    rw [trunk_append_fragment] at hurl
    refine ⟨fun h => Or.inr ?_, fun h => ?_⟩
    · rw [h.absent (Or.inl hmark)] at hurl
      exact Option.map_eq_none_iff.mp hurl.symm
    · have hnone : strip? url = none := by
        rw [hurl, h.resolve_left hmark, Option.map_none]
      exact ⟨fun _ => hnone, fun rest value he => by rw [hnone] at he; cases he⟩

/-- A `sync` piece in the fragment is taken out of it where the URL has no query. -/
theorem not_respectsFragment_of_mark_in_fragment : ¬ RespectsFragment "https://x/y#a?sync=1" := by
  intro h
  have hurl : strip? "https://x/y#a?sync=1" = some ("https://x/y#a", "1") := by decide
  rw [h.absent (Or.inl (by decide))] at hurl
  cases hurl

end Interpose.Sync
