import Interpose.Cache.Key
import Interpose.Proofs.Text.Utf8

/-!
# What normalizing changes

Writing code units and reading them are inverse to each other: a byte string reads as a text exactly
if it is the code units of this text (`decode?_eq_some_iff`). It reads as none exactly if a byte is
left over or a surrogate stands without its other half (`decode?_eq_none_iff`), wherever that is.

So `normalize` changes the texts in UTF-16 with a mark (`IsEncoded`) and no other source
(`normalize_eq_self_iff`). What it makes of them is UTF-8, which no mark starts, so that a second
time changes nothing (`normalize_normalize`).
-/

namespace Interpose

namespace Utf16

/-! ## Code units of a byte string -/

/-- The code units of a byte string, without the last byte if it is left over. -/
def codeUnits (order : ByteOrder) : Bytes → List Nat
  | a :: b :: rest => unit order a b :: codeUnits order rest
  | _ => []

/-- A surrogate without its other half: a first half that no second half follows, or a second half
that follows no first half. -/
def Unpaired (before : List Nat) (u : Nat) (after : List Nat) : Prop :=
  (isHigh u = true ∧ ∀ l ∈ after.head?, isLow l = false) ∨
    (isLow u = true ∧ ∀ h ∈ before.getLast?, isHigh h = false)

/-- Whether a surrogate stands without its other half at any position. -/
def HasUnpaired (units : List Nat) : Prop :=
  ∃ before u after, units = before ++ u :: after ∧ Unpaired before u after

/-- Whether one does among the units behind those of `past`. -/
def UnpairedBehind (past units : List Nat) : Prop :=
  ∃ before u after, units = before ++ u :: after ∧ Unpaired (past ++ before) u after

variable {order : ByteOrder} {u v : Nat} {past units : List Nat}

theorem isLow_of_isHigh (h : isHigh u = true) : isLow u = false := by
  simp only [isHigh, isLow, Bool.and_eq_true, decide_eq_true_eq] at h ⊢
  simp
  omega

theorem not_hasUnpaired_nil : ¬HasUnpaired [] := by
  rintro ⟨before, u, after, h, -⟩
  simp at h

theorem hasUnpaired_iff_behind_nil : HasUnpaired units ↔ UnpairedBehind [] units := Iff.rfl

/-- One unit more belongs to those that have been passed. -/
theorem unpairedBehind_cons : UnpairedBehind past (u :: units) ↔
    Unpaired past u units ∨ UnpairedBehind (past ++ [u]) units := by
  constructor
  · rintro ⟨before, v, after, hunits, hv⟩
    cases before with
    | nil =>
      obtain ⟨rfl, rfl⟩ := List.cons.inj hunits
      exact Or.inl (by simpa using hv)
    | cons w before =>
      obtain ⟨rfl, rfl⟩ := List.cons.inj hunits
      exact Or.inr ⟨before, v, after, rfl, by simpa using hv⟩
  · rintro (hu | ⟨before, v, after, rfl, hv⟩)
    · exact ⟨[], u, units, rfl, by simpa using hu⟩
    · exact ⟨u :: before, v, after, rfl, by simpa using hv⟩

/-- Behind a unit that is no first half, the units are on their own. -/
theorem unpairedBehind_append (hu : isHigh u = false) :
    UnpairedBehind (past ++ [u]) units ↔ HasUnpaired units := by
  have hsame : ∀ before v after,
      Unpaired (past ++ [u] ++ before) v after ↔ Unpaired before v after := by
    intro before v after
    cases before with
    | nil => simp [Unpaired, hu]
    | cons w before => simp [Unpaired, List.getLast?_append]
  simp only [UnpairedBehind, HasUnpaired, hsame]

theorem hasUnpaired_cons (hu : isHigh u = false) :
    HasUnpaired (u :: units) ↔ isLow u = true ∨ HasUnpaired units := by
  have hfirst : Unpaired [] u units ↔ isLow u = true := by simp [Unpaired, hu]
  rw [hasUnpaired_iff_behind_nil, unpairedBehind_cons, unpairedBehind_append hu, hfirst]

/-- A first half wants a second half next, and what follows the two is on its own. -/
theorem hasUnpaired_cons_cons (hu : isHigh u = true) :
    HasUnpaired (u :: v :: units) ↔ isLow v = false ∨ HasUnpaired units := by
  have hlow := isLow_of_isHigh hu
  have hfirst : Unpaired [] u (v :: units) ↔ isLow v = false := by simp [Unpaired, hu, hlow]
  rw [hasUnpaired_iff_behind_nil, unpairedBehind_cons, hfirst, unpairedBehind_cons]
  refine or_congr_right' fun hv => ?_
  have hhigh : isHigh v = false := Bool.eq_false_iff.mpr fun hh => hv (isLow_of_isHigh hh)
  have hsecond : ¬Unpaired ([] ++ [u]) v units := by simp [Unpaired, hu, hhigh]
  rw [unpairedBehind_append hhigh, or_iff_right hsecond]

theorem length_pair_mod {α : Type} (a b : α) (rest : List α) :
    (a :: b :: rest).length % 2 = rest.length % 2 := by
  simp only [List.length_cons]
  omega

/-- **Reading fails exactly on a byte left over and on an unpaired surrogate.** -/
theorem decodeFrom_eq_none_iff (done : List Char) (s : Bytes) :
    decodeFrom order done s = none ↔ s.length % 2 = 1 ∨ HasUnpaired (codeUnits order s) := by
  -- Each step reads a whole character, so that the units behind it are on their own again.
  fun_induction decodeFrom order done s with
  | case1 done => simpa [codeUnits] using not_hasUnpaired_nil
  | case2 done a => simp
  | case3 done a b u hsurrogate =>
    refine iff_of_true rfl (Or.inr ⟨[], u, [], rfl, ?_⟩)
    simpa [Unpaired] using hsurrogate
  | case4 done a b u hsurrogate =>
    simp only [Bool.or_eq_true, not_or, Bool.not_eq_true] at hsurrogate
    simp [codeUnits, u, hasUnpaired_cons hsurrogate.1, hsurrogate.2,
      not_hasUnpaired_nil]
  | case5 done a b c => simp
  | case6 done a b c d rest u v hhigh hlow ih =>
    simp only [codeUnits, u, v, length_pair_mod] at hhigh hlow ⊢
    rw [hasUnpaired_cons_cons hhigh, hlow]
    simpa using ih
  | case7 done a b c d rest u v hhigh hlow =>
    refine iff_of_true rfl (Or.inr ?_)
    exact (hasUnpaired_cons_cons hhigh).mpr (Or.inl (Bool.not_eq_true _ ▸ hlow))
  | case8 done a b c d rest u hhigh hlow =>
    refine iff_of_true rfl (Or.inr ?_)
    exact (hasUnpaired_cons (Bool.eq_false_iff.mpr hhigh)).mpr (Or.inl hlow)
  | case9 done a b c d rest u hhigh hlow ih =>
    rw [length_pair_mod a b, codeUnits, hasUnpaired_cons (Bool.eq_false_iff.mpr hhigh),
      or_iff_right hlow]
    exact ih

/-! ## Characters of code units -/

theorem unit_lt (order : ByteOrder) (a b : UInt8) : unit order a b < 0x10000 := by
  have ha := a.toNat_lt
  have hb := b.toNat_lt
  cases order <;> simp only [unit] <;> omega

theorem unitBytes_unit (order : ByteOrder) (a b : UInt8) :
    unitBytes order (unit order a b) = [a, b] := by
  have ha := a.toNat_lt
  have hb := b.toNat_lt
  cases order with
  | bigEndian =>
    simp only [unitBytes, unit]
    rw [show (a.toNat * 256 + b.toNat) / 256 = a.toNat by omega,
      show (a.toNat * 256 + b.toNat) % 256 = b.toNat by omega, UInt8.ofNat_toNat,
      UInt8.ofNat_toNat]
  | littleEndian =>
    simp only [unitBytes, unit]
    rw [show (b.toNat * 256 + a.toNat) / 256 = b.toNat by omega,
      show (b.toNat * 256 + a.toNat) % 256 = a.toNat by omega, UInt8.ofNat_toNat,
      UInt8.ofNat_toNat]

/-- A unit that is no surrogate is a character. -/
theorem charUnits_ofNat (hu : u < 0x10000) (hhigh : isHigh u = false) (hlow : isLow u = false) :
    charUnits (Char.ofNat u) = [u] := by
  simp only [isHigh, isLow, Bool.and_eq_false_iff, decide_eq_false_iff_not] at hhigh hlow
  have hvalid : u.isValidChar := by
    unfold Nat.isValidChar
    omega
  rw [charUnits, Utf8.toNat_ofNat hvalid, if_pos hu]

/-- Two halves of a surrogate pair are a character. -/
theorem charUnits_pair (hu : isHigh u = true) (hv : isLow v = true) :
    charUnits (pair u v) = [u, v] := by
  simp only [isHigh, isLow, Bool.and_eq_true, decide_eq_true_eq] at hu hv
  have hvalid : (0x10000 + (u - 0xD800) * 0x400 + (v - 0xDC00)).isValidChar := by
    unfold Nat.isValidChar
    omega
  rw [charUnits, pair, Utf8.toNat_ofNat hvalid, if_neg (by omega), Nat.add_assoc,
    Nat.add_sub_cancel_left]
  have hfirst : 0xD800 + ((u - 0xD800) * 0x400 + (v - 0xDC00)) / 0x400 = u := by omega
  have hsecond : 0xDC00 + ((u - 0xD800) * 0x400 + (v - 0xDC00)) % 0x400 = v := by omega
  rw [hfirst, hsecond]

/-- What has been read stays in front, and the rest are the units of what is read further on. -/
theorem eq_units_of_decodeFrom {done text : List Char} {s : Bytes}
    (h : decodeFrom order done s = some text) : ∃ rest, text = done.reverse ++ rest ∧
      s = (rest.flatMap charUnits).flatMap (unitBytes order) := by
  fun_induction decodeFrom order done s with
  | case1 done => exact ⟨[], by simpa using h.symm, rfl⟩
  | case2 done a => cases h
  | case3 done a b u hsurrogate => cases h
  | case4 done a b u hsurrogate =>
    simp only [Bool.or_eq_true, not_or, Bool.not_eq_true] at hsurrogate
    refine ⟨[Char.ofNat u], by simpa using h.symm, ?_⟩
    simp [u, charUnits_ofNat (unit_lt order a b) hsurrogate.1 hsurrogate.2, unitBytes_unit]
  | case5 done a b c => cases h
  | case6 done a b c d rest u v hhigh hlow ih =>
    obtain ⟨text, rfl, rfl⟩ := ih h
    refine ⟨pair u v :: text, by simp, ?_⟩
    simp [u, v, charUnits_pair hhigh hlow, unitBytes_unit]
  | case7 done a b c d rest u v hhigh hlow => cases h
  | case8 done a b c d rest u hhigh hlow => cases h
  | case9 done a b c d rest u hhigh hlow ih =>
    obtain ⟨text, rfl, hrest⟩ := ih h
    refine ⟨Char.ofNat u :: text, by simp, ?_⟩
    rw [hrest]
    simp [u, charUnits_ofNat (unit_lt order a b) (Bool.eq_false_iff.mpr hhigh)
      (Bool.eq_false_iff.mpr hlow), unitBytes_unit]

/-- **A byte string reads as a text exactly if it is the code units of this text.** -/
theorem decode?_eq_some_iff {s : Bytes} {text : List Char} : decode? order s = some text ↔
    s = (text.flatMap charUnits).flatMap (unitBytes order) := by
  constructor
  · intro h
    obtain ⟨rest, rfl, hs⟩ := eq_units_of_decodeFrom h
    exact hs
  · rintro rfl
    exact decode?_units order text

/-! ## Sources that are texts with a mark -/

/-- A source that is a text in UTF-16 with a mark. -/
def IsEncoded (source : Bytes) : Prop := ∃ order text, source = encode order text

theorem detect_eq_some_iff {source : Bytes} :
    detect source = some order ↔ ∃ rest, source = order.mark ++ rest := by
  constructor
  · intro h
    match source with
    | [] => cases h
    | [_] => cases h
    | a :: b :: rest =>
      refine ⟨rest, ?_⟩
      simp only [detect] at h
      split_ifs at h with hbig hlittle
      · obtain rfl := Option.some.inj h
        rw [hbig.1, hbig.2]
        rfl
      · obtain rfl := Option.some.inj h
        rw [hlittle.1, hlittle.2]
        rfl
  · rintro ⟨rest, rfl⟩
    exact detect_mark order rest

/-- Behind a mark stand the code units of a text, or what reads as none. -/
theorem isEncoded_mark_append_iff {rest : Bytes} :
    IsEncoded (order.mark ++ rest) ↔ decode? order rest ≠ none := by
  constructor
  · rintro ⟨order', text, h⟩
    have horder : some order = some order' := by
      rw [← detect_mark order rest, h]
      exact detect_mark order' _
    obtain rfl := Option.some.inj horder
    rw [List.append_cancel_left h, decode?_units]
    exact Option.some_ne_none _
  · intro h
    obtain ⟨text, htext⟩ := Option.ne_none_iff_exists'.mp h
    refine ⟨order, String.ofList text, ?_⟩
    rw [decode?_eq_some_iff.mp htext, encode, String.toList_ofList]

/-- **A source is re-encoded if it is a text in UTF-16 with a mark, and else left as it is.** -/
theorem normalize_cases (source : Bytes) : (¬IsEncoded source ∧ normalize source = source) ∨
    ∃ order text, source = encode order text ∧ normalize source = Bytes.ofText text := by
  by_cases hencoded : IsEncoded source
  · obtain ⟨order, text, rfl⟩ := hencoded
    exact Or.inr ⟨order, text, rfl, normalize_encode order text⟩
  · refine Or.inl ⟨hencoded, ?_⟩
    unfold normalize
    split
    · rfl
    · rename_i order hmark
      obtain ⟨rest, rfl⟩ := detect_eq_some_iff.mp hmark
      rw [isEncoded_mark_append_iff, not_not] at hencoded
      have hdrop : (order.mark ++ rest).drop 2 = rest := by cases order <;> rfl
      rw [hdrop, hencoded]

theorem normalize_eq_self_iff {source : Bytes} : normalize source = source ↔ ¬IsEncoded source := by
  constructor
  · rintro h ⟨order, text, rfl⟩
    rw [normalize_encode] at h
    have hmark : detect (encode order text) = some order := detect_mark order _
    rw [← h, detect_ofText] at hmark
    cases hmark
  · intro h
    rcases normalize_cases source with ⟨-, hsame⟩ | ⟨order, text, rfl, -⟩
    · exact hsame
    · exact absurd ⟨order, text, rfl⟩ h

instance : DecidablePred IsEncoded := fun source =>
  decidable_of_iff (normalize source ≠ source) (not_iff_comm.mp normalize_eq_self_iff.symm)

/-- No byte of a mark is in a text in UTF-8. -/
theorem not_isEncoded_of_bytes {source : Bytes} (h : ∀ b ∈ source, b.toNat < 0xFE) :
    ¬IsEncoded source := by
  rintro ⟨order, text, rfl⟩
  cases order with
  | bigEndian => exact absurd (h 0xFE (by simp [encode, ByteOrder.mark])) (by decide)
  | littleEndian => exact absurd (h 0xFF (by simp [encode, ByteOrder.mark])) (by decide)

/-- **Normalizing a second time changes nothing.** -/
theorem normalize_normalize (source : Bytes) : normalize (normalize source) = normalize source := by
  rcases normalize_cases source with ⟨-, hsame⟩ | ⟨order, text, -, htext⟩
  · rw [hsame, hsame]
  · rw [htext, normalize_ofText]

end Utf16

/-- A way to normalize sources that re-encodes the texts in UTF-16 with a mark and does nothing
else. -/
structure ReencodesExactly (normal : Bytes → Bytes) : Prop where
  /-- The mark and the code units of a text become its UTF-8, in either order of bytes. -/
  encoded : ∀ order text, normal (Utf16.encode order text) = Bytes.ofText text
  /-- A source that starts with neither mark is left as it is. -/
  unmarked : ∀ source, (∀ order : Utf16.ByteOrder, ¬order.mark <+: source) → normal source = source
  /-- Of the marked sources, those are left as they are where a byte is left over or a surrogate
  stands without its other half, and no others. -/
  malformed : ∀ (order : Utf16.ByteOrder) rest, normal (order.mark ++ rest) = order.mark ++ rest ↔
    rest.length % 2 = 1 ∨ Utf16.HasUnpaired (Utf16.codeUnits order rest)
  /-- What is not left as it is is such a text. -/
  changed : ∀ source, normal source = source ↔ ¬Utf16.IsEncoded source
  /-- A second time changes nothing. -/
  twice : ∀ source, normal (normal source) = normal source
  /-- A text has one place in the cache, whatever encoding it comes in. -/
  key : ∀ host text (e : Encoding),
    Cache.Key.of host (normal (e.write text)) = Cache.Key.of host (Bytes.ofText text)

/-- **Normalizing re-encodes the texts in UTF-16 with a mark and does nothing else.** -/
theorem normalize_reencodes_exactly : ReencodesExactly normalize where
  encoded := Utf16.normalize_encode
  unmarked source h := by
    rcases Utf16.normalize_cases source with ⟨-, hsame⟩ | ⟨order, text, hencoded, -⟩
    · exact hsame
    · exact absurd ⟨_, hencoded.symm⟩ (h order)
  malformed order rest := by
    rw [Utf16.normalize_eq_self_iff, Utf16.isEncoded_mark_append_iff, not_not, Utf16.decode?,
      Utf16.decodeFrom_eq_none_iff]
  changed _ := Utf16.normalize_eq_self_iff
  twice := Utf16.normalize_normalize
  key host text e := by rw [normalize_write]

/-- The halves of U+1F600 the wrong way round. -/
example : let body : Bytes := [0xFE, 0xFF, 0xDE, 0x00, 0xD8, 0x3D]; normalize body = body := by
  decide +kernel

end Interpose
