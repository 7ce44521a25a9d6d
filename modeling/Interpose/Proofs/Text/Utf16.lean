import Interpose.Text.Utf16

/-!
# One text in three encodings

A text may come in UTF-8 or, with a mark, in UTF-16 of either byte order. `Encoding.write` is the
source that results, and `normalize` makes the same UTF-8 of all three (`normalize_write`): reading
the code units of a text gives the text back (`decode?_units`), and no text in UTF-8 starts like a
mark (`detect_ofText`).
-/

namespace Interpose.Utf16

/-! ## Code units -/

theorem unit_unitBytes (order : ByteOrder) {u : Nat} (h : u < 0x10000) :
    ∃ a b, unitBytes order u = [a, b] ∧ unit order a b = u := by
  cases order
  all_goals
    refine ⟨_, _, rfl, ?_⟩
    simp only [unit, UInt8.toNat_ofNat']
    omega

theorem toNat_not_surrogate (c : Char) : c.toNat < 0xD800 ∨ 0xDFFF < c.toNat := by
  have h : c.toNat < 0xD800 ∨ 0xDFFF < c.toNat ∧ c.toNat < 0x110000 := c.valid
  omega

theorem toNat_lt (c : Char) : c.toNat < 0x110000 := by
  have h : c.toNat < 0xD800 ∨ 0xDFFF < c.toNat ∧ c.toNat < 0x110000 := c.valid
  omega

/-- Reading on after the only code unit of a character. -/
theorem decodeFrom_unit (order : ByteOrder) (done : List Char) {a b : UInt8} {u : Nat}
    (hu : unit order a b = u) (hh : isHigh u = false) (hl : isLow u = false) (rest : Bytes) :
    decodeFrom order done (a :: b :: rest) = decodeFrom order (Char.ofNat u :: done) rest := by
  match rest with
  | [] => simp [decodeFrom, hu, hh, hl]
  | [x] => simp [decodeFrom]
  | x :: y :: rest => simp [decodeFrom, hu, hh, hl]

/-- Reading on after both halves of a character. -/
theorem decodeFrom_pair (order : ByteOrder) (done : List Char) {a b c d : UInt8} {u v : Nat}
    (hu : unit order a b = u) (hv : unit order c d = v) (hh : isHigh u = true)
    (hl : isLow v = true) (rest : Bytes) :
    decodeFrom order done (a :: b :: c :: d :: rest) =
      decodeFrom order (pair u v :: done) rest := by
  simp [decodeFrom, hu, hv, hh, hl]

theorem decodeFrom_char (order : ByteOrder) (done : List Char) (c : Char) (rest : Bytes) :
    decodeFrom order done ((charUnits c).flatMap (unitBytes order) ++ rest) =
      decodeFrom order (c :: done) rest := by
  have hc := toNat_not_surrogate c
  have hlt := toNat_lt c
  unfold charUnits
  split
  · rename_i hsmall
    obtain ⟨a, b, hab, hu⟩ := unit_unitBytes order hsmall
    have hh : isHigh c.toNat = false := by simp [isHigh]; omega
    have hl : isLow c.toNat = false := by simp [isLow]; omega
    have := decodeFrom_unit order done hu hh hl rest
    rw [Char.ofNat_toNat] at this
    simpa [hab] using this
  · rename_i hbig
    obtain ⟨a, b, hab, hu⟩ := unit_unitBytes order
      (u := 0xD800 + (c.toNat - 0x10000) / 0x400) (by omega)
    obtain ⟨a', b', hab', hv⟩ := unit_unitBytes order
      (u := 0xDC00 + (c.toNat - 0x10000) % 0x400) (by omega)
    have hh : isHigh (0xD800 + (c.toNat - 0x10000) / 0x400) = true := by simp [isHigh]; omega
    have hl : isLow (0xDC00 + (c.toNat - 0x10000) % 0x400) = true := by simp [isLow]; omega
    have hp : pair (0xD800 + (c.toNat - 0x10000) / 0x400)
        (0xDC00 + (c.toNat - 0x10000) % 0x400) = c := by
      unfold pair
      rw [show 0x10000 + (0xD800 + (c.toNat - 0x10000) / 0x400 - 0xD800) * 0x400 +
        (0xDC00 + (c.toNat - 0x10000) % 0x400 - 0xDC00) = c.toNat by omega, Char.ofNat_toNat]
    have := decodeFrom_pair order done hu hv hh hl rest
    rw [hp] at this
    simpa [hab, hab'] using this

theorem decodeFrom_units (order : ByteOrder) (done text : List Char) :
    decodeFrom order done ((text.flatMap charUnits).flatMap (unitBytes order)) =
      some (done.reverse ++ text) := by
  induction text generalizing done with
  | nil => simp [decodeFrom]
  | cons c rest ih =>
    rw [List.flatMap_cons, List.flatMap_append, decodeFrom_char, ih, List.reverse_cons,
      List.append_assoc, List.singleton_append]

/-- **Reading the code units of a text gives the text back.** -/
theorem decode?_units (order : ByteOrder) (text : List Char) :
    decode? order ((text.flatMap charUnits).flatMap (unitBytes order)) = some text :=
  decodeFrom_units order [] text

/-! ## Marks -/

theorem detect_mark (order : ByteOrder) (rest : Bytes) :
    detect (order.mark ++ rest) = some order := by
  cases order <;> rfl

theorem normalize_encode (order : ByteOrder) (text : String) :
    normalize (encode order text) = Bytes.ofText text := by
  have hdrop : (encode order text).drop 2 =
      (text.toList.flatMap charUnits).flatMap (unitBytes order) := by
    cases order <;> rfl
  have hdetect : detect (encode order text) = some order := detect_mark order _
  unfold normalize
  simp only [hdetect, hdrop, decode?_units]
  rfl

/-- The bytes of a character in UTF-8 are below those of the marks. -/
theorem utf8EncodeChar_lt (c : Char) : ∀ b ∈ String.utf8EncodeChar c, b.toNat < 0xFE := by
  have hlt : c.val.toNat < 0x110000 := toNat_lt c
  unfold String.utf8EncodeChar
  dsimp only
  repeat' split
  all_goals
    simp only [List.forall_mem_cons, List.not_mem_nil, false_imp_iff, implies_true, and_true,
      UInt8.toNat_ofNat']
    omega

theorem ofText_lt (text : String) : ∀ b ∈ Bytes.ofText text, b.toNat < 0xFE := by
  intro b hb
  obtain ⟨c, -, hc⟩ := List.mem_flatMap.mp hb
  exact utf8EncodeChar_lt c b hc

theorem detect_ofText (text : String) : detect (Bytes.ofText text) = none := by
  have hb := ofText_lt text
  match hs : Bytes.ofText text with
  | [] => rfl
  | [_] => rfl
  | a :: b :: rest =>
    have ha := hb a (by simp [hs])
    have h1 : a ≠ 0xFE := by rintro rfl; simp at ha
    have h2 : a ≠ 0xFF := by rintro rfl; simp at ha
    simp [detect, h1, h2]

theorem normalize_ofText (text : String) : normalize (Bytes.ofText text) = Bytes.ofText text := by
  unfold normalize
  simp only [detect_ofText]

end Interpose.Utf16

namespace Interpose

/-- The encodings in which a source may come. -/
inductive Encoding
  | utf8
  | utf16 (order : Utf16.ByteOrder)
  deriving DecidableEq, Repr

/-- A text as a source in an encoding. -/
def Encoding.write : Encoding → String → Bytes
  | utf8, text => Bytes.ofText text
  | utf16 order, text => Utf16.encode order text

/-- **Normalizing a text gives the same source whatever encoding it came in.** -/
theorem normalize_write (e : Encoding) (text : String) :
    normalize (e.write text) = Bytes.ofText text := by
  cases e with
  | utf8 => exact Utf16.normalize_ofText text
  | utf16 order => exact Utf16.normalize_encode order text

end Interpose
