import Interpose.Proofs.Cache.Name
import Interpose.Proofs.Text.Ascii

/-!
# The names that requests give to artifacts

The name of an artifact comes out of a segment that a client chose: it is decoded, cut at its last
point, and reduced to harmless characters, and each of these steps may bring a name like `..` into
being. The last one looks at what is left, so whatever the segment was, the name is harmless
(`harmless_artifactName`).

Which bytes of a segment are percent-encoded makes no difference. A segment without a percent sign
is what decoding makes of every form of it (`decode_eq_of_encoded`), so all its forms give one name
(`artifact_name_safe`).
-/

namespace Interpose

namespace Percent

/-! ## Forms of a segment -/

/-- A byte string with some of its bytes percent-encoded, in digits of either case. -/
inductive Encoded : Bytes → Bytes → Prop
  | nil : Encoded [] []
  | plain {s t : Bytes} (b : UInt8) (rest : Encoded s t) : Encoded (b :: s) (b :: t)
  | coded {s t : Bytes} {x y a b : UInt8} (high : hexValue? x = some a) (low : hexValue? y = some b)
    (rest : Encoded s t) : Encoded ((a * 16 + b) :: s) (0x25 :: x :: y :: t)

namespace Encoded

variable {s s' t t' : Bytes}

theorem refl (s : Bytes) : Encoded s s := by
  induction s with
  | nil => exact .nil
  | cons b s ih => exact .plain b ih

theorem append (h : Encoded s t) (h' : Encoded s' t') : Encoded (s ++ s') (t ++ t') := by
  induction h with
  | nil => exact h'
  | plain b _ ih => exact .plain b ih
  | coded high low _ ih => exact .coded high low ih

end Encoded

theorem decode_cons_of_ne {b : UInt8} (h : b ≠ 0x25) (rest : Bytes) :
    decode (b :: rest) = b :: decode rest := by
  rw [decode]
  rintro x y s rfl -
  exact h rfl

/-- **What was encoded of a byte string without a percent sign is decoded to it.** -/
theorem decode_eq_of_encoded {s t : Bytes} (h : Encoded s t) (hs : 0x25 ∉ s) : decode t = s := by
  induction h with
  | nil => rfl
  | plain b _ ih =>
    rw [List.mem_cons, not_or] at hs
    rw [decode_cons_of_ne (Ne.symm hs.1), ih hs.2]
  | coded high low _ ih =>
    rw [List.mem_cons, not_or] at hs
    rw [decode]
    simp only [high, low, ih hs.2]

/-! ### Forms that URLs have -/

theorem hexValue?_hexDigit {n : Nat} (h : n < 16) :
    (hexDigit n).toNat < 0x80 ∧ hexValue? (UInt8.ofNat (hexDigit n).toNat) = some (UInt8.ofNat n) :=
    by
  have all : ∀ i : Fin 16, (hexDigit i).toNat < 0x80 ∧
      hexValue? (UInt8.ofNat (hexDigit i).toNat) = some (UInt8.ofNat i) := by decide
  exact all ⟨n, h⟩

theorem encoded_encodeByte (b : UInt8) :
    Encoded [b] ((encodeByte b).flatMap String.utf8EncodeChar) := by
  have hb : b.toNat < 256 := b.toNat_lt
  obtain ⟨hascii, hhigh⟩ := hexValue?_hexDigit (n := b.toNat / 16) (by omega)
  obtain ⟨hascii', hlow⟩ := hexValue?_hexDigit (n := b.toNat % 16) (by omega)
  have hvalue : UInt8.ofNat (b.toNat / 16) * 16 + UInt8.ofNat (b.toNat % 16) = b := by
    rw [← UInt8.toNat_inj, UInt8.toNat_add, UInt8.toNat_mul, UInt8.toNat_ofNat', UInt8.toNat_ofNat']
    simp only [UInt8.reduceToNat]
    omega
  have hcoded := Encoded.coded hhigh hlow .nil
  rw [hvalue] at hcoded
  simpa [encodeByte, Bytes.utf8EncodeChar_ascii hascii, Bytes.utf8EncodeChar_ascii hascii',
    Bytes.utf8EncodeChar_ascii (c := '%') (by decide)] using hcoded

/-- Encoding the characters of a set encodes some of the bytes. -/
theorem encoded_encode (set : Char → Bool) (text : String) :
    Encoded (Bytes.ofText text) (Bytes.ofText (String.ofList (encode set text.toList))) := by
  rw [Bytes.ofText, Bytes.ofText, String.toList_ofList, encode]
  induction text.toList with
  | nil => exact .nil
  | cons c rest ih =>
    rw [List.flatMap_cons, List.flatMap_cons, List.flatMap_append]
    refine Encoded.append ?_ ih
    unfold encodeChar
    split
    · induction String.utf8EncodeChar c with
      | nil => exact .nil
      | cons b bytes ih =>
        rw [List.flatMap_cons, List.flatMap_append]
        exact (encoded_encodeByte b).append ih
    · rw [List.flatMap_singleton]
      exact .refl _

end Percent

namespace Bytes

/-- The bytes of a text hold that of an ASCII character only where the text holds the character. -/
theorem not_mem_ofText {c : Char} (hc : c.toNat < 0x80) {text : String} (h : c ∉ text.toList) :
    UInt8.ofNat c.toNat ∉ ofText text := by
  rw [ofText, List.mem_flatMap]
  rintro ⟨d, hd, hb⟩
  have hvalue : (UInt8.ofNat c.toNat).toNat = c.toNat := by
    rw [UInt8.toNat_ofNat', Nat.mod_eq_of_lt (by omega)]
  rcases mem_utf8EncodeChar hb with hsame | habove
  · rw [hvalue, Char.toNat_inj] at hsame
    exact h (hsame ▸ hd)
  · omega

end Bytes

namespace Cache

open Interpose.Path

/-! ## Harmless names -/

/-- A name that does no harm in a file name, whatever is added to it. -/
structure Harmless (name : String) : Prop where
  /-- It holds ASCII letters and digits, hyphens, underscores and points only. -/
  chars : ∀ c ∈ name.toList,
    c.toNat < 0x80 ∧ (c.isAlphanum = true ∨ c = '-' ∨ c = '_' ∨ c = '.')
  /-- It is neither empty nor made of points only. -/
  notPoints : ∃ c ∈ name.toList, c ≠ '.'

theorem ascii_of_isAlphanum {c : Char} (h : c.isAlphanum = true) : c.toNat < 0x80 := by
  change ((decide (c.val ≥ 65 ∧ c.val ≤ 90) || (c.val ≥ 97 && c.val ≤ 122)) ||
    (c.val ≥ 48 && c.val ≤ 57)) = true at h
  simp only [Bool.or_eq_true, Bool.and_eq_true, decide_eq_true_eq, ge_iff_le,
    UInt32.le_iff_toNat_le] at h
  change ((65 ≤ c.toNat ∧ c.toNat ≤ 90) ∨ 97 ≤ c.toNat ∧ c.toNat ≤ 122) ∨
    48 ≤ c.toNat ∧ c.toNat ≤ 57 at h
  omega

theorem of_isNameChar {c : Char} (h : isNameChar c = true) :
    c.toNat < 0x80 ∧ (c.isAlphanum = true ∨ c = '-' ∨ c = '_' ∨ c = '.') := by
  simp only [isNameChar, Bool.or_eq_true, beq_iff_eq, or_assoc] at h
  refine ⟨?_, h⟩
  rcases h with h | rfl | rfl | rfl
  · exact ascii_of_isAlphanum h
  · decide
  · decide
  · decide

/-- Whatever a request asks for, a name is more than points. -/
theorem exists_ne_point (components : List String) :
    ∃ c ∈ (artifactName components).toList, c ≠ '.' := by
  have hdefault : ∃ c ∈ defaultName.toList, c ≠ '.' := ⟨'i', by decide, by decide⟩
  unfold artifactName
  split
  · exact hdefault
  · simp only [segmentName]
    split
    · exact hdefault
    · rename_i hall
      rw [String.toList_ofList]
      simpa only [Bool.not_eq_true, List.all_eq_false, beq_iff_eq] using hall

theorem harmless_artifactName (components : List String) : Harmless (artifactName components) :=
  ⟨fun _ hc => of_isNameChar (isNameChar_of_mem_artifactName hc), exists_ne_point components⟩

/-- The name is made of the last segment, as it is once it is decoded. -/
theorem artifactName_concat_congr (front : List String) {s t : String}
    (h : Percent.decode (Bytes.ofText s) = Percent.decode (Bytes.ofText t)) :
    artifactName (front ++ [s]) = artifactName (front ++ [t]) := by
  simp only [artifactName, List.getLast?_concat, segmentName, h]

/-- **The name of an artifact is safe, and does not depend on how a segment is encoded.** Whatever
the segments of a path are, malformed escapes included, the name that they give is not empty, holds
ASCII letters and digits, hyphens, underscores and points only, and not only points; so with the
extension of a kind it is one ordinary step of a path. And a last segment without a percent sign
gives the same name in every text that has some of its bytes percent-encoded. -/
theorem artifact_name_safe :
    (∀ components : List String, artifactName components ≠ "" ∧
      Harmless (artifactName components) ∧
      ∀ kind : Kind, IsComponent (artifactName components ++ "." ++ kind.extension)) ∧
    ∀ (front : List String) (segment form : String), '%' ∉ segment.toList →
      Percent.Encoded (Bytes.ofText segment) (Bytes.ofText form) →
      artifactName (front ++ [form]) = artifactName (front ++ [segment]) := by
  refine ⟨fun components => ⟨?_, harmless_artifactName components, fun kind => ?_⟩,
    fun front segment form hplain hform => ?_⟩
  · intro hempty
    obtain ⟨c, hc, -⟩ := exists_ne_point components
    rw [hempty] at hc
    cases hc
  · exact isComponent_file .artifact kind (slash_not_mem_artifactName components)
  · have hbytes : (0x25 : UInt8) ∉ Bytes.ofText segment :=
      Bytes.not_mem_ofText (c := '%') (by decide) hplain
    refine artifactName_concat_congr front ?_
    rw [Percent.decode_eq_of_encoded hform hbytes,
      Percent.decode_eq_of_encoded (.refl _) hbytes]

/-- A segment with a letter of two bytes and two points, all encoded. -/
theorem artifact_name_safe_for_encoded_point :
    '%' ∉ "é.min.js".toList ∧
    artifactName ["static", "%C3%A9%2Emin%2Ejs"] = artifactName ["static", "é.min.js"] := by
  have hform : Percent.Encoded (Bytes.ofText "é.min.js") (Bytes.ofText "%C3%A9%2Emin%2Ejs") :=
    Percent.encoded_encode (· == '.') "é.min.js"
  exact ⟨by decide, artifact_name_safe.2 ["static"] _ _ (by decide) hform⟩

end Cache

end Interpose
