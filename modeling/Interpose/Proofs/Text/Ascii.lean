import Interpose.Proofs.Text.Utf8

/-!
# ASCII in UTF-8

An ASCII character is one byte, and the bytes of any other character are above all of ASCII
(`mem_utf8EncodeChar`). So folding the case of the letters of a text and of its bytes come to the
same (`map_lower_ofText`), and the bytes of an ASCII text stand in front of those of a text exactly
if the text starts with it (`ofText_prefix_iff`).
-/

namespace Interpose

/-- A capital letter moves up by 32, and any other character stands for itself. -/
theorem toLower_cases (c : Char) : ¬(65 ≤ c.toNat ∧ c.toNat ≤ 90) ∧ c.toLower = c ∨
    (65 ≤ c.toNat ∧ c.toNat ≤ 90) ∧ c.toLower.toNat = c.toNat + 32 := by
  unfold Char.toLower
  split
  · rename_i hupper
    have hbounds : 65 ≤ c.val.toNat ∧ c.val.toNat ≤ 90 := hupper
    have hsum : (c.val + 32).toNat = c.val.toNat + 32 := by
      rw [UInt32.toNat_add]
      exact Nat.mod_eq_of_lt (by change c.val.toNat + 32 < 2 ^ 32; omega)
    exact Or.inr ⟨hbounds, hsum⟩
  · rename_i hupper
    exact Or.inl ⟨hupper, rfl⟩

namespace Bytes

theorem utf8EncodeChar_ascii {c : Char} (h : c.toNat < 0x80) :
    String.utf8EncodeChar c = [UInt8.ofNat c.toNat] := by
  unfold String.utf8EncodeChar
  exact if_pos (Nat.le_of_lt_succ h)

theorem utf8EncodeChar_ne_nil (c : Char) : String.utf8EncodeChar c ≠ [] := by
  intro h
  have hspells := Utf8.spells_utf8EncodeChar c
  rw [h] at hspells
  cases hspells

/-- A byte of a character is the character, or above ASCII. -/
theorem mem_utf8EncodeChar {c : Char} {b : UInt8} (h : b ∈ String.utf8EncodeChar c) :
    b.toNat = c.toNat ∨ 0x80 ≤ b.toNat := by
  have hspells := Utf8.spells_utf8EncodeChar c
  generalize String.utf8EncodeChar c = bytes at h hspells
  cases hspells with
  | one ha hn =>
    rw [List.mem_singleton] at h
    exact Or.inl (h ▸ hn)
  | two ha hb =>
    simp only [List.mem_cons, List.not_mem_nil, or_false] at h
    rcases h with rfl | rfl <;> exact Or.inr (by omega)
  | three ha hb _ _ hc =>
    simp only [List.mem_cons, List.not_mem_nil, or_false] at h
    rcases h with rfl | rfl | rfl <;> exact Or.inr (by omega)
  | four ha hb _ _ hc hd =>
    simp only [List.mem_cons, List.not_mem_nil, or_false] at h
    rcases h with rfl | rfl | rfl | rfl <;> exact Or.inr (by omega)

/-! ## Letter case -/

theorem lower_of_not_capital {b : UInt8} (h : ¬(65 ≤ b.toNat ∧ b.toNat ≤ 90)) : lower b = b :=
  if_neg h

theorem toNat_lower_of_capital {b : UInt8} (h : 65 ≤ b.toNat ∧ b.toNat ≤ 90) :
    (lower b).toNat = b.toNat + 32 := by
  have hcapital : 65 ≤ b ∧ b ≤ 90 := h
  rw [lower, if_pos hcapital, UInt8.toNat_add]
  exact Nat.mod_eq_of_lt (by simp; omega)

theorem map_lower_utf8EncodeChar (c : Char) :
    (String.utf8EncodeChar c).map lower = String.utf8EncodeChar c.toLower := by
  rcases toLower_cases c with ⟨hcapital, hsame⟩ | ⟨hcapital, hlower⟩
  · rw [hsame]
    refine (List.map_congr_left fun b hb => ?_).trans (List.map_id _)
    rcases mem_utf8EncodeChar hb with hbyte | habove
    · exact lower_of_not_capital (hbyte ▸ hcapital)
    · exact lower_of_not_capital (by omega)
  · rw [utf8EncodeChar_ascii (by omega), utf8EncodeChar_ascii (by omega), hlower,
      List.map_singleton]
    have hbyte : (UInt8.ofNat c.toNat).toNat = c.toNat := by
      rw [UInt8.toNat_ofNat', Nat.mod_eq_of_lt (by omega)]
    congr 1
    rw [← UInt8.toNat_inj, toNat_lower_of_capital (by rw [hbyte]; exact hcapital), hbyte,
      UInt8.toNat_ofNat', Nat.mod_eq_of_lt (by omega)]

/-- **Folding the case of a text folds that of its bytes.** -/
theorem map_lower_ofText (s : String) : (ofText s).map lower = ofText (lowerText s) := by
  rw [ofText, ofText, lowerText, String.toList_map, List.map_flatMap, List.flatMap_map]
  simp only [map_lower_utf8EncodeChar]

/-! ## Starts -/

/-- **A text starts with ASCII characters exactly if its bytes start with theirs.** -/
theorem ofText_prefix_iff {start text : String} (hstart : ∀ c ∈ start.toList, c.toNat < 0x80) :
    ofText start <+: ofText text ↔ start.toList <+: text.toList := by
  unfold ofText
  generalize start.toList = start at hstart ⊢
  generalize text.toList = text
  induction start generalizing text with
  | nil => simp
  | cons c start ih =>
    have hc : c.toNat < 0x80 := hstart c (by simp)
    have ih := fun text => ih (fun d hd => hstart d (by simp [hd])) text
    cases text with
    | nil => simp [utf8EncodeChar_ascii hc]
    | cons d text =>
      rw [List.flatMap_cons, List.flatMap_cons, utf8EncodeChar_ascii hc, List.cons_prefix_cons]
      by_cases hd : d.toNat < 0x80
      · have hbyte : UInt8.ofNat c.toNat = UInt8.ofNat d.toNat ↔ c = d := by
          rw [← UInt8.toNat_inj, UInt8.toNat_ofNat', UInt8.toNat_ofNat',
            Nat.mod_eq_of_lt (by omega), Nat.mod_eq_of_lt (by omega), Char.toNat_inj]
        rw [utf8EncodeChar_ascii hd, List.singleton_append, List.singleton_append,
          List.cons_prefix_cons, ih, hbyte]
      · have hne : c ≠ d := fun h => hd (h ▸ hc)
        refine iff_of_false (fun h => ?_) (fun h => hne h.1)
        obtain ⟨b, more, hencoded⟩ := List.exists_cons_of_ne_nil (utf8EncodeChar_ne_nil d)
        have hb : b ∈ String.utf8EncodeChar d := by rw [hencoded]; exact List.mem_cons_self
        rw [hencoded, List.singleton_append, List.cons_append, List.cons_prefix_cons] at h
        have hbyte := congrArg UInt8.toNat h.1
        rw [UInt8.toNat_ofNat', Nat.mod_eq_of_lt (by omega)] at hbyte
        rcases mem_utf8EncodeChar hb with hsame | habove <;> omega

end Bytes

end Interpose
