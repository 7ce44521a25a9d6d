import Interpose.Proofs.Text.Utf16
import Mathlib.Data.List.Induction
import Mathlib.Data.List.ReduceOption
import Mathlib.Tactic.SplitIfs

/-!
# UTF-8 there and back

`Spells n bytes` says by ranges of bytes which of them are the UTF-8 of the character of number `n`.
Encoding writes what spells a character (`spells_utf8EncodeChar`), and no other bytes spell it
(`Spells.encode_eq`). The decoder takes bytes that spell a character for this character
(`Spells.foldl`), and as long as it meets no fault, it has read characters and the beginning of one
(`Begun`, `Read`). So the byte strings that decode to a text are those that encode it
(`decode?_eq_some_iff`).
-/

namespace Interpose.Utf8

/-- Whether a byte is in the range of those that continue a character. -/
abbrev IsTail (b : UInt8) : Prop := 0x80 ≤ b.toNat ∧ b.toNat < 0xC0

/-- The bytes that spell the character of a number, by how many they are. -/
inductive Spells (n : Nat) : Bytes → Prop
  | one {a : UInt8} (ha : a.toNat < 0x80) (hn : a.toNat = n) : Spells n [a]
  | two {a b : UInt8} (ha : 0xC2 ≤ a.toNat ∧ a.toNat < 0xE0) (hb : IsTail b)
    (hn : (a.toNat - 0xC0) * 64 + (b.toNat - 0x80) = n) : Spells n [a, b]
  | three {a b c : UInt8} (ha : 0xE0 ≤ a.toNat ∧ a.toNat < 0xF0) (hb : IsTail b)
    (hlow : a.toNat = 0xE0 → 0xA0 ≤ b.toNat) (hhigh : a.toNat = 0xED → b.toNat < 0xA0)
    (hc : IsTail c)
    (hn : ((a.toNat - 0xE0) * 64 + (b.toNat - 0x80)) * 64 + (c.toNat - 0x80) = n) :
    Spells n [a, b, c]
  | four {a b c d : UInt8} (ha : 0xF0 ≤ a.toNat ∧ a.toNat < 0xF5) (hb : IsTail b)
    (hlow : a.toNat = 0xF0 → 0x90 ≤ b.toNat) (hhigh : a.toNat = 0xF4 → b.toNat < 0x90)
    (hc : IsTail c) (hd : IsTail d)
    (hn : (((a.toNat - 0xF0) * 64 + (b.toNat - 0x80)) * 64 + (c.toNat - 0x80)) * 64 +
      (d.toNat - 0x80) = n) :
    Spells n [a, b, c, d]

variable {n : Nat} {bytes seen : Bytes} {a b : UInt8} {p : Pending} {us : List (Option Char)}

/-! ## Encoding -/

/-- No number that is spelled is that of a surrogate. -/
theorem Spells.valid (h : Spells n bytes) : n.isValidChar := by
  unfold Nat.isValidChar
  cases h <;> omega

theorem toNat_ofNat (h : n.isValidChar) : (Char.ofNat n).toNat = n := by
  rw [Char.ofNat, dif_pos h]
  rfl

/-- The bytes that spell a character are those that encoding writes. -/
theorem Spells.encode_eq (h : Spells n bytes) :
    String.utf8EncodeChar (Char.ofNat n) = bytes := by
  have hval : (Char.ofNat n).val.toNat = n := toNat_ofNat h.valid
  unfold String.utf8EncodeChar
  simp only [hval]
  cases h with
  | one ha hn => rw [if_pos (by omega), ← hn, UInt8.ofNat_toNat]
  | @two a b ha hb hn =>
    rw [if_neg (by omega), if_pos (by omega), show n / 64 % 32 + 192 = a.toNat by omega,
      show n % 64 + 128 = b.toNat by omega, UInt8.ofNat_toNat, UInt8.ofNat_toNat]
  | @three a b c ha hb hlow hhigh hc hn =>
    rw [if_neg (by omega), if_neg (by omega), if_pos (by omega),
      show n / 4096 % 16 + 224 = a.toNat by omega, show n / 64 % 64 + 128 = b.toNat by omega,
      show n % 64 + 128 = c.toNat by omega, UInt8.ofNat_toNat, UInt8.ofNat_toNat,
      UInt8.ofNat_toNat]
  | @four a b c d ha hb hlow hhigh hc hd hn =>
    rw [if_neg (by omega), if_neg (by omega), if_neg (by omega),
      show n / 262144 % 8 + 240 = a.toNat by omega, show n / 4096 % 64 + 128 = b.toNat by omega,
      show n / 64 % 64 + 128 = c.toNat by omega, show n % 64 + 128 = d.toNat by omega,
      UInt8.ofNat_toNat, UInt8.ofNat_toNat, UInt8.ofNat_toNat, UInt8.ofNat_toNat]

/-- What encoding writes spells the character. -/
theorem spells_utf8EncodeChar (c : Char) : Spells c.toNat (String.utf8EncodeChar c) := by
  have hc := Utf16.toNat_not_surrogate c
  have hlt := Utf16.toNat_lt c
  have hval : c.val.toNat = c.toNat := rfl
  have hbyte : ∀ k, k < 256 → (UInt8.ofNat k).toNat = k := fun k hk => by
    rw [UInt8.toNat_ofNat', Nat.mod_eq_of_lt hk]
  unfold String.utf8EncodeChar
  simp only [hval]
  generalize c.toNat = n at *
  split_ifs with h1 h2 h3
  · have ha := hbyte n (by omega)
    exact .one (by omega) (by omega)
  · have ha := hbyte (n / 64 % 32 + 192) (by omega)
    have hb := hbyte (n % 64 + 128) (by omega)
    exact .two (by omega) (by omega) (by omega)
  · have ha := hbyte (n / 4096 % 16 + 224) (by omega)
    have hb := hbyte (n / 64 % 64 + 128) (by omega)
    have hd := hbyte (n % 64 + 128) (by omega)
    exact .three (by omega) (by omega) (by omega) (by omega)
      (by omega) (by omega)
  · have ha := hbyte (n / 262144 % 8 + 240) (by omega)
    have hb := hbyte (n / 4096 % 64 + 128) (by omega)
    have hd := hbyte (n / 64 % 64 + 128) (by omega)
    have he := hbyte (n % 64 + 128) (by omega)
    exact .four (by omega) (by omega) (by omega) (by omega)
      (by omega) (by omega) (by omega)

/-! ## The steps of the decoder -/

/-- The four ways of the first byte. -/
theorem lead_eq (b : UInt8) : lead b =
    if b.toNat < 0x80 then .whole (Char.ofNat b.toNat)
    else if b.toNat < 0xC2 then .fault
    else if b.toNat < 0xE0 then .begins ⟨1, 0x80, 0xBF, b.toNat - 0xC0⟩
    else if b.toNat < 0xF0 then
      .begins ⟨2, if b.toNat = 0xE0 then 0xA0 else 0x80, if b.toNat = 0xED then 0x9F else 0xBF,
        b.toNat - 0xE0⟩
    else if b.toNat < 0xF5 then
      .begins ⟨3, if b.toNat = 0xF0 then 0x90 else 0x80, if b.toNat = 0xF4 then 0x8F else 0xBF,
        b.toNat - 0xF0⟩
    else .fault := by
  simp only [lead, UInt8.lt_iff_toNat_lt, ← UInt8.toNat_inj, UInt8.reduceToNat]

theorem step_lead (h : lead b = .begins p) : Scan.step ⟨none, us⟩ b = ⟨some p, us⟩ := by
  simp only [Scan.step, Scan.start, h]

theorem step_more (hl : p.low.toNat ≤ b.toNat) (hh : b.toNat ≤ p.high.toNat) (ho : 1 < p.owed) :
    Scan.step ⟨some p, us⟩ b =
      ⟨some ⟨p.owed - 1, 0x80, 0xBF, p.bits * 64 + (b.toNat - 0x80)⟩, us⟩ := by
  simp only [Scan.step]
  rw [if_pos ⟨UInt8.le_iff_toNat_le.mpr hl, UInt8.le_iff_toNat_le.mpr hh⟩, if_neg (by omega)]

theorem step_last (hl : p.low.toNat ≤ b.toNat) (hh : b.toNat ≤ p.high.toNat) (ho : p.owed ≤ 1) :
    Scan.step ⟨some p, us⟩ b =
      ⟨none, some (Char.ofNat (p.bits * 64 + (b.toNat - 0x80))) :: us⟩ := by
  simp only [Scan.step]
  rw [if_pos ⟨UInt8.le_iff_toNat_le.mpr hl, UInt8.le_iff_toNat_le.mpr hh⟩, if_pos ho]

/-- Bytes that spell a character are read as this character. -/
theorem Spells.foldl (h : Spells n bytes) (us : List (Option Char)) :
    bytes.foldl Scan.step ⟨none, us⟩ = ⟨none, some (Char.ofNat n) :: us⟩ := by
  cases h with
  | one ha hn =>
    rw [List.foldl_cons, List.foldl_nil, Scan.step, Scan.start, lead_eq, if_pos ha, hn]
  | @two a b ha hb hn =>
    have hlead := lead_eq a
    rw [if_neg (by omega), if_neg (by omega), if_pos ha.2] at hlead
    rw [List.foldl_cons, step_lead hlead, List.foldl_cons,
      step_last (by exact hb.1) (by exact Nat.le_of_lt_succ hb.2) (Nat.le_refl 1),
      List.foldl_nil, hn]
  | @three a b c ha hb hlow hhigh hc hn =>
    have hlead := lead_eq a
    rw [if_neg (by omega), if_neg (by omega), if_neg (by omega), if_pos ha.2] at hlead
    rw [List.foldl_cons, step_lead hlead, List.foldl_cons, step_more _ _ (by simp),
      List.foldl_cons,
      step_last (by exact hc.1) (by exact Nat.le_of_lt_succ hc.2) (Nat.le_refl 1),
      List.foldl_nil, hn]
    · dsimp only
      split_ifs with h
      · exact hlow h
      · exact hb.1
    · dsimp only
      split_ifs with h
      · exact Nat.le_of_lt_succ (hhigh h)
      · exact Nat.le_of_lt_succ hb.2
  | @four a b c d ha hb hlow hhigh hc hd hn =>
    have hlead := lead_eq a
    rw [if_neg (by omega), if_neg (by omega), if_neg (by omega), if_neg (by omega),
      if_pos ha.2] at hlead
    rw [List.foldl_cons, step_lead hlead, List.foldl_cons, step_more _ _ (by simp),
      List.foldl_cons, step_more (by exact hc.1) (by exact Nat.le_of_lt_succ hc.2) (by simp),
      List.foldl_cons,
      step_last (by exact hd.1) (by exact Nat.le_of_lt_succ hd.2) (Nat.le_refl 1),
      List.foldl_nil, hn]
    · dsimp only
      split_ifs with h
      · exact hlow h
      · exact hb.1
    · dsimp only
      split_ifs with h
      · exact Nat.le_of_lt_succ (hhigh h)
      · exact Nat.le_of_lt_succ hb.2

/-! ## Decoding what was encoded -/

theorem reduceOption_map_some (text : List Char) : (text.map some).reduceOption = text := by
  induction text with
  | nil => rfl
  | cons c rest ih => rw [List.map_cons, List.reduceOption_cons_of_some, ih]

theorem foldl_encoded (text : List Char) (us : List (Option Char)) :
    (text.flatMap String.utf8EncodeChar).foldl Scan.step ⟨none, us⟩ =
      ⟨none, (text.map some).reverse ++ us⟩ := by
  induction text generalizing us with
  | nil => rfl
  | cons c rest ih =>
    rw [List.flatMap_cons, List.foldl_append, (spells_utf8EncodeChar c).foldl, Char.ofNat_toNat,
      ih, List.map_cons, List.reverse_cons, List.append_assoc, List.singleton_append]

/-- **Decoding the UTF-8 of a text gives the text back.** -/
theorem decode?_ofText (s : String) : decode? (Bytes.ofText s) = some s := by
  have hunits : units (Bytes.ofText s) = s.toList.map some := by
    rw [units, Bytes.ofText, foldl_encoded]
    simp [Scan.finish]
  rw [decode?, hunits]
  simp [reduceOption_map_some]

/-! ## Encoding what was decoded -/

/-- The bytes after which a character has begun and stands as in a state. -/
inductive Begun : Pending → Bytes → Prop
  | lead {a : UInt8} {p : Pending} : lead a = .begins p → Begun p [a]
  | more {p : Pending} {seen : Bytes} {b : UInt8} : Begun p seen → 1 < p.owed →
    p.low.toNat ≤ b.toNat → b.toNat ≤ p.high.toNat →
    Begun ⟨p.owed - 1, 0x80, 0xBF, p.bits * 64 + (b.toNat - 0x80)⟩ (seen ++ [b])

theorem begins_cases (h : lead a = .begins p) :
    (0xC2 ≤ a.toNat ∧ a.toNat < 0xE0) ∧ p = ⟨1, 0x80, 0xBF, a.toNat - 0xC0⟩ ∨
    (0xE0 ≤ a.toNat ∧ a.toNat < 0xF0) ∧
      p = ⟨2, if a.toNat = 0xE0 then 0xA0 else 0x80, if a.toNat = 0xED then 0x9F else 0xBF,
        a.toNat - 0xE0⟩ ∨
    (0xF0 ≤ a.toNat ∧ a.toNat < 0xF5) ∧
      p = ⟨3, if a.toNat = 0xF0 then 0x90 else 0x80, if a.toNat = 0xF4 then 0x8F else 0xBF,
        a.toNat - 0xF0⟩ := by
  rw [lead_eq] at h
  split at h
  · cases h
  · split at h
    · cases h
    · split at h
      · exact .inl ⟨by omega, (Lead.begins.inj h).symm⟩
      · split at h
        · exact .inr (.inl ⟨by omega, (Lead.begins.inj h).symm⟩)
        · split at h
          · exact .inr (.inr ⟨by omega, (Lead.begins.inj h).symm⟩)
          · cases h

theorem Begun.owed_le (h : Begun p seen) : p.owed ≤ 3 := by
  induction h with
  | lead h => obtain ⟨-, rfl⟩ | ⟨-, rfl⟩ | ⟨-, rfl⟩ := begins_cases h <;> simp
  | more _ _ _ _ ih => exact Nat.le_trans (Nat.sub_le _ _) ih

theorem Begun.range (h : Begun p seen) : 0x80 ≤ p.low.toNat ∧ p.high.toNat ≤ 0xBF := by
  cases h with
  | lead h =>
    obtain ⟨-, rfl⟩ | ⟨-, rfl⟩ | ⟨-, rfl⟩ := begins_cases h
    · exact ⟨Nat.le_refl _, Nat.le_refl _⟩
    · dsimp only
      split_ifs <;> decide
    · dsimp only
      split_ifs <;> decide
  | more => exact ⟨Nat.le_refl _, Nat.le_refl _⟩

theorem Begun.isTail (h : Begun p seen) (hl : p.low.toNat ≤ b.toNat) (hh : b.toNat ≤ p.high.toNat) :
    IsTail b :=
  ⟨Nat.le_trans h.range.1 hl, Nat.lt_succ_of_le (Nat.le_trans hh h.range.2)⟩

/-- The last byte that a begun character owes completes its spelling. -/
theorem Begun.spells (h : Begun p seen) (ho : p.owed ≤ 1) (hl : p.low.toNat ≤ b.toNat)
    (hh : b.toNat ≤ p.high.toNat) :
    Spells (p.bits * 64 + (b.toNat - 0x80)) (seen ++ [b]) := by
  have hb := h.isTail hl hh
  -- The bytes before the last one are split off one by one, and the first of them tells how many
  -- there are; no first byte owes more than three.
  cases h with
  | lead h =>
    obtain ⟨ha, rfl⟩ | ⟨ha, rfl⟩ | ⟨ha, rfl⟩ := begins_cases h
    · exact .two ha hb rfl
    · simp at ho
    · simp at ho
  | @more p seen c h hp hlc hhc =>
    have hc := h.isTail hlc hhc
    cases h with
    | lead h =>
      obtain ⟨ha, rfl⟩ | ⟨ha, rfl⟩ | ⟨ha, rfl⟩ := begins_cases h
      · simp at hp
      · refine .three ha hc (fun ha => ?_) (fun ha => ?_) hb rfl
        · simpa [ha] using hlc
        · exact Nat.lt_succ_of_le (by simpa [ha] using hhc)
      · simp at ho
    | @more q seen d h hq hld hhd =>
      have hd := h.isTail hld hhd
      cases h with
      | lead h =>
        obtain ⟨ha, rfl⟩ | ⟨ha, rfl⟩ | ⟨ha, rfl⟩ := begins_cases h
        · simp at hq
        · simp at hp
        · refine .four ha hd (fun ha => ?_) (fun ha => ?_) hc hb rfl
          · simpa [ha] using hld
          · exact Nat.lt_succ_of_le (by simpa [ha] using hhd)
      | more h hr =>
        have := h.owed_le
        simp only at hp ho
        omega

/-- The bytes after which a decoder that met no fault stands as it does: those of the characters
read, and then those of one that has begun. -/
inductive Read : Scan → Bytes → Prop
  | between (text : List Char) :
    Read ⟨none, (text.map some).reverse⟩ (text.flatMap String.utf8EncodeChar)
  | within (text : List Char) {p : Pending} {seen : Bytes} : Begun p seen →
    Read ⟨some p, (text.map some).reverse⟩ (text.flatMap String.utf8EncodeChar ++ seen)

/-- A character is read to its end. -/
theorem Read.character (text : List Char) (h : Spells n bytes) :
    Read ⟨none, some (Char.ofNat n) :: (text.map some).reverse⟩
      (text.flatMap String.utf8EncodeChar ++ bytes) := by
  have hread := Read.between (text ++ [Char.ofNat n])
  rw [List.map_append, List.map_singleton, List.reverse_append, List.reverse_singleton,
    List.singleton_append, List.flatMap_append, List.flatMap_singleton, h.encode_eq] at hread
  exact hread

theorem subset_start (us : List (Option Char)) (b : UInt8) : us ⊆ (Scan.start us b).units := by
  unfold Scan.start
  split
  · exact List.subset_cons_self _ _
  · exact List.Subset.refl _
  · exact List.subset_cons_self _ _

theorem subset_step (s : Scan) (b : UInt8) : s.units ⊆ (s.step b).units := by
  unfold Scan.step
  split
  · exact subset_start _ _
  · dsimp only
    split
    · split
      · exact List.subset_cons_self _ _
      · exact List.Subset.refl _
    · exact fun u hu => subset_start _ _ (List.mem_cons_of_mem _ hu)

/-- A step that meets no fault reads a byte of a character. -/
theorem Read.step {s : Scan} (h : Read s bytes) (hb : none ∉ (s.step b).units) :
    Read (s.step b) (bytes ++ [b]) := by
  cases h with
  | between text =>
    cases hlead : lead b with
    | whole c =>
      rw [lead_eq] at hlead
      rw [Scan.step, Scan.start, lead_eq]
      split at hlead
      · rename_i hb
        rw [if_pos hb]
        exact .character text (.one hb rfl)
      · split_ifs at hlead
    | begins p =>
      rw [step_lead hlead]
      exact .within text (.lead hlead)
    | fault => simp [Scan.step, Scan.start, hlead] at hb
  | @within text p seen hbegun =>
    by_cases hrange : p.low.toNat ≤ b.toNat ∧ b.toNat ≤ p.high.toNat
    · rw [List.append_assoc]
      by_cases ho : p.owed ≤ 1
      · rw [step_last hrange.1 hrange.2 ho]
        exact .character text (hbegun.spells ho hrange.1 hrange.2)
      · rw [step_more hrange.1 hrange.2 (by omega)]
        exact .within text (.more hbegun (by omega) hrange.1 hrange.2)
    · have hfault : Scan.step ⟨some p, (text.map some).reverse⟩ b =
          Scan.start (none :: (text.map some).reverse) b := by
        simp only [Scan.step, UInt8.le_iff_toNat_le, if_neg hrange]
      rw [hfault] at hb
      exact absurd (subset_start _ b List.mem_cons_self) hb

/-- As long as no fault is met, the bytes read are those of characters and of the beginning of
one. -/
theorem read_foldl (bytes : Bytes) (h : none ∉ (bytes.foldl Scan.step {}).units) :
    Read (bytes.foldl Scan.step {}) bytes := by
  induction bytes using List.reverseRecOn with
  | nil => exact .between []
  | append_singleton bytes b ih =>
    rw [List.foldl_append, List.foldl_cons, List.foldl_nil] at h ⊢
    exact (ih fun hmem => h (subset_step _ b hmem)).step h

/-- **Encoding what was decoded gives the bytes back.** -/
theorem ofText_decode? {s : Bytes} {text : String} (h : decode? s = some text) :
    Bytes.ofText text = s := by
  unfold decode? units at h
  simp only [Option.ite_none_right_eq_some, Option.some.injEq] at h
  obtain ⟨hall, rfl⟩ := h
  have hclean : none ∉ (s.foldl Scan.step {}).units := fun hmem => by
    have hfault : none ∈ (s.foldl Scan.step {}).finish := by
      unfold Scan.finish
      split
      · exact List.mem_reverse.mpr hmem
      · exact List.mem_reverse.mpr List.mem_cons_self
    simpa using List.all_eq_true.mp hall none hfault
  have hread := read_foldl s hclean
  generalize s.foldl Scan.step {} = scan at *
  cases hread with
  | between text =>
    simp [Scan.finish, Bytes.ofText, reduceOption_map_some]
  | within text hbegun => simp [Scan.finish] at hall

/-- **The byte strings that decode to a text are its UTF-8.** -/
theorem decode?_eq_some_iff {s : Bytes} {text : String} :
    decode? s = some text ↔ s = Bytes.ofText text :=
  ⟨fun h => (ofText_decode? h).symm, fun h => h ▸ decode?_ofText text⟩

end Interpose.Utf8
