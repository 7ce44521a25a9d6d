import Interpose.Json.Printer
import Interpose.Proofs.Json.Literal

/-!
# A compact text is one line

Escaping leaves no control character in a string literal, and the rest of a compact text is made of
digits and punctuation. So no character of it lies below U+0020, whatever texts are in the value
(`compact_unbroken`), while a text with a line for each member holds a line feed for each.

The property is kept by joining texts, so the proof follows the printer: a character's escape, a
literal, and then a value by its parts.
-/

namespace Interpose.Json

/-- Characters of which none is a control character below U+0020. -/
def Unbroken (cs : List Char) : Prop := ∀ c ∈ cs, 0x20 ≤ c.toNat

variable {cs cs' : List Char} {c : Char}

@[simp] theorem unbroken_nil : Unbroken [] := by
  simp [Unbroken]

@[simp] theorem unbroken_cons : Unbroken (c :: cs) ↔ 0x20 ≤ c.toNat ∧ Unbroken cs :=
  List.forall_mem_cons

@[simp] theorem unbroken_append : Unbroken (cs ++ cs') ↔ Unbroken cs ∧ Unbroken cs' :=
  List.forall_mem_append

/-- Unbroken characters hold no line feed. -/
theorem Unbroken.lineFeed_not_mem (h : Unbroken cs) : '\n' ∉ cs := fun hmem =>
  absurd (h '\n' hmem) (by decide)

/-! ## Literals -/

theorem hexChar_unbroken {n : Nat} (h : n < 16) : 0x20 ≤ (hexChar n).toNat :=
  (by decide : ∀ n < 16, 0x20 ≤ (hexChar n).toNat) n h

/-- A character that would break a line is written as an escape. -/
theorem unbroken_escapeChar (c : Char) : Unbroken (escapeChar c) := by
  unfold escapeChar
  split
  -- The seven characters with an escape of their own.
  iterate 7 · simp
  · split
    · rename_i hcontrol
      have hhigh : c.toNat / 16 < 16 := by omega
      have hlow : c.toNat % 16 < 16 := Nat.mod_lt _ (by decide)
      simp [hexChar_unbroken hhigh, hexChar_unbroken hlow]
    · rename_i hplain
      simpa using Nat.not_lt.mp hplain

theorem unbroken_quote (s : Option String) : Unbroken (quote s) := by
  cases s with
  | none =>
    have hhalf : quote none = ['"', '\\', 'u', 'd', '8', '0', '0', '"'] := rfl
    simp [hhalf]
  | some s =>
    have hescaped : Unbroken (s.toList.flatMap escapeChar) := fun c hc =>
      have ⟨d, _, hd⟩ := List.mem_flatMap.mp hc
      unbroken_escapeChar d c hd
    have hquote : quote (some s) = '"' :: s.toList.flatMap escapeChar ++ ['"'] := rfl
    simp [hquote, hescaped]

theorem unbroken_toDigits (n : Nat) : Unbroken (Nat.toDigits 10 n) := by
  intro c hc
  have hdigit := Nat.isDigit_of_mem_toDigits (by decide) (by decide) hc
  simp only [Char.isDigit, ge_iff_le, Bool.and_eq_true, decide_eq_true_eq] at hdigit
  exact Nat.le_trans (by decide) (UInt32.le_iff_toNat_le.mp hdigit.1)

theorem unbroken_numeral (n : Numeral) : Unbroken (numeral n) := by
  cases n with
  | whole negative n => cases negative <;> simp [numeral, unbroken_toDigits]
  | scaled negative m e =>
    rw [numeral, toList_toString]
    cases negative <;> by_cases he : 0 ≤ e <;> simp [he, unbroken_toDigits]

/-! ## Values -/

mutual

theorem unbroken_compactChars (v : Json) : Unbroken (compactChars v) := by
  cases v with
  | null => simp [compactChars]
  | bool b => cases b <;> simp [compactChars]
  | number n => exact unbroken_numeral n
  | string s => exact unbroken_quote s
  | array items => simp [compactChars, unbroken_compactItems true items]
  | object members => simp [compactChars, unbroken_compactMembers true members]

theorem unbroken_compactItems (first : Bool) (items : List Json) :
    Unbroken (compactItems first items) := by
  cases items with
  | nil => simp [compactItems]
  | cons v items =>
    have hv := unbroken_compactChars v
    have hitems := unbroken_compactItems false items
    cases first <;> simp [compactItems, hv, hitems]

theorem unbroken_compactMembers (first : Bool) (members : List (Option String × Json)) :
    Unbroken (compactMembers first members) := by
  cases members with
  | nil => simp [compactMembers]
  | cons m members =>
    obtain ⟨name, v⟩ := m
    have hv := unbroken_compactChars v
    have hmembers := unbroken_compactMembers false members
    cases first <;> simp [compactMembers, unbroken_quote, hv, hmembers]

end

/-- **A compact text is one line**, whatever characters are in the texts of the value. -/
theorem compact_unbroken (v : Json) : Unbroken v.compact.toList := by
  rw [compact, String.toList_ofList]
  exact unbroken_compactChars v

end Interpose.Json
