import Interpose.Json.Printer
import Interpose.Json.Reader
import Interpose.Proofs.Text.Utf8
import Mathlib.Tactic.IntervalCases

/-!
# Literals there and back

The reader takes the bytes of a text one at a time (`feed`). It reads what is written for a text as
pieces that spell this text (`feed_quote`), and what is written for a number as this number
(`feed_numeral`). The one number that is not written as it is read is minus zero as an integer
(`Numeral.Normal`).
-/

namespace Interpose

/-- Whether a number is written as it is read: minus zero is no integer. -/
def Numeral.Normal (n : Numeral) : Prop := n ≠ .whole true 0

namespace Json

/-- The reader after the bytes of a text. -/
def feed (r : Reader) (cs : List Char) : Reader :=
  (cs.flatMap String.utf8EncodeChar).foldl Reader.step r

variable {r : Reader} {stack : List Frame} {owner : Option (List (Option String × Json))}
  {pieces : List Piece}

@[simp] theorem feed_append (r : Reader) (cs cs' : List Char) :
    feed r (cs ++ cs') = feed (feed r cs) cs' := by
  rw [feed, List.flatMap_append, List.foldl_append]
  rfl

theorem feed_cons (r : Reader) (c : Char) (cs : List Char) :
    feed r (c :: cs) = feed (feed r [c]) cs := by
  rw [← feed_append, List.singleton_append]

/-- A character of ASCII is one byte. -/
theorem feed_ascii (r : Reader) {c : Char} (h : c.toNat < 0x80) :
    feed r [c] = r.step (UInt8.ofNat c.toNat) := by
  have hval : c.val.toNat = c.toNat := rfl
  have hbytes : String.utf8EncodeChar c = [UInt8.ofNat c.toNat] := by
    unfold String.utf8EncodeChar
    simp only [hval]
    rw [if_pos (by omega)]
  rw [feed, List.flatMap_singleton, hbytes, List.foldl_cons, List.foldl_nil]

/-! ## String literals -/

theorem feed_plain {bytes : Bytes}
    (h : ∀ b ∈ bytes, 0x20 ≤ b.toNat ∧ b.toNat ≠ 0x22 ∧ b.toNat ≠ 0x5C) :
    bytes.foldl Reader.step ⟨.string owner .plain pieces, stack⟩ =
      ⟨.string owner .plain ((bytes.map .byte).reverse ++ pieces), stack⟩ := by
  induction bytes generalizing pieces with
  | nil => rfl
  | cons b rest ih =>
    obtain ⟨hb, hrest⟩ := List.forall_mem_cons.mp h
    have hstep : Reader.step ⟨.string owner .plain pieces, stack⟩ b =
        ⟨.string owner .plain (.byte b :: pieces), stack⟩ := by
      have hquote : (b == 0x22) = false := beq_eq_false_iff_ne.mpr fun h => hb.2.1 (h ▸ rfl)
      have hescape : (b == 0x5C) = false := beq_eq_false_iff_ne.mpr fun h => hb.2.2 (h ▸ rfl)
      have hcontrol : ¬b < 0x20 := fun h => Nat.not_lt.mpr hb.1 (UInt8.lt_iff_toNat_lt.mp h)
      simp [Reader.step, Reader.inString, hquote, hescape, hcontrol]
    rw [List.foldl_cons, hstep, ih hrest, List.map_cons, List.reverse_cons, List.append_assoc,
      List.singleton_append]

theorem spell_bytes (done bytes : Bytes) (rest : List Piece) :
    spell done (bytes.map .byte ++ rest) = spell (bytes.reverse ++ done) rest := by
  induction bytes generalizing done with
  | nil => rfl
  | cons b bytes ih =>
    rw [List.map_cons, List.cons_append, spell, ih, List.reverse_cons, List.append_assoc,
      List.singleton_append]

theorem spell_unit (done : Bytes) {u : Nat} (h : u < 0xD800) (rest : List Piece) :
    spell done (.unit u :: rest) =
      spell ((String.utf8EncodeChar (Char.ofNat u)).reverse ++ done) rest := by
  have hhigh : Utf16.isHigh u = false := by simp [Utf16.isHigh]; omega
  have hlow : Utf16.isLow u = false := by simp [Utf16.isLow]; omega
  cases rest with
  | nil => simp [spell, hhigh, hlow]
  | cons piece rest => cases piece <;> simp [spell, hhigh, hlow]

theorem hexDigit?_hexChar {n : Nat} (h : n < 16) :
    hexDigit? (UInt8.ofNat (hexChar n).toNat) = some n ∧ (hexChar n).toNat < 0x80 := by
  have hall : ∀ n : Fin 16,
      hexDigit? (UInt8.ofNat (hexChar n).toNat) = some n.val ∧ (hexChar n).toNat < 0x80 := by decide
  exact hall ⟨n, h⟩

theorem feed_hex {d left acc : Nat} (h : d < 16) :
    feed ⟨.string owner (.hex left acc) pieces, stack⟩ [hexChar d] =
      if left ≤ 1 then ⟨.string owner .plain (.unit (acc * 16 + d) :: pieces), stack⟩
      else ⟨.string owner (.hex (left - 1) (acc * 16 + d)) pieces, stack⟩ := by
  obtain ⟨hdigit, hascii⟩ := hexDigit?_hexChar h
  simp only [feed_ascii _ hascii, Reader.step, Reader.inString, hdigit]

/-- A unit below U+0100 that is written as an escape. -/
theorem feed_unit {u : Nat} (h : u < 0x100) :
    feed ⟨.string owner .plain pieces, stack⟩
        ['\\', 'u', '0', '0', hexChar (u / 16), hexChar (u % 16)] =
      ⟨.string owner .plain (.unit u :: pieces), stack⟩ := by
  have hstart : feed ⟨.string owner .plain pieces, stack⟩ ['\\', 'u', '0', '0'] =
      ⟨.string owner (.hex 2 0) pieces, stack⟩ := rfl
  have hsplit : ['\\', 'u', '0', '0', hexChar (u / 16), hexChar (u % 16)] =
      ['\\', 'u', '0', '0'] ++ ([hexChar (u / 16)] ++ [hexChar (u % 16)]) := rfl
  rw [hsplit, feed_append, hstart, feed_append, feed_hex (by omega), if_neg (by omega),
    feed_hex (by omega), if_pos (by omega), show (0 * 16 + u / 16) * 16 + u % 16 = u by omega]

/-- A byte of a character is the character or none of ASCII. -/
theorem byte_of_char {c : Char} {b : UInt8} (h : b ∈ String.utf8EncodeChar c) :
    b.toNat = c.toNat ∨ 0x80 ≤ b.toNat := by
  have hspells := Utf8.spells_utf8EncodeChar c
  generalize String.utf8EncodeChar c = bytes at *
  cases hspells <;> simp only [List.mem_cons, List.not_mem_nil, or_false] at h <;>
    rcases h with rfl | rfl | rfl | rfl <;> omega

/-- What is written for a character is read as pieces that spell it. -/
theorem feed_escapeChar (c : Char) : ∃ ps,
    (∀ owner pieces stack, feed ⟨.string owner .plain pieces, stack⟩ (escapeChar c) =
      ⟨.string owner .plain (ps.reverse ++ pieces), stack⟩) ∧
    ∀ done rest, spell done (ps ++ rest) =
      spell ((String.utf8EncodeChar c).reverse ++ done) rest := by
  unfold escapeChar
  split
  · exact ⟨[.byte 0x22], fun _ _ _ => rfl, fun _ _ => rfl⟩
  · exact ⟨[.byte 0x5C], fun _ _ _ => rfl, fun _ _ => rfl⟩
  · exact ⟨[.byte 0x08], fun _ _ _ => rfl, fun _ _ => rfl⟩
  · exact ⟨[.byte 0x0C], fun _ _ _ => rfl, fun _ _ => rfl⟩
  · exact ⟨[.byte 0x0A], fun _ _ _ => rfl, fun _ _ => rfl⟩
  · exact ⟨[.byte 0x0D], fun _ _ _ => rfl, fun _ _ => rfl⟩
  · exact ⟨[.byte 0x09], fun _ _ _ => rfl, fun _ _ => rfl⟩
  · rename_i hquote hescape _ _ _ _ _
    split
    · rename_i hcontrol
      refine ⟨[.unit c.toNat], fun owner pieces stack => feed_unit (by omega), fun done rest => ?_⟩
      rw [List.singleton_append, spell_unit done (by omega), Char.ofNat_toNat]
    · rename_i hcontrol
      have hquote' : c.toNat ≠ 0x22 := fun h => hquote (Char.toNat_inj.mp h)
      have hescape' : c.toNat ≠ 0x5C := fun h => hescape (Char.toNat_inj.mp h)
      refine ⟨(String.utf8EncodeChar c).map .byte, fun owner pieces stack => ?_,
        fun done rest => spell_bytes _ _ _⟩
      rw [feed, List.flatMap_singleton, feed_plain fun b hb => ?_]
      rcases byte_of_char hb with h | h <;> omega

/-- What is written for the characters of a text is read as pieces that spell it. -/
theorem feed_escaped (cs : List Char) : ∃ ps,
    (∀ owner pieces stack, feed ⟨.string owner .plain pieces, stack⟩ (cs.flatMap escapeChar) =
      ⟨.string owner .plain (ps.reverse ++ pieces), stack⟩) ∧
    ∀ done, spell done ps = some (done.reverse ++ cs.flatMap String.utf8EncodeChar) := by
  induction cs with
  | nil => exact ⟨[], fun _ _ _ => rfl, fun done => by simp [spell]⟩
  | cons c rest ih =>
    obtain ⟨ps, hfeed, hspell⟩ := feed_escapeChar c
    obtain ⟨ps', hfeed', hspell'⟩ := ih
    refine ⟨ps ++ ps', fun owner pieces stack => ?_, fun done => ?_⟩
    · rw [List.flatMap_cons, feed_append, hfeed, hfeed', List.reverse_append, List.append_assoc]
    · rw [hspell, hspell', List.reverse_append, List.reverse_reverse, List.flatMap_cons,
        List.append_assoc]

/-- What is written for a text is read as a literal that spells it. -/
theorem feed_literal (s : Option String) : ∃ pieces, literalText pieces = s ∧
    ∀ r owner stack, feed r ['"'] = ⟨.string owner .plain [], stack⟩ →
      feed r (quote s) = feed ⟨.string owner .plain pieces, stack⟩ ['"'] := by
  cases s with
  | none =>
    refine ⟨[.unit 0xD800], rfl, fun r owner stack h => ?_⟩
    have hsplit : quote none = ['"'] ++ (['\\', 'u', 'd', '8', '0', '0'] ++ ['"']) := rfl
    rw [hsplit, feed_append, h, feed_append]
    rfl
  | some s =>
    obtain ⟨ps, hfeed, hspell⟩ := feed_escaped s.toList
    refine ⟨ps.reverse, ?_, fun r owner stack h => ?_⟩
    · rw [literalText, List.reverse_reverse, hspell]
      exact Utf8.decode?_ofText s
    · have hsplit : quote (some s) = ['"'] ++ (s.toList.flatMap escapeChar ++ ['"']) := rfl
      rw [hsplit, feed_append, h, feed_append, hfeed, List.append_nil]

/-- **A string value is read from what is written for it.** -/
theorem feed_quote (closable : Bool) (stack : List Frame) (s : Option String) :
    feed ⟨.value closable, stack⟩ (quote s) = .complete stack (.string s) := by
  obtain ⟨pieces, hpieces, hfeed⟩ := feed_literal s
  rw [hfeed _ none stack rfl, ← hpieces]
  rfl

/-- A member's name is read from what is written for it. -/
theorem feed_name (done : List (Option String × Json)) (closable : Bool) (stack : List Frame)
    (s : Option String) : feed ⟨.name done closable, stack⟩ (quote s) = ⟨.colon done s, stack⟩ := by
  obtain ⟨pieces, hpieces, hfeed⟩ := feed_literal s
  rw [hfeed _ (some done) stack rfl, ← hpieces]
  rfl

/-! ## Number literals -/

/-- The blanks of a text. -/
def blanks : List Char := [' ', '\n', '\r', '\t']

/-- What can follow a value inside a container. -/
def delimiters : List Char := [',', ']', '}'] ++ blanks

/-- Readers that cannot be told apart by what can follow a value: a delimiter or the end. -/
structure Reader.Alike (r r' : Reader) : Prop where
  delimiter {c : Char} (hc : c ∈ delimiters) : feed r [c] = feed r' [c]
  finish : r.finish = r'.finish

theorem Reader.Alike.refl (r : Reader) : r.Alike r := ⟨fun _ => rfl, rfl⟩

/-- Where a number literal may end. -/
def InNumber.MayEnd (p : InNumber) : Prop := p = .zero ∨ p = .whole ∨ p = .exponent

/-- No delimiter continues a number literal. -/
theorem delimiter_byte {c : Char} (hc : c ∈ delimiters) :
    let b := UInt8.ofNat c.toNat
    c.toNat < 0x80 ∧ ¬(0x30 ≤ b ∧ b ≤ 0x39) ∧ (b == 0x2E) = false ∧
      (b == 0x65 || b == 0x45) = false := by
  simp only [delimiters, blanks, List.cons_append, List.nil_append, List.mem_cons,
    List.not_mem_nil, or_false] at hc
  rcases hc with rfl | rfl | rfl | rfl | rfl | rfl | rfl <;> decide

/-- A number literal that may end where it stands is like its number. -/
theorem alike_number {f : Figures} {n : Numeral} (hf : f.place.MayEnd) (hn : f.finish? = some n)
    (stack : List Frame) :
    Reader.Alike ⟨.number f, stack⟩ (.complete stack (.number n)) := by
  have hafter : ∀ b, (Reader.complete stack (.number n)).step b =
      (Reader.complete stack (.number n)).after b := fun b => by
    match stack with
    | [] => rfl
    | .array _ :: _ => rfl
    | .object _ _ :: _ => rfl
  refine ⟨fun {c} hc => ?_, ?_⟩
  · obtain ⟨hascii, hdigit, hpoint, hmark⟩ := delimiter_byte hc
    have hends : f.step? (UInt8.ofNat c.toNat) = none := by
      simp only [Figures.step?, if_neg hdigit, hpoint, hmark]
      rcases hf with hf | hf | hf <;> simp only [hf, Bool.false_eq_true, if_false]
    rw [feed_ascii _ hascii, feed_ascii _ hascii, hafter, Reader.step]
    simp only [hends, hn]
  · match stack with
    | [] => simp [Reader.finish, Reader.complete, hn]
    | .array _ :: _ => rfl
    | .object _ _ :: _ => rfl

/-! ### Digits -/

theorem digitChar_ascii {d : Nat} (h : d < 10) : (Nat.digitChar d).toNat < 0x80 := by
  have hall : ∀ d : Fin 10, (Nat.digitChar d).toNat < 0x80 := by decide
  exact hall ⟨d, h⟩

theorem feed_digit {f f' : Figures} {d : Nat} (h : d < 10)
    (hf : f.step? (UInt8.ofNat (Nat.digitChar d).toNat) = some f') (stack : List Frame) :
    feed ⟨.number f, stack⟩ [Nat.digitChar d] = ⟨.number f', stack⟩ := by
  rw [feed_ascii _ (digitChar_ascii h), Reader.step]
  simp only [hf]

theorem digitChar_digit {d : Nat} (h : d < 10) :
    let b := UInt8.ofNat (Nat.digitChar d).toNat
    (if 0x30 ≤ b ∧ b ≤ 0x39 then some (b.toNat - 0x30) else none) = some d := by
  have hall : ∀ d : Fin 10, let b := UInt8.ofNat (Nat.digitChar d).toNat
    (if 0x30 ≤ b ∧ b ≤ 0x39 then some (b.toNat - 0x30) else none) = some d.val := by decide
  exact hall ⟨d, h⟩

theorem step?_sign (negative : Bool) {d : Nat} (h : d < 10) :
    Figures.step? ⟨.sign, negative, 0, 0, false, 0⟩ (UInt8.ofNat (Nat.digitChar d).toNat) =
      some ⟨if d = 0 then .zero else .whole, negative, d, 0, false, 0⟩ := by
  simp only [Figures.step?, digitChar_digit h]
  cases d <;> rfl

theorem step?_whole (negative : Bool) (m : Nat) {d : Nat} (h : d < 10) :
    Figures.step? ⟨.whole, negative, m, 0, false, 0⟩ (UInt8.ofNat (Nat.digitChar d).toNat) =
      some ⟨.whole, negative, m * 10 + d, 0, false, 0⟩ := by
  simp only [Figures.step?, digitChar_digit h]

theorem step?_exponent {f : Figures} {d : Nat} (h : d < 10)
    (hp : f.place = .mark ∨ f.place = .exponentSign ∨ f.place = .exponent) :
    f.step? (UInt8.ofNat (Nat.digitChar d).toNat) =
      some { f with place := .exponent, exponent := f.exponent * 10 + d } := by
  simp only [Figures.step?, digitChar_digit h]
  rcases hp with hp | hp | hp <;> simp only [hp]

/-- What holds of each digit, and goes on to hold with another one behind, holds of the digits of
every number. -/
theorem toDigits_induction {P : Nat → List Char → Prop}
    (single : ∀ d < 10, P d [Nat.digitChar d])
    (append : ∀ n d, 0 < n → d < 10 → P n (Nat.toDigits 10 n) →
      P (n * 10 + d) (Nat.toDigits 10 n ++ [Nat.digitChar d])) (n : Nat) :
    P n (Nat.toDigits 10 n) := by
  induction n using Nat.strongRecOn with
  | _ n ih =>
    by_cases h : n < 10
    · rw [Nat.toDigits_of_lt_base h]
      exact single n h
    · have happend := append (n / 10) (n % 10) (by omega) (by omega) (ih (n / 10) (by omega))
      rwa [show n / 10 * 10 + n % 10 = n by omega,
        ← Nat.toDigits_of_base_le (by omega) (by omega)] at happend

/-- The digits of a number give it back as the whole part of a literal. -/
theorem feed_magnitude (negative : Bool) (n : Nat) (stack : List Frame) :
    feed ⟨.number ⟨.sign, negative, 0, 0, false, 0⟩, stack⟩ (Nat.toDigits 10 n) =
      ⟨.number ⟨if n = 0 then .zero else .whole, negative, n, 0, false, 0⟩, stack⟩ := by
  refine toDigits_induction (P := fun n cs => feed _ cs =
    ⟨.number ⟨if n = 0 then .zero else .whole, negative, n, 0, false, 0⟩, stack⟩)
    (fun d hd => feed_digit hd (step?_sign negative hd) stack) (fun n d hn hd ih => ?_) n
  rw [feed_append, ih, if_neg (by omega), if_neg (by omega),
    feed_digit hd (step?_whole negative n hd)]

/-- The digits of a number give it back as the exponent of a literal. -/
theorem feed_exponent {f : Figures} (hp : f.place = .mark ∨ f.place = .exponentSign)
    (hf : f.exponent = 0) (n : Nat) (stack : List Frame) :
    feed ⟨.number f, stack⟩ (Nat.toDigits 10 n) =
      ⟨.number { f with place := .exponent, exponent := n }, stack⟩ := by
  refine toDigits_induction (P := fun n cs => feed _ cs =
    ⟨.number { f with place := .exponent, exponent := n }, stack⟩)
    (fun d hd => ?_) (fun n d hn hd ih => ?_) n
  · rw [feed_digit hd (step?_exponent hd (by tauto)), hf, Nat.zero_mul, Nat.zero_add]
  · rw [feed_append, ih, feed_digit hd (step?_exponent hd (.inr (.inr rfl)))]

/-- A literal without a sign begins with its digits. -/
theorem feed_unsigned (closable : Bool) (stack : List Frame) (n : Nat) :
    feed ⟨.value closable, stack⟩ (Nat.toDigits 10 n) =
      feed ⟨.number ⟨.sign, false, 0, 0, false, 0⟩, stack⟩ (Nat.toDigits 10 n) := by
  refine toDigits_induction (P := fun _ cs => feed _ cs = feed _ cs) (fun d hd => ?_)
    (fun n d _ _ ih => ?_) n
  · interval_cases d <;> rfl
  · rw [feed_append, ih, feed_append]

/-- The sign and the digits of a number, which may end there or go on to an exponent. -/
theorem feed_signed (closable : Bool) (stack : List Frame) (negative : Bool) (n : Nat) :
    ∃ place, (place = .zero ∨ place = .whole) ∧
      feed ⟨.value closable, stack⟩ ((if negative then ['-'] else []) ++ Nat.toDigits 10 n) =
        ⟨.number ⟨place, negative, n, 0, false, 0⟩, stack⟩ := by
  refine ⟨if n = 0 then .zero else .whole, by split_ifs <;> simp, ?_⟩
  cases negative with
  | false => exact (feed_unsigned closable stack n).trans (feed_magnitude false n stack)
  | true =>
    have hsign : feed ⟨.value closable, stack⟩ ['-'] =
      ⟨.number ⟨.sign, true, 0, 0, false, 0⟩, stack⟩ := rfl
    rw [if_pos rfl, feed_append, hsign, feed_magnitude]

/-- An exponent as it is written. -/
theorem toList_toString (e : Int) : (toString e).toList =
    if 0 ≤ e then Nat.toDigits 10 e.toNat else '-' :: Nat.toDigits 10 (-e).toNat := by
  have h : toString e = e.repr := rfl
  rw [h, Int.repr_eq_if]
  split_ifs
  · rw [Nat.repr_eq_ofList_toDigits, String.toList_ofList]
  · rw [Nat.repr_eq_ofList_toDigits, String.toList_append, String.toList_ofList,
      String.toList_ofList, List.singleton_append]

/-- **A number is read from what is written for it.** -/
theorem feed_numeral (closable : Bool) (stack : List Frame) {n : Numeral} (h : n.Normal) :
    (feed ⟨.value closable, stack⟩ (numeral n)).Alike (.complete stack (.number n)) := by
  cases n with
  | whole negative n =>
    obtain ⟨place, hplace, hfeed⟩ := feed_signed closable stack negative n
    have hzero : (negative && n == 0) = false := by
      cases negative with
      | false => rfl
      | true => exact beq_eq_false_iff_ne.mpr fun hn => h (hn ▸ rfl)
    rw [numeral, hfeed]
    rcases hplace with rfl | rfl
    · exact alike_number (.inl rfl) (by simp [Figures.finish?, hzero]) stack
    · exact alike_number (.inr (.inl rfl)) (by simp [Figures.finish?, hzero]) stack
  | scaled negative m e =>
    obtain ⟨place, hplace, hfeed⟩ := feed_signed closable stack negative m
    have hmark : feed ⟨.number ⟨place, negative, m, 0, false, 0⟩, stack⟩ ['e'] =
        ⟨.number ⟨.mark, negative, m, 0, false, 0⟩, stack⟩ := by
      rcases hplace with rfl | rfl <;> rfl
    rw [numeral, feed_append, hfeed, feed_cons, hmark, toList_toString]
    split_ifs with he
    · rw [feed_exponent (.inl rfl) rfl]
      exact alike_number (.inr (.inr rfl)) (by simp [Figures.finish?, he]) stack
    · have hminus : feed ⟨.number ⟨.mark, negative, m, 0, false, 0⟩, stack⟩ ['-'] =
          ⟨.number ⟨.exponentSign, negative, m, 0, true, 0⟩, stack⟩ := rfl
      rw [feed_cons, hminus, feed_exponent (.inr rfl) rfl]
      refine alike_number (.inr (.inr rfl)) ?_ stack
      simp only [Figures.finish?, if_true, Int.natCast_zero, Int.sub_zero]
      rw [show -((-e).toNat : Int) = e by omega]

end Json

end Interpose
