import Interpose.Text.Base64

/-!
# Base 64 there and back

Every six bits have their digit (`value?_digit`), and no digit is padding, so the digits of a byte
string are read four at a time and give it back (`decode?_encode`).
-/

namespace Interpose.Base64

/-- A digit stands for its value, and is no padding. -/
theorem value?_digit {n : Nat} (h : n < 64) : value? (digit n) = some n := by
  have hall : ∀ n : Fin 64, value? (digit n) = some n.val := by decide
  exact hall ⟨n, h⟩

theorem digit_ne_padding {n : Nat} (h : n < 64) : digit n ≠ '=' := by
  have hall : ∀ n : Fin 64, digit n ≠ '=' := by decide
  exact hall ⟨n, h⟩


/-- Writing goes on after the digits written. -/
theorem encodeFrom_eq : ∀ (s : Bytes) (done : List Char),
    encodeFrom done s = done.reverse ++ encodeFrom [] s
  | [], done | [_], done | [_, _], done => by simp [encodeFrom]
  | a :: b :: c :: rest, done => by
    rw [encodeFrom, encodeFrom_eq rest, encodeFrom, encodeFrom_eq rest [_, _, _, _]]
    simp only [List.reverse_cons, List.reverse_nil, List.nil_append, List.append_assoc]

/-- Reading on after four digits. -/
theorem decodeFrom_digits (done : Bytes) {w x y z : Nat} (hw : w < 64) (hx : x < 64) (hy : y < 64)
    (hz : z < 64) (rest : List Char) :
    decodeFrom done (digit w :: digit x :: digit y :: digit z :: rest) =
      let n := w * 262144 + x * 4096 + y * 64 + z
      decodeFrom (UInt8.ofNat (n % 256) :: UInt8.ofNat (n / 256 % 256) ::
        UInt8.ofNat (n / 65536) :: done) rest := by
  have hlast := digit_ne_padding hz
  rw [decodeFrom]
  · simp only [value?_digit, hw, hx, hy, hz]
  · exact fun _ h _ => hlast h
  · exact fun h _ => hlast h

/-- The digits of a byte string are read as its bytes. -/
theorem decodeFrom_encode : ∀ (s done : Bytes),
    decodeFrom done (encodeFrom [] s) = some (done.reverse ++ s)
  | [], done => by simp [encodeFrom, decodeFrom]
  | [a], done => by
    have ha := a.toNat_lt
    have hx : a.toNat * 16 / 64 < 64 := by omega
    have hy : a.toNat * 16 % 64 < 64 := by omega
    simp only [encodeFrom, List.reverse_cons, List.reverse_nil, List.nil_append,
      List.cons_append, decodeFrom, value?_digit hx, value?_digit hy, Option.bind_eq_bind,
      Option.bind_some]
    rw [if_pos (by omega),
      show (a.toNat * 16 / 64 * 64 + a.toNat * 16 % 64) / 16 = a.toNat by omega, UInt8.ofNat_toNat]
  | [a, b], done => by
    have hback : ∀ n, n / 4096 * 4096 + n / 64 % 64 * 64 + n % 64 = n := fun n => by omega
    have ha := a.toNat_lt
    have hb := b.toNat_lt
    simp only [encodeFrom, List.reverse_cons, List.reverse_nil, List.nil_append, List.cons_append]
    generalize hn : a.toNat * 1024 + b.toNat * 4 = n
    have hz : n % 64 < 64 := by omega
    have hy : n / 64 % 64 < 64 := by omega
    have hx : n / 4096 < 64 := by omega
    rw [decodeFrom]
    · simp only [value?_digit hx, value?_digit hy, value?_digit hz, Option.bind_eq_bind,
        Option.bind_some]
      rw [hback, if_pos (by omega), show n / 4 % 256 = b.toNat by omega,
        show n / 1024 = a.toNat by omega, UInt8.ofNat_toNat, UInt8.ofNat_toNat]
      simp
    · exact digit_ne_padding hz
  | a :: b :: c :: rest, done => by
    have hback : ∀ n, n / 262144 * 262144 + n / 4096 % 64 * 4096 + n / 64 % 64 * 64 + n % 64 = n :=
      fun n => by omega
    have ha := a.toNat_lt
    have hb := b.toNat_lt
    have hc := c.toNat_lt
    rw [encodeFrom, encodeFrom_eq]
    simp only [List.reverse_cons, List.reverse_nil, List.nil_append, List.cons_append]
    generalize hn : a.toNat * 65536 + b.toNat * 256 + c.toNat = n
    rw [decodeFrom_digits done (by omega) (by omega) (by omega) (by omega)]
    simp only [hback]
    rw [show n % 256 = c.toNat by omega, show n / 256 % 256 = b.toNat by omega,
      show n / 65536 = a.toNat by omega, UInt8.ofNat_toNat, UInt8.ofNat_toNat, UInt8.ofNat_toNat,
      decodeFrom_encode rest]
    simp

/-- **Decoding base 64 gives the encoded bytes back.** -/
theorem decode?_encode (s : Bytes) : decode? (encode s) = some s := by
  rw [decode?, encode, String.toList_ofList, decodeFrom_encode, List.reverse_nil, List.nil_append]

end Interpose.Base64
