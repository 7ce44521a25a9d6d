import Interpose.Compression.Gzip

/-!
# Writing without compressing

Each of the compressed formats can hold a byte string as it is, in stored blocks. `Inflate.store`
writes a string so as a raw stream, and `Gzip.store` and `Zlib.store` wrap that stream with header
and checksum. Each reader gives back what its writer has written (`inflate?_store`,
`Gzip.decode?_store`, `Zlib.decode?_store`), so every byte string has a form in each format.

No reader takes the form of another format for its own (`Zlib.decode?_raw`, `Zlib.decode?_gzip`,
`inflate?_gzip`, `Gzip.decode?_zlib`).
-/

namespace Interpose

/-! ## Streams of stored blocks -/

namespace Inflate

/-- A number below 65536 in two bytes, least significant first. -/
def twoBytes (n : Nat) : Bytes := [UInt8.ofNat (n % 256), UInt8.ofNat (n / 256)]

/-- A block that holds bytes as they are. -/
def storedBlock (last : Bool) (content : Bytes) : Bytes :=
  (if last then 1 else 0) ::
    (twoBytes content.length ++ twoBytes (0xFFFF - content.length) ++ content)

/-- A stream of stored blocks, each as long as it can be. -/
def store (content : Bytes) : Bytes :=
  if content.length ≤ 0xFFFF then storedBlock true content
  else storedBlock false (content.take 0xFFFF) ++ store (content.drop 0xFFFF)
termination_by content.length
decreasing_by
  rw [List.length_drop]
  omega

theorem foldl_push (bytes : Bytes) (out : Output) : bytes.foldl Array.push out = out ++ bytes := by
  rw [← Array.toList_inj]
  simp

theorem stored?_storedBlock {content : Bytes} (h : content.length ≤ 0xFFFF) (rest : Bytes)
    (out : Output) :
    stored? ⟨[], twoBytes content.length ++ twoBytes (0xFFFF - content.length) ++ content ++ rest⟩
      out = .ok (⟨[], rest⟩, out ++ content) := by
  have hlength : (UInt8.ofNat (content.length % 256)).toNat +
      256 * (UInt8.ofNat (content.length / 256)).toNat = content.length := by
    simp only [UInt8.toNat_ofNat']
    omega
  have hcomplement : (UInt8.ofNat ((0xFFFF - content.length) % 256)).toNat +
      256 * (UInt8.ofNat ((0xFFFF - content.length) / 256)).toNat = 0xFFFF - content.length := by
    simp only [UInt8.toNat_ofNat']
    omega
  have hsum : content.length + (0xFFFF - content.length) = 0xFFFF := by omega
  simp only [stored?, twoBytes, List.cons_append, List.nil_append, hlength, hcomplement, hsum,
    if_true, List.take_left, List.drop_left, Nat.lt_irrefl, if_false, foldl_push]

/-- A stored block is read, and if it is not the last, the next block after it. -/
theorem blocks?_storedBlock {content : Bytes} (h : content.length ≤ 0xFFFF) (fuel : Nat)
    (last : Bool) (rest : Bytes) (out : Output) :
    blocks? (fuel + 1) ⟨[], storedBlock last content ++ rest⟩ out =
      if last then .ok (⟨[], rest⟩, out ++ content)
      else blocks? fuel ⟨[], rest⟩ (out ++ content) := by
  have hstored := stored?_storedBlock h rest out
  have hbits : ∀ b : Bool, BitSource.bitsOf (if b then 1 else 0) =
      [b, false, false, false, false, false, false, false] := by decide
  simp only [blocks?, storedBlock, List.cons_append, BitSource.bit?, hbits, BitSource.number?,
    BitSource.align, bind, Except.bind, pure, Except.pure, hstored]
  cases last <;> rfl

/-- The blocks of a stream are read one after the other. -/
theorem blocks?_store (content rest : Bytes) (fuel : Nat) (hfuel : content.length < fuel)
    (out : Output) :
    blocks? fuel ⟨[], store content ++ rest⟩ out = .ok (⟨[], rest⟩, out ++ content) := by
  induction content using store.induct generalizing fuel out with
  | case1 content hshort =>
    obtain ⟨fuel, rfl⟩ : ∃ n, fuel = n + 1 := ⟨fuel - 1, by omega⟩
    rw [store, if_pos hshort, blocks?_storedBlock hshort]
    rfl
  | case2 content hlong ih =>
    obtain ⟨fuel, rfl⟩ : ∃ n, fuel = n + 1 := ⟨fuel - 1, by omega⟩
    have hblock : (content.take 0xFFFF).length ≤ 0xFFFF := List.length_take_le _ _
    have hless : (content.drop 0xFFFF).length < fuel := by
      rw [List.length_drop]
      omega
    have hjoined : out ++ content.take 0xFFFF ++ content.drop 0xFFFF = out ++ content := by
      rw [← Array.toList_inj]
      simp
    rw [store, if_neg hlong, List.append_assoc, blocks?_storedBlock hblock, if_neg (by simp),
      ih fuel hless, hjoined]

theorem length_lt_store (content : Bytes) : content.length < (store content).length := by
  induction content using store.induct with
  | case1 content hshort =>
    rw [store, if_pos hshort]
    simp [storedBlock, twoBytes]
    omega
  | case2 content hlong ih =>
    rw [store, if_neg hlong]
    simp only [storedBlock, List.length_append, List.length_cons, List.length_drop,
      List.length_take] at ih ⊢
    omega

/-- The first byte of a stream of stored blocks says whether there is but one. -/
theorem exists_store (content : Bytes) :
    ∃ (first : UInt8) (rest : Bytes), store content = first :: rest ∧ (first = 0 ∨ first = 1) := by
  rw [store]
  split
  · exact ⟨1, _, rfl, Or.inr rfl⟩
  · exact ⟨0, _, rfl, Or.inl rfl⟩

end Inflate

open Inflate

/-- **A stream of stored blocks holds what was stored, whatever follows it.** -/
theorem inflate?_store (content rest : Bytes) :
    inflate? (store content ++ rest) = .ok (content, rest) := by
  have hlength := length_lt_store content
  have hfuel : content.length < 8 * (store content ++ rest).length + 1 := by
    rw [List.length_append]
    omega
  rw [inflate?, blocks?_store content rest _ hfuel]
  simp

/-! ## Wrapped streams -/

/-- A number below 2^32 in four bytes, least significant first. -/
def fourBytes (n : Nat) : Bytes :=
  [UInt8.ofNat (n % 256), UInt8.ofNat (n / 256 % 256), UInt8.ofNat (n / 65536 % 256),
    UInt8.ofNat (n / 16777216)]

namespace Gzip

/-- The header of a member without extra data, name or comment. -/
def plainHeader : Bytes := [0x1F, 0x8B, 8, 0, 0, 0, 0, 0, 0, 255]

/-- A member that holds bytes as they are. -/
def store (content : Bytes) : Bytes :=
  plainHeader ++ (Inflate.store content ++
    (fourBytes (crc32 content).toNat ++ fourBytes (content.length % 0x100000000)))

theorem littleEndian_fourBytes {n : Nat} (h : n < 0x100000000) :
    littleEndian (UInt8.ofNat (n % 256)) (UInt8.ofNat (n / 256 % 256))
      (UInt8.ofNat (n / 65536 % 256)) (UInt8.ofNat (n / 16777216)) = n := by
  simp only [littleEndian, UInt8.toNat_ofNat']
  omega

theorem afterHeader?_plainHeader (rest : Bytes) :
    afterHeader? (plainHeader ++ rest) = .ok rest := rfl

theorem decode?_store (content : Bytes) : decode? (store content) = .ok content := by
  have hcrc : (crc32 content).toNat < 0x100000000 := (crc32 content).toNat_lt
  have hsize : content.length % 0x100000000 < 0x100000000 := Nat.mod_lt _ (by decide)
  have hends := littleEndian_fourBytes hcrc
  have hlength := littleEndian_fourBytes hsize
  simp only [store, decode?, afterHeader?_plainHeader, bind, Except.bind, inflate?_store,
    fourBytes, List.cons_append, List.nil_append, hends, hlength]
  simp [pure, Except.pure]

end Gzip

namespace Zlib

/-- A stream that holds bytes as they are. -/
def store (content : Bytes) : Bytes :=
  0x78 :: 0x01 :: (Inflate.store content ++ (fourBytes (adler32 content)).reverse)

/-- What a byte makes of the two sums of the checksum. -/
def adlerStep (sums : Nat × Nat) (x : UInt8) : Nat × Nat :=
  ((sums.1 + x.toNat) % 65521, (sums.2 + (sums.1 + x.toNat) % 65521) % 65521)

theorem adler32_eq (content : Bytes) : adler32 content =
    (content.foldl adlerStep (1, 0)).2 * 65536 + (content.foldl adlerStep (1, 0)).1 := rfl

/-- Both sums stay below their modulus. -/
theorem foldl_adlerStep_lt (content : Bytes) {sums : Nat × Nat}
    (h : sums.1 < 65521 ∧ sums.2 < 65521) :
    (content.foldl adlerStep sums).1 < 65521 ∧ (content.foldl adlerStep sums).2 < 65521 := by
  induction content generalizing sums with
  | nil => exact h
  | cons x content ih => exact ih ⟨Nat.mod_lt _ (by decide), Nat.mod_lt _ (by decide)⟩

theorem adler32_lt (content : Bytes) : adler32 content < 0x100000000 := by
  have hstart : ((1, 0) : Nat × Nat).1 < 65521 ∧ ((1, 0) : Nat × Nat).2 < 65521 := by decide
  have hsums := foldl_adlerStep_lt content hstart
  rw [adler32_eq]
  omega

theorem decode?_store (content : Bytes) : decode? (store content) = some content := by
  have hsum := adler32_lt content
  simp only [store, decode?, List.cons_append, List.nil_append, inflate?_store,
    fourBytes, List.reverse_cons, List.reverse_nil]
  simp
  omega

end Zlib

/-! ## Forms told apart -/

/-- A zlib stream names its method in the low half of its first byte. -/
theorem Zlib.decode?_eq_none {first : UInt8} (h : first.toNat % 16 ≠ 8) (rest : Bytes) :
    Zlib.decode? (first :: rest) = none := by
  cases rest with
  | nil => rfl
  | cons second stream =>
    simp only [Zlib.decode?]
    rw [if_neg fun hheader => h hheader.2.1]

theorem Zlib.decode?_raw (content rest : Bytes) :
    Zlib.decode? (Inflate.store content ++ rest) = none := by
  obtain ⟨first, tail, hstore, rfl | rfl⟩ := exists_store content
  · rw [hstore]
    exact Zlib.decode?_eq_none (by decide) _
  · rw [hstore]
    exact Zlib.decode?_eq_none (by decide) _

theorem Zlib.decode?_gzip (content : Bytes) : Zlib.decode? (Gzip.store content) = none :=
  @Zlib.decode?_eq_none 0x1F (by decide) _

/-- A gzip member begins like a block of a kind that does not exist. -/
theorem inflate?_gzip (content : Bytes) : inflate? (Gzip.store content) = .error .corrupt := rfl

theorem Gzip.decode?_zlib (content : Bytes) :
    ∃ trouble, Gzip.decode? (Zlib.store content) = .error trouble := by
  have hheader : ∃ trouble, Gzip.afterHeader? (Zlib.store content) = .error trouble := by
    unfold Gzip.afterHeader?
    split
    · rename_i heq
      simp only [Zlib.store, List.cons.injEq] at heq
      obtain ⟨rfl, -⟩ := heq
      exact ⟨.badHeader, rfl⟩
    · exact ⟨.endOfInput, rfl⟩
  obtain ⟨trouble, htrouble⟩ := hheader
  exact ⟨trouble, by rw [Gzip.decode?, htrouble]; rfl⟩

end Interpose
