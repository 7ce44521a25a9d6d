import Interpose.Url.Parser

/-!
# What hosts are made of

Whatever a URL looks like, its host holds no slash (`slash_not_mem_host`): an address is written in
digits with points or colons between them, the ASCII form of a domain name holds only characters
that may stand in one, and an opaque host is refused when it holds a character that ends a host.
Apart from that a host may be any text, the names `.` and `..` included.
-/

namespace Interpose.Host

/-! ## Addresses -/

theorem slash_not_mem_toDigits {base : Nat} (hb : 1 < base) (n : Nat) :
    '/' ∉ Nat.toDigits base n := by
  induction n using Nat.strongRecOn with
  | ind n ih =>
    rw [Nat.toDigits_eq_if hb]
    split
    · simp
    · have hn : n / base < n := Nat.div_lt_self (by omega) hb
      simp [ih _ hn]

theorem slash_not_mem_toString (n : Nat) : '/' ∉ (toString n).toList := by
  rw [Nat.toString_eq_ofList_toDigits, String.toList_ofList]
  exact slash_not_mem_toDigits (by decide) n

theorem slash_not_mem_intercalate {sep : List Char} {parts : List (List Char)}
    (hs : '/' ∉ sep) (hp : ∀ part ∈ parts, '/' ∉ part) : '/' ∉ sep.intercalate parts := by
  induction parts with
  | nil => simp
  | cons part rest ih =>
    have hpart := hp part (by simp)
    have hrest := ih fun q hq => hp q (by simp [hq])
    cases rest with
    | nil => simpa using hpart
    | cons next rest =>
      rw [List.intercalate_cons_cons]
      simp [hs, hpart, hrest]

theorem slash_not_mem_ipv4Text (n : Nat) : '/' ∉ (ipv4Text n).toList := by
  rw [ipv4Text, String.toList_intercalate]
  refine slash_not_mem_intercalate (by decide) fun part hp => ?_
  simp only [List.map_map, List.mem_map, Function.comp_apply] at hp
  obtain ⟨m, -, rfl⟩ := hp
  exact slash_not_mem_toString m

theorem slash_not_mem_groups (gs : List Nat) : '/' ∉ [':'].intercalate (gs.map groupText) := by
  refine slash_not_mem_intercalate (by decide) fun part hp => ?_
  obtain ⟨g, -, rfl⟩ := List.mem_map.mp hp
  exact slash_not_mem_toDigits (by decide) g

theorem slash_not_mem_ipv6Text (gs : List Nat) : '/' ∉ (ipv6Text gs).toList := by
  unfold ipv6Text
  simp only [String.toList_ofList]
  split <;> simp [-List.map_take, -List.map_drop, slash_not_mem_groups]

theorem slash_not_mem_bracketed {s : List Char} {host : String} (h : bracketed? s = some host) :
    '/' ∉ host.toList := by
  unfold bracketed? at h
  split at h
  · obtain ⟨gs, -, rfl⟩ := Option.map_eq_some_iff.mp h
    exact slash_not_mem_ipv6Text gs
  · cases h

/-! ## Names -/

theorem hexDigit_ne_slash {n : Nat} (h : n < 16) : Percent.hexDigit n ≠ '/' := by
  have all : ∀ i : Fin 16, Percent.hexDigit i ≠ '/' := by decide
  exact all ⟨n, h⟩

theorem slash_not_mem_encodeByte (b : UInt8) : '/' ∉ Percent.encodeByte b := by
  have hb : b.toNat < 256 := b.toNat_lt
  have h1 := hexDigit_ne_slash (n := b.toNat / 16) (by omega)
  have h2 := hexDigit_ne_slash (n := b.toNat % 16) (by omega)
  simp [Percent.encodeByte, h1.symm, h2.symm]

/-- Percent encoding writes no slash that was not there. -/
theorem slash_not_mem_encode {set : Char → Bool} {s : List Char} (h : '/' ∉ s) :
    '/' ∉ Percent.encode set s := by
  rw [Percent.encode, List.mem_flatMap]
  rintro ⟨c, hc, hm⟩
  unfold Percent.encodeChar at hm
  split at hm
  · obtain ⟨b, -, hb⟩ := List.mem_flatMap.mp hm
    exact slash_not_mem_encodeByte b hb
  · obtain rfl := List.mem_singleton.mp hm
    exact h hc

theorem slash_not_mem_plainText {s : List Char} {host : String} (h : plainText? s = some host) :
    '/' ∉ host.toList := by
  unfold plainText? at h
  split at h
  · exact slash_not_mem_bracketed h
  · split at h
    · cases h
    · rename_i hf
      obtain rfl := Option.some.inj h
      rw [String.toList_ofList]
      refine slash_not_mem_encode fun hm => hf ?_
      exact List.any_eq_true.mpr ⟨'/', hm, by decide⟩

theorem slash_not_mem_toAscii {name ascii : List Char} (h : DomainName.toAscii? name = some ascii) :
    '/' ∉ ascii := by
  unfold DomainName.toAscii? at h
  split at h
  · cases h
  · split at h
    · rename_i hall
      obtain rfl := Option.some.inj h
      intro hm
      have := List.all_eq_true.mp hall '/' hm
      revert this
      decide
    · cases h

theorem slash_not_mem_special {s : List Char} {host : String} (h : special? s = some host) :
    '/' ∉ host.toList := by
  unfold special? at h
  split at h
  · exact slash_not_mem_bracketed h
  · split at h
    · cases h
    · split at h
      · cases h
      · cases h
      · rename_i ascii _ ha
        split at h
        · obtain ⟨n, -, rfl⟩ := Option.map_eq_some_iff.mp h
          exact slash_not_mem_ipv4Text n
        · obtain rfl := Option.some.inj h
          rw [String.toList_ofList]
          exact slash_not_mem_toAscii ha

end Interpose.Host

namespace Interpose.Url

/-! ## Whole URLs -/

theorem slash_not_mem_authority {k : SchemeKind} {input rest : List Char} {host : String}
    (h : authority? k input = some (some host, rest)) : '/' ∉ host.toList := by
  unfold authority? at h
  dsimp only at h
  split at h
  · cases h
  · rename_i host' hread
    have hs : '/' ∉ host'.toList := by
      split at hread
      · exact Host.slash_not_mem_plainText hread
      · exact Host.slash_not_mem_special hread
    -- the host that is shown is the one that was read, or none
    have shown : ∀ {shown : Option String}, shown = some host →
        shown = (if (host' == "") = true then none else some host') → '/' ∉ host.toList := by
      rintro _ rfl he
      split at he
      · cases he
      · obtain rfl := Option.some.inj he
        exact hs
    split at h
    · cases h
    · split at h
      · obtain ⟨after, -, he⟩ := Option.map_eq_some_iff.mp h
        exact shown (Prod.ext_iff.mp he).1 rfl
      · exact shown (Prod.ext_iff.mp (Option.some.inj h)).1 rfl

theorem slash_not_mem_fileParts {k : SchemeKind} {input rest : List Char} {host path : String}
    (h : fileParts? k input = some (some host, path, rest)) : '/' ∉ host.toList := by
  unfold fileParts? at h
  dsimp only at h
  -- a host is shown only where one was read
  repeat' split at h
  all_goals simp only [Option.some.injEq, Prod.mk.injEq, reduceCtorEq, false_and] at h
  rename_i host' _ hread _
  obtain rfl : host' = host := h.1
  exact Host.slash_not_mem_special hread

theorem slash_not_mem_parts {k : SchemeKind} {input rest : List Char} {host path : String}
    (h : parts? k input = some (some host, path, rest)) : '/' ∉ host.toList := by
  unfold parts? at h
  split at h
  · exact slash_not_mem_fileParts h
  · obtain ⟨⟨host', after⟩, ha, he⟩ := Option.map_eq_some_iff.mp h
    obtain rfl : host' = some host := (Prod.ext_iff.mp he).1
    exact slash_not_mem_authority ha
  · split at h
    · obtain ⟨⟨host', after⟩, ha, he⟩ := Option.map_eq_some_iff.mp h
      obtain rfl : host' = some host := (Prod.ext_iff.mp he).1
      exact slash_not_mem_authority ha
    · cases h
    · cases h

/-- **A host holds no slash.** -/
theorem slash_not_mem_host {text host : String} {u : Url} (h : parse? text = some u)
    (hh : u.host = some host) : '/' ∉ host.toList := by
  unfold parse? at h
  split at h
  · cases h
  · simp only at h
    split at h
    · cases h
    · rename_i hp
      obtain rfl := Option.some.inj h
      obtain rfl : _ = some host := hh
      exact slash_not_mem_parts hp

end Interpose.Url
