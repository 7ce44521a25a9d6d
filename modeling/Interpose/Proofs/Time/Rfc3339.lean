import Interpose.Time.Rfc3339
import Interpose.Proofs.Time.Calendar

/-!
# Instants read back

Reading the text of an instant gives the instant (`read?_text`), whatever its year and its fraction
of a second, also in a leap second. The reader takes the text apart in the order in which it was
written: each part is a number that ends before a mark (`digits?_append`, `mark?_cons`).
-/

namespace Interpose.Instant

/-! ## Numbers -/

/-- Digits that stand for a number. -/
structure Numeral (digits : List Char) (n : Nat) : Prop where
  ne_nil : digits ≠ []
  isDigit : ∀ c ∈ digits, c.isDigit = true
  value : digits.foldl (fun n c => n * 10 + (c.toNat - 0x30)) 0 = n

theorem foldl_eq_ofDigitChars (digits : List Char) (n : Nat) :
    digits.foldl (fun n c => n * 10 + (c.toNat - 0x30)) n = Nat.ofDigitChars 10 digits n := by
  rw [Nat.ofDigitChars_eq_foldl]
  simp only [Nat.mul_comm]
  rfl

theorem toList_padded (width n : Nat) : (padded width n).toList =
    List.replicate (width - (Nat.toDigits 10 n).length) '0' ++ Nat.toDigits 10 n :=
  String.toList_ofList

theorem numeral_padded (width n : Nat) : Numeral (padded width n).toList n := by
  rw [toList_padded]
  refine ⟨by simp [Nat.toDigits_ne_nil], fun c hc => ?_, ?_⟩
  · rcases List.mem_append.mp hc with hzero | hdigit
    · rw [List.eq_of_mem_replicate hzero]
      rfl
    · exact Nat.isDigit_of_mem_toDigits (by decide) (by decide) hdigit
  · rw [foldl_eq_ofDigitChars, Nat.ofDigitChars_append, Nat.ofDigitChars_replicate_zero,
      Nat.mul_zero, Nat.ofDigitChars_ten_toDigits]

theorem length_padded {width n : Nat} (hw : 0 < width) (h : n < 10 ^ width) :
    (padded width n).toList.length = width := by
  have := (Nat.length_toDigits_le_iff (b := 10) (n := n) (by decide) hw).mpr h
  rw [toList_padded, List.length_append, List.length_replicate]
  omega

variable {digits rest : List Char} {n width : Nat} {c : Char}

theorem takeWhile_all (h : ∀ d ∈ digits, d.isDigit = true) :
    digits.takeWhile Char.isDigit = digits := by
  have happend : (digits ++ []).takeWhile Char.isDigit = digits ++ [].takeWhile Char.isDigit :=
    List.takeWhile_append_of_pos h
  simpa using happend

/-- Digits end before anything else. -/
theorem takeWhile_digits (h : ∀ d ∈ digits, d.isDigit = true) (hc : c.isDigit = false) :
    (digits ++ c :: rest).takeWhile Char.isDigit = digits := by
  rw [List.takeWhile_append_of_pos h, List.takeWhile_cons_of_neg (by simp [hc]), List.append_nil]

theorem digits?_append (h : Numeral digits n) (hl : digits.length ≤ width)
    (hc : c.isDigit = false) : digits? width (digits ++ c :: rest) = some (n, c :: rest) := by
  have htake : ((digits ++ c :: rest).take width).takeWhile Char.isDigit = digits := by
    rw [List.take_append, List.take_of_length_le hl]
    cases width - digits.length with
    | zero => rw [List.take_zero, List.append_nil, takeWhile_all h.isDigit]
    | succ more => rw [List.take_succ_cons, takeWhile_digits h.isDigit hc]
  unfold digits?
  simp only [htake, h.value, List.drop_left, List.isEmpty_iff, h.ne_nil, if_false]

/-! ## Blanks and marks -/

theorem isBlank_of_isDigit (h : c.isDigit = true) : Blank.isBlank c = false := by
  rw [Char.isDigit_iff_toNat, show '0'.toNat = 48 from rfl, show '9'.toNat = 57 from rfl] at h
  unfold Blank.isBlank
  simp only [Bool.or_eq_false_iff, Bool.and_eq_false_iff, decide_eq_false_iff_not,
    beq_eq_false_iff_ne]
  omega

theorem skipBlanks_cons (hc : Blank.isBlank c = false) : skipBlanks (c :: rest) = c :: rest :=
  List.dropWhile_cons_of_neg (by simp [hc])

theorem skipBlanks_digits (h : Numeral digits n) (rest : List Char) :
    skipBlanks (digits ++ rest) = digits ++ rest := by
  cases digits with
  | nil => exact absurd rfl h.ne_nil
  | cons d ds => exact skipBlanks_cons (isBlank_of_isDigit (h.isDigit d List.mem_cons_self))

theorem mark?_cons (hc : Blank.isBlank c = false) : mark? c (c :: rest) = some rest := by
  simp [mark?, skipBlanks_cons hc]

theorem pair?_padded (h : n < 100) (hc : c.isDigit = false) :
    pair? ((padded 2 n).toList ++ c :: rest) = some (n, c :: rest) := by
  have hn := numeral_padded 2 n
  rw [pair?, skipBlanks_digits hn]
  exact digits?_append hn (Nat.le_of_eq (length_padded (by decide) h)) hc

/-! ## The parts of an instant -/

/-- A number without a sign is a year of at most four digits. -/
theorem year?_numeral (h : Numeral digits n) (hl : digits.length ≤ 4) (hc : c.isDigit = false) :
    year? (digits ++ c :: rest) = some ((n : Int), c :: rest) := by
  have head : ∀ {sign : Char} {s : List Char}, digits ++ c :: rest = sign :: s →
      sign.isDigit = true := by
    intro sign s he
    cases digits with
    | nil => exact absurd rfl h.ne_nil
    | cons d ds =>
      obtain ⟨rfl, -⟩ := List.cons.inj he
      exact h.isDigit d List.mem_cons_self
  unfold year?
  rw [skipBlanks_digits h]
  split
  · rename_i he
    exact absurd (head he) (by decide)
  · rename_i he
    exact absurd (head he) (by decide)
  · rw [digits?_append h hl hc]
    rfl

theorem year?_minus (s : List Char) :
    year? ('-' :: s) = (digits? s.length s).map fun (n, r) => (-(n : Int), r) := by
  rw [year?, skipBlanks_cons (by decide)]
  rfl

theorem year?_plus (s : List Char) :
    year? ('+' :: s) = (digits? s.length s).map fun (n, r) => ((n : Int), r) := by
  rw [year?, skipBlanks_cons (by decide)]
  rfl

theorem year?_yearText (year : Int) (hc : c.isDigit = false) :
    year? ((yearText year).toList ++ c :: rest) = some (year, c :: rest) := by
  unfold yearText
  split
  · rename_i hfour
    rw [year?_numeral (numeral_padded 4 _) (Nat.le_of_eq (length_padded (by decide) (by omega))) hc,
      Int.toNat_of_nonneg hfour.1]
  · have hread : digits? ((padded 4 year.natAbs).toList ++ c :: rest).length
        ((padded 4 year.natAbs).toList ++ c :: rest) = some (year.natAbs, c :: rest) :=
      digits?_append (numeral_padded 4 year.natAbs) (by simp) hc
    split
    · rename_i hneg
      rw [String.toList_append, show "-".toList = ['-'] from rfl, List.append_assoc,
        List.singleton_append, year?_minus, hread, Option.map_some]
      exact congrArg (fun y => some (y, c :: rest)) (by omega)
    · rename_i hneg
      rw [String.toList_append, show "+".toList = ['+'] from rfl, List.append_assoc,
        List.singleton_append, year?_plus, hread, Option.map_some]
      exact congrArg (fun y => some (y, c :: rest)) (by omega)

/-- A fraction of at most nine digits counts in nanoseconds. -/
theorem fraction?_padded (hw : 0 < width) (hle : width ≤ 9) (hn : n < 10 ^ width)
    (hc : c.isDigit = false) : fraction? ('.' :: ((padded width n).toList ++ c :: rest)) =
      some (n * 10 ^ (9 - width), c :: rest) := by
  have hnum := numeral_padded width n
  have hlen := length_padded hw hn
  have hnine : ((padded width n).toList ++ List.replicate 9 '0').take 9 =
      (padded width n).toList ++ List.replicate (9 - width) '0' := by
    have hrest : min (9 - width) 9 = 9 - width := by omega
    rw [List.take_append, List.take_of_length_le (by omega), hlen, List.take_replicate, hrest]
  rw [fraction?, takeWhile_digits hnum.isDigit hc]
  simp only [List.isEmpty_iff, hnum.ne_nil, if_false, hnine, List.drop_left]
  rw [List.foldl_append, hnum.value, foldl_eq_ofDigitChars, Nat.ofDigitChars_replicate_zero,
    Nat.mul_comm]

theorem fraction?_of_ne (hdot : c ≠ '.') : fraction? (c :: rest) = some (0, c :: rest) := by
  unfold fraction?
  split
  · rename_i he
    exact absurd (List.cons.inj he).1 hdot
  · rfl

theorem fraction?_fractionText (h : n < 1000000000) (hc : c.isDigit = false) (hdot : c ≠ '.') :
    fraction? ((fractionText n).toList ++ c :: rest) = some (n, c :: rest) := by
  have dotted : ∀ width m, 0 < width → width ≤ 9 → m < 10 ^ width → m * 10 ^ (9 - width) = n →
      fraction? (("." ++ padded width m).toList ++ c :: rest) = some (n, c :: rest) := by
    intro width m hw hle hm hn
    rw [String.toList_append, show ".".toList = ['.'] from rfl, List.append_assoc,
      List.singleton_append, fraction?_padded hw hle hm hc, hn]
  unfold fractionText
  split
  · rename_i hzero
    rw [String.toList_empty, List.nil_append, fraction?_of_ne hdot, hzero]
  · split
    · exact dotted 3 _ (by decide) (by decide) (by omega) (by omega)
    · split
      · exact dotted 6 _ (by decide) (by decide) (by omega) (by omega)
      · exact dotted 9 n (by decide) (by decide) (by omega) (by omega)

/-- A fraction, or what follows it, does not start with a digit. -/
theorem exists_cons_fractionText (n : Nat) (hc : c.isDigit = false) (rest : List Char) :
    ∃ d s, (fractionText n).toList ++ c :: rest = d :: s ∧ d.isDigit = false := by
  unfold fractionText
  split
  · exact ⟨c, rest, rfl, hc⟩
  · split
    · exact ⟨'.', _, by rw [String.toList_append]; rfl, by decide⟩
    · split <;> exact ⟨'.', _, by rw [String.toList_append]; rfl, by decide⟩

/-! ## Instants -/

/-- An instant that exists: its year is one that instants lie in, and it is a leap second only at
the end of a minute. -/
structure Valid (i : Instant) : Prop where
  range : inRange i = true
  second : i.second < 86400
  nanos : i.nanos < 1000000000 ∨ i.nanos < 2000000000 ∧ i.second % 60 = 59

theorem toList_text (i : Instant) (offset : String) {year : Int} {month day : Nat}
    (h : dateOf i.day = (year, month, day)) : (i.text offset).toList =
      (yearText year).toList ++ '-' :: ((padded 2 month).toList ++ '-' :: ((padded 2 day).toList ++
        'T' :: ((padded 2 (i.second / 3600)).toList ++ ':' ::
          ((padded 2 (i.second / 60 % 60)).toList ++ ':' ::
            ((padded 2 (i.second % 60 + if i.nanos < 1000000000 then 0 else 1)).toList ++
              ((fractionText (i.nanos % 1000000000)).toList ++ offset.toList)))))) := by
  unfold text dateText timeText minuteText
  rw [h]
  simp

theorem shift_zero {i : Instant} (h : i.second < 86400) : i.shift 0 = i := by
  unfold shift
  cases i with
  | mk day second nanos =>
    dsimp only at h ⊢
    rw [mk.injEq]
    exact ⟨by omega, by omega, rfl⟩

/-- What a text is read as, told by what each of its parts is read as. -/
theorem read?_of_parts {s : String} {year d : Int} {month day hour minute second nanos : Nat}
    {a a' b b' e f f' g g' k : List Char} (hyear : year? s.toList = some (year, a))
    (hdash : mark? '-' a = some a') (hmonth : pair? a' = some (month, b))
    (hdash' : mark? '-' b = some b') (hday : pair? b' = some (day, 'T' :: e))
    (hhour : pair? e = some (hour, f)) (hcolon : mark? ':' f = some f')
    (hminute : pair? f' = some (minute, g)) (hcolon' : mark? ':' g = some g')
    (hsecond : pair? g' = some (second, k)) (hnanos : fraction? k = some (nanos, ['Z']))
    (hdate : dayOf? year month day = some d) (hbounds : hour < 24 ∧ minute < 60 ∧ second ≤ 60)
    {leap : Nat} (hleap : (if second = 60 then 1 else 0) = leap) {i : Instant}
    (hi : ⟨d, hour * 3600 + minute * 60 + (second - leap), nanos + leap * 1000000000⟩ = i)
    (hvalid : i.Valid) : read? s = some i := by
  have step := @Option.bind_eq_some_iff
  unfold read?
  refine step.mpr ⟨_, hyear, ?_⟩
  refine step.mpr ⟨_, hdash, step.mpr ⟨_, hmonth, ?_⟩⟩
  refine step.mpr ⟨_, hdash', step.mpr ⟨_, hday, ?_⟩⟩
  dsimp only
  rw [if_pos (by decide)]
  refine step.mpr ⟨e, rfl, step.mpr ⟨_, hhour, ?_⟩⟩
  refine step.mpr ⟨_, hcolon, step.mpr ⟨_, hminute, ?_⟩⟩
  refine step.mpr ⟨_, hcolon', step.mpr ⟨_, hsecond, ?_⟩⟩
  refine step.mpr ⟨_, hnanos, ?_⟩
  dsimp only
  rw [skipBlanks_cons (by decide)]
  refine step.mpr ⟨(0, []), rfl, step.mpr ⟨_, hdate, ?_⟩⟩
  dsimp only
  rw [if_pos (by simp [hbounds, skipBlanks]), hleap, hi, Int.neg_zero, shift_zero hvalid.second,
    hvalid.range, if_pos (by decide)]

/-- **Instants read back.** -/
theorem read?_text {i : Instant} (h : i.Valid) : read? (i.text "Z") = some i := by
  obtain ⟨year, month, day, hdate, -, -, hmonth, -, hdayOfMonth, hday⟩ := dayOf?_dateOf i.day
  have hsecond := h.second
  have hnanos := h.nanos
  have hfraction : i.nanos % 1000000000 < 1000000000 := Nat.mod_lt _ (by decide)
  have htext := toList_text i "Z" hdate
  rw [show "Z".toList = ['Z'] from rfl] at htext
  -- the sixtieth second of a minute stands for a leap second
  generalize hl : (if i.nanos < 1000000000 then 0 else 1) = leap at htext
  have hleap : (if i.second % 60 + leap = 60 then 1 else 0) = leap := by
    split at hl <;> split <;> omega
  have hbounds : i.second / 3600 < 24 ∧ i.second / 60 % 60 < 60 ∧ i.second % 60 + leap ≤ 60 := by
    split at hl <;> omega
  have hsame : (⟨i.day, i.second / 3600 * 3600 + i.second / 60 % 60 * 60 +
      (i.second % 60 + leap - leap), i.nanos % 1000000000 + leap * 1000000000⟩ : Instant) = i := by
    cases i
    rw [mk.injEq]
    dsimp only at hsecond hnanos hl ⊢
    split at hl <;> exact ⟨rfl, by omega, by omega⟩
  obtain ⟨mark, behind, hbehind, hmark⟩ :=
    exists_cons_fractionText (i.nanos % 1000000000) (c := 'Z') (by decide) []
  have hread : pair? ((padded 2 (i.second % 60 + leap)).toList ++
      ((fractionText (i.nanos % 1000000000)).toList ++ ['Z'])) =
        some (i.second % 60 + leap, (fractionText (i.nanos % 1000000000)).toList ++ ['Z']) := by
    rw [hbehind]
    exact pair?_padded (by omega) hmark
  exact read?_of_parts (by rw [htext]; exact year?_yearText year (by decide))
    (mark?_cons (by decide)) (pair?_padded (by omega) (by decide))
    (mark?_cons (by decide)) (pair?_padded (by omega) (by decide))
    (pair?_padded (by omega) (by decide)) (mark?_cons (by decide))
    (pair?_padded (by omega) (by decide)) (mark?_cons (by decide)) hread
    (fraction?_fractionText hfraction (by decide) (by decide)) hday hbounds hleap hsame h

end Interpose.Instant
