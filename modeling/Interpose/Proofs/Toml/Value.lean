import Interpose.Toml.Reader
import Interpose.Proofs.Json.Literal
import Interpose.Proofs.Time.Rfc3339
import Interpose.Proofs.Toml.Literal

/-!
# TOML values there and back

What is printed for a setting is read as the value that it stands for (`reads_setting`), where a
line ends behind it. A number of few enough digits starts neither a date nor a time
(`figure?_toDigits`), and an array is read an item at a time (`items?_lines`).
-/

namespace Interpose.Toml

open Interpose.Instant (foldl_eq_ofDigitChars)

variable {c d : Char} {s rest digits : List Char} {depth fuel n : Nat}

/-- The value that a setting stands for. -/
def Setting.toToml : Setting → Toml
  | .text s => .text s
  | .flag b => .boolean b
  | .count n => .integer n
  | .texts ss => .array (ss.map .text)

/-- A setting that can be printed: a number lies in the range of 64 bits with sign. -/
def Setting.Storable : Setting → Prop
  | .count n => n < 0x8000000000000000
  | _ => True

theorem isSome_printSetting? (v : Setting) : (printSetting? v).isSome = true ↔ v.Storable := by
  cases v with
  | count n => by_cases h : n < 0x8000000000000000 <;> simp [printSetting?, Setting.Storable, h]
  | text s => simp [printSetting?, Setting.Storable]
  | flag b => simp [printSetting?, Setting.Storable]
  | texts ss => simp [printSetting?, Setting.Storable]

/-! ## Numbers -/

theorem numeral_toDigits (n : Nat) : Instant.Numeral (Nat.toDigits 10 n) n where
  ne_nil := Nat.toDigits_ne_nil
  isDigit := fun _ hc => Nat.isDigit_of_mem_toDigits (by decide) (by decide) hc
  value := by rw [foldl_eq_ofDigitChars, Nat.ofDigitChars_ten_toDigits]

/-- Only zero is written with a zero in front. -/
theorem head?_toDigits (n : Nat) : n = 0 ∨ (Nat.toDigits 10 n).head? ≠ some '0' := by
  refine Json.toDigits_induction (P := fun n cs => n = 0 ∨ cs.head? ≠ some '0')
    (fun d hd => ?_) (fun n d hn _ ih => ?_) n
  · interval_cases d <;> decide
  · refine Or.inr ?_
    rw [List.head?_append_of_ne_nil _ Nat.toDigits_ne_nil]
    exact ih.resolve_left (by omega)

theorem digit?_of_isDigit (h : c.isDigit = true) : digit? 10 c = some (c.toNat - 0x30) := by
  have hrange := Char.isDigit_iff_toNat.mp h
  rw [show '0'.toNat = 48 from rfl, show '9'.toNat = 57 from rfl] at hrange
  have hlt : c.toNat - 0x30 < 10 := by omega
  simp [digit?, h, hlt]

theorem ne_of_isDigit (h : c.isDigit = true) (hd : d.isDigit = false) : c ≠ d := by
  rintro rfl
  rw [h] at hd
  cases hd

/-- What follows digits and a line break is a digit or the line break. -/
theorem append_ne_cons (h : ∀ c ∈ digits, c.isDigit = true) (hd : d.isDigit = false)
    (hline : d ≠ '\n') : digits ++ '\n' :: rest ≠ d :: s := by
  intro he
  cases digits with
  | nil => exact hline (List.cons.inj he).1.symm
  | cons c digits => exact ne_of_isDigit (h c List.mem_cons_self) hd (List.cons.inj he).1

/-- Digits are read up to a line break. -/
theorem moreDigits_append (h : ∀ c ∈ digits, c.isDigit = true) (done : List Nat) :
    moreDigits 10 done (digits ++ '\n' :: rest) =
      some (done.reverse ++ digits.map (·.toNat - 0x30), '\n' :: rest) := by
  induction digits generalizing done with
  | nil => simp [moreDigits, show digit? 10 '\n' = none by decide]
  | cons c digits ih =>
    obtain ⟨hc, hdigits⟩ := List.forall_mem_cons.mp h
    have hscore : c ≠ '_' := ne_of_isDigit hc (by decide)
    rw [List.cons_append, moreDigits.eq_2 _ _ _ _ fun _ _ he _ => hscore he,
      digit?_of_isDigit hc]
    exact (ih hdigits _).trans (by simp)

theorem digits?_numeral (h : Instant.Numeral digits n) :
    ∃ ds, digits? 10 (digits ++ '\n' :: rest) = some (ds, '\n' :: rest) ∧ ofDigits 10 ds = n := by
  refine ⟨digits.map (·.toNat - 0x30), ?_, ?_⟩
  · cases digits with
    | nil => exact absurd rfl h.ne_nil
    | cons c digits =>
      obtain ⟨hc, hdigits⟩ := List.forall_mem_cons.mp h.isDigit
      rw [List.cons_append, digits?, digit?_of_isDigit hc]
      exact moreDigits_append hdigits _
  · rw [ofDigits, List.foldl_map]
    exact h.value

theorem whole?_toDigits (n : Nat) (rest : List Char) :
    ∃ ds, whole? (Nat.toDigits 10 n ++ '\n' :: rest) = some (ds, '\n' :: rest) ∧
      ofDigits 10 ds = n := by
  rcases head?_toDigits n with rfl | hhead
  · exact ⟨[0], rfl, rfl⟩
  · rw [whole?.eq_2]
    · exact digits?_numeral (numeral_toDigits n)
    · intro s he
      cases hdigits : Nat.toDigits 10 n with
      | nil => exact Nat.toDigits_ne_nil hdigits
      | cons c digits =>
        rw [hdigits] at he hhead
        exact hhead (congrArg some (List.cons.inj he).1)

/-- A pair of digits is taken off the front of digits, if there are two. -/
theorem pair?_cases (rest : List Char) (h : ∀ c ∈ digits, c.isDigit = true) :
    pair? (digits ++ '\n' :: rest) = none ∨
      ∃ n digits', pair? (digits ++ '\n' :: rest) = some (n, digits' ++ '\n' :: rest) ∧
        ∀ c ∈ digits', c.isDigit = true := by
  have hline : digit? 10 '\n' = none := by decide
  match digits, h with
  | [], _ => cases rest <;> simp [pair?, hline]
  | [a], h => simp [pair?, hline]
  | a :: b :: digits, h =>
    simp only [List.forall_mem_cons] at h
    refine Or.inr ⟨(a.toNat - 0x30) * 10 + (b.toNat - 0x30), digits, ?_, h.2.2⟩
    simp [pair?, digit?_of_isDigit h.1, digit?_of_isDigit h.2.1]

theorem startsTime_digits (h : ∀ c ∈ digits, c.isDigit = true) :
    startsTime (digits ++ '\n' :: rest) = false := by
  unfold startsTime
  rcases pair?_cases rest h with hnone | ⟨n, digits', hpair, hdigits⟩
  · rw [hnone]
  · rw [hpair]
    split
    · rename_i he
      exact absurd (Prod.mk.inj (Option.some.inj he)).2
        (append_ne_cons hdigits (by decide) (by decide))
    · rfl

theorem startsDate_digits (h : ∀ c ∈ digits, c.isDigit = true) :
    startsDate (digits ++ '\n' :: rest) = false := by
  unfold startsDate
  rcases pair?_cases rest h with hnone | ⟨n, digits', hpair, hdigits⟩
  · rw [hnone]
    rfl
  · rw [hpair, Option.bind_some]
    dsimp only
    rcases pair?_cases rest hdigits with hnone | ⟨n', digits'', hpair', hdigits'⟩
    · rw [hnone]
    · rw [hpair']
      split
      · rename_i he
        exact absurd (Prod.mk.inj (Option.some.inj he)).2
          (append_ne_cons hdigits' (by decide) (by decide))
      · rfl

theorem sign_digits (h : Instant.Numeral digits n) :
    sign (digits ++ '\n' :: rest) = (false, digits ++ '\n' :: rest) := by
  refine sign.eq_3 _ (fun s he => ?_) (fun s he => ?_)
  · exact append_ne_cons h.isDigit (by decide) (by decide) he
  · exact append_ne_cons h.isDigit (by decide) (by decide) he

/-- Digits have no mark of a base and are no word. -/
theorem number?_digits (h : Instant.Numeral digits n) :
    number? (digits ++ '\n' :: rest) = decimal? (digits ++ '\n' :: rest) := by
  have hsecond : ∀ {d s}, d.isDigit = false → d ≠ '\n' →
      digits ++ '\n' :: rest ≠ '0' :: d :: s := by
    intro d s hd hline he
    cases digits with
    | nil => exact h.ne_nil rfl
    | cons c digits =>
      refine append_ne_cons (fun c hc => h.isDigit c ?_) hd hline (List.cons.inj he).2
      exact List.mem_cons_of_mem _ hc
  have hfirst : ∀ {d s}, d.isDigit = false → d ≠ '\n' → digits ++ '\n' :: rest ≠ d :: s :=
    append_ne_cons h.isDigit
  unfold number?
  simp only [sign_digits h]
  split
  · rename_i he
    exact absurd he (hsecond (by decide) (by decide))
  · rename_i he
    exact absurd he (hsecond (by decide) (by decide))
  · rename_i he
    exact absurd he (hsecond (by decide) (by decide))
  · rename_i he _ _ _
    exact absurd he (hfirst (by decide) (by decide))
  · rename_i he _ _ _
    exact absurd he (hfirst (by decide) (by decide))
  · rfl

theorem decimal?_toDigits (h : n < 0x8000000000000000) :
    decimal? (Nat.toDigits 10 n ++ '\n' :: rest) = some (.integer n, '\n' :: rest) := by
  obtain ⟨ds, hwhole, hvalue⟩ := whole?_toDigits n rest
  have hinteger : integer? (n : Int) = some (.integer n) := by
    rw [integer?, if_pos ⟨by omega, by omega⟩]
  have hexponent : exponent? ('\n' :: rest) = some (0, '\n' :: rest) := rfl
  unfold decimal?
  rw [sign_digits (numeral_toDigits n)]
  refine Option.bind_eq_some_iff.mpr ⟨_, hwhole, ?_⟩
  refine Option.bind_eq_some_iff.mpr ⟨([], '\n' :: rest), rfl, ?_⟩
  refine Option.bind_eq_some_iff.mpr ⟨_, hexponent, ?_⟩
  simp [hvalue, hinteger]

theorem figure?_toDigits (h : n < 0x8000000000000000) :
    figure? (Nat.toDigits 10 n ++ '\n' :: rest) = some (.integer n, '\n' :: rest) := by
  have hdigits := (numeral_toDigits n).isDigit
  rw [figure?, startsDate_digits hdigits, startsTime_digits hdigits,
    if_neg Bool.false_ne_true, if_neg Bool.false_ne_true, number?_digits (numeral_toDigits n),
    decimal?_toDigits h]

/-! ## Scalars -/

/-- A text that a value is read from, when the line ends behind it. -/
structure Reads (text : List Char) (v : Toml) : Prop where
  /-- It starts with no blank. -/
  skipBlanks : ∀ rest, skipBlanks (text ++ rest) = text ++ rest
  value? : ∀ rest, value? 79 (text ++ '\n' :: rest) = some (v, '\n' :: rest)

theorem skipBlanks_cons (h : isBlank c = false) : skipBlanks (c :: s) = c :: s :=
  List.dropWhile_cons_of_neg (by simp [h])

theorem value?_of_scalar (harray : ∀ r, s ≠ '[' :: r) (htable : ∀ r, s ≠ '\x7b' :: r) :
    value? depth s = scalar? s := by
  cases depth with
  | zero => rfl
  | succ depth =>
    unfold value?
    split
    · exact absurd rfl (harray _)
    · exact absurd rfl (htable _)
    · rfl

/-- A literal starts with a quote. -/
theorem exists_cons_quote (text : String) : ∃ c s, (quote text).toList = c :: s ∧
    (c = '"' ∨ c = '\'') := by
  obtain ⟨f, content, -, h⟩ := exists_spells_quote text
  have hquote : f.quote = '"' ∨ f.quote = '\'' := by
    unfold Form.quote
    split <;> simp
  rw [h, Form.enclose]
  split
  · exact ⟨f.quote, _, rfl, hquote⟩
  · exact ⟨f.quote, _, rfl, hquote⟩

theorem value?_quote (text : String) (hdouble : d ≠ '"') (hsingle : d ≠ '\'') :
    value? depth ((quote text).toList ++ d :: rest) = some (.text text, d :: rest) := by
  have hread : literal? ((quote text).toList ++ d :: rest) = some (text, d :: rest) :=
    literal?_quote text hdouble hsingle
  obtain ⟨c, s, hcons, hc⟩ := exists_cons_quote text
  rw [hcons] at hread ⊢
  rcases hc with rfl | rfl
  all_goals
    rw [value?_of_scalar (by simp) (by simp), List.cons_append, scalar?]
    · rw [← List.cons_append, hread]
      rfl

/-! ## Arrays -/

/-- A character that starts something: no blank, line break or comment. -/
def isSolid (c : Char) : Bool := !(isBlank c || c == '\n' || c == '\r' || c == '#')

theorem skipSpace_solid (h : isSolid c = true) : skipSpace false (c :: s) = some (c :: s) := by
  simp only [isSolid, Bool.not_eq_true', Bool.or_eq_false_iff, beq_eq_false_iff_ne] at h
  obtain ⟨⟨⟨hblank, hline⟩, hreturn⟩, hcomment⟩ := h
  rw [skipSpace.eq_4 false c s hline fun _ he _ => hreturn he]
  simp [hblank, hcomment]

theorem skipSpace_blanks {blanks : List Char} (h : ∀ c ∈ blanks, isBlank c = true) :
    skipSpace false (blanks ++ s) = skipSpace false s := by
  induction blanks with
  | nil => rfl
  | cons c blanks ih =>
    obtain ⟨hc, hblanks⟩ := List.forall_mem_cons.mp h
    have hne : ∀ d, isBlank d = false → c ≠ d := by
      rintro d hd rfl
      rw [hc] at hd
      cases hd
    rw [List.cons_append, skipSpace.eq_4 false c _ (hne '\n' (by decide))
      fun _ he _ => hne '\r' (by decide) he]
    simp only [Bool.false_eq_true, if_false, hc, if_true]
    exact ih hblanks

/-- No space stands in front of a literal. -/
theorem skipSpace_quote (t : String) (s : List Char) :
    skipSpace false ((quote t).toList ++ s) = some ((quote t).toList ++ s) := by
  obtain ⟨c, content, hcons, hc⟩ := exists_cons_quote t
  rw [hcons, List.cons_append]
  exact skipSpace_solid (by rcases hc with rfl | rfl <;> decide)

theorem quote_append_ne (t : String) (s : List Char) (hdouble : d ≠ '"') (hsingle : d ≠ '\'')
    (r : List Char) : (quote t).toList ++ s ≠ d :: r := by
  obtain ⟨c, content, hcons, hc⟩ := exists_cons_quote t
  intro he
  rw [hcons] at he
  obtain rfl := (List.cons.inj he).1
  exact hc.elim hdouble hsingle

section Items

variable {item : Step Toml} {v : Toml} {done : List Toml} {s' : List Char}

theorem items?_close (h : skipSpace false s = some (']' :: rest)) :
    items? item (fuel + 1) done s = some (done.reverse, rest) := by
  rw [items?, h]
  rfl

/-- An item with a comma behind it. -/
theorem items?_comma (hs : skipSpace false s = some s') (hne : ∀ r, s' ≠ ']' :: r)
    (hitem : item s' = some (v, ',' :: rest)) :
    items? item (fuel + 1) done s = items? item fuel (v :: done) rest := by
  have hcomma : skipSpace false (',' :: rest) = some (',' :: rest) := skipSpace_solid (by decide)
  rw [items?, hs, Option.bind_eq_bind, Option.bind_some]
  split
  · exact absurd rfl (hne _)
  · simp only [hitem, hcomma, Option.bind_eq_bind, Option.bind_some]

/-- The last item, without a comma. -/
theorem items?_last (hs : skipSpace false s = some s') (hne : ∀ r, s' ≠ ']' :: r)
    (hitem : item s' = some (v, ']' :: rest)) :
    items? item (fuel + 1) done s = some ((v :: done).reverse, rest) := by
  have hclose : skipSpace false (']' :: rest) = some (']' :: rest) := skipSpace_solid (by decide)
  rw [items?, hs, Option.bind_eq_bind, Option.bind_some]
  split
  · exact absurd rfl (hne _)
  · simp only [hitem, hclose, Option.bind_eq_bind, Option.bind_some, Option.pure_def]

end Items

/-- An item of an array on a line of its own. -/
def itemLine (text : String) : List Char := "    ".toList ++ ((quote text).toList ++ [',', '\n'])

/-- Items are read a line at a time. -/
theorem items?_lines (ss : List String) (done : List Toml) (h : ss.length < fuel) :
    items? (value? depth) fuel done ('\n' :: (ss.flatMap itemLine ++ ']' :: rest)) =
      some (done.reverse ++ ss.map .text, rest) := by
  induction ss generalizing fuel done with
  | nil =>
    obtain ⟨fuel, rfl⟩ := Nat.exists_eq_add_one.mpr h
    have hspace : skipSpace false ('\n' :: ([].flatMap itemLine ++ ']' :: rest)) =
        some (']' :: rest) := skipSpace_solid (s := rest) (by decide)
    rw [items?_close hspace, List.map_nil, List.append_nil]
  | cons text ss ih =>
    obtain ⟨fuel, rfl⟩ := Nat.exists_eq_add_one.mpr (Nat.zero_lt_of_lt h)
    have hitem : value? depth
        ((quote text).toList ++ ',' :: '\n' :: (ss.flatMap itemLine ++ ']' :: rest)) =
          some (.text text, ',' :: '\n' :: (ss.flatMap itemLine ++ ']' :: rest)) :=
      value?_quote text (by decide) (by decide)
    have hspace : skipSpace false ('\n' :: ((text :: ss).flatMap itemLine ++ ']' :: rest)) =
        some ((quote text).toList ++ ',' :: '\n' :: (ss.flatMap itemLine ++ ']' :: rest)) := by
      rw [skipSpace.eq_2, List.flatMap_cons, itemLine, List.append_assoc, List.append_assoc,
        List.append_assoc, skipSpace_blanks (List.all_eq_true.mp (by decide)), skipSpace_quote]
      rfl
    rw [items?_comma hspace (quote_append_ne text _ (by decide) (by decide)) hitem,
      ih _ (Nat.lt_of_succ_lt_succ h)]
    simp

/-- More items than one are printed one per line. -/
theorem printTexts_eq {ss : List String} (h : 2 ≤ ss.length) :
    (printTexts ss).toList = ['[', '\n'] ++ (ss.flatMap itemLine ++ [']']) := by
  rw [printTexts.eq_3 ss (by rintro rfl; simp at h) (by rintro s rfl; simp at h)]
  simp only [String.toList_append, String.toList_join, List.flatMap_map, List.append_assoc]
  rfl

theorem value?_printTexts (ss : List String) (rest : List Char) :
    value? (depth + 1) ((printTexts ss).toList ++ rest) =
      some (.array (ss.map .text), rest) := by
  have array : ∀ {s : List Char} {vs : List Toml},
      items? (value? depth) (s.length + 1) [] s = some (vs, rest) →
        value? (depth + 1) ('[' :: s) = some (.array vs, rest) := by
    intro s vs h
    rw [value?, h]
    rfl
  match ss with
  | [] => exact array (items?_close (skipSpace_solid (by decide)))
  | [t] =>
    have htext : (printTexts [t]).toList ++ rest = '[' :: ((quote t).toList ++ ']' :: rest) := by
      simp [printTexts]
    rw [htext]
    exact array (items?_last (skipSpace_quote t _) (quote_append_ne t _ (by decide) (by decide))
      (value?_quote t (by decide) (by decide)))
  | t :: t' :: ss =>
    have htext : (printTexts (t :: t' :: ss)).toList ++ rest =
        '[' :: '\n' :: ((t :: t' :: ss).flatMap itemLine ++ ']' :: rest) := by
      rw [printTexts_eq (by simp), List.append_assoc, List.append_assoc]
      rfl
    have hlength : ∀ ss : List String, ss.length ≤ (ss.flatMap itemLine).length := by
      intro ss
      induction ss with
      | nil => exact Nat.le_refl _
      | cons t ss ih =>
        have hpos : 0 < (itemLine t).length := by simp [itemLine]
        rw [List.flatMap_cons, List.length_append, List.length_cons]
        omega
    rw [htext]
    refine array ((items?_lines _ [] ?_).trans rfl)
    have := hlength (t :: t' :: ss)
    simp only [List.length_cons, List.length_append] at this ⊢
    omega

/-! ## Settings -/

theorem reads_text (t : String) : Reads (quote t).toList (.text t) where
  skipBlanks := by
    intro rest
    obtain ⟨c, content, hcons, hc⟩ := exists_cons_quote t
    rw [hcons]
    exact skipBlanks_cons (by rcases hc with rfl | rfl <;> decide)
  value? := fun _ => value?_quote t (by decide) (by decide)

theorem reads_flag (b : Bool) : Reads (if b then "true" else "false").toList (.boolean b) := by
  cases b
  · exact ⟨fun _ => rfl, fun _ => rfl⟩
  · exact ⟨fun _ => rfl, fun _ => rfl⟩

theorem reads_count (h : n < 0x8000000000000000) : Reads (toString n).toList (.integer n) := by
  have hdigits := numeral_toDigits n
  have htext : (toString n).toList = Nat.toDigits 10 n := by simp
  rw [htext]
  refine ⟨fun rest => ?_, fun rest => ?_⟩
  · cases hcons : Nat.toDigits 10 n with
    | nil => exact absurd hcons Nat.toDigits_ne_nil
    | cons c cs =>
      have hc : c.isDigit = true := hdigits.isDigit c (by simp [hcons])
      have hne : ∀ d, d.isDigit = false → c ≠ d := fun d => ne_of_isDigit hc
      exact skipBlanks_cons (by simp [isBlank, hne ' ' (by decide), hne '\t' (by decide)])
  · have hne : ∀ {d s}, d.isDigit = false → d ≠ '\n' → Nat.toDigits 10 n ++ '\n' :: rest ≠ d :: s :=
      append_ne_cons hdigits.isDigit
    rw [value?_of_scalar, scalar?, figure?_toDigits h]
    all_goals exact fun _ => hne (by decide) (by decide)

theorem reads_texts (ss : List String) : Reads (printTexts ss).toList (.array (ss.map .text)) where
  skipBlanks := by
    intro rest
    match ss with
    | [] => rfl
    | [t] => simp [printTexts, skipBlanks_cons (show isBlank '[' = false by decide)]
    | t :: t' :: ss => simp [printTexts, skipBlanks_cons (show isBlank '[' = false by decide)]
  value? := fun rest => value?_printTexts ss _

/-- **A setting is read as the value that it stands for.** -/
theorem reads_setting {v : Setting} {text : String} (h : printSetting? v = some text) :
    Reads text.toList v.toToml := by
  cases v with
  | text t =>
    obtain rfl := Option.some.inj h
    exact reads_text t
  | flag b =>
    obtain rfl := Option.some.inj h
    exact reads_flag b
  | count n =>
    have hn : n < 0x8000000000000000 := (isSome_printSetting? (.count n)).mp (by rw [h]; rfl)
    rw [printSetting?, if_pos hn] at h
    obtain rfl := Option.some.inj h
    exact reads_count hn
  | texts ss =>
    obtain rfl := Option.some.inj h
    exact reads_texts ss

end Interpose.Toml
