import Interpose.Toml.Literal
import Interpose.Toml.Printer

/-!
# TOML strings there and back

What stands between the quotes of a literal *spells* a text (`Form.Spells`): a character spells
itself, an escape the character that it stands for, and no run of quotes is as long as the closing
one. The relation is what the printer and the reader agree on. Each of the forms that the printer
chooses from spells the text (`exists_spells_quote`), and the reader finds the end of whatever
spells a text (`Spells.upToQuote`, `Spells.upToQuotes`) and reads the text from it (`Spells.spell`),
so a string is read back whatever it holds (`literal?_quote`).
-/

namespace Interpose.Toml

/-- The length of the longest run of quotes in a literal. -/
def Form.slack (f : Form) : Nat := if f.lines then 2 else 0

/-- The content spells the text behind a run of quotes. -/
inductive Form.Spells (f : Form) : Nat → List Char → List Char → Prop
  | nil {run : Nat} (hrun : run ≤ f.slack) : f.Spells run [] []
  | quote {run : Nat} {content text : List Char} (h : f.Spells (run + 1) content text) :
    f.Spells run (f.quote :: content) (f.quote :: text)
  | plain {run : Nat} {c : Char} {content text : List Char} (hrun : run ≤ f.slack)
    (hc : c ≠ f.quote) (hplain : f.plain c = some (.plain, some c)) (h : f.Spells 0 content text) :
    f.Spells run (c :: content) (c :: text)
  /-- An escape of one letter. -/
  | letter {run : Nat} {c d : Char} {content text : List Char} (hrun : run ≤ f.slack)
    (hescapes : f.escapes = true) (hd : escaped? d = some c) (h : f.Spells 0 content text) :
    f.Spells run ('\\' :: d :: content) (c :: text)
  /-- An escape by number. -/
  | code {run : Nat} {c : Char} {content text : List Char} (hrun : run ≤ f.slack)
    (hescapes : f.escapes = true) (hc : c.toNat < 0x100) (h : f.Spells 0 content text) :
    f.Spells run ('\\' :: 'u' :: '0' :: '0' :: hexDigit (c.toNat / 16) :: hexDigit (c.toNat % 16) ::
      content) (c :: text)

variable {f : Form} {run : Nat} {content text done rest s : List Char} {c d : Char}

/-! ## Characters -/

theorem Form.quote_ne_backslash (f : Form) : f.quote ≠ '\\' := by
  unfold quote
  split <;> decide

theorem Form.plain_quote (f : Form) : f.plain f.quote = some (.plain, some f.quote) := by
  rcases f with ⟨_ | _, _ | _⟩ <;> decide

theorem Form.quote_of_escapes (h : f.escapes = true) : f.quote = '"' := by
  rw [quote, if_pos h]

/-- A character that stands for itself starts no escape. -/
theorem Form.ne_backslash_of_plain (h : f.plain c = some (.plain, some c)) :
    (f.escapes && c == '\\') = false := by
  unfold plain at h
  by_cases he : (f.escapes && c == '\\') = true
  · rw [if_pos he] at h
    cases h
  · exact Bool.eq_false_iff.mpr he

theorem Form.plain_carriage (f : Form) : f.plain '\r' ≠ some (.plain, some '\r') := by
  rcases f with ⟨_ | _, _ | _⟩ <;> decide

theorem digit?_hexDigit {n : Nat} (h : n < 16) : digit? 16 (hexDigit n) = some n := by
  have hall : ∀ n : Fin 16, digit? 16 (hexDigit n) = some n.val := by decide
  exact hall ⟨n, h⟩

theorem hexDigit_ne {n : Nat} (h : n < 16) : hexDigit n ≠ '"' ∧ hexDigit n ≠ '\\' := by
  have hall : ∀ n : Fin 16, hexDigit n ≠ '"' ∧ hexDigit n ≠ '\\' := by decide
  exact hall ⟨n, h⟩

/-! ## The end of a literal -/

namespace Form.Spells

theorem run_le (h : f.Spells run content text) : run ≤ f.slack := by
  induction h with
  | nil hrun => exact hrun
  | quote _ ih => omega
  | plain hrun | letter hrun | code hrun => exact hrun

end Form.Spells

theorem upToQuote_close : upToQuote f done (f.quote :: rest) = some (done.reverse, rest) := by
  rw [upToQuote.eq_def]
  exact if_pos (by simp)

theorem upToQuote_cons (hc : c ≠ f.quote) (he : (f.escapes && c == '\\') = false) :
    upToQuote f done (c :: s) = upToQuote f (c :: done) s := by
  rw [upToQuote.eq_def]
  exact (if_neg (by simpa using hc)).trans (if_neg (by simp [he]))

theorem upToQuote_escape (he : f.escapes = true) :
    upToQuote f done ('\\' :: d :: s) = upToQuote f (d :: '\\' :: done) s := by
  rw [upToQuote.eq_def]
  exact (if_neg (by simpa using f.quote_ne_backslash.symm)).trans (if_pos (by simp [he]))

/-- The end of a literal on one line is found behind whatever spells a text. -/
theorem Form.Spells.upToQuote (h : f.Spells run content text) (hf : f.lines = false) :
    upToQuote f done (content ++ f.quote :: rest) = some (done.reverse ++ content, rest) := by
  induction h generalizing done with
  | nil => rw [List.nil_append, upToQuote_close, List.append_nil]
  | quote h =>
    -- between single quotes there is no room for one more
    have hslack : f.slack = 0 := by simp [slack, hf]
    have := h.run_le
    omega
  | plain _ hc hplain _ ih =>
    rw [List.cons_append, upToQuote_cons hc (ne_backslash_of_plain hplain), ih]
    simp
  | letter _ he _ _ ih =>
    rw [List.cons_append, List.cons_append, upToQuote_escape he, ih]
    simp
  | @code _ c _ _ _ he hc _ ih =>
    have hhigh := hexDigit_ne (n := c.toNat / 16) (by omega)
    have hlow := hexDigit_ne (n := c.toNat % 16) (by omega)
    simp only [List.cons_append]
    rw [upToQuote_escape he, upToQuote_cons, upToQuote_cons, upToQuote_cons, upToQuote_cons, ih]
    · simp
    all_goals simp [quote_of_escapes he, hhigh, hlow]

theorem upToQuotes_cons (hc : c ≠ f.quote) (he : (f.escapes && c == '\\') = false)
    (hs : 2 ≤ s.length) : upToQuotes f done (c :: s) = upToQuotes f (c :: done) s := by
  match s, hs with
  | a :: b :: s, _ => rw [upToQuotes, if_neg (by simp [hc]), if_neg (by simp [he])]

theorem upToQuotes_escape (he : f.escapes = true) (hs : s ≠ []) :
    upToQuotes f done ('\\' :: d :: s) = upToQuotes f (d :: '\\' :: done) s := by
  match s, hs with
  | a :: s, _ =>
    rw [upToQuotes, if_neg (by simp [f.quote_ne_backslash.symm]), if_pos (by simp [he])]

/-- Fewer quotes than three end nothing. -/
theorem upToQuotes_run (hrun : run ≤ 2) (hc : c ≠ f.quote) (hs : s ≠ []) :
    upToQuotes f done (List.replicate run f.quote ++ c :: s) =
      upToQuotes f (List.replicate run f.quote ++ done) (c :: s) := by
  have hq : (f.quote == '\\') = false := beq_false_of_ne f.quote_ne_backslash
  match s, hs with
  | a :: s, _ =>
    match run, hrun with
    | 0, _ => rfl
    | 1, _ | 2, _ => simp [List.replicate, upToQuotes, hc, hq]

/-- Quotes that stand before the closing ones belong to the content. -/
theorem upToQuotes_close (hrun : run ≤ 2) (hd : d ≠ f.quote) :
    upToQuotes f done (List.replicate run f.quote ++
        f.quote :: f.quote :: f.quote :: d :: rest) =
      some (done.reverse ++ List.replicate run f.quote, d :: rest) := by
  match run, hrun with
  | 0, _ => cases rest <;> simp [upToQuotes, surplus, hd]
  | 1, _ | 2, _ => simp [List.replicate, upToQuotes, surplus, hd]

/-- The end of a literal over several lines is found behind whatever spells a text. -/
theorem Form.Spells.upToQuotes (h : f.Spells run content text) (hf : f.lines = true)
    (hd : d ≠ f.quote) :
    upToQuotes f done (List.replicate run f.quote ++
        (content ++ f.quote :: f.quote :: f.quote :: d :: rest)) =
      some (done.reverse ++ List.replicate run f.quote ++ content, d :: rest) := by
  have hslack : f.slack = 2 := by simp [slack, hf]
  induction h generalizing done with
  | nil hrun => rw [List.nil_append, upToQuotes_close (hslack ▸ hrun) hd, List.append_nil]
  | @quote run content _ _ ih =>
    have hnext : ∀ s : List Char, List.replicate run f.quote ++ f.quote :: s =
        List.replicate (run + 1) f.quote ++ s := fun s => by
      rw [List.replicate_succ', List.append_assoc, List.singleton_append]
    rw [List.cons_append, hnext, ih, List.append_assoc _ _ (f.quote :: content), hnext,
      List.append_assoc]
  | plain hrun hc hplain _ ih =>
    rw [List.cons_append, upToQuotes_run (hslack ▸ hrun) hc (by simp),
      upToQuotes_cons hc (ne_backslash_of_plain hplain) (by simp +arith)]
    exact (@ih (_ :: _)).trans (by simp)
  | letter hrun he _ _ ih =>
    rw [List.cons_append, List.cons_append,
      upToQuotes_run (hslack ▸ hrun) f.quote_ne_backslash.symm (by simp),
      upToQuotes_escape he (by simp)]
    exact (@ih (_ :: _)).trans (by simp)
  | @code _ c _ _ hrun he hc _ ih =>
    have hhigh := hexDigit_ne (n := c.toNat / 16) (by omega)
    have hlow := hexDigit_ne (n := c.toNat % 16) (by omega)
    simp only [List.cons_append]
    rw [upToQuotes_run (hslack ▸ hrun) f.quote_ne_backslash.symm (by simp),
      upToQuotes_escape he (by simp), upToQuotes_cons, upToQuotes_cons, upToQuotes_cons,
      upToQuotes_cons]
    · exact (@ih (_ :: _)).trans (by simp)
    all_goals simp +arith [quote_of_escapes he, hhigh, hlow]

/-! ## The text of a literal -/

theorem Form.spell_plain (h : f.plain c = some (.plain, some c)) :
    f.spell .plain done (c :: s) = f.spell .plain (c :: done) s := by
  simp only [spell, step, h]

theorem Form.spell_letter (he : f.escapes = true) (hd : escaped? d = some c) :
    f.spell .plain done ('\\' :: d :: s) = f.spell .plain (c :: done) s := by
  simp only [spell, step, plain, he, hd, Bool.true_and, beq_self_eq_true, if_true]

theorem Form.spell_code (he : f.escapes = true) (hc : c.toNat < 0x100) :
    f.spell .plain done ('\\' :: 'u' :: '0' :: '0' :: hexDigit (c.toNat / 16) ::
        hexDigit (c.toNat % 16) :: s) = f.spell .plain (c :: done) s := by
  have hhigh := digit?_hexDigit (n := c.toNat / 16) (by omega)
  have hlow := digit?_hexDigit (n := c.toNat % 16) (by omega)
  have hzero : digit? 16 '0' = some 0 := by decide
  have hu : escaped? 'u' = none := by decide
  have hsum : c.toNat / 16 * 16 + c.toNat % 16 = c.toNat := by omega
  have hvalid : c.toNat.isValidChar := c.valid
  simp [spell, step, plain, he, hhigh, hlow, hzero, hu, hsum, hvalid, Char.ofNat_toNat]

/-- The text is read from whatever spells it. -/
theorem Form.Spells.spell (h : f.Spells run content text) :
    f.spell .plain done content = some (String.ofList (done.reverse ++ text)) := by
  induction h generalizing done with
  | nil => simp [Form.spell]
  | quote _ ih => rw [spell_plain f.plain_quote, ih]; simp
  | plain _ _ hplain _ ih => rw [spell_plain hplain, ih]; simp
  | letter _ he hd _ ih => rw [spell_letter he hd, ih]; simp
  | code _ he hc _ ih => rw [spell_code he hc, ih]; simp

/-! ## What is printed -/

theorem isPlain_of_not_needsEscape (h : needsEscape c = false) (hline : c ≠ '\n') :
    isPlain c = true := by
  have hnumber : ∀ d : Char, c.toNat = d.toNat → c = d := fun d hd =>
    Char.ext (UInt32.toNat_inj.mp hd)
  have htab : c.toNat = 9 → c = '\t' := hnumber '\t'
  have hfeed : c.toNat = 10 → c = '\n' := hnumber '\n'
  simp only [needsEscape, isPlain, Bool.or_eq_false_iff, Bool.and_eq_false_iff, Bool.or_eq_true,
    Bool.and_eq_true, beq_iff_eq, bne_iff_ne, decide_eq_true_eq, decide_eq_false_iff_not,
    beq_eq_false_iff_ne, bne_eq_false_iff_eq, ne_eq] at h ⊢
  grind

/-- A character without an escape stands for itself in the form, a line break only between triple
quotes. -/
theorem Form.plain_of_not_needsEscape (hslash : f.escapes = true → c ≠ '\\')
    (h : needsEscape c = false) (hline : f.lines = true ∨ c ≠ '\n') :
    f.plain c = some (.plain, some c) := by
  have hescape : (f.escapes && c == '\\') = false := by
    cases he : f.escapes with
    | false => rfl
    | true => simpa using hslash he
  have hcarriage : c ≠ '\r' := by
    rintro rfl
    exact absurd h (by decide)
  unfold plain
  by_cases hc : c = '\n'
  · have hlines := hline.resolve_right (by simp [hc])
    simp [hc, hlines]
  · simp [hescape, hc, hcarriage, isPlain_of_not_needsEscape h hc]

/-- What is written for a control character spells it. -/
theorem Form.Spells.escape (hrun : run ≤ f.slack) (he : f.escapes = true) (hc : c.toNat < 0x100)
    (h : f.Spells 0 content text) : f.Spells run (escape c ++ content) (c :: text) := by
  unfold Toml.escape
  split
  · exact .letter hrun he rfl h
  · exact .letter hrun he rfl h
  · exact .letter hrun he rfl h
  · exact .letter hrun he rfl h
  · exact .letter hrun he rfl h
  · exact .code hrun he hc h

/-- The content with escapes spells the text, since each third quote of a run is escaped. -/
theorem spells_escapeAll (lines : Bool) (hrun : run ≤ Form.slack ⟨true, lines⟩) :
    Form.Spells ⟨true, lines⟩ run (escapeAll lines run s) s := by
  induction s generalizing run with
  | nil => exact .nil hrun
  | cons c s ih =>
    have hrest := @ih 0 (Nat.zero_le _)
    unfold escapeAll
    split
    · rename_i hc
      obtain rfl := eq_of_beq hc
      split
      · rename_i hmore
        obtain ⟨rfl, htwo⟩ : lines = true ∧ run < 2 := by simpa using hmore
        exact .quote (f := ⟨true, true⟩) (ih htwo)
      · exact .letter hrun rfl rfl hrest
    · rename_i hquote
      split
      · rename_i hc
        obtain rfl := eq_of_beq hc
        exact .letter hrun rfl rfl hrest
      · rename_i hslash
        split
        · rename_i hc
          refine hrest.escape hrun rfl ?_
          simp only [needsEscape, Bool.or_eq_true, Bool.and_eq_true, beq_iff_eq,
            decide_eq_true_eq] at hc
          obtain (⟨rfl, -⟩ | rfl) | (⟨hlow, -⟩ | hdelete) := hc
          · decide
          · decide
          · omega
          · omega
        · rename_i hc
          simp only [Bool.not_eq_true, Bool.or_eq_false_iff, Bool.and_eq_false_iff,
            Bool.not_eq_false', beq_eq_false_iff_ne] at hc
          refine .plain hrun (by simpa [Form.quote] using hquote)
            (Form.plain_of_not_needsEscape (fun _ => by simpa using hslash) hc.2 ?_) hrest
          exact hc.1.1.symm

/-- A text in which nothing needs an escape spells itself between single quotes. -/
theorem spells_self {lines : Bool} (hrun : longestRun '\'' run s ≤ Form.slack ⟨false, lines⟩)
    (hplain : ∀ c ∈ s, needsEscape c = false) (hline : lines = true ∨ '\n' ∉ s) :
    Form.Spells ⟨false, lines⟩ run s s := by
  induction s generalizing run with
  | nil => exact .nil hrun
  | cons c s ih =>
    obtain ⟨hc, hs⟩ := List.forall_mem_cons.mp hplain
    have hrest : lines = true ∨ '\n' ∉ s := hline.imp_right fun h hmem => h (by simp [hmem])
    unfold longestRun at hrun
    by_cases hquote : c = '\''
    · subst hquote
      exact .quote (f := ⟨false, lines⟩) (ih (by simpa using hrun) hs hrest)
    · rw [if_neg (by simpa using hquote), Nat.max_le] at hrun
      refine .plain hrun.1 hquote ?_ (ih hrun.2 hs hrest)
      exact Form.plain_of_not_needsEscape (fun h => by cases h) hc
        (hline.imp_right fun h he => h (by simp [he]))

/-- Content between its quotes. A text with a line break in it starts on a line of its own. -/
def Form.enclose (f : Form) (s content : List Char) : List Char :=
  if f.lines then
    [f.quote, f.quote, f.quote] ++ ((if s.contains '\n' then ['\n'] else []) ++
      (content ++ [f.quote, f.quote, f.quote]))
  else f.quote :: (content ++ [f.quote])

/-- Whichever form is chosen for a text, what is written in it spells the text. -/
theorem exists_spells_quote (text : String) : ∃ (f : Form) (content : List Char),
    f.Spells 0 content text.toList ∧ (quote text).toList = f.enclose text.toList content := by
  have hplain : (!text.toList.any needsEscape) = true → ∀ c ∈ text.toList, needsEscape c = false :=
    fun h => by simpa using h
  have block : ∀ {quotes opening : List Char} (f : Form) (content : List Char), f.lines = true →
      [f.quote, f.quote, f.quote] = quotes →
      (if text.toList.contains '\n' = true then ['\n'] else []) = opening →
      quotes ++ opening ++ content ++ quotes = f.enclose text.toList content := by
    rintro _ _ f content hf rfl rfl
    simp [Form.enclose, hf]
  unfold quote
  simp only [String.toList_ofList]
  split
  · exact ⟨⟨true, false⟩, _, spells_escapeAll false (Nat.zero_le _), rfl⟩
  · split
    · rename_i h
      simp only [Bool.and_eq_true, beq_iff_eq, Bool.not_eq_true', List.contains_eq_mem,
        decide_eq_false_iff_not] at h
      exact ⟨⟨false, false⟩, _, spells_self (Nat.le_of_eq h.1.2) (hplain (by simpa using h.1.1))
        (.inr h.2), rfl⟩
    · split
      · exact ⟨⟨true, true⟩, _, spells_escapeAll true (Nat.zero_le _), block _ _ rfl rfl rfl⟩
      · split
        · rename_i h
          simp only [Bool.and_eq_true, decide_eq_true_eq] at h
          exact ⟨⟨false, true⟩, _, spells_self h.2 (hplain h.1) (.inl rfl), block _ _ rfl rfl rfl⟩
        · split
          · rename_i hbroken
            exact ⟨⟨true, true⟩, _, spells_escapeAll true (Nat.zero_le _),
              block _ _ rfl rfl (if_pos hbroken)⟩
          · exact ⟨⟨true, false⟩, _, spells_escapeAll false (Nat.zero_le _), rfl⟩

/-! ## Strings -/

/-- Content that spells a text starts with a line break only if the text does. -/
theorem Form.Spells.lineBreak?_eq_none (h : f.Spells run content text) (htext : '\n' ∉ text)
    (rest : List Char) : lineBreak? (content ++ f.quote :: rest) = none := by
  have other : ∀ {c : Char} {s : List Char}, c ≠ '\n' → c ≠ '\r' →
      lineBreak? (c :: s) = none := by
    intro c s hfeed hreturn
    unfold lineBreak?
    split <;> simp_all
  have hquote : f.quote ≠ '\n' ∧ f.quote ≠ '\r' := by
    unfold Form.quote
    split <;> decide
  cases h with
  | nil => exact other hquote.1 hquote.2
  | quote => exact other hquote.1 hquote.2
  | plain _ _ hplain =>
    refine other (fun h => htext (by simp [h])) ?_
    rintro rfl
    exact f.plain_carriage hplain
  | letter => exact other (by decide) (by decide)
  | code => exact other (by decide) (by decide)

/-- One quote, or two, open a literal on one line. -/
theorem literal?_cons (hs : ∀ r, s ≠ f.quote :: f.quote :: r) :
    literal? (f.quote :: s) = inlineLiteral? f.escapes s := by
  rcases f with ⟨_ | _, lines⟩
  · rw [Form.quote, if_neg Bool.false_ne_true] at hs ⊢
    exact literal?.eq_4 s hs
  · rw [Form.quote, if_pos rfl] at hs ⊢
    exact literal?.eq_2 s hs

theorem literal?_inline (h : f.Spells 0 content text) (hf : f.lines = false) (hd : d ≠ f.quote) :
    literal? (f.quote :: (content ++ f.quote :: d :: rest)) =
      some (String.ofList text, d :: rest) := by
  have hform : (⟨f.escapes, false⟩ : Form) = f := by rw [← hf]
  rw [literal?_cons, inlineLiteral?, hform]
  · exact Option.bind_eq_some_iff.mpr ⟨_, h.upToQuote hf,
      Option.bind_eq_some_iff.mpr ⟨_, h.spell, rfl⟩⟩
  · intro r hr
    cases h with
    | nil => exact hd (List.cons.inj (List.cons.inj hr).2).1
    | quote h =>
      have hslack : f.slack = 0 := by simp [Form.slack, hf]
      have := h.run_le
      omega
    | plain _ hc => exact hc (List.cons.inj hr).1
    | letter | code => exact f.quote_ne_backslash (List.cons.inj hr).1.symm

theorem literal?_block (h : f.Spells 0 content text) (hf : f.lines = true) (hd : d ≠ f.quote) :
    literal? (f.quote :: f.quote :: f.quote :: ((if text.contains '\n' then ['\n'] else []) ++
      (content ++ f.quote :: f.quote :: f.quote :: d :: rest))) =
      some (String.ofList text, d :: rest) := by
  have hform : (⟨f.escapes, true⟩ : Form) = f := by rw [← hf]
  have hopen : ∀ s, literal? (f.quote :: f.quote :: f.quote :: s) = blockLiteral? f.escapes s := by
    intro s
    rcases f with ⟨_ | _, lines⟩ <;> rfl
  have hbreak : ∀ s, (lineBreak? ((if text.contains '\n' then ['\n'] else []) ++
      (content ++ f.quote :: s))).getD ((if text.contains '\n' then ['\n'] else []) ++
        (content ++ f.quote :: s)) = content ++ f.quote :: s := by
    intro s
    split
    · rfl
    · rename_i htext
      rw [List.nil_append, h.lineBreak?_eq_none (by simpa using htext)]
      rfl
  have hend : upToQuotes f [] (content ++ f.quote :: f.quote :: f.quote :: d :: rest) =
      some (content, d :: rest) := h.upToQuotes hf hd
  rw [hopen, blockLiteral?, hbreak, hform]
  exact Option.bind_eq_some_iff.mpr ⟨_, hend, Option.bind_eq_some_iff.mpr ⟨_, h.spell, rfl⟩⟩

/-- **A string is read back** whatever it holds, if no quote stands behind the literal. -/
theorem literal?_quote (text : String) (hdouble : d ≠ '"') (hsingle : d ≠ '\'') :
    literal? ((quote text).toList ++ d :: rest) = some (text, d :: rest) := by
  obtain ⟨f, content, h, hprinted⟩ := exists_spells_quote text
  have hd : d ≠ f.quote := by
    unfold Form.quote
    split
    · exact hdouble
    · exact hsingle
  rw [hprinted, Form.enclose]
  cases hf : f.lines with
  | false => simpa using literal?_inline h hf hd
  | true => simpa using literal?_block h hf hd

end Interpose.Toml
