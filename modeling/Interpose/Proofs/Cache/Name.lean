import Interpose.Cache.Store
import Interpose.Proofs.Files.Path

/-!
# The names of the store's files

A hash is written in letters and digits, and the name of an artifact holds only those, hyphens,
underscores and points. So each is a component of a path, however a request is put together.

A file of the store has a *role*: it is an artifact, the source or the metadata of one, or a staging
file. The name of a file tells its role, the artifact's name and its kind
(`Role.file_injective`), so files of two roles never meet on one path.
-/

namespace Interpose.Cache

open Interpose.Path

/-! ## Hashes -/

theorem isAlphanum_hexDigit {n : Nat} (h : n < 16) : (Sha256.hexDigit n).isAlphanum = true := by
  have all : ∀ i : Fin 16, (Sha256.hexDigit i).isAlphanum = true := by decide
  exact all ⟨n, h⟩

theorem isAlphanum_of_mem_hex {s : Bytes} {c : Char} (h : c ∈ (Sha256.hex s).toList) :
    c.isAlphanum = true := by
  rw [Sha256.hex, String.toList_ofList, List.mem_flatMap] at h
  obtain ⟨b, -, hb⟩ := h
  have hlt := b.toNat_lt
  simp only [List.mem_cons, List.not_mem_nil, or_false] at hb
  rcases hb with rfl | rfl
  · exact isAlphanum_hexDigit (by omega)
  · exact isAlphanum_hexDigit (by omega)

theorem length_hex (s : Bytes) : (Sha256.hex s).toList.length = 2 * s.length := by
  rw [Sha256.hex, String.toList_ofList, List.length_flatMap]
  induction s with
  | nil => rfl
  | cons b rest ih =>
    rw [List.map_cons, List.sum_cons, ih]
    simp only [List.length_cons, List.length_nil]
    omega

theorem length_contentHash (s : Bytes) : (contentHash s).toList.length = 32 := by
  rw [contentHash, length_hex, List.length_take]
  simp [Sha256.digest, Sha256.wordBytes]

theorem utf8ByteSize_ofList_le (cs : List Char) :
    (String.ofList cs).utf8ByteSize ≤ 4 * cs.length := by
  induction cs with
  | nil => simp
  | cons c rest ih =>
    have hc := c.utf8Size_le_four
    rw [String.ofList_cons, String.utf8ByteSize_append, String.utf8ByteSize_singleton,
      List.length_cons]
    omega

theorem utf8ByteSize_contentHash_le (s : Bytes) : (contentHash s).utf8ByteSize ≤ 128 := by
  have h := utf8ByteSize_ofList_le (contentHash s).toList
  rw [String.ofList_toList, length_contentHash] at h
  exact h

theorem not_mem_contentHash (s : Bytes) {c : Char} (h : c.isAlphanum = false) :
    c ∉ (contentHash s).toList := by
  rw [contentHash]
  intro hm
  rw [isAlphanum_of_mem_hex hm] at h
  cases h

theorem isComponent_contentHash (s : Bytes) : IsComponent (contentHash s) := by
  have hlen := length_contentHash s
  refine ⟨?_, not_mem_contentHash s (by decide), ?_, ?_⟩
  all_goals
    intro he
    rw [he] at hlen
    revert hlen
    decide

/-! ## Names of artifacts -/

theorem not_isNameChar_slash : isNameChar '/' = false := by decide

/-- An artifact's name holds harmless characters only. -/
theorem isNameChar_of_mem_artifactName {components : List String} {c : Char}
    (h : c ∈ (artifactName components).toList) : isNameChar c = true := by
  have hdefault : ∀ c ∈ defaultName.toList, isNameChar c = true :=
    List.all_eq_true.mp (by decide)
  unfold artifactName at h
  split at h
  · exact hdefault c h
  · simp only [segmentName] at h
    split at h
    · exact hdefault c h
    · rw [String.toList_ofList] at h
      exact (List.mem_filter.mp h).2

theorem slash_not_mem_artifactName (components : List String) :
    '/' ∉ (artifactName components).toList := by
  intro h
  have := isNameChar_of_mem_artifactName h
  rw [not_isNameChar_slash] at this
  cases this

/-! ## Roles -/

/-- What a file of the store is for. -/
inductive Role
  | artifact
  | source
  | metadata
  | staging (process number : Nat)
  deriving DecidableEq, Repr

/-- The roles of the files that a call works on. -/
def Role.ofCall (process number : Nat) : List Role :=
  [.artifact, .source, .metadata, .staging process number]

/-- The name of the file that has a role for an artifact. -/
def Role.file (name : String) (kind : Kind) : Role → String
  | artifact => artifactFile name kind
  | source => sourceFile name kind
  | metadata => artifactFile name kind ++ ".json"
  | staging process number => stagingFile name kind process number

/-- The last character of a file name tells the family of its role. -/
def Role.ending (kind : Kind) : Role → Char
  | artifact => match kind with
    | .html => 'l'
    | .script => 's'
  | source => 'c'
  | metadata => 'n'
  | staging _ _ => 'p'

theorem Role.getLast?_file (r : Role) (name : String) (kind : Kind) :
    (r.file name kind).toList.getLast? = some (r.ending kind) := by
  cases r with
  | artifact => cases kind <;> simp [file, ending, artifactFile, Kind.extension]
  | source => simp [file, ending, sourceFile]
  | metadata => simp [file, ending]
  | staging process number =>
    simp only [file, stagingFile, String.toList_append, List.getLast?_append]
    rfl

/-- What stands before and after a separator, when the text after it holds none. -/
theorem eq_of_append_cons_eq {sep : Char} {a b d e : List Char} (hd : sep ∉ d) (he : sep ∉ e)
    (h : a ++ sep :: d = b ++ sep :: e) : a = b ∧ d = e := by
  have hs := congrArg (fun s => (s.splitOn sep).getLast?) h
  simp only [List.splitOn_append_cons_self, List.splitOn_eq_singleton hd,
    List.splitOn_eq_singleton he, List.getLast?_concat] at hs
  obtain rfl := Option.some.inj hs
  exact ⟨List.append_cancel_right h, rfl⟩

theorem not_mem_toString_nat {c : Char} (h : c.isDigit = false) (n : Nat) :
    c ∉ (toString n).toList := by
  rw [Nat.toString_eq_ofList_toDigits, String.toList_ofList]
  intro hm
  rw [Nat.isDigit_of_mem_toDigits (by decide) (by decide) hm] at h
  cases h

theorem toString_nat_injective {m n : Nat} (h : (toString m).toList = (toString n).toList) :
    m = n := by
  rw [Nat.toString_eq_ofList_toDigits, Nat.toString_eq_ofList_toDigits, String.toList_ofList,
    String.toList_ofList] at h
  have := congrArg (Nat.ofDigitChars 10 · 0) h
  simpa only [Nat.ofDigitChars_ten_toDigits] using this

theorem artifactFile_injective {n n' : String} {k k' : Kind}
    (h : artifactFile n k = artifactFile n' k') : n = n' ∧ k = k' := by
  have hk : k = k' := by
    have hl := congrArg (·.toList.getLast?) h
    have e := Role.getLast?_file .artifact n k
    have e' := Role.getLast?_file .artifact n' k'
    simp only [Role.file] at e e'
    simp only [e, e', Option.some.injEq] at hl
    revert hl
    cases k <;> cases k' <;> simp [Role.ending]
  subst hk
  simpa [artifactFile] using h

theorem stagingFile_injective {n n' : String} {k k' : Kind} {p p' m m' : Nat}
    (h : stagingFile n k p m = stagingFile n' k' p' m') : n = n' ∧ k = k' ∧ p = p' ∧ m = m' := by
  have hl := congrArg String.toList h
  simp only [stagingFile, String.toList_append] at hl
  -- the number stands behind the last hyphen, the process behind the last point before it
  have hl := List.append_cancel_right hl
  have hdash : "-".toList = ['-'] := rfl
  rw [hdash, List.append_assoc _ ['-'], List.append_assoc _ ['-'], List.singleton_append,
    List.singleton_append] at hl
  obtain ⟨hl, hm⟩ := eq_of_append_cons_eq (not_mem_toString_nat (by decide) m)
    (not_mem_toString_nat (by decide) m') hl
  rw [List.append_assoc _ ".".toList, List.append_assoc _ ".".toList,
    show ".".toList = ['.'] from rfl, List.singleton_append, List.singleton_append] at hl
  obtain ⟨hl, hp⟩ := eq_of_append_cons_eq (not_mem_toString_nat (by decide) p)
    (not_mem_toString_nat (by decide) p') hl
  obtain ⟨hn, hk⟩ := artifactFile_injective (String.toList_inj.mp (List.cons.inj hl).2)
  exact ⟨hn, hk, toString_nat_injective hp, toString_nat_injective hm⟩

/-- **The name of a file tells its role, and whose file it is.** -/
theorem Role.file_injective {r r' : Role} {n n' : String} {k k' : Kind}
    (h : r.file n k = r'.file n' k') : r = r' ∧ n = n' ∧ k = k' := by
  have hl : r.ending k = r'.ending k' := by
    have := congrArg (·.toList.getLast?) h
    simpa only [getLast?_file, Option.some.injEq] using this
  have same : ∀ suffix : String, artifactFile n k ++ suffix = artifactFile n' k' ++ suffix →
      n = n' ∧ k = k' := by
    intro suffix he
    have := congrArg String.toList he
    rw [String.toList_append, String.toList_append] at this
    exact artifactFile_injective (String.toList_inj.mp (List.append_cancel_right this))
  -- the endings tell the four families of roles apart
  have far : r.ending k ≠ r'.ending k' → False := fun hne => hne hl
  cases r with
  | artifact =>
    cases r' with
    | artifact => exact ⟨rfl, artifactFile_injective h⟩
    | _ => exact (far (by cases k <;> simp [ending])).elim
  | source =>
    cases r' with
    | source => exact ⟨rfl, same _ h⟩
    | artifact => exact (far (by cases k' <;> simp [ending])).elim
    | _ => exact (far (by simp [ending])).elim
  | metadata =>
    cases r' with
    | metadata => exact ⟨rfl, same _ h⟩
    | artifact => exact (far (by cases k' <;> simp [ending])).elim
    | _ => exact (far (by simp [ending])).elim
  | staging process number =>
    cases r' with
    | staging process' number' =>
      obtain ⟨hn, hk, rfl, rfl⟩ := stagingFile_injective h
      exact ⟨rfl, hn, hk⟩
    | artifact => exact (far (by cases k' <;> simp [ending])).elim
    | _ => exact (far (by simp [ending])).elim

/-- So does the place of a file. -/
theorem Role.place_injective {d d' : List String} {r r' : Role} {n n' : String} {k k' : Kind}
    (h : d ++ [r.file n k] = d' ++ [r'.file n' k']) : d = d' ∧ r = r' ∧ n = n' ∧ k = k' := by
  obtain ⟨hd, hfile⟩ := List.append_inj' h rfl
  exact ⟨hd, file_injective (List.cons.inj hfile).1⟩

theorem slash_not_mem_file (r : Role) {name : String} (kind : Kind) (h : '/' ∉ name.toList) :
    '/' ∉ (r.file name kind).toList := by
  have ha : '/' ∉ (artifactFile name kind).toList := by
    cases kind <;> simp [artifactFile, Kind.extension, h]
  cases r with
  | artifact => exact ha
  | source => simp [Role.file, sourceFile, ha]
  | metadata => simp [Role.file, ha]
  | staging process number =>
    have hp := not_mem_toString_nat (c := '/') (by decide) process
    have hn := not_mem_toString_nat (c := '/') (by decide) number
    simpa [Role.file, stagingFile, ha] using And.intro hp hn

/-- Every file name of the store has a point, which no hash has. -/
theorem dot_mem_file (r : Role) (name : String) (kind : Kind) :
    '.' ∈ (r.file name kind).toList := by
  have ha : '.' ∈ (artifactFile name kind).toList := by simp [artifactFile]
  cases r with
  | artifact => exact ha
  | source => simp [Role.file, sourceFile, ha]
  | metadata => simp [Role.file, ha]
  | staging process number => simp [Role.file, stagingFile]

theorem file_ne_contentHash (r : Role) (name : String) (kind : Kind) (s : Bytes) :
    r.file name kind ≠ contentHash s := by
  intro he
  have := dot_mem_file r name kind
  rw [he] at this
  exact not_mem_contentHash s (by decide) this

theorem isComponent_file (r : Role) {name : String} (kind : Kind) (h : '/' ∉ name.toList) :
    IsComponent (r.file name kind) := by
  have hl := r.getLast?_file name kind
  have hc : r.ending kind ≠ '.' := by cases r <;> cases kind <;> simp [Role.ending]
  refine ⟨?_, slash_not_mem_file r kind h, ?_, ?_⟩
  all_goals
    intro he
    rw [he] at hl
    revert hl hc
    simp [eq_comm]

end Interpose.Cache
