import Interpose.Text.Span

/-!
# Cutting a text where it was put together

A text that is put together of two parts is cut into them at the size of the first (`cut?_append`),
so it falls into its parts again at their sizes (`before_append`, `behind_append`,
`between_append`).
-/

namespace Interpose.Span

variable {s front : List Char} {c : Char}

@[simp] theorem size_nil : size [] = 0 := rfl

@[simp] theorem size_cons (c : Char) (s : List Char) : size (c :: s) = c.utf8Size + size s := rfl

@[simp] theorem size_append (front back : List Char) :
    size (front ++ back) = size front + size back := by
  induction front with
  | nil => simp
  | cons c front ih => simp [ih, Nat.add_assoc]

theorem cut?_zero (s : List Char) : cut? s 0 = some ([], s) := by
  cases s <;> rfl

theorem cut?_append (front back : List Char) :
    cut? (front ++ back) (size front) = some (front, back) := by
  induction front with
  | nil => exact cut?_zero back
  | cons c front ih =>
    have hpos := c.utf8Size_pos
    obtain ⟨n, hn⟩ := Nat.exists_eq_add_one.mpr (Nat.add_pos_left hpos (size front))
    have hrest : n + 1 - c.utf8Size = size front := by omega
    rw [size_cons, hn, List.cons_append, cut?, if_pos (by omega), hrest, ih]
    rfl

theorem before_append (front back : List Char) :
    before (front ++ back) (size front) = .ok front := by
  rw [before, cut?_append]

theorem behind_append (front back : List Char) :
    behind (front ++ back) (size front) = .ok back := by
  rw [behind, cut?_append]

theorem between_append (front middle back : List Char) :
    between (front ++ (middle ++ back)) (size front) (size front + size middle) = .ok middle := by
  rw [between, if_pos (Nat.le_add_right _ _), behind_append]
  simp only [Nat.add_sub_cancel_left, before_append]

theorem offset?_append (h : c ∉ front) (back : List Char) :
    offset? c (front ++ c :: back) = some (size front) := by
  induction front with
  | nil => simp [offset?]
  | cons d front ih =>
    rw [List.mem_cons, not_or] at h
    simp [offset?, Ne.symm h.1, ih h.2]

theorem offset?_eq_none (h : c ∉ s) : offset? c s = none := by
  induction s with
  | nil => rfl
  | cons d s ih =>
    rw [List.mem_cons, not_or] at h
    simp [offset?, Ne.symm h.1, ih h.2]

end Interpose.Span
