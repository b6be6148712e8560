import CellScript.Proofs.Text.Rows

set_option autoImplicit false

/-! # Blank texts

Being blank only asks for characters, so it goes through appending, and neither indentation nor a
carriage return at the end changes the answer. -/

namespace CellScript.Text

@[simp] theorem isBlank_nil : isBlank [] = true := rfl

theorem isBlank_cons (c : Char) (t : Text) : isBlank (c :: t) = (isBlankChar c && isBlank t) := rfl

@[simp] theorem isBlank_append (s t : Text) : isBlank (s ++ t) = (isBlank s && isBlank t) :=
  List.all_append

theorem isBlank_spaces (n : Nat) : isBlank (List.replicate n ' ') = true := by
  have hspace : isBlankChar ' ' = true := by decide
  rw [isBlank, List.all_replicate]
  simp [hspace]

@[simp] theorem isBlank_dropReturn (t : Text) : isBlank (dropReturn t) = isBlank t := by
  have hreturn : isBlank ['\r'] = true := by decide
  rcases dropReturn_cases t with h | h
  · rw [h]
  · conv_rhs => rw [h]
    rw [isBlank_append, hreturn, Bool.and_true]

theorem ne_nil_of_isBlank_eq_false {t : Text} (h : isBlank t = false) : t ≠ [] := by
  rintro rfl
  simp at h

theorem trimStart_eq_nil_iff {t : Text} : trimStart t = [] ↔ isBlank t = true := by
  rw [trimStart, List.dropWhile_eq_nil_iff]
  simp [isBlank]

end CellScript.Text
