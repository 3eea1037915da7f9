import GatewayProvisioning.Decimal.Digits

/-!
# Digits of a number

The digits of a number write that number, and no zero stands in front of them.
-/

namespace GatewayProvisioning.Decimal

theorem isDigit_hexDigit {n : Nat} (h : n < 10) :
    Text.isDigit (Text.hexDigit n) = true ∧ Text.digitValue (Text.hexDigit n) = n := by
  have hall : ∀ m < 10, Text.isDigit (Text.hexDigit m) = true ∧
      Text.digitValue (Text.hexDigit m) = m := by decide
  exact hall n h

theorem decimalValue_concat (ds : List Char) (c : Char) :
    Text.decimalValue (ds ++ [c]) = 10 * Text.decimalValue ds + Text.digitValue c := by
  unfold Text.decimalValue
  rw [List.foldl_append]
  rfl

theorem decimalValue_digits (n : Nat) :
    (digits n).all Text.isDigit = true ∧ Text.decimalValue (digits n) = n := by
  induction n using digits.induct with
  | case1 n hsmall =>
    obtain ⟨hdigit, hvalue⟩ := isDigit_hexDigit hsmall
    rw [digits, if_pos hsmall]
    simp [hdigit, hvalue, Text.decimalValue]
  | case2 n hlarge ih =>
    -- the last digit is what division by ten leaves
    obtain ⟨hdigit, hvalue⟩ := isDigit_hexDigit (Nat.mod_lt n (by decide : 10 > 0))
    rw [digits, if_neg hlarge, decimalValue_concat, ih.2, hvalue]
    refine ⟨?_, by omega⟩
    simp [ih.1, hdigit]

theorem digits_ne_nil (n : Nat) : digits n ≠ [] := by
  unfold digits
  split <;> simp

/-- Only zero begins with a zero. -/
theorem head_digits {n : Nat} (h : 0 < n) : (digits n).head? ≠ some '0' := by
  induction n using digits.induct with
  | case1 n hsmall =>
    have hall : ∀ m < 10, 0 < m → some (Text.hexDigit m) ≠ some '0' := by decide
    rw [digits, if_pos hsmall]
    exact hall n hsmall h
  | case2 n hlarge ih =>
    have hfront := ih (by omega)
    obtain ⟨c, cs, hcs⟩ := List.exists_cons_of_ne_nil (digits_ne_nil (n / 10))
    rw [hcs] at hfront
    rw [digits, if_neg hlarge, hcs]
    exact hfront

end GatewayProvisioning.Decimal
