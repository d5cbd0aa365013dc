import Deflatten.Number.Basic
/-!
# Digits

The decimal text of a natural number is read back by `Decimal.natural`, and where other characters follow it the digits
end at the first that is no digit. An integer has at most `Number.maxDigits` digits exactly if it may be written.
-/

namespace Deflatten

namespace Decimal

theorem toList_toString (n : Nat) : (toString n).toList = Nat.toDigits 10 n := by
  rw [Nat.toString_eq_ofList_toDigits, String.toList_ofList]

/-- Reading the digits of a number gives the number. -/
theorem natural_toDigits (n : Nat) : natural (Nat.toDigits 10 n) = n :=
  Nat.ofDigitChars_toDigits (by decide) (by decide)

theorem toDigits_injective {m n : Nat} (h : Nat.toDigits 10 m = Nat.toDigits 10 n) : m = n := by
  rw [← natural_toDigits m, h, natural_toDigits]

/-- A number is told by its text. -/
theorem toString_injective {m n : Nat} (h : toString m = toString n) : m = n :=
  toDigits_injective (by rw [← toList_toString, h, toList_toString])

theorem isDigit_of_mem_toDigits {n : Nat} {c : Char} (h : c ∈ Nat.toDigits 10 n) : c.isDigit :=
  Nat.isDigit_of_mem_toDigits (by decide) (by decide) h

/-- A negative integer has a minus sign before its digits. -/
theorem toList_toString_int (n : Int) : (toString n).toList =
    if n < 0 then '-' :: Nat.toDigits 10 n.natAbs else Nat.toDigits 10 n.natAbs := by
  cases n with
  | ofNat m => exact toList_toString m
  | negSucc m =>
    have htext : toString (Int.negSucc m) = "-" ++ toString (m + 1) := rfl
    rw [if_pos (Int.negSucc_lt_zero m), htext, String.toList_append, toList_toString]
    rfl

theorem not_mem_toDigits {c : Char} (hc : c.isDigit = false) (n : Nat) : c ∉ Nat.toDigits 10 n := fun h =>
  Bool.false_ne_true (hc.symm.trans (isDigit_of_mem_toDigits h))

/-- An integer is told by its text. -/
theorem toString_int_injective {m n : Int} (h : toString m = toString n) : m = n := by
  have hminus : ∀ {cs k}, '-' :: cs ≠ Nat.toDigits 10 k := fun {cs k} heq =>
    not_mem_toDigits (by decide) k (heq ▸ List.mem_cons_self)
  have htext := congrArg String.toList h
  rw [toList_toString_int, toList_toString_int] at htext
  split at htext
  · split at htext
    · have habs := toDigits_injective (List.cons.inj htext).2
      omega
    · exact absurd htext hminus
  · split at htext
    · exact absurd htext.symm hminus
    · have habs := toDigits_injective htext
      omega

/-- The digits of a number other than zero begin with another digit than zero. -/
theorem head?_toDigits_ne {n : Nat} (h : 0 < n) : (Nat.toDigits 10 n).head? ≠ some '0' := by
  induction n using Nat.strongRecOn with
  | ind n ih =>
    rcases Nat.lt_or_ge n 10 with hlt | hge
    · rw [Nat.toDigits_of_lt_base hlt]
      revert h
      exact (by decide : ∀ n < 10, 0 < n → [n.digitChar].head? ≠ some '0') n hlt
    · rw [Nat.toDigits_of_base_le (by decide) hge, List.head?_append, List.head?_eq_some_head Nat.toDigits_ne_nil, Option.some_or,
        ← List.head?_eq_some_head]
      exact ih (n / 10) (Nat.div_lt_self h (by decide)) (Nat.div_pos hge (by decide))

theorem foldl_digit_lt {ds : List Char} (h : ∀ c ∈ ds, c.isDigit) (n : Nat) :
    ds.foldl (fun n c => 10 * n + digit c) n < (n + 1) * Nat.pow 10 ds.length := by
  induction ds generalizing n with
  | nil => exact Nat.lt_of_lt_of_eq (Nat.lt_succ_self n) (Nat.mul_one _).symm
  | cons c ds ih =>
    have hdigit : digit c ≤ 9 := by
      have hc := h c List.mem_cons_self
      rw [Char.isDigit, Bool.and_eq_true, decide_eq_true_iff, decide_eq_true_iff, UInt32.le_iff_toNat_le] at hc
      exact Nat.sub_le_sub_right hc.2 48
    refine Nat.lt_of_lt_of_le (ih (fun d hd => h d (List.mem_cons_of_mem _ hd)) _) ?_
    have hpow : Nat.pow 10 (c :: ds).length = 10 * Nat.pow 10 ds.length := Nat.pow_succ'
    rw [hpow, ← Nat.mul_assoc]
    refine Nat.mul_le_mul_right _ ?_
    show 10 * n + digit c + 1 ≤ (n + 1) * 10
    omega

/-- A number is less than the power of ten that has one more digit. -/
theorem natural_lt {ds : List Char} (h : ∀ c ∈ ds, c.isDigit) : natural ds < Nat.pow 10 ds.length := by
  have hlt := foldl_digit_lt h 0
  rwa [Nat.zero_add, Nat.one_mul] at hlt

/-- A power of ten bounds the numbers with no more digits than its exponent says. -/
theorem lt_pow_iff {n k : Nat} (hk : 0 < k) : n < Nat.pow 10 k ↔ (Nat.toDigits 10 n).length ≤ k :=
  (Nat.length_toDigits_le_iff (by decide) hk).symm

variable {rest : List Char}

/-- What follows the digits of a number begins with no digit. -/
def EndsDigits (rest : List Char) : Prop := ∀ c, rest.head? = some c → c.isDigit = false

theorem takeWhile_toDigits_append (n : Nat) (h : EndsDigits rest) :
    (Nat.toDigits 10 n ++ rest).takeWhile Char.isDigit = Nat.toDigits 10 n := by
  have hrest : rest.takeWhile Char.isDigit = [] := by
    cases rest with
    | nil => rfl
    | cons c rest => rw [List.takeWhile_cons, h c rfl, if_neg Bool.false_ne_true]
  rw [List.takeWhile_append_of_pos fun c hc => isDigit_of_mem_toDigits hc, hrest, List.append_nil]

theorem dropWhile_toDigits_append (n : Nat) (h : EndsDigits rest) :
    (Nat.toDigits 10 n ++ rest).dropWhile Char.isDigit = rest := by
  have hrest : rest.dropWhile Char.isDigit = rest := by
    cases rest with
    | nil => rfl
    | cons c rest => rw [List.dropWhile_cons, h c rfl, if_neg Bool.false_ne_true]
  rw [List.dropWhile_append_of_pos fun c hc => isDigit_of_mem_toDigits hc, hrest]

end Decimal

/-- An integer may be written exactly if it has at most `maxDigits` digits. -/
theorem Number.isWritable_int_iff {n : Int} :
    (Number.int n).isWritable ↔ (Nat.toDigits 10 n.natAbs).length ≤ Number.maxDigits := by
  rw [Number.isWritable, decide_eq_true_iff]
  exact Decimal.lt_pow_iff (by decide)

end Deflatten
