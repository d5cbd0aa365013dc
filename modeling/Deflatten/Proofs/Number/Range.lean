import Deflatten.Number.Basic
/-!
# The range of binary64

The greatest finite number is `(2 ^ 53 - 1) * 2 ^ 971`. An integer from halfway to `2 ^ 1024` on, which is where the next
number would stand, is rounded to an infinity (`Binary64.ofInt?_eq_none_iff`).
-/

namespace Deflatten.Binary64

/-- The least natural number that is rounded to an infinity. -/
@[irreducible] def tooLarge : Nat := (powerOfTwo 54 - 1) * powerOfTwo 970

theorem powerOfTwo_add (a b : Nat) : powerOfTwo (a + b) = powerOfTwo a * powerOfTwo b := Nat.pow_add 2 a b

theorem powerOfTwo_le {a b : Nat} (h : a ≤ b) : powerOfTwo a ≤ powerOfTwo b := Nat.pow_le_pow_right Nat.two_pos h

theorem powerOfTwo_pos (n : Nat) : 0 < powerOfTwo n := Nat.two_pow_pos n

theorem powerOfTwo_log2_le {n : Nat} (hn : n ≠ 0) : powerOfTwo n.log2 ≤ n := Nat.log2_self_le hn

theorem lt_powerOfTwo_log2 (n : Nat) : n < powerOfTwo (n.log2 + 1) := Nat.lt_log2_self

/-- An integer has its first binary digit where a significand has it. -/
theorem ratioExponent_one {n : Nat} (hn : n ≠ 0) : ratioExponent n 1 = (n.log2 : Int) - 52 := by
  have hlow := powerOfTwo_log2_le hn
  have hlog : Nat.log2 1 = 0 := by decide
  rw [ratioExponent, hlog]
  by_cases hsmall : (n.log2 : Int) - (0 : Nat) - 53 < 0
  · have hsum : 53 = n.log2 + (-((n.log2 : Int) - (0 : Nat) - 53)).toNat := by omega
    have hreaches : powerOfTwo 53 * 1 ≤ n * powerOfTwo (-((n.log2 : Int) - (0 : Nat) - 53)).toNat := by
      calc powerOfTwo 53 * 1 = powerOfTwo n.log2 * powerOfTwo (-((n.log2 : Int) - (0 : Nat) - 53)).toNat := by
            rw [Nat.mul_one, ← powerOfTwo_add, ← hsum]
        _ ≤ _ := Nat.mul_le_mul_right _ hlow
    simp only [if_pos hsmall, decide_eq_true hreaches, if_true, leastExponent]
    omega
  · have hsum : 53 + ((n.log2 : Int) - (0 : Nat) - 53).toNat = n.log2 := by omega
    have hreaches : powerOfTwo 53 * 1 * powerOfTwo ((n.log2 : Int) - (0 : Nat) - 53).toNat ≤ n := by
      rwa [Nat.mul_one, ← powerOfTwo_add, hsum]
    simp only [if_neg hsmall, decide_eq_true hreaches, if_true, leastExponent]
    omega

/-- A significand is rounded up to `2 ^ 53` from half a place below on; `d` is half a place. -/
theorem roundHalfEven_eq_iff {n d : Nat} (hd : 0 < d) (hn : n < powerOfTwo 54 * d) :
    roundHalfEven n (2 * d) = powerOfTwo 53 ↔ (powerOfTwo 54 - 1) * d ≤ n := by
  have htop : powerOfTwo 53 = 9007199254740992 := rfl
  have hdouble : powerOfTwo 54 = 18014398509481984 := rfl
  rw [hdouble] at hn ⊢
  rw [htop]
  obtain ⟨q, hq⟩ : ∃ q, q = n / (2 * d) := ⟨_, rfl⟩
  have hsplit : n = 2 * d * q + n % (2 * d) := by rw [hq]; exact (Nat.div_add_mod n (2 * d)).symm
  have hrest : n % (2 * d) < 2 * d := Nat.mod_lt _ (by omega)
  have hlt : q < 9007199254740992 := by
    rw [hq, Nat.div_lt_iff_lt_mul (by omega)]
    omega
  rw [roundHalfEven, ← hq]
  by_cases hlast : q = 9007199254740992 - 1
  · subst hlast
    constructor
    · intro h
      split at h <;> omega
    · intro h
      rw [if_neg (by omega)]
      split <;> omega
  · have hbelow : 2 * d * q ≤ 2 * d * (9007199254740992 - 2) := Nat.mul_le_mul_left _ (by omega)
    constructor
    · intro h
      split at h
      · omega
      · split at h <;> omega
    · intro h
      omega

/-- The exponent of an integer is too great, at once or after its significand has been rounded up, if the integer lies
beyond the range. -/
theorem exceeds_iff {n m : Nat} {e : Int} (hn : n ≠ 0) (he : e = (n.log2 : Int) - 52)
    (hm : m = if e < 0 then roundHalfEven (n * powerOfTwo (-e).toNat) 1 else roundHalfEven n (1 * powerOfTwo e.toNat)) :
    greatestExponent < e ∨ e = greatestExponent ∧ m = powerOfTwo 53 ↔ tooLarge ≤ n := by
  have hlow := powerOfTwo_log2_le hn
  have hhigh := lt_powerOfTwo_log2 n
  have hbound : powerOfTwo (53 + 970) ≤ tooLarge ∧ tooLarge ≤ powerOfTwo (54 + 970) := by decide +kernel
  rw [greatestExponent]
  rcases Nat.lt_trichotomy n.log2 (53 + 970) with hsmall | hlast | hlarge
  · have hlt : n < tooLarge := Nat.lt_of_lt_of_le hhigh (Nat.le_trans (powerOfTwo_le hsmall) hbound.1)
    constructor
    · rintro (h | ⟨h, -⟩) <;> omega
    · intro h
      exact absurd h (Nat.not_le.mpr hlt)
  · -- The significand decides.
    have hexp : e = 971 := by omega
    have hnat : e.toNat = 1 + 970 := by omega
    have htwo : powerOfTwo 1 = 2 := rfl
    have hplace : 1 * powerOfTwo e.toNat = 2 * powerOfTwo 970 := by
      rw [hnat, Nat.one_mul, powerOfTwo_add, htwo]
    have hsum : 53 + 970 + 1 = 54 + 970 := rfl
    rw [hlast, hsum, powerOfTwo_add] at hhigh
    rw [if_neg (by omega), hplace] at hm
    have hround : m = powerOfTwo 53 ↔ tooLarge ≤ n := by
      rw [hm]
      unfold tooLarge
      exact roundHalfEven_eq_iff (powerOfTwo_pos 970) hhigh
    simp only [hexp, hround, Int.lt_irrefl, false_or, true_and]
  · exact iff_of_true (.inl (by omega)) (Nat.le_trans hbound.2 (Nat.le_trans (powerOfTwo_le hlarge) hlow))

/-- A number is nearest to an integer unless the integer lies beyond the range. -/
theorem ofInt?_eq_none_iff (n : Int) : ofInt? n = none ↔ tooLarge ≤ n.natAbs := by
  by_cases hzero : n.natAbs = 0
  · have hpos : 0 < tooLarge := by decide +kernel
    rw [ofInt?, ofRatio, if_pos hzero, hzero]
    simp [Nat.ne_of_gt hpos]
  · rw [ofInt?, ofRatio, if_neg hzero, ratioExponent_one hzero, ← exceeds_iff hzero rfl rfl]
    generalize (n.natAbs.log2 : Int) - 52 = e
    dsimp only
    generalize (if e < 0 then roundHalfEven (n.natAbs * powerOfTwo (-e).toNat) 1
      else roundHalfEven n.natAbs (1 * powerOfTwo e.toNat)) = m
    by_cases hcarry : m = powerOfTwo 53
    · rw [if_pos hcarry]
      by_cases hlarge : greatestExponent < e + 1
      · simp only [if_pos hlarge]
        exact iff_of_true trivial (by omega)
      · simp only [if_neg hlarge]
        exact iff_of_false (by simp) (by omega)
    · rw [if_neg hcarry]
      by_cases hlarge : greatestExponent < e
      · simp only [if_pos hlarge]
        exact iff_of_true trivial (.inl hlarge)
      · simp only [if_neg hlarge]
        exact iff_of_false (by simp) (by simp [hlarge, hcarry])

end Deflatten.Binary64
