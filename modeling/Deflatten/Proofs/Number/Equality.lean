import Deflatten.Tree.Scalar
import Mathlib.Algebra.Order.Ring.Int
import Mathlib.Tactic.Ring
/-!
# Equality as values

Values of different kinds may be equal as values: a truth value, an integer and a binary64 number that stand for the same
number are. This equality is symmetric and transitive (`Scalar.same_comm`, `Scalar.same_trans`), since numbers are compared
as points of the line, exactly. It is not reflexive: `nan` has no point.
-/

namespace Deflatten

namespace Point

/-- A point at one of the ends, or a ratio with a denominator above zero. -/
def IsProper : Point → Prop
  | .ratio _ d => 0 < d
  | _ => True

theorem same_comm (p q : Point) : p.same q = q.same p := by
  cases p with
  | bottom => cases q <;> rfl
  | top => cases q <;> rfl
  | ratio a b =>
    cases q with
    | bottom => rfl
    | top => rfl
    | ratio c d => exact Bool.beq_comm

theorem same_trans {p q r : Point} (hq : q.IsProper) (hpq : p.same q) (hqr : q.same r) : p.same r := by
  cases q with
  | bottom =>
    cases p with
    | bottom => exact hqr
    | top => cases hpq
    | ratio a b => cases hpq
  | top =>
    cases p with
    | bottom => cases hpq
    | top => exact hqr
    | ratio a b => cases hpq
  | ratio c d =>
    cases p with
    | bottom => cases hpq
    | top => cases hpq
    | ratio a b =>
      cases r with
      | bottom => cases hqr
      | top => cases hqr
      | ratio e f =>
        rw [same, beq_iff_eq] at hpq hqr ⊢
        -- Both fractions are multiplied out with the denominator in the middle, which is not zero.
        have hd : (d : Int) ≠ 0 := Int.natCast_ne_zero.mpr (Nat.pos_iff_ne_zero.mp hq)
        refine mul_right_cancel₀ hd ?_
        calc a * f * d = a * d * f := by ring
          _ = c * b * f := by rw [hpq]
          _ = c * f * b := by ring
          _ = e * d * b := by rw [hqr]
          _ = e * b * d := by ring

end Point

theorem Binary64.denominator_pos (significand : Nat) (exponent : Int) : 0 < (magnitude significand exponent).2 := by
  rw [magnitude]
  split
  · exact Nat.pow_pos Nat.zero_lt_two
  · exact Nat.one_pos

namespace Number

theorem isProper_of_point {n : Number} {p : Point} (h : n.point = some p) : p.IsProper := by
  cases n with
  | int n =>
    obtain rfl := Option.some.inj h
    exact Nat.one_pos
  | float x =>
    cases x with
    | nan => cases h
    | infinity negative =>
      cases negative <;> (obtain rfl := Option.some.inj h; trivial)
    | finite negative significand exponent =>
      obtain rfl := Option.some.inj h
      exact Binary64.denominator_pos significand exponent

theorem same_iff {a b : Number} : a.same b ↔ ∃ p q, a.point = some p ∧ b.point = some q ∧ p.same q := by
  rw [same]
  cases a.point <;> cases b.point <;> simp

theorem same_comm (a b : Number) : a.same b = b.same a := by
  rw [same, same]
  cases a.point with
  | none => cases b.point <;> rfl
  | some p =>
    cases b.point with
    | none => rfl
    | some q => exact Point.same_comm p q

theorem same_trans {a b c : Number} (hab : a.same b) (hbc : b.same c) : a.same c := by
  obtain ⟨p, q, hp, hq, hpq⟩ := same_iff.mp hab
  obtain ⟨q', r, hq', hr, hqr⟩ := same_iff.mp hbc
  obtain rfl := Option.some.inj (hq.symm.trans hq')
  exact same_iff.mpr ⟨p, r, hp, hr, Point.same_trans (isProper_of_point hq) hpq hqr⟩

end Number

namespace Scalar

/-- Two values are equal if they count as equal numbers, or count as no numbers and are one. -/
theorem same_iff {a b : Scalar} : a.same b ↔
    (∃ m n, a.asNumber? = some m ∧ b.asNumber? = some n ∧ m.same n) ∨
      (a.asNumber? = none ∧ b.asNumber? = none ∧ a = b) := by
  rw [same]
  cases a.asNumber? <;> cases b.asNumber? <;> simp

theorem same_comm (a b : Scalar) : a.same b = b.same a := by
  rw [same, same]
  cases a.asNumber? with
  | none =>
    cases b.asNumber? with
    | none => exact Bool.beq_comm
    | some n => rfl
  | some m =>
    cases b.asNumber? with
    | none => rfl
    | some n => exact Number.same_comm m n

theorem same_trans {a b c : Scalar} (hab : a.same b) (hbc : b.same c) : a.same c := by
  rw [same_iff] at hab hbc ⊢
  rcases hab with ⟨m, n, hm, hn, hmn⟩ | ⟨-, hb, rfl⟩
  · rcases hbc with ⟨n', k, hn', hk, hnk⟩ | ⟨hb, -, -⟩
    · obtain rfl := Option.some.inj (hn.symm.trans hn')
      exact .inl ⟨m, k, hm, hk, Number.same_trans hmn hnk⟩
    · rw [hn] at hb
      cases hb
  · exact hbc

/-- Equal values are equal to the same values. -/
theorem same_congr {a b : Scalar} (h : a.same b) (c : Scalar) : a.same c = b.same c := by
  rw [Bool.eq_iff_iff]
  exact ⟨same_trans (same_comm a b ▸ h), same_trans h⟩

end Scalar
end Deflatten
