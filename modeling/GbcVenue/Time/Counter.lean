import Mathlib.Data.Nat.ModEq

/-!
# Delays on a counter that wraps

A counter shows the time modulo a period, and a program tests with it whether a delay is over. Two ways to
do so: the difference of two readings against the delay, and the reading now against the reading that was
computed for the end of the delay. The first is never too early, and right as long as less than a period
has passed; the second is right exactly if now and the end lie in the same period.
-/

namespace WrappingCounter

/-- The difference of two readings, computed on the counter. -/
def age (period since now : Nat) : Nat := (period - since % period + now % period) % period

/-- The counter has not wrapped between two moments. -/
def SamePeriod (period a b : Nat) : Prop := a / period = b / period

instance (period a b : Nat) : Decidable (SamePeriod period a b) :=
  inferInstanceAs (Decidable (a / period = b / period))

variable {period since now delay deadline : Nat}

theorem age_eq (hperiod : 0 < period) (h : since ≤ now) :
    age period since now = (now - since) % period := by
  have hlt := Nat.mod_lt since hperiod
  have hsum : period - since % period + now % period + since ≡ now - since + since [MOD period] :=
    calc period - since % period + now % period + since
        ≡ period - since % period + now + since % period [MOD period] :=
          ((Nat.mod_modEq now period).add_left _).add (Nat.mod_modEq since period).symm
      _ = now + period := by omega
      _ ≡ now [MOD period] := Nat.add_mod_right now period
      _ = now - since + since := (Nat.sub_add_cancel h).symm
  exact Nat.ModEq.add_right_cancel' since hsum

/-! ## The difference against the delay -/

/-- It is never too early. -/
theorem le_of_le_age (hperiod : 0 < period) (h : since ≤ now) (hage : delay ≤ age period since now) :
    since + delay ≤ now := by
  rw [age_eq hperiod h] at hage
  have hle := Nat.mod_le (now - since) period
  omega

/-- Within a period it is right. -/
theorem le_age_iff (h : since ≤ now) (hlt : now < since + period) :
    delay ≤ age period since now ↔ since + delay ≤ now := by
  rw [age_eq (by omega) h, Nat.mod_eq_of_lt (by omega)]
  omega

/-! ## The reading against that of the end -/

/-- In one period it is right. -/
theorem mod_le_mod_iff (h : SamePeriod period now deadline) :
    deadline % period ≤ now % period ↔ deadline ≤ now := by
  have hnow := Nat.div_add_mod now period
  have hdeadline := Nat.div_add_mod deadline period
  rw [show now / period = deadline / period from h] at hnow
  omega

/-- Of two moments less than a period apart in different periods the later one shows less. -/
theorem mod_lt_mod_of_lt {a b : Nat} (hlt : a < b) (hnear : b < a + period)
    (h : ¬ SamePeriod period a b) : b % period < a % period := by
  have ha := Nat.div_add_mod a period
  have hb := Nat.div_add_mod b period
  have hdiv : a / period < b / period := lt_of_le_of_ne (Nat.div_le_div_right hlt.le) h
  have hmul : period * (a / period) + period ≤ period * (b / period) :=
    Nat.mul_le_mul_left period hdiv
  omega

/-- Less than a period from the end it is right only if the counter has not wrapped in between. -/
theorem mod_le_mod_right_iff (hearly : deadline < now + period) (hlate : now < deadline + period) :
    (deadline % period ≤ now % period ↔ deadline ≤ now) ↔ SamePeriod period now deadline := by
  refine ⟨fun h => ?_, mod_le_mod_iff⟩
  by_contra hwrapped
  rcases Nat.lt_or_ge now deadline with hlt | hge
  · have hmod := mod_lt_mod_of_lt hlt hearly hwrapped
    exact absurd (h.1 hmod.le) (by omega)
  · have hne : deadline ≠ now := fun heq => hwrapped (congrArg (· / period) heq.symm)
    have hmod := mod_lt_mod_of_lt (lt_of_le_of_ne hge hne) hlate fun heq => hwrapped heq.symm
    exact absurd (h.2 hge) (by omega)

/-! ## A counter of 32 bits -/

theorem toNat_ofNat_sub (now since : Nat) :
    (UInt32.ofNat now - UInt32.ofNat since).toNat = age (2 ^ 32) since now := by
  rw [UInt32.toNat_sub, UInt32.toNat_ofNat', UInt32.toNat_ofNat']
  rfl

theorem ofNat_le_ofNat : UInt32.ofNat deadline ≤ UInt32.ofNat now ↔
    deadline % 2 ^ 32 ≤ now % 2 ^ 32 := by
  rw [UInt32.le_iff_toNat_le, UInt32.toNat_ofNat', UInt32.toNat_ofNat']

end WrappingCounter
