/-
CloudflareIpSync/ConfigFlow.lean

The options form of `config_flow.py`, as far as the retry limit goes: the
bounds its number selector enforces, and what the flow stores of an accepted
input.
-/
import CloudflareIpSync.Coordinator
import Mathlib.Data.Rat.Floor

namespace CloudflareIpSync

/-- `selector.NumberSelector` with `min` and `max`: an input within the bounds
is passed on as it is. -/
def numberSelector (min max value : ℚ) : Option ℚ :=
  if min ≤ value ∧ value ≤ max then some value else none

/-- `options[CONF_MAX_RETRIES]` after the form was submitted with `value`. -/
def storedMaxRetries (value : ℚ) : Option ℤ := (numberSelector 0 10 value).map pyInt

/-- An integer survives being stored and read again. -/
@[simp] theorem pyInt_intCast (n : ℤ) : pyInt n = n := by simp [pyInt]

theorem pyInt_eq_floor {x : ℚ} (h : 0 ≤ x) : pyInt x = ⌊x⌋ := by
  rw [pyInt, Int.tdiv_eq_ediv_of_nonneg (Rat.num_nonneg.mpr h), Rat.floor_def']

/-- The form stores at least one retry exactly for inputs from 1 on. -/
theorem one_le_storedMaxRetries_iff {value : ℚ} {n : ℤ} (h : storedMaxRetries value = some n) :
    1 ≤ n ↔ 1 ≤ value := by
  unfold storedMaxRetries numberSelector at h
  by_cases hbounds : 0 ≤ value ∧ value ≤ 10
  · rw [if_pos hbounds, Option.map_some, Option.some.injEq] at h
    rw [← h, pyInt_eq_floor hbounds.1, Int.le_floor, Int.cast_one]
  · rw [if_neg hbounds] at h
    cases h

/-- The form does accept no retries at all. -/
example : storedMaxRetries 0 = some 0 := by decide +kernel

example : storedMaxRetries (7 / 2) = some 3 := by decide +kernel

end CloudflareIpSync
