import Mathlib.Data.Nat.Digits.Defs

/-!
# Digits of numbers

The digits of a number in a place-value notation of fixed length, the least significant
digit first.
-/

namespace Digits

/-- The lowest digits of a number. -/
def lowest (base count number : Nat) : List Nat :=
  (List.range count).map fun index => number / base ^ index % base

variable {base count number : Nat}

theorem length_lowest : (lowest base count number).length = count := by
  rw [lowest, List.length_map, List.length_range]

theorem lowest_succ :
    lowest base (count + 1) number = number % base :: lowest base count (number / base) := by
  rw [lowest, List.range_succ_eq_map, List.map_cons, List.map_map, pow_zero, Nat.div_one]
  congr 1
  apply List.map_congr_left
  intro index _
  change number / base ^ (index + 1) % base = number / base / base ^ index % base
  rw [pow_succ', Nat.div_div_eq_div_mul]

theorem lt_of_mem_lowest (positive : 0 < base) {digit : Nat}
    (member : digit ∈ lowest base count number) : digit < base := by
  rcases List.mem_map.mp member with ⟨index, _, rfl⟩
  exact Nat.mod_lt _ positive

/-- The digits make up the number again, if it is not too large. -/
theorem ofDigits_lowest (small : number < base ^ count) :
    Nat.ofDigits base (lowest base count number) = number := by
  induction count generalizing number with
  | zero => exact (Nat.lt_one_iff.mp small).symm
  | succ count ih =>
      have rest : number / base < base ^ count :=
        Nat.div_lt_of_lt_mul (by rwa [← pow_succ'])
      rw [lowest_succ, Nat.ofDigits_cons, ih rest]
      exact Nat.mod_add_div number base

/-- A digit of the square of a base is two digits of the base. -/
theorem lowest_mul_self :
    (lowest (base * base) count number).flatMap (fun digit => [digit % base, digit / base]) =
      lowest base (2 * count) number := by
  induction count generalizing number with
  | zero => rfl
  | succ count ih =>
      rw [lowest_succ, List.flatMap_cons, ih, Nat.mul_succ, lowest_succ, lowest_succ,
        Nat.mod_mul_right_mod, Nat.mod_mul_right_div_self, Nat.div_div_eq_div_mul]
      rfl

end Digits
