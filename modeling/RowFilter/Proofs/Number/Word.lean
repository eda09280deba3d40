/-!
# Arithmetic of 64 bits

The operations on natural numbers as a machine has them that refuses what it cannot do: a sum that
takes more than 64 bits, and a division by zero. Within these limits they are those on all numbers.
-/

namespace RowFilter.Number

/-- The sum of two numbers, unless it takes more than 64 bits. -/
def addWord? (a b : Nat) : Option Nat :=
  if a + b < 18446744073709551616 then some (a + b) else none

/-- The quotient and the remainder of two numbers, unless the divisor is zero. -/
def divModWord? (a b : Nat) : Option (Nat × Nat) := if b = 0 then none else some (a / b, a % b)

/-- The quotient of two numbers rounded up: one more where something remains. -/
def divCeilWord? (a b : Nat) : Option Nat := do
  let (quotient, remainder) ← divModWord? a b
  if remainder = 0 then some quotient else addWord? quotient 1

variable {a b : Nat}

theorem addWord?_eq (h : a + b < 18446744073709551616) : addWord? a b = some (a + b) := if_pos h

theorem divModWord?_eq (h : 0 < b) : divModWord? a b = some (a / b, a % b) :=
  if_neg (Nat.ne_of_gt h)

/-- The quotient rounded up is the one of the number brought up to the next multiple. -/
theorem divCeilWord?_eq (hb : 0 < b) (ha : a < 18446744073709551616) :
    divCeilWord? a b = some ((a + (b - 1)) / b) := by
  have hdivision : b * (a / b) + a % b = a := Nat.div_add_mod a b
  have hremainder : a % b < b := Nat.mod_lt a hb
  have hquotient : a / b ≤ b * (a / b) := Nat.le_mul_of_pos_left _ hb
  rw [divCeilWord?, divModWord?_eq hb, Option.bind_eq_bind, Option.bind_some]
  dsimp only
  split
  · next hzero =>
    refine congrArg some (Nat.div_eq_of_lt_le ?_ ?_).symm
    · rw [Nat.mul_comm]
      omega
    · rw [Nat.succ_mul, Nat.mul_comm]
      omega
  · next hsome =>
    -- with a remainder the quotient is less than the number, so there is room for one more
    rw [addWord?_eq (by omega)]
    refine congrArg some (Nat.div_eq_of_lt_le ?_ ?_).symm
    · rw [Nat.succ_mul, Nat.mul_comm]
      omega
    · rw [Nat.succ_mul, Nat.succ_mul, Nat.mul_comm]
      omega

end RowFilter.Number
