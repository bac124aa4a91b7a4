/-!
# Digits

Runs of digits as numbers, in a base up to thirty-six, letters in either case.
-/

namespace Worksheet.Text

/-- The number that a digit stands for in a base. -/
def digitValue? (base : Nat) (c : Char) : Option Nat :=
  let value :=
    if '0' ≤ c ∧ c ≤ '9' then c.toNat - 48
    else if 'A' ≤ c ∧ c ≤ 'Z' then c.toNat - 55
    else if 'a' ≤ c ∧ c ≤ 'z' then c.toNat - 87
    else base
  if value < base then some value else none

/-- The number that a run of digits stands for, most significant first; leading zeros count for
nothing, and no digits at all stand for zero. -/
def number? (base : Nat) (digits : List Char) : Option Nat :=
  digits.foldlM (fun value c => (digitValue? base c).map (base * value + ·)) 0

/-- The lesser of a limit and the number that a run of digits stands for. However long the run is,
no number past the limit comes up on the way. -/
def numberUpTo? (limit base : Nat) (digits : List Char) : Option Nat :=
  digits.foldlM (fun value c =>
    (digitValue? base c).map fun digit => min limit (base * value + digit)) 0

end Worksheet.Text
