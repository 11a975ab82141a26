/-!
# Hexadecimal digits

* `digit` — the lowercase digit of a number below sixteen
* `digitValue?` — the number of a digit in either case
* `value?` — the number a run of digits stands for
-/

namespace RowIdentity.Hexadecimal

/-- The lowercase digit of a number below sixteen. -/
def digit (d : Fin 16) : Char :=
  if d.val < 10 then Char.ofNat (48 + d.val) else Char.ofNat (87 + d.val)

/-- The number of a digit in either case. -/
def digitValue? (c : Char) : Option (Fin 16) :=
  (List.finRange 16).find? fun d => digit d = c.toLower

/-- The number a run of digits stands for; the empty run stands for zero. -/
def value? (cs : List Char) : Option Nat :=
  cs.foldlM (fun n c => (digitValue? c).map fun d => 16 * n + d.val) 0

end RowIdentity.Hexadecimal
