/-!
# Association lists

Finite maps as lists of pairs.

* `Assoc.get?` — the value of a key
* `Assoc.put` — sets the value of a key: in its place, or behind the others
* `Assoc.remove` — forgets a key
* `Assoc.putSorted` — sets the value of a key in a list that ascends by key
-/

namespace RowIdentity.Assoc

variable {κ ν : Type} [DecidableEq κ]

/-- The value of a key: that of its first pair. -/
def get? : List (κ × ν) → κ → Option ν
  | [], _ => none
  | (k, v) :: rest, x => if k = x then some v else get? rest x

def has (l : List (κ × ν)) (x : κ) : Bool := (get? l x).isSome

/-- Sets the value of a key: in its place, or behind the others. -/
def put : List (κ × ν) → κ → ν → List (κ × ν)
  | [], x, w => [(x, w)]
  | (k, v) :: rest, x, w => if k = x then (k, w) :: rest else (k, v) :: put rest x w

def remove (l : List (κ × ν)) (x : κ) : List (κ × ν) := l.filter (·.1 ≠ x)

/-- Sets the value of a key in a list that ascends by key. -/
def putSorted : List (Int64 × ν) → Int64 → ν → List (Int64 × ν)
  | [], x, w => [(x, w)]
  | (k, v) :: rest, x, w =>
    if k = x then (x, w) :: rest
    else if x < k then (x, w) :: (k, v) :: rest
    else (k, v) :: putSorted rest x w

/-! ## What each operation does to look-ups -/

@[simp] theorem get?_nil (x : κ) : get? ([] : List (κ × ν)) x = none := rfl

@[simp] theorem get?_cons (k : κ) (v : ν) (l : List (κ × ν)) (x : κ) :
    get? ((k, v) :: l) x = if k = x then some v else get? l x := rfl

@[simp] theorem get?_put (l : List (κ × ν)) (x : κ) (w : ν) (y : κ) :
    get? (put l x w) y = if x = y then some w else get? l y := by
  induction l with
  | nil => rfl
  | cons p l ih => obtain ⟨k, v⟩ := p; grind [put, get?]

@[simp] theorem get?_remove (l : List (κ × ν)) (x y : κ) :
    get? (remove l x) y = if x = y then none else get? l y := by
  induction l with
  | nil => simp [remove]
  | cons p l ih =>
    obtain ⟨k, v⟩ := p
    by_cases h : k = x
    · simp_all [remove]
    · simp_all [remove]
      grind

@[simp] theorem get?_putSorted (l : List (Int64 × ν)) (x : Int64) (w : ν) (y : Int64) :
    get? (putSorted l x w) y = if x = y then some w else get? l y := by
  induction l with
  | nil => rfl
  | cons p l ih => obtain ⟨k, v⟩ := p; grind [putSorted, get?]

end RowIdentity.Assoc
