import Mathlib.Algebra.Group.Nat.Defs
import RowIdentity.Proofs.Resolution.Lookup

/-!
# Numbers under types that use no numbers

* `keyOfGlobalId_of_numeric` — the key behind a number is read off its digits, whatever type is expected;
* `parseKey_of_numeric` — the key of a number, and the error of one beyond 64 bits;
* `Memory.lookup_numeric_refused` — a number as a path segment where public ids are shown;
* `numericId_refused_for_rows` — **a number yields no row of a type that uses no numbers, and no key where public ids
  are shown, but the key behind a global id takes it for any type**;
* `numericId_accepted_for_key` — a widget's type is expected, and a number passes for the key of a widget.
-/

namespace RowIdentity

variable {registry : Registry} {moments : Nat → Moment} {m : Memory} {model : Model} {typeName s : String} {flag : Bool}

/-- **The expected type is not looked at**: the key is read off the digits. -/
theorem keyOfGlobalId_of_numeric (registry : Registry) (expected : Option String) (hn : isNumeric s = true) :
    keyOfGlobalId registry s expected = liftM (parseKey s) := by
  simp only [keyOfGlobalId, not_isCanonicalV4_of_isNumeric hn, Bool.false_eq_true, if_false, pure_bind, hn, if_true]
  rfl

theorem parseKey_of_numeric (hn : isNumeric s = true) :
    parseKey s =
      if Decimal.value s.toList < 2 ^ 63 then .ok (Int64.ofNat (Decimal.value s.toList))
      else .error (.invalidFormat s "primary key out of range: number too large to fit in target type") := by
  have hmax : Int64.maxValue.toInt.toNat = 2 ^ 63 - 1 := by decide
  unfold parseKey
  simp only [hn, Bool.not_true, Bool.false_eq_true, if_false, hmax]
  by_cases h : Decimal.value s.toList < 2 ^ 63
  · rw [if_pos h, if_pos (by omega)]
  · rw [if_neg h, if_neg (by omega)]

theorem Memory.lookup_numeric_refused (hn : isNumeric s = true) (hscheme : model.scheme flag = .publicId)
    (m : Memory) : m.lookup flag model s = .error (rawKeyRefused model) := by
  simp [lookup, not_isCanonicalV4_of_isNumeric hn, hn, hscheme]

/-- **A number is never taken for a row of a type that uses no numbers.** In every state and under every value of the
flag, a number with such a type is a type mismatch to `resolveNode`, whether or not it fits into 64 bits and whether or
not the type is a node; and it is one to `resolveLookup` while the model shows public ids. But `keyOfGlobalId` reads
the number as a key for whatever type is expected, and only refuses one that does not fit. -/
theorem numericId_refused_for_rows (registry : Registry) (moments : Nat → Moment) (w : World) (model : Model)
    (typeName s : String) (htype : registry.byGraphName? typeName = some model) (hpk : model.isPkEligible = false)
    (hn : isNumeric s = true) :
    (World.run registry moments (resolveNode registry s (some typeName)) w).1 =
      .error (.typeMismatch typeName "a numeric primary key") ∧
    (model.scheme w.flag = .publicId →
      (World.run registry moments (resolveLookup model s) w).1 =
        .error (.typeMismatch model.entityType "a numeric primary key")) ∧
    (World.run registry moments (keyOfGlobalId registry s (some typeName)) w).1 =
      if Decimal.value s.toList < 2 ^ 63 then .ok (Int64.ofNat (Decimal.value s.toList))
      else .error (.invalidFormat s "primary key out of range: number too large to fit in target type") := by
  refine ⟨?_, fun hscheme => ?_, ?_⟩
  · rw [(reads_resolveNode registry s _).run_fst]
    exact Memory.node_numeric_refused htype hn hpk w.memory w.flag
  · rw [(reads_resolveLookup model s).run_fst]
    exact Memory.lookup_numeric_refused hn hscheme w.memory
  · rw [keyOfGlobalId_of_numeric registry _ hn, World.run_result]
    exact parseKey_of_numeric hn

/-- The number of the first widget, with its type, while public ids are shown. -/
theorem numericId_refused_for_rows_widget :
    (World.run .widgets (fun _ => .start) (resolveNode .widgets "1" (some "Widget")) (.widget true)).1 =
      .error (.typeMismatch "Widget" "a numeric primary key") ∧
    (World.run .widgets (fun _ => .start) (resolveLookup Registry.widget "1") (.widget true)).1 =
      .error (.typeMismatch "shop.widget" "a numeric primary key") := by
  obtain ⟨hnode, hlookup, -⟩ := numericId_refused_for_rows .widgets (fun _ => .start) (.widget true) Registry.widget
    "Widget" "1" rfl rfl rfl
  exact ⟨hnode, hlookup rfl⟩

/-- Widgets use no numbers, yet the number 1 with the type of widgets is a key, and not a type mismatch. -/
theorem numericId_accepted_for_key :
    Registry.widgets.byGraphName? "Widget" = some Registry.widget ∧ Registry.widget.isPkEligible = false ∧
      isNumeric "1" = true ∧
      (World.run .widgets (fun _ => .start) (keyOfGlobalId .widgets "1" (some "Widget")) (.widget true)).1 = .ok 1 :=
  ⟨rfl, rfl, rfl, rfl⟩

end RowIdentity
