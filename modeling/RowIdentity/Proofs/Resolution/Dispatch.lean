import RowIdentity.Proofs.Action
import RowIdentity.Proofs.ExternalId

/-!
# Where the dispatchers send an id

* `legacyNodeAtLast_of_not_canonical` — what is no UUID gets the plain legacy strategy;
* `resolveNode_of_neither`, `keyOfGlobalId_of_neither`, `resolveLookup_of_neither` — what is neither a UUID nor a
  number goes to the Legacy strategy;
* `shapes_unambiguous` — **no text has two shapes, and a written legacy id is always read as one**.
-/

namespace RowIdentity

variable {s : String}

theorem legacyNodeAtLast_of_not_canonical (registry : Registry) (expected : Option String)
    (h : isCanonicalV4 s = false) : legacyNodeAtLast registry s expected = legacyNode registry s expected := by
  unfold legacyNodeAtLast
  apply Action.tryCatch_throw
  intro e
  cases e with
  | invalidFormat value reason => simp [h]
  | _ => rfl

theorem resolveNode_of_not_canonical (registry : Registry) (expected : Option String) (h : isCanonicalV4 s = false) :
    resolveNode registry s expected = resolveOtherNode registry s expected := by
  simp [resolveNode, h]

theorem resolveNode_of_neither (registry : Registry) (expected : Option String) (hc : isCanonicalV4 s = false)
    (hn : isNumeric s = false) : resolveNode registry s expected = legacyNode registry s expected := by
  rw [resolveNode_of_not_canonical registry expected hc, resolveOtherNode, if_neg (by simp [hn]),
    legacyNodeAtLast_of_not_canonical registry expected hc]

theorem keyOfGlobalId_of_neither (registry : Registry) (expected : Option String) (hc : isCanonicalV4 s = false)
    (hn : isNumeric s = false) : keyOfGlobalId registry s expected = IdScheme.legacy.nodeKey registry s expected := by
  simp [keyOfGlobalId, hc, hn]

theorem resolveLookup_of_neither (model : Model) (hc : isCanonicalV4 s = false) (hn : isNumeric s = false) :
    resolveLookup model s = (do
      let _ ← currentScheme model
      IdScheme.legacy.keyOf s (some model)) := by
  simp [resolveLookup, hc, hn]

/-- **The shapes are unambiguous.** No text has two of them. A written legacy id is neither a number nor a canonical
UUID, whatever the type name and the key, so every dispatcher hands it to the Legacy strategy. -/
theorem shapes_unambiguous :
    (∀ (s : String) (a b : IdShape), HasShape s a → HasShape s b → a = b) ∧
      ∀ (typeName : String) (pk : Int64),
        isNumeric (encodeGlobalId typeName (Decimal.text pk.toInt)) = false ∧
          isCanonicalV4 (encodeGlobalId typeName (Decimal.text pk.toInt)) = false ∧
          (∀ (registry : Registry) (expected : Option String),
            resolveNode registry (encodeGlobalId typeName (Decimal.text pk.toInt)) expected =
              IdScheme.legacy.nodeOf registry (encodeGlobalId typeName (Decimal.text pk.toInt)) expected) ∧
          (∀ (registry : Registry) (expected : Option String),
            keyOfGlobalId registry (encodeGlobalId typeName (Decimal.text pk.toInt)) expected =
              IdScheme.legacy.nodeKey registry (encodeGlobalId typeName (Decimal.text pk.toInt)) expected) ∧
          ∀ model : Model,
            resolveLookup model (encodeGlobalId typeName (Decimal.text pk.toInt)) = (do
              let _ ← currentScheme model
              IdScheme.legacy.keyOf (encodeGlobalId typeName (Decimal.text pk.toInt)) (some model)) := by
  refine ⟨fun s a b => HasShape.unique, fun typeName pk => ?_⟩
  have hn := not_isNumeric_encodeGlobalId typeName pk
  have hc := not_isCanonicalV4_encodeGlobalId typeName (Decimal.text pk.toInt)
  refine ⟨hn, hc, ?_, ?_, ?_⟩
  · intro registry expected
    exact resolveNode_of_neither registry expected hc hn
  · intro registry expected
    exact keyOfGlobalId_of_neither registry expected hc hn
  · intro model
    exact resolveLookup_of_neither model hc hn

/-- The global id of widget 42 is a legacy id and nothing else. -/
theorem shapes_unambiguous_widget :
    HasShape "V2lkZ2V0OjQy" .legacy ∧ ∀ b, HasShape "V2lkZ2V0OjQy" b → b = .legacy := by
  have hlegacy : HasShape "V2lkZ2V0OjQy" .legacy := ⟨"Widget", "42", 42, by decide +kernel, by decide +kernel⟩
  exact ⟨hlegacy, fun b hb => shapes_unambiguous.1 _ b .legacy hb hlegacy⟩

end RowIdentity
