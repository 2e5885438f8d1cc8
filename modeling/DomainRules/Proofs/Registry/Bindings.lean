import DomainRules.Registry

/-!
# Bindings of a registry

What registering a key does to what is found under each key.  A key that is bound
is refused; any other one is bound, and nothing is found under the remaining keys
that was not found before.
-/

namespace DomainRules.Registry

variable {α : Type} {registry after : Registry α} {key : String} {handler : α}
  {bindings placed : List (String × α)}

/-! ## Placing a binding -/

/-- A binding that has been placed is found under its key, and all others as before. -/
theorem lookup_of_place (success : place key handler bindings = some placed) (other : String) :
    placed.lookup other = if other = key then some handler else bindings.lookup other := by
  induction bindings generalizing placed with
  | nil =>
      cases success
      by_cases same : other = key
      · simp [same]
      · simp [same, List.lookup_cons, beq_false_of_ne same]
  | cons binding rest ih =>
      simp only [place] at success
      split at success
      · cases success
        by_cases same : other = key
        · simp [same]
        · simp [same, List.lookup_cons, beq_false_of_ne same]
      · split at success
        · cases success
        · next different =>
            obtain ⟨tail, tailPlaced, rfl⟩ := Option.map_eq_some_iff.mp success
            rw [List.lookup_cons, List.lookup_cons, ih tailPlaced]
            by_cases isBinding : other = binding.1
            · have notKey : other ≠ key := fun same => different (same.symm.trans isBinding)
              rw [if_neg notKey, if_neg notKey, beq_iff_eq.mpr isBinding]
            · rw [beq_false_of_ne isBinding]

/-- A binding is refused for a key that is found already. -/
theorem isSome_lookup_of_place_eq_none (refused : place key handler bindings = none) :
    (bindings.lookup key).isSome := by
  induction bindings with
  | nil => cases refused
  | cons binding rest ih =>
      simp only [place] at refused
      split at refused
      · cases refused
      · split at refused
        · next same => simp [same]
        · next different =>
            rw [List.lookup_cons, beq_false_of_ne different]
            exact ih (Option.map_eq_none_iff.mp refused)

theorem lookup_eq_none_of_below
    (below : ∀ binding ∈ bindings, key < binding.1) : bindings.lookup key = none := by
  apply List.lookup_eq_none_iff.mpr
  intro binding member
  apply bne_iff_ne.mpr
  intro same
  exact String.lt_irrefl _ (same ▸ below binding member)

/-- A binding is placed for a key that is not found.  The order of the bindings is
what tells that a key is not among those behind a greater one. -/
theorem lookup_eq_none_of_place
    (ordered : bindings.Pairwise (fun first second => first.1 < second.1))
    (success : place key handler bindings = some placed) : bindings.lookup key = none := by
  induction bindings generalizing placed with
  | nil => rfl
  | cons binding rest ih =>
      have ⟨below, restOrdered⟩ := List.pairwise_cons.mp ordered
      simp only [place] at success
      split at success
      · next smaller =>
          apply lookup_eq_none_of_below
          intro other member
          rcases List.mem_cons.mp member with rfl | inRest
          · exact smaller
          · exact String.lt_trans smaller (below other inRest)
      · split at success
        · cases success
        · next different =>
            obtain ⟨tail, tailPlaced, _⟩ := Option.map_eq_some_iff.mp success
            rw [List.lookup_cons, beq_false_of_ne different]
            exact ih restOrdered tailPlaced

/-! ## Registering a key -/

/-- A registration fails for the keys that are bound, and names the key. -/
theorem register_eq_error_iff {fault : RegistryFault} :
    registry.register key handler = .error fault ↔
      registry.contains key = true ∧ fault = .duplicateKey key := by
  rw [register, contains, get?]
  split
  · next success =>
      rw [lookup_eq_none_of_place registry.ordered success]
      constructor
      · intro failed
        cases failed
      · rintro ⟨present, _⟩
        cases present
  · next refused =>
      rw [isSome_lookup_of_place_eq_none refused]
      simp [eq_comm]

/-- A registration succeeds for the keys that are not bound. -/
theorem exists_register_eq_ok_iff :
    (∃ after, registry.register key handler = .ok after) ↔ registry.contains key = false := by
  constructor
  · rintro ⟨after, success⟩
    rw [← Bool.not_eq_true]
    intro present
    rw [register_eq_error_iff.mpr ⟨present, rfl⟩] at success
    cases success
  · intro absent
    cases result : registry.register key handler with
    | ok after => exact ⟨after, rfl⟩
    | error fault =>
        rw [(register_eq_error_iff.mp result).1] at absent
        cases absent

theorem get?_of_register (success : registry.register key handler = .ok after)
    (other : String) :
    after.get? other = if other = key then some handler else registry.get? other := by
  rw [register] at success
  split at success
  · next placed =>
      cases success
      exact lookup_of_place placed other
  · cases success

theorem fallback_of_register (success : registry.register key handler = .ok after) :
    after.fallback = registry.fallback := by
  rw [register] at success
  split at success
  · cases success
    rfl
  · cases success

/-! ## Keys -/

theorem mem_keys_iff : key ∈ registry.keys ↔ registry.contains key = true := by
  rw [keys, contains, get?, ← Bool.not_eq_false, Option.isSome_eq_false_iff,
    Option.isNone_iff_eq_none, List.lookup_eq_none_iff]
  simp

theorem pairwise_keys (registry : Registry α) : registry.keys.Pairwise (· < ·) :=
  List.pairwise_map.mpr registry.ordered

theorem length_keys (registry : Registry α) : registry.keys.length = registry.size :=
  List.length_map _

end DomainRules.Registry
