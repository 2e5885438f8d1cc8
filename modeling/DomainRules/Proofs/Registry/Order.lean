import Mathlib.Data.List.Induction
import Mathlib.Data.List.Nodup
import DomainRules.Proofs.Registry.Bindings

/-!
# Registries from bindings in any order

A registry holds exactly the bindings it was built from, in the order of their keys.
The main statement is that bindings make a registry unless one of them repeats a key,
which the failure then names, and that their order is of no account: a permutation of
them makes a registry that nothing tells from the first.
-/

namespace DomainRules.Registry

variable {α : Type} {registry after : Registry α} {key : String} {handler : α}
  {bindings placed others : List (String × α)} {fallback : Fallback α}

attribute [ext] Registry

/-- The first key that repeats the key of a binding before it. -/
def FirstRepeated (bindings : List (String × α)) (key : String) : Prop :=
  ∃ before handler later, bindings = before ++ (key, handler) :: later ∧
    key ∈ before.map Prod.fst ∧ (before.map Prod.fst).Nodup

/-- Two registries that answer every question in the same way. -/
structure Indistinguishable (registry other : Registry α) : Prop where
  resolve : ∀ key, registry.resolve key = other.resolve key
  contains : ∀ key, registry.contains key = other.contains key
  keys : registry.keys = other.keys
  size : registry.size = other.size
  isEmpty : registry.isEmpty = other.isEmpty
  describe : ∀ showHandler, registry.describe showHandler = other.describe showHandler
  describeLines : ∀ showHandler,
    registry.describeLines showHandler = other.describeLines showHandler

/-! ## Bindings that are held -/

theorem perm_of_place (success : place key handler bindings = some placed) :
    placed.Perm ((key, handler) :: bindings) := by
  induction bindings generalizing placed with
  | nil =>
      cases success
      rfl
  | cons binding rest ih =>
      simp only [place] at success
      split at success
      · cases success
        rfl
      · split at success
        · cases success
        · obtain ⟨tail, tailPlaced, rfl⟩ := Option.map_eq_some_iff.mp success
          exact ((ih tailPlaced).cons binding).trans (.swap _ _ rest)

theorem perm_of_register (success : registry.register key handler = .ok after) :
    after.bindings.Perm ((key, handler) :: registry.bindings) := by
  rw [register] at success
  split at success
  · next placed =>
      cases success
      exact perm_of_place placed
  · cases success

/-- Registries with the same bindings and the same fallback are the same, because there
is one order for the bindings. -/
theorem eq_of_perm {other : Registry α} (bindings : registry.bindings.Perm other.bindings)
    (fallback : registry.fallback = other.fallback) : registry = other := by
  apply Registry.ext _ fallback
  apply List.Perm.eq_of_pairwise _ registry.ordered other.ordered bindings
  intro first second _ _ below above
  exact absurd (String.lt_trans below above) (String.lt_irrefl _)

/-! ## Bindings that are registered one after the other -/

def registerAll (registry : Registry α) (bindings : List (String × α)) :
    Except RegistryFault (Registry α) :=
  bindings.foldlM (fun registry (key, handler) => registry.register key handler) registry

theorem registerAll_cons_of_ok (registered : registry.register key handler = .ok after)
    (bindings : List (String × α)) :
    registry.registerAll ((key, handler) :: bindings) = after.registerAll bindings := by
  rw [registerAll, List.foldlM_cons]
  dsimp only
  rw [registered]
  rfl

theorem registerAll_cons_of_error {fault : RegistryFault}
    (refused : registry.register key handler = .error fault) (bindings : List (String × α)) :
    registry.registerAll ((key, handler) :: bindings) = .error fault := by
  rw [registerAll, List.foldlM_cons]
  dsimp only
  rw [refused]
  rfl

theorem registerAll_append_of_ok (success : registry.registerAll bindings = .ok after)
    (later : List (String × α)) :
    registry.registerAll (bindings ++ later) = after.registerAll later := by
  rw [registerAll] at success
  rw [registerAll, List.foldlM_append, success]
  rfl

theorem exists_register_of_absent (absent : key ∉ registry.keys) (handler : α) :
    ∃ after, registry.register key handler = .ok after := by
  rw [mem_keys_iff, Bool.not_eq_true] at absent
  exact exists_register_eq_ok_iff.mpr absent

/-- Bindings with new keys are all held in the end. -/
theorem registerAll_of_nodup (distinct : (registry.keys ++ bindings.map Prod.fst).Nodup) :
    ∃ after, registry.registerAll bindings = .ok after ∧
      after.bindings.Perm (registry.bindings ++ bindings) ∧
      after.fallback = registry.fallback := by
  induction bindings generalizing registry with
  | nil => exact ⟨registry, rfl, by rw [List.append_nil], rfl⟩
  | cons binding bindings ih =>
      rcases binding with ⟨key, handler⟩
      have absent : key ∉ registry.keys := by
        intro present
        exact (List.nodup_append.mp distinct).2.2 key present key List.mem_cons_self rfl
      obtain ⟨next, registered⟩ := exists_register_of_absent absent handler
      have moved : (next.bindings ++ bindings).Perm
          (registry.bindings ++ (key, handler) :: bindings) :=
        ((perm_of_register registered).append_right bindings).trans List.perm_middle.symm
      have distinctNext : (next.keys ++ bindings.map Prod.fst).Nodup := by
        have keys := moved.map Prod.fst
        rw [List.map_append, List.map_append] at keys
        exact keys.nodup_iff.mpr distinct
      obtain ⟨after, success, perm, fallback⟩ := ih distinctNext
      refine ⟨after, ?_, perm.trans moved, fallback.trans (fallback_of_register registered)⟩
      rw [registerAll_cons_of_ok registered, success]

/-! ## Registries made of bindings -/

theorem ofBindings_of_nodup (distinct : (bindings.map Prod.fst).Nodup) (fallback : Fallback α) :
    ∃ registry, ofBindings bindings fallback = .ok registry ∧
      registry.bindings.Perm bindings ∧ registry.fallback = fallback := by
  have new : ((ofFallback fallback).keys ++ bindings.map Prod.fst).Nodup := distinct
  exact registerAll_of_nodup new

theorem ofBindings_of_firstRepeated (repeated : FirstRepeated bindings key)
    (fallback : Fallback α) : ofBindings bindings fallback = .error (.duplicateKey key) := by
  rcases repeated with ⟨before, handler, later, rfl, present, distinct⟩
  obtain ⟨registry, success, perm, _⟩ := ofBindings_of_nodup distinct fallback
  have bound : registry.contains key = true :=
    mem_keys_iff.mp ((perm.map Prod.fst).mem_iff.mpr present)
  have refused : registry.register key handler = .error (.duplicateKey key) :=
    register_eq_error_iff.mpr ⟨bound, rfl⟩
  calc
    ofBindings (before ++ (key, handler) :: later) fallback
    _ = registry.registerAll ((key, handler) :: later) := registerAll_append_of_ok success _
    _ = .error (.duplicateKey key) := registerAll_cons_of_error refused later

/-- Where a key occurs twice, some key is the first to do so. -/
theorem exists_firstRepeated (repeated : ¬(bindings.map Prod.fst).Nodup) :
    ∃ key, FirstRepeated bindings key := by
  induction bindings using List.reverseRecOn with
  | nil => exact absurd List.nodup_nil repeated
  | append_singleton front last ih =>
      by_cases distinct : (front.map Prod.fst).Nodup
      · refine ⟨last.1, front, last.2, [], rfl, ?_, distinct⟩
        by_contra absent
        apply repeated
        rw [← List.concat_eq_append, List.map_concat]
        exact List.Nodup.concat absent distinct
      · obtain ⟨key, before, handler, later, rfl, present, distinctBefore⟩ := ih distinct
        exact ⟨key, before, handler, later ++ [last], by simp, present, distinctBefore⟩

/-- Bindings make the registry that holds them, if their keys are distinct. -/
theorem ofBindings_eq_ok_iff : ofBindings bindings fallback = .ok registry ↔
    (bindings.map Prod.fst).Nodup ∧ registry.bindings.Perm bindings ∧
      registry.fallback = fallback := by
  constructor
  · intro success
    have distinct : (bindings.map Prod.fst).Nodup := by
      by_contra repeated
      obtain ⟨key, first⟩ := exists_firstRepeated repeated
      rw [ofBindings_of_firstRepeated first fallback] at success
      cases success
    obtain ⟨other, made, held⟩ := ofBindings_of_nodup distinct fallback
    rw [success] at made
    cases made
    exact ⟨distinct, held⟩
  · rintro ⟨distinct, perm, sameFallback⟩
    obtain ⟨other, success, permOther, sameOther⟩ := ofBindings_of_nodup distinct fallback
    rw [success, eq_of_perm (perm.trans permOther.symm) (sameFallback.trans sameOther.symm)]

theorem not_nodup_of_error {fault : RegistryFault}
    (failed : ofBindings bindings fallback = .error fault) :
    ¬(bindings.map Prod.fst).Nodup := by
  intro distinct
  obtain ⟨registry, success, _⟩ := ofBindings_of_nodup distinct fallback
  rw [failed] at success
  cases success

theorem ofBindings_eq_error_iff {fault : RegistryFault} :
    ofBindings bindings fallback = .error fault ↔
      ∃ key, FirstRepeated bindings key ∧ fault = .duplicateKey key := by
  constructor
  · intro failed
    obtain ⟨key, first⟩ := exists_firstRepeated (not_nodup_of_error failed)
    rw [ofBindings_of_firstRepeated first fallback] at failed
    cases failed
    exact ⟨key, first, rfl⟩
  · rintro ⟨key, first, rfl⟩
    exact ofBindings_of_firstRepeated first fallback

theorem Indistinguishable.refl (registry : Registry α) : registry.Indistinguishable registry :=
  ⟨fun _ => rfl, fun _ => rfl, rfl, rfl, rfl, fun _ => rfl, fun _ => rfl⟩

/-- Bindings make a registry unless a key is repeated, and the failure names the first that
is.  Any permutation of them makes a registry that cannot be told from the first. -/
theorem ofBindings_order_free (bindings : List (String × α)) (fallback : Fallback α) :
    ((∃ fault, ofBindings bindings fallback = .error fault) ↔
        ¬(bindings.map Prod.fst).Nodup) ∧
      (∀ fault, ofBindings bindings fallback = .error fault ↔
        ∃ key, FirstRepeated bindings key ∧ fault = .duplicateKey key) ∧
      ∀ registry, ofBindings bindings fallback = .ok registry →
        ∀ others, bindings.Perm others →
          ∃ other, ofBindings others fallback = .ok other ∧ registry.Indistinguishable other := by
  refine ⟨⟨?_, ?_⟩, fun _ => ofBindings_eq_error_iff, ?_⟩
  · rintro ⟨fault, failed⟩
    exact not_nodup_of_error failed
  · intro repeated
    obtain ⟨key, first⟩ := exists_firstRepeated repeated
    exact ⟨_, ofBindings_of_firstRepeated first fallback⟩
  · intro registry success others perm
    obtain ⟨distinct, held, sameFallback⟩ := ofBindings_eq_ok_iff.mp success
    have distinctOthers := (perm.map Prod.fst).nodup_iff.mp distinct
    exact ⟨registry, ofBindings_eq_ok_iff.mpr ⟨distinctOthers, held.trans perm, sameFallback⟩,
      .refl registry⟩

/-- Bindings that are not in the order of their keys. -/
def mixedBindings : List (String × Nat) :=
  [("b", 1), ("a", 2), ("ab", 3)]

theorem mixedBindings_order_free :
    (∃ registry other, ofBindings mixedBindings .none = .ok registry ∧
        ofBindings [("ab", 3), ("b", 1), ("a", 2)] .none = .ok other ∧
        registry.keys = ["a", "ab", "b"] ∧ registry.Indistinguishable other) ∧
      ofBindings (mixedBindings ++ [("a", 4), ("b", 5)]) .none = .error (.duplicateKey "a") := by
  constructor
  · obtain ⟨registry, success⟩ : ∃ registry, ofBindings mixedBindings .none = .ok registry :=
      ⟨_, rfl⟩
    have perm : mixedBindings.Perm [("ab", 3), ("b", 1), ("a", 2)] := by decide
    obtain ⟨other, successOther, same⟩ :=
      (ofBindings_order_free mixedBindings .none).2.2 registry success _ perm
    refine ⟨registry, other, success, successOther, ?_, same⟩
    cases success
    decide
  · have names := (ofBindings_order_free (mixedBindings ++ [("a", 4), ("b", 5)]) .none).2.1
    apply (names (.duplicateKey "a")).mpr
    exact ⟨"a", ⟨mixedBindings, 4, [("b", 5)], rfl, by decide, by decide⟩, rfl⟩

end DomainRules.Registry
