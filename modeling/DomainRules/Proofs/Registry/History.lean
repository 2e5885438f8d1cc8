import DomainRules.Proofs.Registry.Bindings

/-!
# Histories of a registry

A registry that has been asked any number of things answers by the first registration
of each key and by its fallback, and by nothing else.  Later registrations of a key are
refused without a trace, and so is what is only looked up.  The main statement says this
of every history, in terms of the answers of runs that begin with it.
-/

namespace DomainRules.Registry

variable {α : Type}

/-- What is asked of a registry. -/
inductive Request (α : Type) where
  | register (key : String) (handler : α)
  | resolve (key : String)
  | contains (key : String)
  | keys
  | size

/-- What a registry answers. -/
inductive Answer (α : Type) where
  | registered (result : Except RegistryFault Unit)
  | resolved (result : Except RegistryFault (Resolved α))
  | contained (present : Bool)
  | keys (keys : List String)
  | size (size : Nat)

/-- The answer to a request, and the registry after it. -/
def respond (registry : Registry α) : Request α → Answer α × Registry α
  | .register key handler =>
      match registry.register key handler with
      | .ok after => (.registered (.ok ()), after)
      | .error fault => (.registered (.error fault), registry)
  | .resolve key => (.resolved (registry.resolve key), registry)
  | .contains key => (.contained (registry.contains key), registry)
  | .keys => (.keys registry.keys, registry)
  | .size => (.size registry.size, registry)

/-- The answers to requests that are made one after the other. -/
def answers (registry : Registry α) : List (Request α) → List (Answer α)
  | [] => []
  | request :: requests =>
      (registry.respond request).1 :: answers (registry.respond request).2 requests

/-- The answers to requests in a run of a new registry that begins with others. -/
def answersAfter (fallback : Fallback α) (history requests : List (Request α)) :
    List (Answer α) :=
  ((ofFallback fallback).answers (history ++ requests)).drop history.length

/-- Some registration of the key has succeeded. -/
def Bound (fallback : Fallback α) (history : List (Request α)) (key : String) : Prop :=
  ∃ earlier handler later, history = earlier ++ .register key handler :: later ∧
    answersAfter fallback earlier [.register key handler] = [.registered (.ok ())]

/-- The handler that a request is to bind a key to. -/
def Request.handlerFor? (key : String) : Request α → Option α
  | .register other handler => if other = key then some handler else none
  | _ => none

/-- The handler of the first registration of a key. -/
def firstHandler? (key : String) (history : List (Request α)) : Option α :=
  history.findSome? (Request.handlerFor? key)

/-- The answers that a history leads to, whatever else the registry is asked. -/
structure FirstWins (fallback : Fallback α) (history : List (Request α)) : Prop where
  /-- Each request is answered where those before it have led to. -/
  proceeds : ∀ request later, answersAfter fallback history (request :: later) =
    answersAfter fallback history [request] ++ answersAfter fallback (history ++ [request]) later
  /-- A registration succeeds if none of the key has succeeded before. -/
  registers : ∀ key handler,
    answersAfter fallback history [.register key handler] = [.registered (.ok ())] ↔
      ¬Bound fallback history key
  /-- Any other registration fails, and no later answer shows that it was tried. -/
  refuses : ∀ key handler, Bound fallback history key →
    answersAfter fallback history [.register key handler] =
        [.registered (.error (.duplicateKey key))] ∧
      ∀ later, answersAfter fallback (history ++ [.register key handler]) later =
        answersAfter fallback history later
  /-- A bound key leads to the handler of its first registration. -/
  resolves : ∀ key, Bound fallback history key →
    ∃ handler, firstHandler? key history = some handler ∧
      answersAfter fallback history [.resolve key] = [.resolved (.ok ⟨handler, true⟩)]
  /-- Any other key leads to what the fallback has for it. -/
  fallsBack : ∀ key, ¬Bound fallback history key →
    answersAfter fallback history [.resolve key] =
      [.resolved (match fallback with
        | .none => .error (.unsupportedKey key)
        | .fixed handler => .ok ⟨handler, true⟩
        | .factory make => .ok ⟨make key, false⟩)]
  /-- No later answer shows that something other than a registration was asked. -/
  untouched : ∀ request, (∀ key handler, request ≠ .register key handler) →
    ∀ later, answersAfter fallback (history ++ [request]) later =
      answersAfter fallback history later
  /-- The keys are the bound ones, in their order. -/
  lists : ∃ keys, answersAfter fallback history [.keys] = [.keys keys] ∧
    keys.Pairwise (· < ·) ∧ (∀ key, key ∈ keys ↔ Bound fallback history key) ∧
    answersAfter fallback history [.size] = [.size keys.length]
  /-- A key is contained if it is bound. -/
  contains : ∀ key, ∃ present,
    answersAfter fallback history [.contains key] = [.contained present] ∧
      (present = true ↔ Bound fallback history key)

/-! ## One request -/

/-- A request binds a key for which it has a handler, if nothing has bound it before. -/
theorem get?_respond (registry : Registry α) (request : Request α) (key : String) :
    (registry.respond request).2.get? key =
      (registry.get? key).or (request.handlerFor? key) := by
  cases request with
  | register other handler =>
      rw [respond]
      cases result : registry.register other handler with
      | ok after =>
          have absent := exists_register_eq_ok_iff.mp ⟨after, result⟩
          rw [contains, Option.isSome_eq_false_iff, Option.isNone_iff_eq_none] at absent
          dsimp only [Request.handlerFor?]
          rw [get?_of_register result]
          by_cases same : key = other
          · rw [same, absent, if_pos rfl, Option.none_or]
          · rw [if_neg same, if_neg (Ne.symm same), Option.or_none]
      | error fault =>
          obtain ⟨present, _⟩ := register_eq_error_iff.mp result
          rcases Option.isSome_iff_exists.mp present with ⟨held, isHeld⟩
          dsimp only [Request.handlerFor?]
          by_cases same : other = key
          · rw [← same, isHeld, Option.some_or]
          · rw [if_neg same, Option.or_none]
  | resolve | contains | keys | size => exact (Option.or_none).symm

theorem fallback_respond (registry : Registry α) (request : Request α) :
    (registry.respond request).2.fallback = registry.fallback := by
  cases request with
  | register key handler =>
      rw [respond]
      cases result : registry.register key handler with
      | ok after => exact fallback_of_register result
      | error fault => rfl
  | resolve | contains | keys | size => rfl

/-- A registration that fails leaves the registry as it is. -/
theorem respond_register_of_contains {registry : Registry α} {key : String} (handler : α)
    (present : registry.contains key = true) :
    registry.respond (.register key handler) =
      (.registered (.error (.duplicateKey key)), registry) := by
  rw [respond, register_eq_error_iff.mpr ⟨present, rfl⟩]

theorem respond_register_eq_ok_iff {registry : Registry α} {key : String} (handler : α) :
    (registry.respond (.register key handler)).1 = .registered (.ok ()) ↔
      registry.contains key = false := by
  have succeeds : (∃ after, registry.register key handler = .ok after) ↔
      registry.contains key = false := exists_register_eq_ok_iff
  rw [← succeeds, respond]
  cases registry.register key handler with
  | ok after => simp
  | error fault => simp

theorem resolve_of_get?_eq_some {registry : Registry α} {key : String} {handler : α}
    (held : registry.get? key = some handler) : registry.resolve key = .ok ⟨handler, true⟩ := by
  rw [resolve, held]

/-! ## Runs -/

/-- The registry after requests that are made one after the other. -/
def leftBy (registry : Registry α) (requests : List (Request α)) : Registry α :=
  requests.foldl (fun registry request => (registry.respond request).2) registry

theorem answers_append (registry : Registry α) (history later : List (Request α)) :
    registry.answers (history ++ later) =
      registry.answers history ++ (registry.leftBy history).answers later := by
  induction history generalizing registry with
  | nil => rfl
  | cons request history ih =>
      rw [List.cons_append, answers, ih, answers]
      rfl

theorem length_answers (registry : Registry α) (requests : List (Request α)) :
    (registry.answers requests).length = requests.length := by
  induction requests generalizing registry with
  | nil => rfl
  | cons request requests ih => rw [answers, List.length_cons, ih, List.length_cons]

theorem get?_leftBy (registry : Registry α) (history : List (Request α)) (key : String) :
    (registry.leftBy history).get? key =
      (registry.get? key).or (firstHandler? key history) := by
  induction history generalizing registry with
  | nil => exact (Option.or_none).symm
  | cons request history ih =>
      rw [leftBy, List.foldl_cons]
      refine (ih _).trans ?_
      rw [get?_respond, Option.or_assoc, firstHandler?, firstHandler?, List.findSome?_cons]
      cases request.handlerFor? key with
      | none => rfl
      | some handler => rfl

theorem fallback_leftBy (registry : Registry α) (history : List (Request α)) :
    (registry.leftBy history).fallback = registry.fallback := by
  induction history generalizing registry with
  | nil => rfl
  | cons request history ih => exact (ih _).trans (fallback_respond registry request)

/-! ## Histories of a new registry -/

variable {fallback : Fallback α} {history : List (Request α)} {key : String}

/-- The registry that a history leaves of a new one. -/
def ofHistory (fallback : Fallback α) (history : List (Request α)) : Registry α :=
  (ofFallback fallback).leftBy history

theorem answersAfter_eq (fallback : Fallback α) (history requests : List (Request α)) :
    answersAfter fallback history requests = (ofHistory fallback history).answers requests := by
  rw [answersAfter, answers_append]
  exact List.drop_left' (length_answers _ history)

theorem ofHistory_concat (fallback : Fallback α) (history : List (Request α))
    (request : Request α) :
    ofHistory fallback (history ++ [request]) =
      ((ofHistory fallback history).respond request).2 :=
  List.foldl_append

/-- The registry holds the first handlers of the history. -/
theorem get?_ofHistory (fallback : Fallback α) (history : List (Request α)) (key : String) :
    (ofHistory fallback history).get? key = firstHandler? key history :=
  get?_leftBy (ofFallback fallback) history key

theorem contains_ofHistory (fallback : Fallback α) (history : List (Request α)) (key : String) :
    (ofHistory fallback history).contains key = (firstHandler? key history).isSome := by
  rw [contains, get?_ofHistory]

/-- The first registration of a key is the one that succeeds. -/
theorem bound_iff : Bound fallback history key ↔
    (ofHistory fallback history).contains key = true := by
  rw [contains_ofHistory]
  constructor
  · rintro ⟨earlier, handler, later, rfl, _⟩
    apply List.findSome?_isSome_iff.mpr
    refine ⟨.register key handler, by simp, ?_⟩
    rw [Request.handlerFor?, if_pos rfl]
    rfl
  · intro registered
    rcases Option.isSome_iff_exists.mp registered with ⟨handler, first⟩
    rcases List.findSome?_eq_some_iff.mp first with ⟨earlier, request, later, rfl, has, none⟩
    have isRegister : request = .register key handler := by
      cases request with
      | register other held =>
          rw [Request.handlerFor?] at has
          split at has
          · next same =>
              cases has
              rw [same]
          · cases has
      | resolve | contains | keys | size => cases has
    subst isRegister
    refine ⟨earlier, handler, later, rfl, ?_⟩
    have absent : (ofHistory fallback earlier).contains key = false := by
      rw [contains_ofHistory, firstHandler?, List.findSome?_eq_none_iff.mpr none]
      rfl
    rw [answersAfter_eq, answers, (respond_register_eq_ok_iff handler).mpr absent]
    rfl

theorem not_bound_iff : ¬Bound fallback history key ↔
    (ofHistory fallback history).contains key = false := by
  rw [bound_iff, Bool.not_eq_true]

/-- Whatever a registry has been asked, its answers are those that the first
registrations and the fallback lead to. -/
theorem first_registration_wins (fallback : Fallback α) (history : List (Request α)) :
    FirstWins fallback history where
  proceeds request later := by
    rw [answersAfter_eq, answersAfter_eq, answersAfter_eq, ofHistory_concat]
    rfl
  registers key handler := by
    rw [answersAfter_eq, not_bound_iff, ← respond_register_eq_ok_iff handler]
    exact List.singleton_inj
  refuses key handler bound := by
    have refused := respond_register_of_contains handler (bound_iff.mp bound)
    constructor
    · rw [answersAfter_eq, answers, refused]
      rfl
    · intro later
      rw [answersAfter_eq, answersAfter_eq, ofHistory_concat, refused]
  resolves key bound := by
    have present := bound_iff.mp bound
    rw [contains_ofHistory] at present
    rcases Option.isSome_iff_exists.mp present with ⟨handler, first⟩
    refine ⟨handler, first, ?_⟩
    have held := (get?_ofHistory fallback history key).trans first
    rw [answersAfter_eq, answers, respond, resolve_of_get?_eq_some held]
    rfl
  fallsBack key unbound := by
    have absent := not_bound_iff.mp unbound
    rw [contains, Option.isSome_eq_false_iff, Option.isNone_iff_eq_none] at absent
    rw [answersAfter_eq, answers, respond, resolve, absent, ofHistory, fallback_leftBy]
    rfl
  untouched request passive later := by
    rw [answersAfter_eq, answersAfter_eq, ofHistory_concat]
    cases request with
    | register key handler => exact absurd rfl (passive key handler)
    | resolve | contains | keys | size => rfl
  lists := by
    refine ⟨(ofHistory fallback history).keys, ?_, pairwise_keys _, ?_, ?_⟩
    · rw [answersAfter_eq]
      rfl
    · intro key
      rw [mem_keys_iff, bound_iff]
    · rw [answersAfter_eq, length_keys]
      rfl
  contains key := by
    refine ⟨(ofHistory fallback history).contains key, ?_, bound_iff.symm⟩
    rw [answersAfter_eq]
    rfl

/-- Requests in which a key is asked for before it is registered, and registered twice. -/
def mixedHistory : List (Request Nat) :=
  [.resolve "b", .register "b" 1, .register "a" 2, .register "b" 3]

theorem mixedHistory_first_wins :
    Bound (.factory String.length) mixedHistory "b" ∧
      ¬Bound (.factory String.length) mixedHistory "ab" ∧
      answersAfter (.factory String.length) mixedHistory [.register "b" 5] =
        [.registered (.error (.duplicateKey "b"))] ∧
      answersAfter (.factory String.length) mixedHistory [.resolve "b"] =
        [.resolved (.ok ⟨1, true⟩)] ∧
      answersAfter (.factory String.length) mixedHistory [.resolve "ab"] =
        [.resolved (.ok ⟨2, false⟩)] := by
  have wins := first_registration_wins (.factory String.length) mixedHistory
  have bound : Bound (.factory String.length) mixedHistory "b" :=
    ⟨[.resolve "b"], 1, [.register "a" 2, .register "b" 3], rfl, rfl⟩
  have unbound : ¬Bound (.factory String.length) mixedHistory "ab" :=
    (wins.registers "ab" 0).mp rfl
  obtain ⟨handler, first, resolved⟩ := wins.resolves "b" bound
  cases first
  exact ⟨bound, unbound, (wins.refuses "b" 5 bound).1, resolved, wins.fallsBack "ab" unbound⟩

end DomainRules.Registry
