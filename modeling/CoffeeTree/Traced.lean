/-!
# Computations that leave a trace

A computation that records events as it goes and may fail. A failure ends it, but what was recorded
before stays: the trace of a failed computation is part of its meaning. In a sequence the traces are
appended in order.
-/

namespace CoffeeTree

/-- The events that a computation recorded, and its result. -/
structure Traced (ω ε α : Type) where
  events : List ω
  result : Except ε α

namespace Traced

variable {ω ε α β : Type}

/-- Records one event. -/
def record (event : ω) : Traced ω ε Unit := ⟨[event], .ok ()⟩

/-- Records events in order. -/
def recordAll (events : List ω) : Traced ω ε Unit := ⟨events, .ok ()⟩

/-- Fails without recording anything. -/
def fail (error : ε) : Traced ω ε α := ⟨[], .error error⟩

/-- A result that records nothing. -/
def ofExcept (result : Except ε α) : Traced ω ε α := ⟨[], result⟩

/-- The same computation with its error told in other words. -/
def mapError {ε' : Type} (f : ε → ε') (c : Traced ω ε α) : Traced ω ε' α :=
  ⟨c.events, c.result.mapError f⟩

/-- Goes on with `next` after a success, and keeps the trace in any case. -/
def andThen (first : Traced ω ε α) (next : α → Traced ω ε β) : Traced ω ε β :=
  match first.result with
  | .error e => ⟨first.events, .error e⟩
  | .ok a => ⟨first.events ++ (next a).events, (next a).result⟩

instance : Monad (Traced ω ε) where
  pure a := ⟨[], .ok a⟩
  bind := andThen

@[simp] theorem pure_events (a : α) : (pure a : Traced ω ε α).events = [] := rfl

@[simp] theorem pure_result (a : α) : (pure a : Traced ω ε α).result = .ok a := rfl

theorem bind_def (first : Traced ω ε α) (next : α → Traced ω ε β) :
    first >>= next = first.andThen next := rfl

theorem bind_assoc {γ : Type} (first : Traced ω ε α) (next : α → Traced ω ε β)
    (last : β → Traced ω ε γ) :
    first >>= next >>= last = first >>= fun a ↦ next a >>= last := by
  obtain ⟨events, result⟩ := first
  cases result with
  | error e => rfl
  | ok a =>
    show andThen ⟨events ++ (next a).events, (next a).result⟩ last =
      ⟨events ++ (andThen (next a) last).events, (andThen (next a) last).result⟩
    rw [andThen, andThen]
    cases (next a).result with
    | error e => rfl
    | ok b =>
      show Traced.mk (events ++ (next a).events ++ (last b).events) (last b).result = _
      rw [List.append_assoc]

theorem bind_pure (first : Traced ω ε α) : first >>= pure = first := by
  obtain ⟨events, result⟩ := first
  cases result with
  | error e => rfl
  | ok a =>
    show Traced.mk (events ++ []) (.ok a) = _
    rw [List.append_nil]

/-- A sequence succeeds exactly when both of its parts do. -/
theorem result_bind_eq_ok {first : Traced ω ε α} {next : α → Traced ω ε β} {b : β} :
    (first >>= next).result = .ok b ↔ ∃ a, first.result = .ok a ∧ (next a).result = .ok b := by
  rw [bind_def, andThen]
  cases first.result <;> simp

/-- Telling an error in other words does not change a success. -/
theorem result_mapError_eq_ok {ε' : Type} {f : ε → ε'} {c : Traced ω ε α} {a : α} :
    (c.mapError f).result = .ok a ↔ c.result = .ok a := by
  rw [mapError]
  cases c.result with
  | error e =>
    constructor
    · intro h
      cases h
    · intro h
      cases h
  | ok b =>
    constructor
    · exact fun h ↦ congrArg Except.ok (Except.ok.inj h)
    · exact fun h ↦ congrArg Except.ok (Except.ok.inj h)

/-- After a success the trace of a sequence is the two traces in order. -/
theorem events_bind_of_ok {first : Traced ω ε α} {next : α → Traced ω ε β} {a : α}
    (h : first.result = .ok a) : (first >>= next).events = first.events ++ (next a).events := by
  rw [bind_def, andThen, h]

/-- After a failure the trace is the one of the part that failed. -/
theorem events_bind_of_error {first : Traced ω ε α} {next : α → Traced ω ε β} {e : ε}
    (h : first.result = .error e) : (first >>= next).events = first.events := by
  rw [bind_def, andThen, h]

end Traced

end CoffeeTree
