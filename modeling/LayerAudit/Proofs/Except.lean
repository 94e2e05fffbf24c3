/-!
# Values with faults

When a computation that may fail comes to a value, and when to a fault.
-/

namespace LayerAudit

variable {ε ε' α β : Type}

/-- Two computations in a row come to a value if the first one does, and the second one from there. -/
theorem bind_eq_ok_iff {x : Except ε α} {f : α → Except ε β} {b : β} :
    x >>= f = .ok b ↔ ∃ a, x = .ok a ∧ f a = .ok b := by
  cases x <;> simp [bind, Except.bind]

/-- Two computations in a row fail if the first one does, or the second one from where the first came to. -/
theorem bind_eq_error_iff {x : Except ε α} {f : α → Except ε β} {e : ε} :
    x >>= f = .error e ↔ x = .error e ∨ ∃ a, x = .ok a ∧ f a = .error e := by
  cases x <;> simp [bind, Except.bind]

/-- To go on from a value without a fault makes no fault. -/
theorem map_eq_ok_iff {x : Except ε α} {f : α → β} {b : β} :
    f <$> x = .ok b ↔ ∃ a, x = .ok a ∧ f a = b := by
  cases x <;> simp [Functor.map, Except.map]

/-- To say otherwise what is wrong leaves the values as they are. -/
theorem mapError_eq_ok_iff {x : Except ε α} {f : ε → ε'} {a : α} :
    x.mapError f = .ok a ↔ x = .ok a := by
  cases x with
  | error fault =>
    change Except.error (f fault) = .ok a ↔ _
    simp
  | ok b =>
    change Except.ok b = .ok a ↔ _
    simp

/-- What is wrong is what was wrong before it was said otherwise. -/
theorem mapError_eq_error_iff {x : Except ε α} {f : ε → ε'} {e : ε'} :
    x.mapError f = .error e ↔ ∃ fault, x = .error fault ∧ f fault = e := by
  cases x with
  | error fault =>
    change Except.error (f fault) = .error e ↔ _
    simp
  | ok b =>
    change Except.ok b = .error e ↔ _
    simp

/-- A value is what is left if the fault does not matter. -/
theorem toOption_eq_some_iff {x : Except ε α} {a : α} : x.toOption = some a ↔ x = .ok a := by
  cases x <;> simp [Except.toOption]

/-- If faults do not matter, the second of two computations goes on from the value that the first one
has, if any. -/
theorem toOption_bind (x : Except ε α) (f : α → Except ε β) :
    (x >>= f).toOption = x.toOption.bind fun a => (f a).toOption := by
  cases x <;> rfl

/-- If faults do not matter, what is made of a value is made of it if there is one. -/
theorem toOption_map (x : Except ε α) (f : α → β) : (f <$> x).toOption = x.toOption.map f := by
  cases x <;> rfl

end LayerAudit
