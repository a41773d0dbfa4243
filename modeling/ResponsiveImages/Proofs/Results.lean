/-! Results that can be errors, taken apart into their steps. -/
namespace ResponsiveImages

/-- Two steps end well only if both do. -/
theorem bind_eq_ok {ε α β : Type} {first : Except ε α} {next : α → Except ε β} {value : β} :
    first >>= next = .ok value ↔ ∃ middle, first = .ok middle ∧ next middle = .ok value := by
  cases first with
  | error error => simp [bind, Except.bind]
  | ok middle => simp [bind, Except.bind]

theorem map_eq_ok {ε α β : Type} {result : Except ε α} {f : α → β} {value : β} :
    result.map f = .ok value ↔ ∃ middle, result = .ok middle ∧ f middle = value := by
  cases result <;> simp [Except.map]

theorem map_eq_error {ε α β : Type} {result : Except ε α} {f : α → β} {error : ε} :
    result.map f = .error error ↔ result = .error error := by
  cases result <;> simp [Except.map]

theorem mapError_ok {ε δ α : Type} (f : ε → δ) (value : α) :
    (Except.ok value).mapError f = .ok value :=
  rfl

theorem mapError_error {ε δ α : Type} (f : ε → δ) (error : ε) :
    (Except.error error : Except ε α).mapError f = .error (f error) :=
  rfl

theorem mapError_eq_ok {ε δ α : Type} {result : Except ε α} {f : ε → δ} {value : α} :
    result.mapError f = .ok value ↔ result = .ok value := by
  cases result with
  | error error => simp [mapError_error]
  | ok other => simp [mapError_ok]

theorem isOk_iff {ε α : Type} {result : Except ε α} :
    result.isOk = true ↔ ∃ value, result = .ok value := by
  cases result <;> simp [Except.isOk, Except.toBool]

theorem toOption_eq_some_iff {ε α : Type} {result : Except ε α} {value : α} :
    result.toOption = some value ↔ result = .ok value := by
  cases result <;> simp [Except.toOption]

theorem map_toOption_eq_some_iff {ε α β : Type} {result : Except ε α} {f : α → β} {image : β} :
    result.toOption.map f = some image ↔ ∃ value, result = .ok value ∧ f value = image := by
  cases result <;> simp [Except.toOption]

/-- The error that a result consists of, if it is one. -/
def error? {ε α : Type} : Except ε α → Option ε
  | .ok _ => none
  | .error error => some error

/-- The error of two steps is that of the first, or else that of the second. -/
theorem error?_bind {ε α β : Type} (first : Except ε α) (next : α → Except ε β) :
    error? (first >>= next) =
      match first with
      | .error error => some error
      | .ok value => error? (next value) := by
  cases first <;> rfl

theorem error?_eq_some_iff {ε α : Type} {result : Except ε α} {error : ε} :
    error? result = some error ↔ result = .error error := by
  cases result <;> simp [error?]

theorem error?_eq_none_iff {ε α : Type} {result : Except ε α} :
    error? result = none ↔ ∃ value, result = .ok value := by
  cases result <;> simp [error?]

end ResponsiveImages
