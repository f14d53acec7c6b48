/-!
# Computations that may fail

When a computation made of others succeeds, and what it gives then.
-/

namespace Spreadsheet

variable {ε δ α β : Type}

/-- Two computations that go on in the same way from the first result are the same. -/
theorem bind_congr_of_ok {first : Except ε α} {goOn other : α → Except ε β}
    (h : ∀ result, first = .ok result → goOn result = other result) :
    first >>= goOn = first >>= other := by
  cases first with
  | error failure => rfl
  | ok result => exact h result rfl

/-- An optional value is there if the result is that value. -/
theorem to_option_eq_some_iff {result : Except ε α} {value : α} :
    result.toOption = some value ↔ result = .ok value := by
  cases result <;> simp [Except.toOption]

/-- Two computations have the same results as long as they succeed with the same ones, which they
stop doing where one of them is lost. -/
theorem to_option_eq_iff_not {left right : Except ε α} {lost : Prop}
    (hkept : ¬lost → ∀ value, left = .ok value ↔ right = .ok value)
    (hlost : lost → ∀ value, left = .ok value → right ≠ .ok value ∧ right.toOption.isSome = true) :
    left.toOption = right.toOption ↔ ¬(lost ∧ right.toOption.isSome = true) := by
  constructor
  · rintro hsame ⟨h, hsome⟩
    obtain ⟨value, hvalue⟩ := Option.isSome_iff_exists.mp hsome
    exact (hlost h value (to_option_eq_some_iff.mp (hsame.trans hvalue))).1
      (to_option_eq_some_iff.mp hvalue)
  · intro hnot
    refine Option.ext fun value => ?_
    rw [to_option_eq_some_iff, to_option_eq_some_iff]
    by_cases h : lost
    · refine ⟨fun hleft => absurd ⟨h, (hlost h value hleft).2⟩ hnot, fun hright => ?_⟩
      exact absurd ⟨h, Option.isSome_iff_exists.mpr ⟨value, to_option_eq_some_iff.mpr hright⟩⟩ hnot
    · exact hkept h value

/-- A mapped result is a value if the result was one that is mapped to it. -/
theorem except_map_eq_ok_iff {f : α → β} {result : Except ε α} {value : β} :
    result.map f = .ok value ↔ ∃ found, result = .ok found ∧ f found = value := by
  cases result <;> simp [Except.map]

/-- Mapping a result keeps its failure. -/
theorem except_map_eq_error_iff {f : α → β} {result : Except ε α} {failure : ε} :
    result.map f = .error failure ↔ result = .error failure := by
  cases result <;> simp [Except.map]

/-- Mapping a failure keeps the value of a result. -/
theorem map_error_eq_ok_iff {f : ε → δ} {result : Except ε α} {value : α} :
    result.mapError f = .ok value ↔ result = .ok value := by
  cases result with
  | error failure => exact ⟨nofun, nofun⟩
  | ok found =>
      show Except.ok found = Except.ok value ↔ _
      rw [Except.ok.injEq, Except.ok.injEq]

/-- Two computations in a row have a value if the first one has one with which the second one has
it. -/
theorem bind_eq_ok_iff {first : Except ε α} {goOn : α → Except ε β} {value : β} :
    first >>= goOn = .ok value ↔ ∃ result, first = .ok result ∧ goOn result = .ok value := by
  cases first <;> simp [bind, Except.bind]

/-- Two computations in a row fail if the first one does, or the second one with the value of the
first. -/
theorem bind_eq_error_iff {first : Except ε α} {goOn : α → Except ε β} {failure : ε} :
    first >>= goOn = .error failure ↔
      first = .error failure ∨ ∃ result, first = .ok result ∧ goOn result = .error failure := by
  cases first <;> simp [bind, Except.bind]

end Spreadsheet
