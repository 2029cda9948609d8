/-!
# Computations that may fail

A computation of several steps succeeds if every step does. Where only the result counts, and not
the error, a computation is looked at as an option.

## Main results

* `Except.bind_eq_ok_iff`, `Except.map_eq_ok_iff`: when a computation succeeds
* `Except.toOption_bind`, `Except.toOption_eq_some_iff`: computations as options
* `Option.of_foldlM_eq_some`: what each step of a run keeps is kept by the run
-/

namespace GradleScript.Except

variable {ε α β : Type}

/-- Outcomes can be compared if errors and results can. -/
instance decEq [DecidableEq ε] [DecidableEq α] : DecidableEq (Except ε α)
  | .error e, .error e' => decidable_of_iff (e = e') (by simp)
  | .ok a, .ok a' => decidable_of_iff (a = a') (by simp)
  | .error _, .ok _ => isFalse (by simp)
  | .ok _, .error _ => isFalse (by simp)

theorem bind_eq_ok_iff {x : Except ε α} {f : α → Except ε β} {b : β} :
    (x >>= f) = .ok b ↔ ∃ a, x = .ok a ∧ f a = .ok b := by
  cases x with
  | error e => simp [bind, Except.bind]
  | ok a => simp [bind, Except.bind]

theorem map_eq_ok_iff {x : Except ε α} {f : α → β} {b : β} :
    x.map f = .ok b ↔ ∃ a, x = .ok a ∧ f a = b := by
  cases x with
  | error e => simp [Except.map]
  | ok a => simp [Except.map]

theorem toOption_bind (x : Except ε α) (f : α → Except ε β) :
    (x >>= f).toOption = x.toOption.bind fun a => (f a).toOption := by
  cases x <;> rfl

theorem toOption_map (x : Except ε α) (f : α → β) : (x.map f).toOption = x.toOption.map f := by
  cases x <;> rfl

theorem toOption_eq_some_iff {x : Except ε α} {a : α} : x.toOption = some a ↔ x = .ok a := by
  cases x with
  | error e => simp [Except.toOption]
  | ok b => simp [Except.toOption]

theorem isSome_toOption_iff {x : Except ε α} : x.toOption.isSome = true ↔ ∃ a, x = .ok a := by
  simp only [Option.isSome_iff_exists, toOption_eq_some_iff]

end GradleScript.Except

namespace GradleScript.Option

variable {α σ : Type} {step : σ → α → Option σ} {P : List α → σ → Prop}

/-- What each step keeps of the items that have been read and the state, a run keeps. -/
theorem of_foldlM_eq_some (keep : ∀ read a s s', P read s → step s a = some s' → P (read ++ [a]) s')
    {read more : List α} {s s' : σ} (h : P read s) (e : more.foldlM step s = some s') :
    P (read ++ more) s' := by
  induction more generalizing s read with
  | nil =>
    cases e
    rw [List.append_nil]
    exact h
  | cons a rest ih =>
    rw [List.foldlM_cons, Option.bind_eq_bind, Option.bind_eq_some_iff] at e
    obtain ⟨next, hn, e⟩ := e
    have run := ih (keep read a s next h hn) e
    rw [List.append_assoc] at run
    exact run

end GradleScript.Option
