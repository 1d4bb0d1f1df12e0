import LayoutCompose.Note

/-!
When computations that may fail succeed.

A sequence of computations succeeds exactly if each of them does, and naming the cause of a
failure does not change that. These equivalences take a computation apart step by step, so that
later proofs need not unfold the way in which steps are put together.
-/

namespace LayoutCompose

variable {ε δ α β : Type}

namespace Outcome

@[simp] theorem pure_eq_ok {a b : α} : (pure a : Except ε α) = .ok b ↔ a = b := by
  change Except.ok a = .ok b ↔ a = b
  simp

@[simp] theorem Except_bind_eq_ok {x : Except ε α} {f : α → Except ε β} {b : β} :
    x.bind f = .ok b ↔ ∃ a, x = .ok a ∧ f a = .ok b := by
  cases x with
  | error e => simp [Except.bind]
  | ok a => simp [Except.bind]

@[simp] theorem bind_eq_ok {x : Except ε α} {f : α → Except ε β} {b : β} :
    (x >>= f) = .ok b ↔ ∃ a, x = .ok a ∧ f a = .ok b :=
  Except_bind_eq_ok

@[simp] theorem mapError_eq_ok {x : Except ε α} {f : ε → δ} {a : α} :
    x.mapError f = .ok a ↔ x = .ok a := by
  cases x with
  | error e =>
      change Except.error (f e) = .ok a ↔ Except.error e = .ok a
      simp
  | ok b =>
      change Except.ok b = .ok a ↔ Except.ok b = .ok a
      simp

theorem mapError_eq_error {x : Except ε α} {f : ε → δ} {d : δ} :
    x.mapError f = .error d ↔ ∃ e, x = .error e ∧ f e = d := by
  cases x with
  | error e =>
      change Except.error (f e) = .error d ↔ _
      simp
  | ok a =>
      change Except.ok a = .error d ↔ _
      simp

theorem Except_bind_eq_error {x : Except ε α} {f : α → Except ε β} {e : ε} :
    x.bind f = .error e ↔ x = .error e ∨ ∃ a, x = .ok a ∧ f a = .error e := by
  cases x with
  | error e' =>
      change Except.error e' = .error e ↔ _
      simp
  | ok a =>
      change f a = .error e ↔ _
      simp

theorem mapError_bind {x : Except ε α} {f : α → Except ε β} (g : ε → δ) :
    (x.bind f).mapError g = (x.mapError g).bind fun a => (f a).mapError g := by
  cases x <;> rfl

@[simp] theorem mapError_mapError {γ : Type} {x : Except ε α} (f : ε → δ) (g : δ → γ) :
    (x.mapError f).mapError g = x.mapError (g ∘ f) := by
  cases x <;> rfl

/-! The value alone, without the cause of a failure. -/

theorem toOption_bind {x : Except ε α} {f : α → Except ε β} :
    (x >>= f).toOption = x.toOption.bind fun a => (f a).toOption := by
  cases x <;> rfl

theorem toOption_bind_congr {x y : Except ε α} {f g : α → Except ε β}
    (hx : x.toOption = y.toOption) (hf : ∀ a, (f a).toOption = (g a).toOption) :
    (x >>= f).toOption = (y >>= g).toOption := by
  rw [toOption_bind, toOption_bind, hx, funext hf]

@[simp] theorem toOption_eq_some_iff {x : Except ε α} {a : α} :
    x.toOption = some a ↔ x = .ok a := by
  cases x <;> simp [Except.toOption]

def Succeeds (x : Except ε α) : Prop :=
  ∃ a, x = .ok a

@[simp] theorem succeeds_ok (a : α) : Succeeds (.ok a : Except ε α) := ⟨a, rfl⟩

@[simp] theorem not_succeeds_error (e : ε) : ¬Succeeds (.error e : Except ε α) :=
  fun ⟨_, h⟩ => nomatch h

@[simp] theorem succeeds_bind {x : Except ε α} {f : α → Except ε β} :
    Succeeds (x.bind f) ↔ ∃ a, x = .ok a ∧ Succeeds (f a) := by
  simp only [Succeeds, Except_bind_eq_ok]
  constructor
  · rintro ⟨b, a, hx, hf⟩
    exact ⟨a, hx, b, hf⟩
  · rintro ⟨a, hx, b, hf⟩
    exact ⟨b, a, hx, hf⟩

/-- A step whose success does not depend on the value before it. -/
theorem succeeds_bind_iff {x : Except ε α} {f : α → Except ε β} {P : Prop}
    (h : ∀ a, Succeeds (f a) ↔ P) : Succeeds (x.bind f) ↔ Succeeds x ∧ P := by
  rw [succeeds_bind]
  constructor
  · rintro ⟨a, hx, hf⟩
    exact ⟨⟨a, hx⟩, (h a).mp hf⟩
  · rintro ⟨⟨a, hx⟩, hP⟩
    exact ⟨a, hx, (h a).mpr hP⟩

/-- A last step that always gives a value. -/
@[simp] theorem succeeds_bind_ok {x : Except ε α} {f : α → β} :
    Succeeds (x.bind fun a => .ok (f a)) ↔ Succeeds x := by
  rw [succeeds_bind_iff fun a => iff_true_intro (succeeds_ok (f a)), and_true]

@[simp] theorem succeeds_mapError {x : Except ε α} {f : ε → δ} :
    Succeeds (x.mapError f) ↔ Succeeds x := by
  simp [Succeeds]

/-- Why a computation fails, if it does. -/
def failure? : Except ε α → Option ε
  | .ok _ => none
  | .error e => some e

theorem failure?_bind (x : Except ε α) (f : α → Except ε β) :
    failure? (x >>= f) = match x with
      | .ok a => failure? (f a)
      | .error e => some e := by
  cases x <;> rfl

theorem succeeds_iff_failure? {x : Except ε α} : Succeeds x ↔ failure? x = none := by
  cases x with
  | ok a => exact iff_of_true ⟨a, rfl⟩ rfl
  | error e => exact iff_of_false (not_succeeds_error e) nofun

@[simp] theorem failure?_eq_some_iff {x : Except ε α} {e : ε} :
    failure? x = some e ↔ x = .error e := by
  cases x <;> simp [failure?]

/-- Whether a computation gives a value with a decidable property is found by running it. -/
instance decidableGives {x : Except ε α} {p : α → Prop} [DecidablePred p] :
    Decidable (∃ a, x = .ok a ∧ p a) :=
  match x with
  | .ok a => decidable_of_iff (p a) (by simp)
  | .error _ => isFalse (by simp)

instance decidableSucceeds {x : Except ε α} : Decidable (Succeeds x) :=
  match x with
  | .ok a => isTrue (succeeds_ok a)
  | .error e => isFalse (not_succeeds_error e)

end Outcome

namespace Noted

@[simp] theorem result_ok (a : α) : (ok a : Noted ε α).result = .ok a := rfl

@[simp] theorem result_error (e : ε) : (error e : Noted ε α).result = .error e := rfl

@[simp] theorem result_mapError (x : Noted ε α) (f : ε → δ) :
    (x.mapError f).result = x.result.mapError f := rfl

end Noted

end LayoutCompose
