import Mathlib.Data.List.Forall2

/-!
# Results that may be failures

When a chain of results succeeds. These equivalences take apart what an operation in `Except` did:
each of its steps succeeded, and the next step went on from there. `AgreesIf` compares two such
chains of which the second may fail where the first does not.
-/

namespace Except

variable {ε δ α β : Type} {x : Except ε α} {a : α} {b : β}

/-- A chain goes on from the success of its first step. -/
@[simp]
theorem ok_bind {f : α → Except ε β} : ((.ok a : Except ε α) >>= f) = f a := rfl

/-- A chain ends at the failure of its first step. -/
@[simp]
theorem error_bind {f : α → Except ε β} {e : ε} :
    ((.error e : Except ε α) >>= f) = .error e := rfl

/-- A chain succeeds exactly when its first step does and the others succeed from there. -/
theorem bind_eq_ok_iff {f : α → Except ε β} :
    (x >>= f) = .ok b ↔ ∃ a, x = .ok a ∧ f a = .ok b := by
  cases x <;> simp [bind, Except.bind]

/-- A mapped result is a success exactly when the result is. -/
theorem map_eq_ok_iff {f : α → β} : x.map f = .ok b ↔ ∃ a, x = .ok a ∧ f a = b := by
  cases x <;> simp [Except.map]

/-- Other words for a failure do not make a success of it. -/
theorem map_error_eq_ok_iff {f : ε → δ} : x.mapError f = .ok a ↔ x = .ok a := by
  cases x with
  | ok b =>
      constructor
      · rintro ⟨⟩
        rfl
      · rintro ⟨⟩
        rfl
  | error e =>
      constructor
      · rintro ⟨⟩
      · rintro ⟨⟩

/-- Two results that succeed in the same cases with the same value are the same but for their
failures. -/
theorem to_option_eq_of_ok_iff {y : Except ε α} (h : ∀ a, x = .ok a ↔ y = .ok a) :
    x.toOption = y.toOption := by
  cases x with
  | ok a => rw [(h a).1 rfl]
  | error e =>
      cases y with
      | ok a => exact absurd ((h a).2 rfl) (by simp)
      | error e => rfl

/-- A result that is no failure is the success of some value. -/
theorem eq_ok_of_is_some (h : x.toOption.isSome = true) : ∃ a, x = .ok a := by
  cases x with
  | ok a => exact ⟨a, rfl⟩
  | error e => cases h

/-- A check of every item of a list succeeds exactly when it succeeds for each of them. -/
theorem for_m_eq_ok_iff {f : α → Except ε Unit} {items : List α} :
    items.forM f = .ok () ↔ ∀ item ∈ items, f item = .ok () := by
  induction items with
  | nil => simp [pure, Except.pure]
  | cons item items ih =>
      show (f item >>= fun _ => items.forM f) = .ok () ↔ _
      simp only [bind_eq_ok_iff, ih, List.forall_mem_cons]
      constructor
      · intro h
        obtain ⟨⟨⟩, hitem, hitems⟩ := h
        exact ⟨hitem, hitems⟩
      · intro h
        obtain ⟨hitem, hitems⟩ := h
        exact ⟨(), hitem, hitems⟩

/-- An operation on every item of a list succeeds exactly when it succeeds for each of them. -/
theorem map_m_eq_ok_iff {f : α → Except ε β} {items : List α} {results : List β} :
    items.mapM f = .ok results ↔
      List.Forall₂ (fun item result => f item = .ok result) items results := by
  induction items generalizing results with
  | nil => cases results <;> simp [pure, Except.pure]
  | cons item items ih =>
      rw [List.mapM_cons]
      simp only [bind_eq_ok_iff, ih]
      constructor
      · intro h
        obtain ⟨result, hitem, others, hitems, ⟨⟩⟩ := h
        exact .cons hitem hitems
      · intro h
        cases h with
        | cons hitem hitems => exact ⟨_, hitem, _, hitems, rfl⟩

/-- An operation on every item of a list succeeds if it succeeds for each of them on its own. -/
theorem exists_map_m_eq_ok_iff {f : α → Except ε β} {items : List α} :
    (∃ results, items.mapM f = .ok results) ↔ ∀ item ∈ items, ∃ result, f item = .ok result := by
  simp only [map_m_eq_ok_iff]
  induction items with
  | nil => simp
  | cons item items ih =>
      rw [List.forall_mem_cons, ← ih]
      constructor
      · intro h
        obtain ⟨results, h⟩ := h
        cases h with
        | cons hitem hitems => exact ⟨⟨_, hitem⟩, _, hitems⟩
      · rintro ⟨⟨result, hitem⟩, results, hitems⟩
        exact ⟨result :: results, .cons hitem hitems⟩

/-- A result is a failure exactly when it is no success. -/
theorem exists_error_iff : (∃ e, x = .error e) ↔ ¬ ∃ a, x = .ok a := by
  cases x <;> simp

/-! ## Results that agree with others -/

variable {y : Except δ α}

/-- One result agrees with another one under a condition: where that is a success, it is no other
success, and it is the same success if the condition holds. -/
def AgreesIf (condition : Prop) (x : Except ε α) (y : Except δ α) : Prop :=
  ∀ a, x = .ok a → (condition → y = .ok a) ∧ ∀ b, y = .ok b → b = a

variable {condition : Prop}

/-- Results that agree under a condition agree under a stronger one. -/
theorem AgreesIf.imp {stronger : Prop} (h : AgreesIf condition x y)
    (hstronger : stronger → condition) : AgreesIf stronger x y := by
  intro a ha
  obtain ⟨hsame, honly⟩ := h a ha
  exact ⟨fun hholds => hsame (hstronger hholds), honly⟩

/-- What is made of results that agree does so too. -/
theorem AgreesIf.map (h : AgreesIf condition x y) (f : α → β) :
    AgreesIf condition (x.map f) (y.map f) := by
  intro b hb
  obtain ⟨a, ha, rfl⟩ := map_eq_ok_iff.1 hb
  obtain ⟨hsame, honly⟩ := h a ha
  constructor
  · exact fun hcondition => map_eq_ok_iff.2 ⟨a, hsame hcondition, rfl⟩
  · intro other hother
    obtain ⟨a', ha', rfl⟩ := map_eq_ok_iff.1 hother
    rw [honly a' ha']

/-- Chains agree if their first steps do and their other steps do from every success. -/
theorem AgreesIf.bind {f : α → Except ε β} {g : α → Except δ β} (h : AgreesIf condition x y)
    (hnext : ∀ a, x = .ok a → AgreesIf condition (f a) (g a)) :
    AgreesIf condition (x >>= f) (y >>= g) := by
  intro b hb
  obtain ⟨a, ha, hb⟩ := bind_eq_ok_iff.1 hb
  obtain ⟨hsame, honly⟩ := h a ha
  obtain ⟨hsame', honly'⟩ := hnext a ha b hb
  constructor
  · intro hcondition
    exact bind_eq_ok_iff.2 ⟨a, hsame hcondition, hsame' hcondition⟩
  · intro other hother
    obtain ⟨a', ha', hother⟩ := bind_eq_ok_iff.1 hother
    rw [honly a' ha'] at hother
    exact honly' other hother

end Except
