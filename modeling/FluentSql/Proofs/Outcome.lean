import Mathlib.Data.List.Forall2

/-!
# Outcomes

How an outcome that may be a fault comes about: from the outcome of a first step, and from the
outcomes of reading a list item by item.
-/

namespace FluentSql.Outcome

variable {ε α β : Type}

theorem bind_eq_ok_iff (x : Except ε α) (f : α → Except ε β) (b : β) :
    (x >>= f) = .ok b ↔ ∃ a, x = .ok a ∧ f a = .ok b := by
  cases x with
  | error fault => simp [bind, Except.bind]
  | ok a => simp [bind, Except.bind]

theorem bind_eq_error_iff (x : Except ε α) (f : α → Except ε β) (fault : ε) :
    (x >>= f) = .error fault ↔ x = .error fault ∨ ∃ a, x = .ok a ∧ f a = .error fault := by
  cases x with
  | error fault => simp [bind, Except.bind]
  | ok a => simp [bind, Except.bind]

theorem map_eq_ok_iff (x : Except ε α) (f : α → β) (b : β) :
    x.map f = .ok b ↔ ∃ a, x = .ok a ∧ f a = b := by
  cases x with
  | error fault => simp [Except.map]
  | ok a => simp [Except.map]

theorem map_eq_error_iff (x : Except ε α) (f : α → β) (fault : ε) :
    x.map f = .error fault ↔ x = .error fault := by
  cases x with
  | error fault => simp [Except.map]
  | ok a => simp [Except.map]

theorem bind_pure_eq_error_iff (x : Except ε α) (f : α → β) (fault : ε) :
    (x >>= fun a => pure (f a)) = .error fault ↔ x = .error fault := by
  simp [bind_eq_error_iff, pure, Except.pure]

/-- A list is read successfully when each of its items is. -/
theorem mapM_eq_ok_iff (f : α → Except ε β) (xs : List α) (ys : List β) :
    xs.mapM f = .ok ys ↔ List.Forall₂ (fun x y => f x = .ok y) xs ys := by
  induction xs generalizing ys with
  | nil => cases ys <;> simp [pure, Except.pure]
  | cons x xs ih =>
    rw [List.mapM_cons]
    simp only [bind_eq_ok_iff, ih, pure, Except.pure, Except.ok.injEq]
    constructor
    · rintro ⟨y, read, rest, reads, rfl⟩
      exact .cons read reads
    · intro all
      cases all with
      | cons read reads => exact ⟨_, read, _, reads, rfl⟩

/-- A list is read no further than to its first item that is at fault. -/
theorem mapM_eq_error_iff (f : α → Except ε β) (xs : List α) (fault : ε) :
    xs.mapM f = .error fault ↔ ∃ before x after, xs = before ++ x :: after ∧
      (∀ y ∈ before, ∃ b, f y = .ok b) ∧ f x = .error fault := by
  induction xs with
  | nil => simp [pure, Except.pure]
  | cons x xs ih =>
    rw [List.mapM_cons]
    simp only [bind_eq_error_iff, ih, pure, Except.pure, reduceCtorEq, and_false, exists_false,
      or_false]
    -- Either the first item is at fault, or it is read and another one further on is at fault.
    constructor
    · rintro (failed | ⟨y, read, before, z, after, rfl, fine, failed⟩)
      · exact ⟨[], x, xs, rfl, by simp, failed⟩
      · refine ⟨x :: before, z, after, rfl, ?_, failed⟩
        intro w member
        rcases List.mem_cons.mp member with rfl | member
        · exact ⟨y, read⟩
        · exact fine w member
    · rintro ⟨before, z, after, equal, fine, failed⟩
      -- Nothing before the offending item means that it is the first.
      cases before with
      | nil =>
        cases equal
        exact .inl failed
      | cons first before =>
        cases equal
        obtain ⟨y, read⟩ := fine x (by simp)
        refine .inr ⟨y, read, before, z, after, rfl, ?_, failed⟩
        exact fun w member => fine w (List.mem_cons_of_mem _ member)

/-- What is made of each item can be made of it at once or after all items are read. -/
theorem mapM_map {γ : Type} (f : α → Except ε β) (g : β → γ) (xs : List α) :
    xs.mapM (fun x => (f x).map g) = (xs.mapM f).map (List.map g) := by
  induction xs with
  | nil => rfl
  | cons x xs ih =>
    rw [List.mapM_cons, List.mapM_cons, ih]
    cases f x with
    | error fault => rfl
    | ok y => cases xs.mapM f <;> rfl

/-- The same for readings that give no reason when they fail. -/
theorem mapM_eq_some_iff (f : α → Option β) (xs : List α) (ys : List β) :
    xs.mapM f = some ys ↔ List.Forall₂ (fun x y => f x = some y) xs ys := by
  induction xs generalizing ys with
  | nil => cases ys <;> simp
  | cons x xs ih =>
    simp only [List.mapM_cons, bind, pure, Option.bind_eq_some_iff, ih, Option.some.injEq]
    constructor
    · rintro ⟨y, read, rest, reads, rfl⟩
      exact .cons read reads
    · intro all
      cases all with
      | cons read reads => exact ⟨_, read, _, reads, rfl⟩

/-! ### Outcomes of two runs -/

/-- Two outcomes of which both are faults, or neither is and the results are related. -/
def Alike (S : α → β → Prop) : Except ε α → Except ε β → Prop
  | .ok a, .ok b => S a b
  | .error _, .error _ => True
  | _, _ => False

/-- What comes next is compared only where both succeed. -/
theorem Alike.bind {γ δ : Type} {S : α → β → Prop} {T : γ → δ → Prop} {x : Except ε α}
    {y : Except ε β} {f : α → Except ε γ} {g : β → Except ε δ} (alike : Alike S x y)
    (next : ∀ a b, S a b → Alike T (f a) (g b)) : Alike T (x >>= f) (y >>= g) := by
  cases x with
  | error fault =>
    cases y with
    | error fault' => trivial
    | ok b => cases alike
  | ok a =>
    cases y with
    | error fault => cases alike
    | ok b => exact next a b alike

theorem Alike.map {γ δ : Type} {S : α → β → Prop} {T : γ → δ → Prop} {x : Except ε α}
    {y : Except ε β} {f : α → γ} {g : β → δ} (alike : Alike S x y)
    (next : ∀ a b, S a b → T (f a) (g b)) : Alike T (x.map f) (y.map g) := by
  cases x with
  | error fault =>
    cases y with
    | error fault' => trivial
    | ok b => cases alike
  | ok a =>
    cases y with
    | error fault => cases alike
    | ok b => exact next a b alike

/-- A first step that both runs have in common. -/
theorem Alike.bind_same {γ δ : Type} {T : γ → δ → Prop} (x : Except ε α) {f : α → Except ε γ}
    {g : α → Except ε δ} (next : ∀ a, Alike T (f a) (g a)) : Alike T (x >>= f) (x >>= g) := by
  cases x with
  | error fault => trivial
  | ok a => exact next a

theorem Alike.map_same {γ δ : Type} {T : γ → δ → Prop} (x : Except ε α) {f : α → γ} {g : α → δ}
    (next : ∀ a, T (f a) (g a)) : Alike T (x.map f) (x.map g) := by
  cases x with
  | error fault => trivial
  | ok a => exact next a

end FluentSql.Outcome
