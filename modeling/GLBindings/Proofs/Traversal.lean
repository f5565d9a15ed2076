import Mathlib.Data.List.Forall2

namespace GLBindings

/-!
# Traversal — steps that may fail, one after the other

* `bind_eq_ok`, `bind_eq_error`, `map_eq_ok`, `map_eq_error` — what a step and the rest of the way
  come to; `map_bind`, `bind_map` — results that are changed on the way; `toOption_map_eq_some` —
  what is taken from a result.
* `mapM_eq_ok` — a traversal succeeds with the results of its elements.
* `mapM_eq_some` — the same where nothing is said about a failure.
* `exists_mapM_eq_ok` — it does so exactly when each element has one.
* `exists_of_mapM_eq_error` — it fails with the error of an element.
* `mem_of_mapM_eq_ok`, `forall_of_mapM_eq_ok`, `forall_iff_of_forall₂` — where results come from, and
  what holds of all.
* `map_eq_of_mapM_eq_ok` — what the results have in common with their elements.
* `mapM_map_eq_ok` — a traversal of what was computed before.
* `mapM_flatMap` — a traversal of parts, one after the other.
* `foldlM_flatMap` — a run over parts.
-/

variable {α β γ ε : Type}

/-! ### Two steps -/

/-- A sequence of two steps succeeds exactly if both do. -/
theorem bind_eq_ok {x : Except ε α} {f : α → Except ε β} {b : β} :
    x >>= f = .ok b ↔ ∃ a, x = .ok a ∧ f a = .ok b := by
  cases x <;> simp [bind, Except.bind]

/-- A sequence of two steps fails in the first, or in the second after the first has succeeded. -/
theorem bind_eq_error {x : Except ε α} {f : α → Except ε β} {e : ε} :
    x >>= f = .error e ↔ x = .error e ∨ ∃ a, x = .ok a ∧ f a = .error e := by
  cases x <;> simp [bind, Except.bind]

/-- Two steps succeed when the first does and the second goes on from its result. -/
theorem exists_bind_eq_ok {x : Except ε α} {f : α → Except ε β} :
    (∃ b, x >>= f = .ok b) ↔ ∃ a, x = .ok a ∧ ∃ b, f a = .ok b := by
  cases x <;> simp [bind, Except.bind]

/-- A result mapped over is a result before the map. -/
theorem map_eq_ok {x : Except ε α} {g : α → β} {b : β} :
    x.map g = .ok b ↔ ∃ a, x = .ok a ∧ g a = b := by
  cases x <;> simp [Except.map]

/-- Mapping over a result does not change whether there is one. -/
theorem exists_map_eq_ok {x : Except ε α} {g : α → β} :
    (∃ b, x.map g = .ok b) ↔ ∃ a, x = .ok a := by
  cases x <;> simp [Except.map]

/-- Mapping over a result does not touch an error. -/
theorem map_eq_error {x : Except ε α} {g : α → β} {e : ε} :
    x.map g = .error e ↔ x = .error e := by
  cases x <;> simp [Except.map]

/-- A map over a sequence is a map over its last step. -/
theorem map_bind {x : Except ε α} {f : α → Except ε β} {g : β → γ} :
    (x >>= f).map g = x >>= fun a => (f a).map g := by
  cases x <;> rfl

/-- A map before a step goes into the step. -/
theorem bind_map {x : Except ε α} {g : α → β} {f : β → Except ε γ} :
    x.map g >>= f = x >>= fun a => f (g a) := by
  cases x <;> rfl

/-- What does not succeed has an error. -/
theorem not_ok_iff {x : Except ε α} : (¬ ∃ a, x = .ok a) ↔ ∃ e, x = .error e := by
  cases x <;> simp

/-- A result is there exactly when something can be taken from it. -/
theorem toOption_map_eq_some {x : Except ε α} {g : α → β} {b : β} :
    x.toOption.map g = some b ↔ ∃ a, x = .ok a ∧ g a = b := by
  cases x <;> simp [Except.toOption]

/-! ### A list of steps -/

variable {f : α → Except ε β}

/-- A traversal succeeds with a list when its elements do, one for one. -/
theorem mapM_eq_ok {xs : List α} {ys : List β} :
    xs.mapM f = .ok ys ↔ List.Forall₂ (fun x y => f x = .ok y) xs ys := by
  induction xs generalizing ys with
  | nil =>
    rw [List.mapM_nil, List.forall₂_nil_left_iff]
    exact ⟨fun h => (Except.ok.inj h).symm, fun h => congrArg _ h.symm⟩
  | cons x xs ih =>
    rw [List.mapM_cons, List.forall₂_cons_left_iff]
    simp only [bind_eq_ok, ih]
    constructor
    · rintro ⟨y, hy, zs, hzs, h⟩
      exact ⟨y, zs, hy, hzs, (Except.ok.inj h).symm⟩
    · rintro ⟨y, zs, hy, hzs, rfl⟩
      exact ⟨y, hy, zs, hzs, rfl⟩

/-- The same for steps that may have no result. -/
theorem mapM_eq_some {f : α → Option β} {xs : List α} {ys : List β} :
    xs.mapM f = some ys ↔ List.Forall₂ (fun x y => f x = some y) xs ys := by
  induction xs generalizing ys with
  | nil =>
    rw [List.mapM_nil, List.forall₂_nil_left_iff]
    exact ⟨fun h => (Option.some.inj h).symm, fun h => congrArg _ h.symm⟩
  | cons x xs ih =>
    rw [List.mapM_cons, List.forall₂_cons_left_iff]
    simp only [Option.bind_eq_bind, Option.bind_eq_some_iff, ih]
    constructor
    · rintro ⟨y, hy, zs, hzs, h⟩
      exact ⟨y, zs, hy, hzs, (Option.some.inj h).symm⟩
    · rintro ⟨y, zs, hy, hzs, rfl⟩
      exact ⟨y, hy, zs, hzs, rfl⟩

/-- A traversal that fails has the error of one of its elements. -/
theorem exists_of_mapM_eq_error {xs : List α} {e : ε} (h : xs.mapM f = .error e) :
    ∃ x ∈ xs, f x = .error e := by
  induction xs with
  | nil => cases h
  | cons x xs ih =>
    rw [List.mapM_cons, bind_eq_error] at h
    obtain h | ⟨y, -, h⟩ := h
    · exact ⟨x, List.mem_cons_self, h⟩
    · rw [bind_eq_error] at h
      obtain h | ⟨_, -, h⟩ := h
      · obtain ⟨z, hz, hf⟩ := ih h
        exact ⟨z, List.mem_cons_of_mem x hz, hf⟩
      · cases h

/-- A traversal succeeds exactly when each of its elements does. -/
theorem exists_mapM_eq_ok {xs : List α} :
    (∃ ys, xs.mapM f = .ok ys) ↔ ∀ x ∈ xs, ∃ y, f x = .ok y := by
  constructor
  · rintro ⟨ys, h⟩
    have hall : List.Forall₂ (fun x y => f x = .ok y) xs ys := mapM_eq_ok.mp h
    induction hall with
    | nil => simp
    | @cons x y xs ys hxy hrest ih =>
      intro z hz
      rcases List.mem_cons.mp hz with rfl | hz
      · exact ⟨y, hxy⟩
      · exact ih (mapM_eq_ok.mpr hrest) z hz
  · intro h
    -- if it failed, the error would be the one of an element
    by_contra hnot
    obtain ⟨e, he⟩ := not_ok_iff.mp hnot
    obtain ⟨x, hx, hf⟩ := exists_of_mapM_eq_error he
    obtain ⟨y, hy⟩ := h x hx
    rw [hf] at hy
    cases hy

/-- The results of a traversal are what its elements lead to. -/
theorem mem_of_mapM_eq_ok {xs : List α} {ys : List β} (h : xs.mapM f = .ok ys) {y : β} :
    y ∈ ys ↔ ∃ x ∈ xs, f x = .ok y := by
  have hall : List.Forall₂ (fun x y => f x = .ok y) xs ys := mapM_eq_ok.mp h
  clear h
  -- pair by pair of an element and its result
  induction hall with
  | nil => simp
  | cons hxy _ ih => simp [ih, hxy, eq_comm]

/-- What each step makes of its result holds of all results. -/
theorem forall_of_mapM_eq_ok {p : β → Prop} (hp : ∀ x y, f x = .ok y → p y) {xs : List α}
    {ys : List β} (h : xs.mapM f = .ok ys) : ∀ y ∈ ys, p y := by
  intro y hy
  obtain ⟨x, -, hx⟩ := (mem_of_mapM_eq_ok h).mp hy
  exact hp x y hx

/-- What holds of each result exactly when something holds of its element, holds of all so. -/
theorem forall_iff_of_forall₂ {p : β → Prop} {q : α → Prop} {xs : List α} {ys : List β}
    (h : List.Forall₂ (fun x y => p y ↔ q x) xs ys) : (∀ y ∈ ys, p y) ↔ ∀ x ∈ xs, q x := by
  induction h with
  | nil => simp
  | cons hxy _ ih => rw [List.forall_mem_cons, List.forall_mem_cons, hxy, ih]

/-- A property that each result takes from its element is one of the lists. -/
theorem map_eq_of_mapM_eq_ok {xs : List α} {ys : List β} {g : β → γ} {k : α → γ}
    (hgk : ∀ x y, f x = .ok y → g y = k x) (h : xs.mapM f = .ok ys) : ys.map g = xs.map k := by
  have hall : List.Forall₂ (fun x y => k x = g y) xs ys :=
    (mapM_eq_ok.mp h).imp fun x y hxy => (hgk x y hxy).symm
  rw [eq_comm, ← List.forall₂_eq_eq_eq, List.forall₂_map_left_iff, List.forall₂_map_right_iff]
  exact hall

/-- Results that are all there are traversed by taking something from each. -/
theorem mapM_map_eq_ok {xs : List (Except ε α)} {g : α → β} {ys : List β} :
    xs.mapM (·.map g) = .ok ys ↔ ∃ as : List α, xs = as.map .ok ∧ ys = as.map g := by
  rw [mapM_eq_ok]
  constructor
  · intro h
    induction h with
    | nil => exact ⟨[], rfl, rfl⟩
    | cons hxy _ ih =>
      -- the first is a result, and by induction all others are
      obtain ⟨a, rfl, rfl⟩ := map_eq_ok.mp hxy
      obtain ⟨as, rfl, rfl⟩ := ih
      exact ⟨a :: as, rfl, rfl⟩
  · rintro ⟨as, rfl, rfl⟩
    rw [List.forall₂_map_left_iff, List.forall₂_map_right_iff, List.forall₂_same]
    exact fun _ _ => rfl

/-- The elements of parts are traversed part by part. -/
theorem mapM_flatMap {parts : γ → List α} {cs : List γ} :
    (cs.flatMap parts).mapM f = (cs.mapM fun c => (parts c).mapM f).map List.flatten := by
  induction cs with
  | nil => rfl
  | cons c cs ih =>
    -- the first part is traversed in front of the others on both sides
    rw [List.flatMap_cons, List.mapM_append, List.mapM_cons, ih, map_bind]
    simp only [map_bind, bind_map]
    rfl

/-! ### Runs with a state -/

/-- A run over parts is a run over all of them. -/
theorem foldlM_flatMap {σ : Type} (parts : α → List β) (step : σ → β → Except ε σ) (l : List α)
    (s : σ) :
    (l.flatMap parts).foldlM step s = l.foldlM (fun s a => (parts a).foldlM step s) s := by
  induction l generalizing s with
  | nil => rfl
  | cons a l ih =>
    rw [List.flatMap_cons, List.foldlM_append, List.foldlM_cons]
    simp only [ih]

end GLBindings
