import Mathlib.Data.List.Forall2

/-!
Computations that may fail. One that returns has come through each of its parts; and a list of them returns if each
does.
-/
namespace SenderPolicy
variable {ε ε' α β : Type} {a : α} {b : β}

theorem eq_ok_of_toOption {x : Except ε α} (h : x.toOption = some a) : x = .ok a := by
  cases x with
  | error e => cases h
  | ok b => exact congrArg Except.ok (Option.some.inj h)

theorem ok_bind (a : α) (f : α → Except ε β) : ((.ok a : Except ε α) >>= f) = f a := rfl

theorem of_bind_eq_ok {x : Except ε α} {f : α → Except ε β} (h : x >>= f = .ok b) : ∃ a, x = .ok a ∧ f a = .ok b := by
  cases x with
  | error e => cases h
  | ok a => exact ⟨a, rfl, h⟩

theorem of_guard_eq_ok {p : Prop} [Decidable p] {e : ε} {f : Unit → Except ε β}
    (h : (if p then (do let r ← throw e; f r) else f ()) = .ok b) : ¬ p ∧ f () = .ok b := by
  split at h
  · cases h
  · rename_i hp
    exact ⟨hp, h⟩

theorem of_guard_eq_some {p : Prop} [Decidable p] {f : Unit → Option β}
    (h : (if p then (do let r ← none; f r) else f ()) = some b) : ¬ p ∧ f () = some b := by
  split at h
  · cases h
  · rename_i hp
    exact ⟨hp, h⟩

theorem of_map_eq_ok {x : Except ε α} {g : α → β} (h : x.map g = .ok b) : ∃ a, x = .ok a ∧ b = g a := by
  cases x with
  | error e => cases h
  | ok a => exact ⟨a, rfl, (Except.ok.inj h).symm⟩

theorem of_mapError_eq_ok {x : Except ε α} {g : ε → ε'} (h : x.mapError g = .ok a) : x = .ok a := by
  cases x with
  | error e => cases h
  | ok b => exact congrArg Except.ok (Except.ok.inj h)

/-! Lists -/

theorem mapM_eq_ok_iff {f : α → Except ε β} {xs : List α} {ys : List β} :
    xs.mapM f = .ok ys ↔ List.Forall₂ (fun x y => f x = .ok y) xs ys := by
  induction xs generalizing ys with
  | nil =>
    rw [List.forall₂_nil_left_iff]
    exact ⟨fun h => (Except.ok.inj h).symm, fun h => congrArg Except.ok h.symm⟩
  | cons x rest ih =>
    rw [List.mapM_cons]
    constructor
    · intro h
      obtain ⟨y, hy, h⟩ := of_bind_eq_ok h
      obtain ⟨zs, hzs, h⟩ := of_bind_eq_ok h
      cases h
      exact .cons hy (ih.mp hzs)
    · rintro (_ | ⟨hy, hzs⟩)
      rw [hy, ok_bind, ih.mpr hzs]
      rfl

theorem of_mapM_eq_ok {f : α → Except ε β} {xs : List α} {ys : List β} (h : xs.mapM f = .ok ys) :
    ∀ x ∈ xs, ∃ y, f x = .ok y := by
  rw [mapM_eq_ok_iff] at h
  induction h with
  | nil => simp
  | cons hy _ ih =>
    rw [List.forall_mem_cons]
    exact ⟨⟨_, hy⟩, ih⟩

theorem exists_mapM_ok {f : α → Except ε β} {xs : List α} (h : ∀ x ∈ xs, ∃ y, f x = .ok y) :
    ∃ ys, xs.mapM f = .ok ys := by
  induction xs with
  | nil => exact ⟨[], rfl⟩
  | cons x rest ih =>
    rw [List.forall_mem_cons] at h
    obtain ⟨y, hy⟩ := h.1
    obtain ⟨ys, hys⟩ := ih h.2
    exact ⟨y :: ys, by rw [List.mapM_cons, hy, ok_bind, hys]; rfl⟩

theorem mapM_eq_some_of_ok {f : α → Except ε β} {g : α → Option β} {xs : List α} {ys : List β}
    (hfg : ∀ x y, f x = .ok y → g x = some y) (h : xs.mapM f = .ok ys) : xs.mapM g = some ys := by
  rw [mapM_eq_ok_iff] at h
  induction h with
  | nil => rfl
  | cons hy _ ih =>
    rw [List.mapM_cons, hfg _ _ hy, ih]
    rfl

theorem isSome_of_mapM {f : α → Option β} {xs : List α} {ys : List β} (h : xs.mapM f = some ys) :
    ∀ x ∈ xs, (f x).isSome = true := by
  induction xs generalizing ys with
  | nil => simp
  | cons x rest ih =>
    rw [List.mapM_cons] at h
    obtain ⟨y, hy, h⟩ := Option.bind_eq_some_iff.mp h
    obtain ⟨zs, hzs, -⟩ := Option.bind_eq_some_iff.mp h
    rw [List.forall_mem_cons]
    exact ⟨Option.isSome_of_eq_some hy, ih hzs⟩

theorem of_mapM_concat {f : α → Option β} {xs : List α} {x : α} {ys : List β} (h : (xs ++ [x]).mapM f = some ys) :
    ∃ zs z, xs.mapM f = some zs ∧ f x = some z ∧ ys = zs ++ [z] := by
  rw [List.mapM_append, List.mapM_cons, List.mapM_nil] at h
  obtain ⟨zs, hzs, h⟩ := Option.bind_eq_some_iff.mp h
  obtain ⟨ws, hws, h⟩ := Option.bind_eq_some_iff.mp h
  obtain ⟨z, hz, hws⟩ := Option.bind_eq_some_iff.mp hws
  cases hws
  exact ⟨zs, z, hzs, hz, (Option.some.inj h).symm⟩

theorem exists_mapM_some {f : α → Option β} {xs : List α} (h : ∀ x ∈ xs, (f x).isSome = true) :
    ∃ ys, xs.mapM f = some ys := by
  induction xs with
  | nil => exact ⟨[], rfl⟩
  | cons x rest ih =>
    rw [List.forall_mem_cons] at h
    obtain ⟨y, hy⟩ := Option.isSome_iff_exists.mp h.1
    obtain ⟨ys, hys⟩ := ih h.2
    exact ⟨y :: ys, by simp [hy, hys]⟩

end SenderPolicy
