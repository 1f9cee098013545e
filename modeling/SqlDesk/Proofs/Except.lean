import Mathlib.Data.List.Perm.Basic
import SqlDesk.Error

/-!
# Computations that may fail

What sequencing comes to once the outcome of the first step is known, and what a sequence that
returned says about its steps.
-/

namespace Except

variable {ε α β γ : Type}

@[simp] theorem ok_bind (a : α) (f : α → Except ε β) : ((.ok a : Except ε α) >>= f) = f a := rfl

@[simp] theorem error_bind (e : ε) (f : α → Except ε β) :
    ((.error e : Except ε α) >>= f) = .error e := rfl

theorem bind_eq_ok {x : Except ε α} {f : α → Except ε β} {b : β} :
    (x >>= f) = .ok b ↔ ∃ a, x = .ok a ∧ f a = .ok b := by
  cases x <;> simp

theorem bind_eq_error {x : Except ε α} {f : α → Except ε β} {e : ε} :
    (x >>= f) = .error e ↔ x = .error e ∨ ∃ a, x = .ok a ∧ f a = .error e := by
  cases x <;> simp

theorem map_eq_ok {x : Except ε α} {f : α → β} {b : β} :
    f <$> x = .ok b ↔ ∃ a, x = .ok a ∧ f a = b := by
  cases x <;> simp

theorem map_eq_error {x : Except ε α} {f : α → β} {e : ε} :
    f <$> x = .error e ↔ x = .error e := by
  cases x <;> simp

/-- Results that agree up to `h` for every outcome of a step agree up to `h`, failures included. -/
theorem map_bind_congr {f g : α → Except ε β} {h : β → γ} (hfg : ∀ a, h <$> f a = h <$> g a)
    (x : Except ε α) : h <$> (x >>= f) = h <$> (x >>= g) := by
  rcases x with e | a
  · rfl
  · exact hfg a

theorem map_map_congr {f g : α → β} {h : β → γ} (hfg : ∀ a, h (f a) = h (g a))
    (x : Except ε α) : h <$> f <$> x = h <$> g <$> x := by
  rcases x with e | a
  · rfl
  · exact congrArg Except.ok (hfg a)

/-- Steps that agree up to `k` may be followed by functions that respect `k`. -/
theorem map_map_of_map_eq {δ : Type} {f g : α → β} {h : β → γ} {k : α → δ} {x y : Except ε α}
    (hxy : k <$> x = k <$> y) (hfg : ∀ a b, k a = k b → h (f a) = h (g b)) :
    h <$> f <$> x = h <$> g <$> y := by
  rcases x with e | a <;> rcases y with e' | b
  · exact congrArg Except.error (Except.error.inj hxy)
  · cases hxy
  · cases hxy
  · exact congrArg Except.ok (hfg a b (Except.ok.inj hxy))

/-- A traversal returns if every item is read, and then it returns what was read. -/
theorem mapM_eq_ok {f : α → Except ε β} {xs : List α} {ys : List β} :
    xs.mapM f = .ok ys ↔ List.Forall₂ (fun x y => f x = .ok y) xs ys := by
  induction xs generalizing ys with
  | nil => cases ys <;> simp [pure, Except.pure]
  | cons x xs ih =>
    rw [List.mapM_cons, bind_eq_ok]
    constructor
    · rintro ⟨y, hy, h⟩
      obtain ⟨zs, hz, h⟩ := bind_eq_ok.mp h
      obtain rfl : y :: zs = ys := by simpa [pure, Except.pure] using h
      exact .cons hy (ih.mp hz)
    · rintro (_ | ⟨hy, hz⟩)
      exact ⟨_, hy, bind_eq_ok.mpr ⟨_, ih.mpr hz, rfl⟩⟩

/-- A traversal returns if and only if every step does. -/
theorem exists_mapM_eq_ok {f : α → Except ε β} {xs : List α} :
    (∃ ys, xs.mapM f = .ok ys) ↔ ∀ x ∈ xs, ∃ y, f x = .ok y := by
  simp only [mapM_eq_ok]
  induction xs with
  | nil => simp
  | cons x xs ih => simp [List.forall₂_cons_left_iff, ← ih]

/-- A traversal whose steps return returns. -/
theorem mapM_eq_ok_map {f : α → Except ε β} {g : α → β} (h : ∀ x, f x = .ok (g x)) (xs : List α) :
    xs.mapM f = .ok (xs.map g) := by
  induction xs with
  | nil => rfl
  | cons x xs ih =>
    rw [List.mapM_cons, h, ih]
    rfl

/-- A traversal whose steps return what a test admits, and else fail with one error, does so. -/
theorem mapM_eq_ite {f : α → Except ε β} {g : α → β} {p : α → Bool} {e : ε} {xs : List α}
    (h : ∀ x ∈ xs, f x = if p x then .ok (g x) else .error e) :
    xs.mapM f = if xs.all p then .ok (xs.map g) else .error e := by
  induction xs with
  | nil => rfl
  | cons x xs ih =>
    rw [List.mapM_cons, h x List.mem_cons_self, ih fun y hy => h y (List.mem_cons_of_mem _ hy),
      List.all_cons]
    rcases p x with _ | _
    · rfl
    · rcases xs.all p with _ | _ <;> rfl

/-- What is read of items that come in another order comes in another order. -/
theorem mapM_of_perm {f : α → Except ε β} {xs xs' : List α} {ys : List β}
    (h : xs.mapM f = .ok ys) (hperm : xs.Perm xs') :
    ∃ ys', xs'.mapM f = .ok ys' ∧ ys.Perm ys' := by
  obtain ⟨ys', hread, hperm'⟩ := List.perm_comp_forall₂ hperm.symm (mapM_eq_ok.mp h)
  exact ⟨ys', mapM_eq_ok.mpr hread, hperm'.symm⟩

theorem mem_of_mapM_eq_ok {f : α → Except ε β} {xs : List α} {ys : List β}
    (h : xs.mapM f = .ok ys) {y : β} (hy : y ∈ ys) : ∃ x ∈ xs, f x = .ok y := by
  induction mapM_eq_ok.mp h with
  | nil => simp at hy
  | cons hxy hrest ih =>
    rcases List.mem_cons.mp hy with rfl | hy
    · exact ⟨_, List.mem_cons_self, hxy⟩
    · obtain ⟨x, hx, he⟩ := ih (mapM_eq_ok.mpr hrest) hy
      exact ⟨x, List.mem_cons_of_mem _ hx, he⟩

/-- A table of what was read at each of the given places has it for every one of them. -/
theorem lookup_of_mapM_eq_ok [BEq α] [LawfulBEq α] {f : α → Except ε β} {xs : List α}
    {ys : List (α × β)} (h : (xs.mapM fun x => do return (x, ← f x)) = .ok ys) {x : α}
    (hx : x ∈ xs) : ∃ y, f x = .ok y ∧ ys.lookup x = some y := by
  induction mapM_eq_ok.mp h with
  | nil => simp at hx
  | @cons a p xs ys hap hrest ih =>
    obtain ⟨b, hb, hp⟩ := bind_eq_ok.mp hap
    obtain rfl : (a, b) = p := Except.ok.inj hp
    by_cases ha : x = a
    · subst ha
      exact ⟨b, hb, by simp⟩
    · obtain ⟨y, hy, hlookup⟩ := ih (mapM_eq_ok.mpr hrest) ((List.mem_cons.mp hx).resolve_left ha)
      refine ⟨y, hy, ?_⟩
      rw [List.lookup_cons, beq_eq_false_iff_ne.mpr ha]
      exact hlookup

/-- Two traversals whose steps agree up to `g` agree up to `g`, failures included. -/
theorem map_mapM_congr {δ : Type} {f : α → Except ε γ} {f' : β → Except ε γ} {g : γ → δ}
    {xs : List α} {ys : List β} (h : List.Forall₂ (fun x y => g <$> f x = g <$> f' y) xs ys) :
    List.map g <$> xs.mapM f = List.map g <$> ys.mapM f' := by
  induction h with
  | nil => rfl
  | @cons x y xs ys hstep _ ih =>
    rw [List.mapM_cons, List.mapM_cons]
    rcases hx : f x with e | a <;> rcases hy : f' y with e' | b <;> rw [hx, hy] at hstep
    · obtain rfl := Except.error.inj hstep
      rfl
    · cases hstep
    · cases hstep
    · have hab : g a = g b := Except.ok.inj hstep
      rcases hxs : xs.mapM f with e | as <;> rcases hys : ys.mapM f' with e' | bs <;>
        rw [hxs, hys] at ih
      · obtain rfl := Except.error.inj ih
        rfl
      · cases ih
      · cases ih
      · have htail : as.map g = bs.map g := Except.ok.inj ih
        show Except.ok ((a :: as).map g) = Except.ok ((b :: bs).map g)
        rw [List.map_cons, List.map_cons, hab, htail]

end Except

namespace SqlDesk.Error

@[simp] theorem ofFault_ok {α : Type} (a : α) : ofFault (.ok a : Except Fault α) = .ok a := rfl

@[simp] theorem ofFault_error {α : Type} (f : Fault) :
    ofFault (.error f : Except Fault α) = .error (.fault f) := rfl

theorem ofFault_map {α β : Type} (f : α → β) (r : Except Fault α) :
    ofFault (f <$> r) = f <$> ofFault r := by
  cases r <;> rfl

theorem ofFault_eq_ok {α : Type} {r : Except Fault α} {a : α} : ofFault r = .ok a ↔ r = .ok a := by
  cases r <;> simp

end SqlDesk.Error
