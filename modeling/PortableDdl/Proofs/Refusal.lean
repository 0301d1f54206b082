import Mathlib.Data.List.Basic

/-!
# Steps that can be refused

When one step after another, or the same step on every item of a list, comes to
an end, and which refusal is that of the whole.
-/

namespace PortableDdl

variable {α β ε : Type}

theorem map_error_iff {f : α → β} {x : Except ε α} {e : ε} : x.map f = .error e ↔ x = .error e := by
  cases x <;> simp [Except.map]

theorem map_ok_iff {f : α → β} {x : Except ε α} {z : β} : x.map f = .ok z ↔ ∃ y, x = .ok y ∧ f y = z := by
  cases x <;> simp [Except.map]

theorem mapError_ok_iff {δ : Type} {f : ε → δ} {x : Except ε α} {y : α} : x.mapError f = .ok y ↔ x = .ok y := by
  cases x <;> simp [Except.mapError]

theorem mapError_error_iff {δ : Type} {f : ε → δ} {x : Except ε α} {e : δ} :
    x.mapError f = .error e ↔ ∃ d, x = .error d ∧ f d = e := by
  cases x <;> simp [Except.mapError]

/-- The second of two steps is only looked at if the first one is made. -/
theorem bind_error_iff {f : α → Except ε β} {x : Except ε α} {e : ε} :
    (x >>= f) = .error e ↔ x = .error e ∨ ∃ y, x = .ok y ∧ f y = .error e := by
  cases x <;> simp [bind,Except.bind]

theorem bind_ok_iff {f : α → Except ε β} {x : Except ε α} {z : β} : (x >>= f) = .ok z ↔ ∃ y, x = .ok y ∧ f y = .ok z := by
  cases x <;> simp [bind,Except.bind]

theorem toOption_eq_some_iff {x : Except ε α} {y : α} : x.toOption = some y ↔ x = .ok y := by
  cases x <;> simp [Except.toOption]

/-- A list is written if every item can be. -/
theorem mapM_ok_iff {f : α → Except ε β} {xs : List α} :
    (∃ ys, xs.mapM f = .ok ys) ↔ ∀ x ∈ xs, ∃ y, f x = .ok y := by
  induction xs with
  | nil => simp [pure,Except.pure]
  | cons x xs ih =>
    rw [List.mapM_cons,List.forall_mem_cons,← ih]
    cases f x with
    | error e => simp [bind,Except.bind]
    | ok y => cases xs.mapM f <;> simp [bind,Except.bind,pure,Except.pure]

/-- A list is written up to the first item that cannot be. -/
theorem mapM_error_iff {f : α → Except ε β} {xs : List α} {e : ε} :
    xs.mapM f = .error e ↔
      ∃ before x after, xs = before ++ x :: after ∧ (∀ y ∈ before, ∃ z, f y = .ok z) ∧ f x = .error e := by
  induction xs with
  | nil => simp [pure,Except.pure]
  | cons x xs ih =>
    rw [List.mapM_cons]
    constructor
    · intro failed
      cases first : f x with
      | error d =>
        rw [first] at failed
        cases failed
        exact ⟨[],x,xs,rfl,by simp,first⟩
      | ok z =>
        -- The first item is written, so the fault is in the rest.
        have later : xs.mapM f = .error e := by
          rw [first] at failed
          exact map_error_iff.mp failed
        obtain ⟨before,y,after,rfl,fine,bad⟩ := ih.mp later
        exact ⟨x :: before,y,after,rfl,List.forall_mem_cons.mpr ⟨⟨z,first⟩,fine⟩,bad⟩
    · rintro ⟨before,y,after,split,fine,bad⟩
      cases before with
      | nil =>
        obtain ⟨rfl,rfl⟩ := List.cons.inj split
        rw [bad]
        rfl
      | cons w before =>
        obtain ⟨rfl,rest⟩ := List.cons.inj split
        obtain ⟨⟨z,first⟩,others⟩ := List.forall_mem_cons.mp fine
        rw [first,ih.mpr ⟨before,y,after,rest,others,bad⟩]
        rfl

/-- What the refusals are called does not matter to a list that is written. -/
theorem mapM_mapError_ok_iff {δ : Type} {f : α → Except ε β} {g : α → ε → δ} {xs : List α} {ys : List β} :
    xs.mapM (fun x => (f x).mapError (g x)) = .ok ys ↔ xs.mapM f = .ok ys := by
  induction xs generalizing ys with
  | nil => simp [pure,Except.pure]
  | cons x xs ih =>
    simp only [List.mapM_cons,bind_ok_iff,mapError_ok_iff,ih]
    simp [pure,Except.pure]

/-- A step for every item is one for each of the others and then one for the last. -/
theorem foldlM_concat_ok_iff {f : β → α → Except ε β} {xs : List α} {x : α} {start stop : β} :
    (xs ++ [x]).foldlM f start = .ok stop ↔ ∃ before, xs.foldlM f start = .ok before ∧ f before x = .ok stop := by
  rw [List.foldlM_append,bind_ok_iff]
  simp only [List.foldlM_cons,List.foldlM_nil,bind_pure]

theorem foldlM_ok_of_mem {f : β → α → Except ε β} {xs : List α} {x : α} {start stop : β}
    (folded : xs.foldlM f start = .ok stop) (member : x ∈ xs) : ∃ before behind, f before x = .ok behind := by
  induction xs generalizing start with
  | nil => cases member
  | cons first xs ih =>
    obtain ⟨next,here,later⟩ := bind_ok_iff.mp folded
    rcases List.mem_cons.mp member with rfl | member
    · exact ⟨start,next,here⟩
    · exact ih later member

end PortableDdl
