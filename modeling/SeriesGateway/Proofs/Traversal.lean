/-! # Traversals that may fail

A list is gone through element by element until one of them is refused. The outcome
tells which one it was, as nothing behind it is looked at.
-/

namespace SeriesGateway.Traversal

variable {α β ε : Type} {f : α → Except ε β} {x : α} {xs : List α}

theorem mapM_cons_of_ok {y : β} (hx : f x = .ok y) :
    (x :: xs).mapM f = (xs.mapM f).map (y :: ·) := by
  rw [List.mapM_cons, hx]
  rfl

theorem mapM_cons_of_error {e : ε} (hx : f x = .error e) : (x :: xs).mapM f = .error e := by
  rw [List.mapM_cons, hx]
  rfl

theorem mapM_cons_eq_ok_iff {ys : List β} :
    (x :: xs).mapM f = .ok ys ↔
      ∃ y rest, f x = .ok y ∧ xs.mapM f = .ok rest ∧ y :: rest = ys := by
  cases hx : f x with
  | error e => simp [mapM_cons_of_error hx]
  | ok y =>
      rw [mapM_cons_of_ok hx]
      cases xs.mapM f with
      | error e => simp [Except.map]
      | ok rest => simp [Except.map]

/-- A traversal ends with what the first element that is refused was refused with. -/
theorem mapM_eq_error_iff {e : ε} :
    xs.mapM f = .error e ↔ ∃ before x after, xs = before ++ x :: after ∧
      (∀ earlier ∈ before, ∃ y, f earlier = .ok y) ∧ f x = .error e := by
  constructor
  · intro herror
    induction xs with
    | nil => exact nomatch herror
    | cons x xs ih =>
        cases hx : f x with
        | error fault =>
            rw [mapM_cons_of_error hx, Except.error.injEq] at herror
            exact ⟨[], x, xs, rfl, nofun, herror ▸ hx⟩
        | ok y =>
            rw [mapM_cons_of_ok hx] at herror
            cases hxs : xs.mapM f with
            | ok ys =>
                rw [hxs] at herror
                exact nomatch herror
            | error fault =>
                rw [hxs] at herror
                obtain ⟨before, bad, after, rfl, hbefore, hbad⟩ := ih (hxs.trans herror)
                exact ⟨x :: before, bad, after, rfl,
                  List.forall_mem_cons.mpr ⟨⟨y, hx⟩, hbefore⟩, hbad⟩
  · rintro ⟨before, bad, after, rfl, hbefore, hbad⟩
    induction before with
    | nil => exact mapM_cons_of_error hbad
    | cons x before ih =>
        obtain ⟨⟨y, hx⟩, hbefore⟩ := List.forall_mem_cons.mp hbefore
        rw [List.cons_append, mapM_cons_of_ok hx, ih hbefore]
        rfl

end SeriesGateway.Traversal
