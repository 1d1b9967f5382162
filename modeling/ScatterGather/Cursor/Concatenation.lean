import ScatterGather.Cursor.Basic

/-!
# Cursors one after another

A `Concatenation` visits the rows of its cursors in the order they were handed over. A cursor is
asked for rows until it says that it has none; only then the next one is begun. A failure leaves
the cursor in its place, so a further call asks the same one again.
-/

namespace ScatterGather

/-- Cursors to be read one after another. -/
structure Concatenation (κ : Type) where
  /-- The cursor that is being read. -/
  current : Option κ
  /-- The cursors not yet begun. -/
  pending : List κ
deriving Inhabited

namespace Concatenation

/-- Nothing has been read of the cursors yet. -/
def ofList (cursors : List κ) : Concatenation κ := ⟨none, cursors⟩

/-- Moves to the next row of the cursors that have not been begun. -/
def nextOf [RowCursor κ] : List κ → Except ExecutionError Bool × Concatenation κ
  | [] => (.ok false, ⟨none, []⟩)
  | c :: rest =>
    match RowCursor.next c with
    | (.error e, c') => (.error e, ⟨some c', rest⟩)
    | (.ok true, c') => (.ok true, ⟨some c', rest⟩)
    | (.ok false, _) => nextOf rest

/-- Moves to the next row of all that is left. -/
def next [RowCursor κ] (s : Concatenation κ) : Except ExecutionError Bool × Concatenation κ :=
  match s.current with
  | some c => nextOf (c :: s.pending)
  | none => nextOf s.pending

/-- The cell of a column of the row that the current cursor is on. -/
def value [RowCursor κ] (s : Concatenation κ) (column : Nat) : Except ExecutionError Cell :=
  match s.current with
  | some c => RowCursor.value c column
  | none => .error (.invalidState .mergedNotOnRow)

/-- A bound on the rows of cursors. -/
def remainingOf [FiniteCursor κ] (cursors : List κ) : Nat :=
  cursors.foldr (fun c n => FiniteCursor.remaining c + n) 0

/-- A bound on the rows still to come. -/
def remaining [FiniteCursor κ] (s : Concatenation κ) : Nat :=
  remainingOf (s.current.toList ++ s.pending)

theorem nextOf_remaining [FiniteCursor κ] {cursors : List κ} {s : Concatenation κ}
    (h : nextOf cursors = (.ok true, s)) : s.remaining < remainingOf cursors := by
  induction cursors with
  | nil => simp [nextOf] at h
  | cons c rest ih =>
    unfold nextOf at h
    split at h
    · simp at h
    · rename_i c' hc
      have := FiniteCursor.remaining_lt hc
      simp only [Prod.mk.injEq, true_and] at h
      subst h
      simp [remaining, remainingOf]
      omega
    · have := ih h
      simp [remainingOf] at this ⊢
      omega

instance [RowCursor κ] : RowCursor (Concatenation κ) := ⟨next, value⟩

instance [FiniteCursor κ] : FiniteCursor (Concatenation κ) where
  remaining := remaining
  remaining_lt {s s'} h := by
    change next s = (.ok true, s') at h
    unfold next at h
    unfold remaining
    split at h <;> rename_i hc <;> rw [hc]
    · exact nextOf_remaining h
    · exact nextOf_remaining h

end Concatenation

end ScatterGather
