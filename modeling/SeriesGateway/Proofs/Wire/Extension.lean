import SeriesGateway.Wire.Row

/-! # Verdicts under more input

A buffer only grows at its end. A reader is steady when a value or a fault that
it found in a buffer stays what it is, at the same place, however the buffer
goes on; only the verdict "the bytes end within the value" is open. Every part
of a row is read steadily, and so is the row.
-/

namespace SeriesGateway.Wire

variable {α β : Type}

/-- The same verdict on a buffer that goes on with `more`. -/
def Verdict.extend (more : List UInt8) : Verdict α → Verdict α
  | .ready value rest => .ready value (rest ++ more)
  | .short => .short
  | .invalid fault rest => .invalid fault (rest ++ more)

namespace Reader

/-- More bytes leave every verdict but `short` as it is. -/
def Steady (reader : Reader α) : Prop :=
  ∀ bytes more, reader bytes ≠ .short → reader (bytes ++ more) = (reader bytes).extend more

theorem steady_pure (value : α) : Steady (pure value) := fun _ _ _ => rfl

theorem steady_fail (fault : RowFault) : Steady (fail fault : Reader α) := fun _ _ _ => rfl

theorem Steady.bind {reader : Reader α} {next : α → Reader β} (hreader : Steady reader)
    (hnext : ∀ value, Steady (next value)) : Steady (reader.bind next) := by
  intro bytes more hfinal
  unfold Reader.bind at hfinal ⊢
  cases hfirst : reader bytes with
  | ready first middle =>
      rw [hreader bytes more (by simp [hfirst])]
      simp only [hfirst] at hfinal ⊢
      exact hnext first middle more hfinal
  | short => simp [hfirst] at hfinal
  | invalid fault middle =>
      rw [hreader bytes more (by simp [hfirst])]
      simp [hfirst, Verdict.extend]

theorem splitExact_append {γ : Type} (taken rest : List γ) :
    splitExact taken.length (taken ++ rest) = some (taken, rest) := by
  induction taken with
  | nil => rfl
  | cons x taken ih => simp [splitExact, ih]

theorem steady_take (count : Nat) : Steady (take count) := by
  intro bytes more hfinal
  unfold take at hfinal ⊢
  cases hsplit : splitExact count bytes with
  | none => simp [hsplit] at hfinal
  | some split =>
      obtain ⟨taken, rest⟩ := split
      obtain ⟨rfl, rfl⟩ := splitExact_eq_some hsplit
      rw [List.append_assoc, splitExact_append]
      rfl

theorem Steady.replicate {reader : Reader α} (hreader : Steady reader) (count : Nat) :
    Steady (reader.replicate count) := by
  induction count with
  | zero => exact steady_pure []
  | succ count ih => exact hreader.bind fun value => ih.bind fun values => steady_pure _

end Reader

namespace Varint

theorem readGroups_append {left weight value : Nat} {bytes : List UInt8} (more : List UInt8)
    (hfinal : readGroups left weight value bytes ≠ .error none) :
    readGroups left weight value (bytes ++ more) =
      (readGroups left weight value bytes).map fun read => (read.1, read.2 ++ more) := by
  induction left generalizing weight value bytes with
  | zero => rfl
  | succ left ih =>
      cases bytes with
      -- only where the bytes run out the verdict is open
      | nil => exact absurd rfl hfinal
      | cons b bytes =>
          simp only [readGroups, List.cons_append] at hfinal ⊢
          split
          · rfl
          · next hfits =>
            rw [if_neg hfits] at hfinal
            split
            · rfl
            · next hmore =>
              rw [if_neg hmore] at hfinal
              exact ih hfinal

theorem steady_read : Reader.Steady read := by
  intro bytes more hfinal
  unfold read at hfinal ⊢
  rw [readGroups_append]
  · cases readGroups maxLength 1 0 bytes with
    | ok read => rfl
    | error fault => cases fault <;> rfl
  · intro hopen
    simp [hopen] at hfinal

end Varint

namespace Reader

theorem steady_word (width : Nat) : Steady (word width) :=
  (steady_take width).bind fun _ => steady_pure _

theorem steady_words (field : Field) (width count : Nat) : Steady (words field width count) := by
  unfold words
  split
  · exact (steady_word width).replicate count
  · exact steady_fail _

theorem steady_parallelWords (field : Field) (width times : Nat) :
    Steady (parallelWords field width times) := by
  apply Varint.steady_read.bind
  intro count
  split
  · exact steady_words field width count
  · exact steady_fail _

end Reader

namespace Row

theorem steady_readArrays (shape : RowShape) (name : List UInt8) :
    (readArrays shape name).Steady := by
  apply Varint.steady_read.bind
  intro count
  apply (Reader.steady_words _ _ _).bind
  intro times
  apply (Reader.steady_parallelWords _ _ _).bind
  intro values
  cases shape with
  | aggregated => exact Reader.steady_pure _
  | unaggregated => exact (Reader.steady_parallelWords _ _ _).bind fun _ => Reader.steady_pure _

/-- Whatever follows a row or a fault in the buffer, reading finds the same row
or the same fault at the same place. -/
theorem steady_read (shape : RowShape) : (read shape).Steady :=
  Varint.steady_read.bind fun length =>
    (Reader.steady_take length).bind (steady_readArrays shape)

end Row

end SeriesGateway.Wire
