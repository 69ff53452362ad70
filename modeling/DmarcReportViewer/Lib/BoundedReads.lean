import Mathlib.Data.List.Basic
import Mathlib.Data.List.Range

/-!
# Reading with a limit

A source delivers one piece after the other.  It may end, it may fail, and it may go on
forever.  A reader which collects the pieces gives up as soon as it has more than a limit
allows, so that it never keeps more than one piece beyond the limit.
-/

namespace BoundedReads

universe u v

variable {ε : Type u} {α : Type v}

/-- The pieces of a source by their positions. -/
abbrev Source (ε : Type u) (α : Type v) : Type (max u v) :=
  ℕ → Option (Except ε (List α))

/-- How reading ends. -/
inductive Outcome (ε : Type u) (α : Type v) where
  | finished (data : List α)
  | failed (error : ε)
  | tooBig

/-- Read on from a position; `none` means that the fuel has run out. -/
def read (limit : ℕ) (source : Source ε α) : ℕ → ℕ → List α → Option (Outcome ε α)
  | 0, _, _ => none
  | fuel + 1, position, collected =>
      match source position with
      | none => some (.finished collected)
      | some (.error error) => some (.failed error)
      | some (.ok piece) =>
          if limit < (collected ++ piece).length then
            some .tooBig
          else
            read limit source fuel (position + 1) (collected ++ piece)

/-- The data of a piece; there is none if the source has ended or failed. -/
def pieceAt (source : Source ε α) (position : ℕ) : List α :=
  match source position with
  | some (.ok piece) => piece
  | _ => []

/-- The data of the first pieces. -/
def dataBefore (source : Source ε α) (position : ℕ) : List α :=
  (List.range position).flatMap (pieceAt source)

/-- The pieces before a position are there, and they stay within the limit. -/
def Within (limit : ℕ) (source : Source ε α) (position : ℕ) : Prop :=
  ∀ earlier < position, (∃ piece, source earlier = some (.ok piece)) ∧
    (dataBefore source (earlier + 1)).length ≤ limit

/-- What is found at a position ends the reading. -/
def EndsAt (limit : ℕ) (source : Source ε α) (position : ℕ) : Outcome ε α → Prop
  | .finished data => source position = none ∧ data = dataBefore source position
  | .failed error => source position = some (.error error)
  | .tooBig => (∃ piece, source position = some (.ok piece)) ∧
      limit < (dataBefore source (position + 1)).length

variable {limit : ℕ} {source : Source ε α}

theorem dataBefore_succ (position : ℕ) :
    dataBefore source (position + 1) = dataBefore source position ++ pieceAt source position := by
  simp [dataBefore, List.range_succ]

theorem length_dataBefore_mono {earlier later : ℕ} (before : earlier ≤ later) :
    (dataBefore source earlier).length ≤ (dataBefore source later).length := by
  induction later, before using Nat.le_induction with
  | base => exact Nat.le_refl _
  | succ later _ ih =>
      rw [dataBefore_succ, List.length_append]
      omega

theorem Within.length_le {position : ℕ} (within : Within limit source position) :
    (dataBefore source position).length ≤ limit := by
  cases position with
  | zero => simp [dataBefore]
  | succ position => exact (within position (Nat.lt_succ_self _)).2

/-- Reading ends at one position only. -/
theorem Within.position_eq {left right : ℕ} {first second : Outcome ε α}
    (leftWithin : Within limit source left) (rightWithin : Within limit source right)
    (leftEnds : EndsAt limit source left first) (rightEnds : EndsAt limit source right second) :
    left = right := by
  have notBefore : ∀ {position later : ℕ} {outcome : Outcome ε α}, Within limit source later →
      EndsAt limit source position outcome → ¬position < later := by
    intro position later outcome within ends before
    rcases within position before with ⟨⟨piece, found⟩, small⟩
    cases outcome with
    | finished data => rw [ends.1] at found; cases found
    | failed error =>
        simp only [EndsAt] at ends
        rw [ends] at found
        cases found
    | tooBig =>
        have large := ends.2
        omega
  have first := notBefore rightWithin leftEnds
  have second := notBefore leftWithin rightEnds
  omega

/-- From a position within the limit, reading ends at the first position which ends it. -/
theorem read_eq_some_iff_from {fuel position : ℕ} {outcome : Outcome ε α}
    (within : Within limit source position) :
    read limit source fuel position (dataBefore source position) = some outcome ↔
      ∃ last, position ≤ last ∧ last < position + fuel ∧ Within limit source last ∧
        EndsAt limit source last outcome := by
  induction fuel generalizing position with
  | zero =>
      constructor
      · intro impossible
        cases impossible
      · rintro ⟨last, _, _, _⟩
        omega
  | succ fuel ih =>
      have here : ∀ {found : Outcome ε α}, EndsAt limit source position found →
          (some found = some outcome ↔ ∃ last, position ≤ last ∧ last < position + (fuel + 1) ∧
            Within limit source last ∧ EndsAt limit source last outcome) := by
        intro found ends
        constructor
        · intro same
          cases same
          exact ⟨position, Nat.le_refl _, by omega, within, ends⟩
        · rintro ⟨last, _, _, lastWithin, lastEnds⟩
          have same := within.position_eq lastWithin ends lastEnds
          subst same
          cases found <;> cases outcome <;> simp_all [EndsAt]
      simp only [read]
      cases found : source position with
      | none => exact here ⟨found, rfl⟩
      | some item =>
          cases item with
          | error error => exact here found
          | ok piece =>
              have grown : dataBefore source position ++ piece =
                  dataBefore source (position + 1) := by
                rw [dataBefore_succ, pieceAt, found]
              simp only [grown]
              split
              · next large => exact here ⟨⟨piece, found⟩, large⟩
              · next small =>
                  have next : Within limit source (position + 1) := by
                    intro earlier before
                    rcases Nat.lt_succ_iff_lt_or_eq.mp before with inside | rfl
                    · exact within earlier inside
                    · exact ⟨⟨piece, found⟩, Nat.le_of_not_lt small⟩
                  rw [ih next]
                  constructor
                  · rintro ⟨last, after, bound, lastWithin, ends⟩
                    exact ⟨last, by omega, by omega, lastWithin, ends⟩
                  · rintro ⟨last, after, bound, lastWithin, ends⟩
                    have notHere : last ≠ position := by
                      rintro rfl
                      cases outcome with
                      | finished data => rw [ends.1] at found; cases found
                      | failed error =>
                          simp only [EndsAt] at ends
                          rw [ends] at found
                          cases found
                      | tooBig => exact small ends.2
                    exact ⟨last, by omega, by omega, lastWithin, ends⟩

/-- Reading returns what is decided at the first position at which the source ends, fails
or exceeds the limit. -/
theorem read_eq_some_iff {fuel : ℕ} {outcome : Outcome ε α} :
    read limit source fuel 0 [] = some outcome ↔
      ∃ last < fuel, Within limit source last ∧ EndsAt limit source last outcome := by
  have start : Within limit source 0 := by
    intro earlier before
    omega
  have fromStart := @read_eq_some_iff_from _ _ limit source fuel 0 outcome start
  simpa [dataBefore] using fromStart

/-- If no piece is empty, then even an endless source is left after a bounded number of
pieces. -/
theorem read_returns (nonempty : ∀ position piece, source position = some (.ok piece) →
      piece ≠ []) : ∃ outcome, read limit source (limit + 2) 0 [] = some outcome := by
  by_contra endless
  have continues : ∀ position, position ≤ limit + 2 → Within limit source position := by
    intro position
    induction position with
    | zero =>
        intro _ earlier before
        omega
    | succ position ih =>
        intro inside earlier before
        have within := ih (by omega)
        rcases Nat.lt_succ_iff_lt_or_eq.mp before with old | rfl
        · exact within earlier old
        · have noEnd : ∀ outcome, ¬EndsAt limit source earlier outcome := by
            intro outcome ends
            exact endless ⟨outcome, read_eq_some_iff.mpr ⟨earlier, by omega, within, ends⟩⟩
          cases found : source earlier with
          | none => exact absurd ⟨found, rfl⟩ (noEnd (.finished _))
          | some item =>
              cases item with
              | error error => exact absurd found (noEnd (.failed error))
              | ok piece =>
                  refine ⟨⟨piece, rfl⟩, ?_⟩
                  by_contra large
                  exact noEnd .tooBig ⟨⟨piece, found⟩, Nat.lt_of_not_le large⟩
  have grows : ∀ position, position ≤ limit + 2 →
      position ≤ (dataBefore source position).length := by
    intro position
    induction position with
    | zero => intro _; exact Nat.zero_le _
    | succ position ih =>
        intro inside
        have earlier := ih (by omega)
        rcases (continues (position + 1) inside position (Nat.lt_succ_self _)).1 with ⟨piece, found⟩
        have some := List.length_pos_of_ne_nil (nonempty position piece found)
        rw [dataBefore_succ, List.length_append, pieceAt, found]
        show position + 1 ≤ _ + piece.length
        omega
  have large := grows (limit + 2) (Nat.le_refl _)
  have small := (continues (limit + 2) (Nat.le_refl _)).length_le
  omega

end BoundedReads
