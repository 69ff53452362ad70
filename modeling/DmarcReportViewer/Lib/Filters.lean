import Mathlib.Data.List.Basic

/-!
# Filters which are given as texts

A filter of a request has a text as its value, and the text stands for a property of the
selected items, if it can be read.  A selection which applies the filters that can be read
may drop the others, and then nothing is known about what it selects.
-/

namespace Filters

universe u

/-- A filter with the value which was supplied for it. -/
structure ValueFilter (ι : Type u) where
  value : Option String
  meaning : String → Option (ι → Prop)

variable {ι : Type u}

/-- The value can be read, if there is one. -/
def ValueFilter.Readable (filter : ValueFilter ι) : Prop :=
  ∀ value ∈ filter.value, value ≠ "" → (filter.meaning value).isSome

/-- An item satisfies a value which can be read. -/
def ValueFilter.Applies (filter : ValueFilter ι) (item : ι) : Prop :=
  ∀ value ∈ filter.value, ∀ property ∈ filter.meaning value, property item

/-- An item satisfies the value, which therefore can be read. -/
def ValueFilter.Satisfied (filter : ValueFilter ι) (item : ι) : Prop :=
  ∀ value ∈ filter.value, value ≠ "" → ∃ property ∈ filter.meaning value, property item

theorem ValueFilter.Satisfied.readable {filter : ValueFilter ι} {item : ι}
    (satisfied : filter.Satisfied item) : filter.Readable := by
  intro value supplied nonempty
  rcases satisfied value supplied nonempty with ⟨property, read, _⟩
  exact Option.isSome_iff_exists.mpr ⟨property, read⟩

theorem ValueFilter.Readable.satisfied {filter : ValueFilter ι} {item : ι}
    (readable : filter.Readable) (applies : filter.Applies item) : filter.Satisfied item := by
  intro value supplied nonempty
  rcases Option.isSome_iff_exists.mp (readable value supplied nonempty) with ⟨property, read⟩
  exact ⟨property, read, applies value supplied property read⟩

/-- What is selected satisfies all filters if and only if they can all be read, or nothing
is selected. -/
theorem satisfied_iff {filters : List (ValueFilter ι)} {Selected : ι → Prop}
    (applied : ∀ item, Selected item → ∀ filter ∈ filters, filter.Applies item) :
    (∀ item, Selected item → ∀ filter ∈ filters, filter.Satisfied item) ↔
      (∀ filter ∈ filters, filter.Readable) ∨ ∀ item, ¬ Selected item := by
  constructor
  · intro satisfied
    by_cases nothing : ∀ item, ¬ Selected item
    · exact .inr nothing
    · rcases not_forall_not.mp nothing with ⟨item, selected⟩
      exact .inl fun filter member => (satisfied item selected filter member).readable
  · rintro (readable | nothing) item selected filter member
    · exact (readable filter member).satisfied (applied item selected filter member)
    · exact absurd selected (nothing item)

end Filters
