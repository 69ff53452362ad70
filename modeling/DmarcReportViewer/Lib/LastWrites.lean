import DmarcReportViewer.Lib.Collections
import Mathlib.Data.List.Basic

/-!
# Last writes

A history lists keyed writes in the order in which they happened.  The last write
of a key is its position in the history together with the value written.  A map to
which a history is applied holds the last writes.
-/

namespace LastWrites

universe u v w

variable {κ : Type u} {β : Type v}

/-- The last write of the key is the one at the position, and it wrote the value. -/
structure LastWrite (history : List (κ × β)) (position : ℕ) (key : κ) (value : β) : Prop where
  written : history[position]? = some (key, value)
  final : ∀ later, position < later → ∀ other, history[later]? ≠ some (key, other)

variable {history : List (κ × β)} {position later : ℕ} {key other : κ} {value newer : β}

theorem LastWrite.lt_length (last : LastWrite history position key value) :
    position < history.length :=
  (List.getElem?_eq_some_iff.mp last.written).1

theorem LastWrite.position_unique (last : LastWrite history position key value)
    (again : LastWrite history later key newer) : position = later := by
  rcases Nat.lt_trichotomy position later with before | same | after
  · exact absurd again.written (last.final later before newer)
  · exact same
  · exact absurd last.written (again.final position after value)

theorem LastWrite.key_unique (last : LastWrite history position key value)
    (again : LastWrite history position other newer) : key = other := by
  have equal := last.written.symm.trans again.written
  exact (Prod.mk.inj (Option.some.inj equal)).1

theorem lastWrite_concat_self : LastWrite (history ++ [(key, value)]) history.length key value := by
  constructor
  case written => simp
  case final =>
    intro later after newer
    rw [List.getElem?_eq_none]
    · exact (Option.some_ne_none _).symm
    · rw [List.length_append, List.length_singleton]
      exact after

/-- A write of another key does not change the last write of a key. -/
theorem lastWrite_concat_iff (different : key ≠ other) :
    LastWrite (history ++ [(other, newer)]) position key value ↔
      LastWrite history position key value := by
  have split : ∀ (index : ℕ) (found : β),
      (history ++ [(other, newer)])[index]? = some (key, found) ↔
        history[index]? = some (key, found) := by
    intro index found
    rcases Nat.lt_trichotomy index history.length with inside | same | outside
    · rw [List.getElem?_append_left inside]
    · subst same
      simp [different.symm]
    · have beyond : (history ++ [(other, newer)]).length ≤ index := by
        rw [List.length_append, List.length_singleton]
        exact outside
      rw [List.getElem?_eq_none beyond, List.getElem?_eq_none (Nat.le_of_lt outside)]
  constructor
  · rintro ⟨written, final⟩
    exact ⟨(split _ _).mp written, fun later after found =>
      fun again => final later after found ((split _ _).mpr again)⟩
  · rintro ⟨written, final⟩
    exact ⟨(split _ _).mpr written, fun later after found =>
      fun again => final later after found ((split _ _).mp again)⟩

section LastValue

variable [DecidableEq κ]

/-- The value which was written last for a key. -/
def lastValue (history : List (κ × β)) (key : κ) : Option β :=
  (history.filter fun entry => entry.1 = key).getLast?.map Prod.snd

theorem lastValue_concat (history : List (κ × β)) (entry : κ × β) (key : κ) :
    lastValue (history ++ [entry]) key =
      if entry.1 = key then some entry.2 else lastValue history key := by
  by_cases same : entry.1 = key <;> simp [lastValue, List.filter_append, same]

end LastValue

section Maps

open Collections

variable {ι : Type w}

/-- An item is followed by no other one with the same property. -/
theorem exists_last {items : List ι} {holds : ι → Prop} (some : ∃ item ∈ items, holds item) :
    ∃ before item after, items = before ++ item :: after ∧ holds item ∧
      ∀ other ∈ after, ¬ holds other := by
  induction items with
  | nil =>
      rcases some with ⟨item, member, _⟩
      cases member
  | cons first rest ih =>
      by_cases later : ∃ item ∈ rest, holds item
      · rcases ih later with ⟨before, item, after, split, held, none⟩
        exact ⟨first :: before, item, after, congrArg _ split, held, none⟩
      · rcases some with ⟨item, member, held⟩
        rcases List.mem_cons.mp member with rfl | inRest
        · exact ⟨[], item, rest, rfl, held, fun other otherMem otherHeld =>
            later ⟨other, otherMem, otherHeld⟩⟩
        · exact absurd ⟨item, inRest, held⟩ later

variable [Ord κ] [Std.TransOrd κ] [Std.LawfulEqOrd κ] {base : HashMap κ β}

/-- What is written by an item that no later one overwrites is found in the map. -/
theorem getElem?_insertMany_of_split {write : ι → Option (κ × β)} {before after : List ι}
    {item : ι} {key : κ} {value : β} (writes : write item = some (key, value))
    (last : ∀ later ∈ after, ∀ newer, write later ≠ some (key, newer)) :
    (base.insertMany ((before ++ item :: after).filterMap write))[key]? = some value := by
  have absent : key ∉ (after.filterMap write).map Prod.fst := by
    intro member
    rcases List.mem_map.mp member with ⟨entry, listed, rfl⟩
    rcases List.mem_filterMap.mp listed with ⟨later, laterMem, found⟩
    exact last later laterMem entry.2 found
  rw [List.filterMap_append, List.filterMap_cons_some writes, Std.ExtTreeMap.insertMany_append,
    Std.ExtTreeMap.insertMany_cons, getElem?_insertMany_of_not_mem absent,
    Std.ExtTreeMap.getElem?_insert_self]

variable [DecidableEq κ]

theorem getElem?_insertMany (base : HashMap κ β) (history : List (κ × β)) (key : κ) :
    (base.insertMany history)[key]? = (lastValue history key).or base[key]? := by
  induction history using List.reverseRecOn with
  | nil => simp [lastValue]
  | append_singleton history entry ih =>
      rw [Std.ExtTreeMap.insertMany_append, Std.ExtTreeMap.insertMany_list_singleton,
        Std.ExtTreeMap.getElem?_insert, ih, lastValue_concat]
      simp only [Std.compare_eq_iff_eq]
      split <;> rfl

/-- Leaving out some of the writes makes no difference if and only if each of them is
overwritten later or writes what the other writes leave behind. -/
theorem insertMany_filter_iff {write : ι → Option (κ × β)} {keep : ι → Bool} {items : List ι} :
    base.insertMany (items.filterMap write) =
        base.insertMany ((items.filter keep).filterMap write) ↔
      ∀ before item after, items = before ++ item :: after → keep item = false →
        ∀ key value, write item = some (key, value) →
          (∃ later ∈ after, ∃ newer, write later = some (key, newer)) ∨
            (lastValue ((items.filter keep).filterMap write) key).or base[key]? = some value := by
  constructor
  · intro same before item after split _ key value writes
    by_cases overwritten : ∃ later ∈ after, ∃ newer, write later = some (key, newer)
    · exact Or.inl overwritten
    · right
      have last : ∀ later ∈ after, ∀ newer, write later ≠ some (key, newer) :=
        fun later member newer found => overwritten ⟨later, member, newer, found⟩
      rw [← getElem?_insertMany, ← same, split]
      exact getElem?_insertMany_of_split writes last
  · intro harmless
    refine Std.ExtTreeMap.ext_getElem? fun key => ?_
    by_cases written : ∃ item ∈ items, ∃ value, write item = some (key, value)
    · rcases exists_last written with ⟨before, item, after, split, ⟨value, writes⟩, none⟩
      have last : ∀ later ∈ after, ∀ newer, write later ≠ some (key, newer) :=
        fun later member newer found => none later member ⟨newer, found⟩
      have whole : (base.insertMany (items.filterMap write))[key]? = some value := by
        rw [split]
        exact getElem?_insertMany_of_split writes last
      rw [whole]
      cases kept : keep item with
      | false =>
          rcases harmless before item after split kept key value writes with
            ⟨later, member, newer, found⟩ | same
          · exact absurd found (last later member newer)
          · rw [getElem?_insertMany, same]
      | true =>
          rw [split, List.filter_append, List.filter_cons_of_pos kept]
          exact (getElem?_insertMany_of_split writes fun later member =>
            last later (List.mem_of_mem_filter member)).symm
    · have silent : ∀ entries : List ι, (∀ item ∈ entries, item ∈ items) →
          (base.insertMany (entries.filterMap write))[key]? = base[key]? := by
        intro entries inside
        apply getElem?_insertMany_of_not_mem
        intro member
        rcases List.mem_map.mp member with ⟨entry, listed, rfl⟩
        rcases List.mem_filterMap.mp listed with ⟨item, itemMem, found⟩
        exact written ⟨item, inside item itemMem, entry.2, found⟩
      rw [silent items fun item member => member,
        silent (items.filter keep) fun item member => List.mem_of_mem_filter member]

end Maps

end LastWrites
