import DmarcReportViewer.CacheMap.Recency
import DmarcReportViewer.Lib.Runs
import Mathlib.Data.Finset.Card

/-!
# Inserting a key again

A full cache makes room before it looks at the key that is inserted.  If the key is
present already, then another entry may be dropped although nothing needs its place.
-/

namespace DmarcReportViewer.CacheMap

open Collections LastWrites Runs

variable {κ β : Type}

/-- The different keys of a history. -/
def distinctKeys [DecidableEq κ] (history : List (κ × β)) : Finset κ :=
  (history.map Prod.fst).toFinset

section Keys

variable [DecidableEq κ] {key : κ}

theorem distinctKeys_concat (history : List (κ × β)) (key : κ) (value : β) :
    distinctKeys (history ++ [(key, value)]) = Insert.insert key (distinctKeys history) := by
  ext other
  simp [distinctKeys]

variable [Ord κ] [Std.TransOrd κ]

/-- The keys of a map, as a set. -/
def mapKeys (map : HashMap κ (Entry β)) : Finset κ :=
  map.keys.toFinset

theorem card_mapKeys (map : HashMap κ (Entry β)) : (mapKeys map).card = map.size := by
  rw [mapKeys, List.toFinset_card_of_nodup Std.ExtTreeMap.nodup_keys, Std.ExtTreeMap.length_keys]

@[simp]
theorem mem_mapKeys [Std.LawfulEqOrd κ] {map : HashMap κ (Entry β)} :
    key ∈ mapKeys map ↔ key ∈ map := by
  rw [mapKeys, List.mem_toFinset, Std.ExtTreeMap.mem_keys]

end Keys

theorem writes_concat (insertions : List (Insertion κ β)) (insertion : Insertion κ β) :
    writes (insertions ++ [insertion]) =
      writes insertions ++ [(insertion.key, insertion.value)] := by
  simp [writes]

variable [Ord κ] [Std.TransOrd κ]

/-- The key is present in a full cache, and another entry is older. -/
def Evicts (cache : CacheMap κ β) (key : κ) : Prop :=
  cache.maxSize ≤ cache.map.size ∧ ∃ entry : Entry β, cache.map[key]? = some entry ∧
    ∃ (other : κ) (kept : Entry β), cache.map[other]? = some kept ∧
      kept.inserted < entry.inserted

/-- A cache holds the last values of as many of the most recently inserted keys as it has
room for. -/
structure MostRecent [DecidableEq κ] (cache : CacheMap κ β) (history : List (κ × β)) : Prop where
  size : cache.map.size = min cache.maxSize (distinctKeys history).card
  value : ∀ (key : κ) (value : β), cache.get key = some value →
    ∃ position, LastWrite history position key value
  recent : ∀ position key value later other newer, LastWrite history position key value →
    LastWrite history later other newer → position < later →
      cache.get key ≠ none → cache.get other ≠ none

/-- An insertion does not change what the cache holds for other keys. -/
def KeepsOthers (cache : CacheMap κ β) (insertion : Insertion κ β) : Prop :=
  ∀ other, other ≠ insertion.key →
    (cache.insert insertion.order insertion.key insertion.value).get other = cache.get other

section Steps

variable {cache : CacheMap κ β} {history : List (κ × β)} {key : κ}

/-- Among the entries of a cache, the one with the smallest stamp is older than the others. -/
theorem Remembers.lt_of_le (remembers : Remembers cache history) {oldest : κ} {entry : Entry β}
    (present : cache.map[oldest]? = some entry)
    (smallest : ∀ (other : κ) (kept : Entry β), cache.map[other]? = some kept →
      entry.inserted ≤ kept.inserted)
    {kept : Entry β} (found : cache.map[key]? = some kept) (different : oldest ≠ key) :
    entry.inserted < kept.inserted := by
  rw [UInt64.lt_iff_toNat_lt]
  apply Nat.lt_of_le_of_ne (UInt64.le_iff_toNat_le.mp (smallest key kept found))
  intro same
  exact different (remembers.recent.stamp_injective present found (UInt64.toNat_inj.mp same))

/-- What a full cache drops for a key that is present is another entry if and only if
another one is older. -/
theorem Remembers.evicts_iff (remembers : Remembers cache history) {oldest : κ} {entry : Entry β}
    (full : cache.maxSize ≤ cache.map.size) (present : cache.map[oldest]? = some entry)
    (smallest : ∀ (other : κ) (kept : Entry β), cache.map[other]? = some kept →
      entry.inserted ≤ kept.inserted) :
    Evicts cache key ↔ key ∈ cache.map ∧ oldest ≠ key := by
  rw [Std.ExtTreeMap.mem_iff_isSome_getElem?, Option.isSome_iff_exists]
  constructor
  · rintro ⟨_, kept, found, other, older, otherFound, less⟩
    refine ⟨⟨kept, found⟩, ?_⟩
    rintro rfl
    rw [present] at found
    cases found
    exact absurd less (UInt64.not_lt.mpr (smallest other older otherFound))
  · rintro ⟨⟨kept, found⟩, different⟩
    exact ⟨full, kept, found, oldest, entry, present,
      remembers.lt_of_le present smallest found different⟩

variable [Std.LawfulEqOrd κ]

/-- Inserting a present key keeps all other entries if and only if it evicts nothing. -/
theorem Remembers.keepsOthers_iff (remembers : Remembers cache history)
    (insertion : Insertion κ β) (present : insertion.key ∈ cache.map) :
    KeepsOthers cache insertion ↔ ¬ Evicts cache insertion.key := by
  rcases insert_spec insertion.order cache insertion.key insertion.value with
    ⟨kept, inserted, dropped⟩
  have others : ∀ other, other ≠ insertion.key →
      (cache.insert insertion.order insertion.key insertion.value).get other =
        kept[other]?.map Entry.value := by
    intro other different
    rw [inserted, get, Std.ExtTreeMap.getElem?_insert, if_neg]
    exact fun same => different (Std.compare_eq_iff_eq.mp same).symm
  rcases dropped with ⟨free, rfl⟩ | ⟨full, oldest, entry, found, smallest, rfl⟩
  · constructor
    · rintro _ ⟨full, _⟩
      omega
    · intro _ other different
      rw [others other different, get]
  · rw [remembers.evicts_iff full found smallest]
    constructor
    · rintro keeps ⟨_, different⟩
      have gone := keeps oldest different
      rw [others oldest different, Std.ExtTreeMap.getElem?_erase_self, get, found] at gone
      cases gone
    · intro none other different
      have same : oldest = insertion.key := by
        by_contra distinct
        exact none ⟨present, distinct⟩
      rw [others other different, Std.ExtTreeMap.getElem?_erase, if_neg, get]
      rw [same, Std.compare_eq_iff_eq]
      exact Ne.symm different

variable [DecidableEq κ]

theorem Remembers.mapKeys_subset (remembers : Remembers cache history) :
    mapKeys cache.map ⊆ distinctKeys history := by
  intro key member
  rw [mem_mapKeys, Std.ExtTreeMap.mem_iff_isSome_getElem?] at member
  rcases Option.isSome_iff_exists.mp member with ⟨entry, present⟩
  have written := (remembers.recent.last key entry present).written
  rw [distinctKeys, List.mem_toFinset]
  exact List.mem_map_of_mem (List.mem_of_getElem? written)

/-- A cache which has lost no key knows all keys of its history. -/
theorem Remembers.mapKeys_eq (remembers : Remembers cache history)
    (complete : (distinctKeys history).card ≤ cache.map.size) :
    mapKeys cache.map = distinctKeys history :=
  Finset.eq_of_subset_of_card_le remembers.mapKeys_subset (card_mapKeys cache.map ▸ complete)

/-- An insertion which evicts nothing keeps the cache as full as it can be. -/
theorem Remembers.size_insert (remembers : Remembers cache history)
    (size : cache.map.size = min cache.maxSize (distinctKeys history).card)
    (insertion : Insertion κ β) (harmless : ¬ Evicts cache insertion.key) :
    (cache.insert insertion.order insertion.key insertion.value).map.size =
      min cache.maxSize
        (distinctKeys (history ++ [(insertion.key, insertion.value)])).card := by
  have grows : (distinctKeys history).card ≤
      (Insert.insert insertion.key (distinctKeys history)).card :=
    Finset.card_le_card (Finset.subset_insert _ _)
  rcases insert_spec insertion.order cache insertion.key insertion.value with
    ⟨kept, inserted, dropped⟩
  rw [inserted, distinctKeys_concat, Std.ExtTreeMap.size_insert]
  simp only [Std.ExtTreeMap.contains_iff_mem]
  rcases dropped with ⟨free, rfl⟩ | ⟨full, oldest, entry, found, smallest, rfl⟩
  · have known : insertion.key ∈ distinctKeys history ↔ insertion.key ∈ cache.map := by
      rw [← remembers.mapKeys_eq (by omega), mem_mapKeys]
    by_cases present : insertion.key ∈ cache.map
    · rw [if_pos present, Finset.insert_eq_of_mem (known.mpr present)]
      exact size
    · rw [if_neg present, Finset.card_insert_of_notMem (fun member => present (known.mp member))]
      omega
  · have member : oldest ∈ cache.map := by
      rw [Std.ExtTreeMap.mem_iff_isSome_getElem?, found]
      rfl
    have replaced : insertion.key ∉ cache.map.erase oldest := by
      rw [Std.ExtTreeMap.mem_erase, ne_eq, Std.compare_eq_iff_eq]
      rintro ⟨different, present⟩
      exact harmless ((remembers.evicts_iff full found smallest).mpr ⟨present, different⟩)
    have positive := cache.maxSize_pos
    rw [if_neg replaced, Std.ExtTreeMap.size_erase,
      if_pos (Std.ExtTreeMap.mem_iff_contains.mp member)]
    omega

theorem Remembers.mostRecent (remembers : Remembers cache history)
    (size : cache.map.size = min cache.maxSize (distinctKeys history).card) :
    MostRecent cache history := by
  have recency := remembers.recencyCache
  constructor
  case size => exact size
  case value =>
    intro key value found
    rcases recency.get key with absent | ⟨position, last, written, same⟩
    · rw [absent] at found
      cases found
    · rw [found] at same
      cases same
      exact ⟨position, written⟩
  case recent => exact recency.recent

end Steps

section Runs

theorem insertAll_concat (cache : CacheMap κ β) (insertions : List (Insertion κ β))
    (insertion : Insertion κ β) :
    cache.insertAll (insertions ++ [insertion]) =
      (cache.insertAll insertions).insert insertion.order insertion.key insertion.value := by
  simp [insertAll]

variable [DecidableEq κ]

/-- At every time the cache holds the most recently inserted keys, and inserting a key
which is present never drops another one. -/
structure Retains (cache : CacheMap κ β) (insertions : List (Insertion κ β)) : Prop where
  mostRecent : ∀ before after, insertions = before ++ after →
    MostRecent (cache.insertAll before) (writes before)
  keepsOthers : ∀ before insertion after, insertions = before ++ insertion :: after →
    insertion.key ∈ (cache.insertAll before).map → KeepsOthers (cache.insertAll before) insertion

variable [Std.LawfulEqOrd κ]

/-- As long as no insertion evicts an entry for a key that is present, the cache is as
full as it can be. -/
theorem size_insertAll {maxSize : Nat} (maxSize_pos : 1 ≤ maxSize)
    (insertions : List (Insertion κ β)) (short : insertions.length < 2 ^ 64)
    (harmless : Explained (fun before insertion =>
      ¬ Evicts ((ofSize maxSize maxSize_pos).insertAll before) insertion.key) insertions) :
    ((ofSize maxSize maxSize_pos).insertAll insertions).map.size =
      min ((ofSize maxSize maxSize_pos).insertAll insertions).maxSize
        (distinctKeys (writes insertions)).card := by
  induction insertions using List.reverseRecOn with
  | nil => simp [insertAll, ofSize, writes, distinctKeys]
  | append_singleton insertions insertion ih =>
      rw [List.length_append, List.length_singleton] at short
      have remembers := remembers_insertAll maxSize_pos insertions (by omega)
      have size := ih (by omega) harmless.init
      rw [insertAll_concat, writes_concat, maxSize_insert]
      exact remembers.size_insert size insertion harmless.last

/-- A cache retains what it should if and only if no key that is present is inserted into
a full cache in which another key is older. -/
theorem retains_iff {maxSize : Nat} (maxSize_pos : 1 ≤ maxSize)
    (insertions : List (Insertion κ β)) (short : insertions.length < 2 ^ 64) :
    ∃ cache : CacheMap κ β, new maxSize = .ok cache ∧
      (Retains cache insertions ↔
        Explained (fun before insertion => ¬ Evicts (cache.insertAll before) insertion.key)
          insertions) := by
  refine ⟨ofSize maxSize maxSize_pos, dif_pos maxSize_pos, ?_⟩
  have few : ∀ before after, insertions = before ++ after → before.length < 2 ^ 64 := by
    rintro before after rfl
    rw [List.length_append] at short
    omega
  have remembers : ∀ before after, insertions = before ++ after →
      Remembers ((ofSize maxSize maxSize_pos).insertAll before) (writes before) :=
    fun before after split => remembers_insertAll maxSize_pos before (few before after split)
  constructor
  · intro retains before insertion after split evicts
    rcases id evicts with ⟨_, entry, found, _⟩
    have present : insertion.key ∈ ((ofSize maxSize maxSize_pos).insertAll before).map := by
      rw [Std.ExtTreeMap.mem_iff_isSome_getElem?, found]
      rfl
    have keeps := retains.keepsOthers before insertion after split present
    exact ((remembers before _ split).keepsOthers_iff insertion present).mp keeps evicts
  · intro harmless
    constructor
    case mostRecent =>
      intro before after split
      exact (remembers before after split).mostRecent (size_insertAll maxSize_pos before
        (few before after split) (split ▸ harmless).of_append)
    case keepsOthers =>
      intro before insertion after split present
      exact ((remembers before _ split).keepsOthers_iff insertion present).mpr
        (harmless before insertion after split)

/-- The newest of two keys is inserted again into a cache for two keys. -/
def sampleReinsertions : List (Insertion String Nat) :=
  [("a", 1), ("b", 2), ("b", 3)].map fun (key, value) =>
    { order := .byKey String (Entry Nat), key := key, value := value }

theorem not_retains_sample :
    ¬ ∃ cache : CacheMap String Nat, new 2 = .ok cache ∧ Retains cache sampleReinsertions := by
  rintro ⟨cache, created, retains⟩
  cases created
  have keeps := retains.keepsOthers (sampleReinsertions.take 2)
    { order := .byKey String (Entry Nat), key := "b", value := 3 } [] rfl (by decide)
  exact absurd (keeps "a" (by decide)) (by decide)

theorem retains_iff_sample :
    ∃ cache : CacheMap String Nat, new 2 = .ok cache ∧
      (Retains cache sampleReinsertions ↔
        Explained (fun before insertion => ¬ Evicts (cache.insertAll before) insertion.key)
          sampleReinsertions) :=
  retains_iff (by decide) sampleReinsertions (by decide)

end Runs

end DmarcReportViewer.CacheMap
