import DmarcReportViewer.CacheMap
import DmarcReportViewer.Lib.LastWrites

/-!
# What a cache remembers

After any sequence of insertions, a cache holds the values that were inserted last,
for the keys that were inserted last.  The stamps are the positions of the
insertions, as long as the counter has not wrapped around.
-/

namespace DmarcReportViewer.CacheMap

open Collections LastWrites

variable {κ β : Type}

section Oldest

theorem foldl_oldest_mem (entries : List (κ × Entry β)) (entry : κ × Entry β) :
    entries.foldl
        (fun best next => if next.2.inserted < best.2.inserted then next else best) entry ∈
      entry :: entries := by
  induction entries generalizing entry with
  | nil => exact List.mem_cons_self
  | cons next rest ih =>
      rw [List.foldl_cons]
      split
      · exact List.mem_cons_of_mem _ (ih next)
      · rcases List.mem_cons.mp (ih entry) with found | later
        · rw [found]
          exact List.mem_cons_self
        · exact List.mem_cons_of_mem _ (List.mem_cons_of_mem _ later)

theorem foldl_oldest_le (entries : List (κ × Entry β)) (entry : κ × Entry β) :
    ∀ other ∈ entry :: entries,
      (entries.foldl (fun best next => if next.2.inserted < best.2.inserted then next else best)
        entry).2.inserted ≤ other.2.inserted := by
  induction entries generalizing entry with
  | nil =>
      intro other member
      rw [List.mem_singleton.mp member]
      exact UInt64.le_refl _
  | cons next rest ih =>
      intro other member
      rw [List.foldl_cons]
      split
      · next smaller =>
          rcases List.mem_cons.mp member with rfl | later
          · exact UInt64.le_trans (ih next next List.mem_cons_self) (UInt64.le_of_lt smaller)
          · exact ih next other later
      · next larger =>
          rcases List.mem_cons.mp member with rfl | later
          · exact ih other other List.mem_cons_self
          · rcases List.mem_cons.mp later with rfl | last
            · exact UInt64.le_trans (ih entry entry List.mem_cons_self) (UInt64.not_lt.mp larger)
            · exact ih entry other (List.mem_cons_of_mem _ last)

/-- The entry found to be the oldest is an entry, and no entry has a smaller stamp. -/
theorem oldest_spec {entries : List (κ × Entry β)} {entry : κ × Entry β}
    (found : oldest entries = some entry) :
    entry ∈ entries ∧ ∀ other ∈ entries, entry.2.inserted ≤ other.2.inserted := by
  cases entries with
  | nil => cases found
  | cons first rest =>
      rw [← Option.some.inj found]
      exact ⟨foldl_oldest_mem rest first, foldl_oldest_le rest first⟩

theorem oldest_eq_none_iff {entries : List (κ × Entry β)} :
    oldest entries = none ↔ entries = [] := by
  cases entries with
  | nil => simp [oldest]
  | cons first rest => simp [oldest]

end Oldest

section Steps

variable [Ord κ] {cache : CacheMap κ β}

theorem map_ne_empty_of_full (full : cache.maxSize ≤ cache.map.size) : cache.map ≠ ∅ := by
  intro empty
  rw [empty, Std.ExtTreeMap.size_empty] at full
  exact absurd cache.maxSize_pos (by omega)

variable [Std.TransOrd κ] [Std.LawfulEqOrd κ]
variable {order : IterationOrder κ (Entry β)} {key : κ} {value : β}

/-- Pruning a cache which is not empty drops an entry with the smallest stamp. -/
theorem prune_spec (order : IterationOrder κ (Entry β)) (filled : cache.map ≠ ∅) :
    ∃ oldest entry, cache.map[oldest]? = some entry ∧
      (∀ (other : κ) (kept : Entry β), cache.map[other]? = some kept →
        entry.inserted ≤ kept.inserted) ∧
        cache.prune order = { cache with map := cache.map.erase oldest } := by
  have listed : ∀ (other : κ) (kept : Entry β), (other, kept) ∈ iterate order cache.map ↔
      cache.map[other]? = some kept := by
    intro other kept
    rw [(iterate_perm order cache.map).mem_iff, Std.ExtTreeMap.mem_toList_iff_getElem?_eq_some]
  cases found : oldest (iterate order cache.map) with
  | none =>
      have empty := (iterate_perm order cache.map).length_eq
      rw [oldest_eq_none_iff.mp found, Std.ExtTreeMap.length_toList] at empty
      exact absurd (Std.ExtTreeMap.eq_empty_iff_size_eq_zero.mpr empty.symm) filled
  | some entry =>
      rcases oldest_spec found with ⟨member, smallest⟩
      refine ⟨entry.1, entry.2, (listed _ _).mp member, ?_, ?_⟩
      · intro other kept present
        exact smallest (other, kept) ((listed _ _).mpr present)
      · rw [prune, found]

/-- An insertion drops an entry with the smallest stamp if the cache is full, and
adds an entry with the next stamp. -/
theorem insert_spec (order : IterationOrder κ (Entry β)) (cache : CacheMap κ β) (key : κ)
    (value : β) :
    ∃ kept : HashMap κ (Entry β),
      cache.insert order key value =
        { cache with
          map := kept.insert key { inserted := cache.counter, value := value }
          counter := cache.counter + 1 } ∧
      ((cache.map.size < cache.maxSize ∧ kept = cache.map) ∨
        (cache.maxSize ≤ cache.map.size ∧
          ∃ oldest entry, cache.map[oldest]? = some entry ∧
            (∀ (other : κ) (kept : Entry β), cache.map[other]? = some kept →
        entry.inserted ≤ kept.inserted) ∧
              kept = cache.map.erase oldest)) := by
  by_cases full : cache.maxSize ≤ cache.map.size
  · rcases prune_spec order (map_ne_empty_of_full full) with
      ⟨oldest, entry, present, smallest, pruned⟩
    refine ⟨cache.map.erase oldest, ?_, Or.inr ⟨full, oldest, entry, present, smallest, rfl⟩⟩
    simp only [insert, if_pos full, pruned]
  · refine ⟨cache.map, ?_, Or.inl ⟨Nat.lt_of_not_le full, rfl⟩⟩
    simp only [insert, if_neg full]

@[simp]
theorem maxSize_insert (order : IterationOrder κ (Entry β)) (cache : CacheMap κ β) (key : κ)
    (value : β) : (cache.insert order key value).maxSize = cache.maxSize := by
  rcases insert_spec order cache key value with ⟨kept, inserted, _⟩
  rw [inserted]

/-- An insertion never makes a cache too large. -/
theorem size_insert_le (bounded : cache.map.size ≤ cache.maxSize) :
    (cache.insert order key value).map.size ≤ cache.maxSize := by
  rcases insert_spec order cache key value with ⟨kept, inserted, dropped⟩
  have room : kept.size + 1 ≤ cache.maxSize := by
    rcases dropped with ⟨free, rfl⟩ | ⟨_, oldest, entry, present, _, rfl⟩
    · exact free
    · have member : cache.map.contains oldest = true := by
        rw [Std.ExtTreeMap.contains_eq_isSome_getElem?, present]
        rfl
      have positive := cache.maxSize_pos
      rw [Std.ExtTreeMap.size_erase, if_pos member]
      omega
  rw [inserted]
  exact Nat.le_trans Std.ExtTreeMap.size_insert_le room

/-- After an insertion, a lookup finds what was inserted or what it found before. -/
theorem get_insert_cases {other : κ} {found : β}
    (lookup : (cache.insert order key value).get other = some found) :
    (other = key ∧ found = value) ∨ cache.get other = some found := by
  rcases insert_spec order cache key value with ⟨kept, inserted, dropped⟩
  rw [inserted, get, Std.ExtTreeMap.getElem?_insert] at lookup
  split at lookup
  · next same =>
      left
      exact ⟨(Std.compare_eq_iff_eq.mp same).symm, (Option.some.inj lookup).symm⟩
  · right
    rcases dropped with ⟨_, rfl⟩ | ⟨_, oldest, entry, _, _, rfl⟩
    · exact lookup
    · rw [Std.ExtTreeMap.getElem?_erase] at lookup
      split at lookup
      · cases lookup
      · exact lookup

end Steps

section Invariant

variable [Ord κ] [Std.TransOrd κ]

/-- The entries of a map are last writes, and they are the most recent ones. -/
structure Recent (map : HashMap κ (Entry β)) (history : List (κ × β)) : Prop where
  last : ∀ (key : κ) (entry : Entry β), map[key]? = some entry →
    LastWrite history entry.inserted.toNat key entry.value
  closed : ∀ (key : κ) (entry : Entry β), map[key]? = some entry →
    ∀ position other value, LastWrite history position other value →
      entry.inserted.toNat < position → other ∈ map

/-- What holds of a cache after a history of insertions. -/
structure Remembers (cache : CacheMap κ β) (history : List (κ × β)) : Prop where
  counter : cache.counter.toNat = history.length
  size : cache.map.size ≤ cache.maxSize
  recent : Recent cache.map history
  newest : ∀ key value, history.getLast? = some (key, value) → cache.get key = some value

variable {cache : CacheMap κ β} {map : HashMap κ (Entry β)} {history : List (κ × β)}

/-- Two keys of a map never have the same stamp. -/
theorem Recent.stamp_injective (recent : Recent map history) {key other : κ} {entry kept : Entry β}
    (present : map[key]? = some entry) (found : map[other]? = some kept)
    (same : entry.inserted = kept.inserted) : key = other := by
  have first := recent.last key entry present
  have second := recent.last other kept found
  rw [same] at first
  exact first.key_unique second

theorem remembers_ofSize (maxSize : Nat) (maxSize_pos : 1 ≤ maxSize) :
    Remembers (ofSize maxSize maxSize_pos : CacheMap κ β) [] := by
  constructor
  case counter => rfl
  case size => simp [ofSize]
  case recent => constructor <;> simp [ofSize]
  case newest => simp

variable [Std.LawfulEqOrd κ]

/-- Without its entry with the smallest stamp, a map still has the most recent
writes. -/
theorem Recent.erase (recent : Recent map history) {oldest : κ} {entry : Entry β}
    (present : map[oldest]? = some entry)
    (smallest : ∀ (other : κ) (kept : Entry β), map[other]? = some kept →
      entry.inserted ≤ kept.inserted) : Recent (map.erase oldest) history := by
  have remains : ∀ (key : κ) (kept : Entry β), (map.erase oldest)[key]? = some kept →
      map[key]? = some kept := by
    intro key kept found
    rw [Std.ExtTreeMap.getElem?_erase] at found
    split at found
    · cases found
    · exact found
  constructor
  case last =>
    intro key kept found
    exact recent.last key kept (remains key kept found)
  case closed =>
    intro key kept found position other value last later
    have there := remains key kept found
    have member := recent.closed key kept there position other value last later
    rw [Std.ExtTreeMap.mem_erase]
    refine ⟨?_, member⟩
    intro same
    rw [Std.compare_eq_iff_eq] at same
    subst same
    -- The dropped key would have been written after a key with a larger stamp.
    have early := (recent.last oldest entry present).position_unique last
    have order := UInt64.le_iff_toNat_le.mp (smallest key kept there)
    omega

/-- A new entry with the position of the new write is the most recent one. -/
theorem Recent.insert (recent : Recent map history) (key : κ) (value : β) {stamp : UInt64}
    (position : stamp.toNat = history.length) :
    Recent (map.insert key { inserted := stamp, value := value }) (history ++ [(key, value)]) := by
  have cases : ∀ (other : κ) (entry : Entry β),
      (map.insert key { inserted := stamp, value := value })[other]? = some entry →
        (other = key ∧ entry = { inserted := stamp, value := value }) ∨
          (other ≠ key ∧ map[other]? = some entry) := by
    intro other entry found
    rw [Std.ExtTreeMap.getElem?_insert] at found
    split at found
    · next same =>
        exact Or.inl ⟨(Std.compare_eq_iff_eq.mp same).symm, (Option.some.inj found).symm⟩
    · next different =>
        exact Or.inr ⟨fun same => different (Std.compare_eq_iff_eq.mpr same.symm), found⟩
  constructor
  case last =>
    intro other entry found
    rcases cases other entry found with ⟨rfl, rfl⟩ | ⟨different, earlier⟩
    · rw [position]
      exact lastWrite_concat_self
    · exact (lastWrite_concat_iff different).mpr (recent.last other entry earlier)
  case closed =>
    intro other entry found index another written last later
    rw [Std.ExtTreeMap.mem_insert, Std.compare_eq_iff_eq]
    by_cases same : key = another
    · exact Or.inl same
    · right
      have before := (lastWrite_concat_iff (Ne.symm same)).mp last
      rcases cases other entry found with ⟨rfl, rfl⟩ | ⟨_, earlier⟩
      · have bound := before.lt_length
        simp only [position] at later
        omega
      · exact recent.closed other entry earlier index another written before later

/-- An insertion keeps the invariant as long as the counter does not wrap around. -/
theorem Remembers.insert (remembers : Remembers cache history)
    (order : IterationOrder κ (Entry β)) (key : κ) (value : β)
    (short : history.length + 1 < 2 ^ 64) :
    Remembers (cache.insert order key value) (history ++ [(key, value)]) := by
  have bounded : (cache.insert order key value).map.size ≤ cache.maxSize :=
    size_insert_le remembers.size
  rcases insert_spec order cache key value with ⟨kept, inserted, dropped⟩
  have recent : Recent kept history := by
    rcases dropped with ⟨_, rfl⟩ | ⟨_, oldest, entry, present, smallest, rfl⟩
    · exact remembers.recent
    · exact remembers.recent.erase present smallest
  rw [inserted] at bounded ⊢
  constructor
  case counter =>
    rw [List.length_append, List.length_singleton, UInt64.toNat_add, remembers.counter]
    exact Nat.mod_eq_of_lt short
  case size => exact bounded
  case recent => exact recent.insert key value remembers.counter
  case newest =>
    intro last found newest
    rw [List.getLast?_concat] at newest
    cases newest
    simp [get]

end Invariant

section Runs

variable [Ord κ] [Std.TransOrd κ]

/-- A call of `insert`, with the iteration order of the hash map at that time. -/
structure Insertion (κ β : Type) where
  order : IterationOrder κ (Entry β)
  key : κ
  value : β

def insertAll (cache : CacheMap κ β) (insertions : List (Insertion κ β)) : CacheMap κ β :=
  insertions.foldl (fun cache insertion =>
    cache.insert insertion.order insertion.key insertion.value) cache

def writes (insertions : List (Insertion κ β)) : List (κ × β) :=
  insertions.map fun insertion => (insertion.key, insertion.value)

@[simp]
theorem maxSize_insertAll [Std.LawfulEqOrd κ] (cache : CacheMap κ β)
    (insertions : List (Insertion κ β)) : (cache.insertAll insertions).maxSize = cache.maxSize := by
  induction insertions generalizing cache with
  | nil => rfl
  | cons insertion insertions ih => exact (ih _).trans (maxSize_insert _ _ _ _)

theorem remembers_insertAll [Std.LawfulEqOrd κ] {maxSize : Nat} (maxSize_pos : 1 ≤ maxSize)
    (insertions : List (Insertion κ β)) (short : insertions.length < 2 ^ 64) :
    Remembers ((ofSize maxSize maxSize_pos).insertAll insertions) (writes insertions) := by
  induction insertions using List.reverseRecOn with
  | nil => exact remembers_ofSize maxSize maxSize_pos
  | append_singleton insertions insertion ih =>
      rw [List.length_append, List.length_singleton] at short
      have before := ih (by omega)
      have step := before.insert insertion.order insertion.key insertion.value
        (by simpa [writes] using short)
      simpa [insertAll, writes] using step

/-- A cache of at most the given size which has dropped the least recent writes of a
history. -/
structure RecencyCache (cache : CacheMap κ β) (maxSize : Nat) (history : List (κ × β)) : Prop where
  size : cache.map.size ≤ maxSize
  distinct : ∀ (key other : κ) (entry kept : Entry β), cache.map[key]? = some entry →
    cache.map[other]? = some kept → key ≠ other → entry.inserted ≠ kept.inserted
  below : ∀ (key : κ) (entry : Entry β), cache.map[key]? = some entry →
    entry.inserted < cache.counter
  get : ∀ key, cache.get key = none ∨
    ∃ position value, LastWrite history position key value ∧ cache.get key = some value
  newest : ∀ key value, history.getLast? = some (key, value) → cache.get key = some value
  recent : ∀ position key value later other newer, LastWrite history position key value →
    LastWrite history later other newer → position < later →
      cache.get key ≠ none → cache.get other ≠ none
  prune : ∀ order, cache.map ≠ ∅ → ∃ oldest position value,
    LastWrite history position oldest value ∧ cache.get oldest ≠ none ∧
      (∀ other, cache.get other ≠ none → other ≠ oldest →
        ∃ later newer, LastWrite history later other newer ∧ position < later) ∧
      cache.prune order = { cache with map := cache.map.erase oldest }

theorem get_ne_none_iff {cache : CacheMap κ β} {key : κ} :
    cache.get key ≠ none ↔ ∃ entry : Entry β, cache.map[key]? = some entry := by
  rw [get, ne_eq, Option.map_eq_none_iff]
  exact Option.ne_none_iff_exists'

variable [Std.LawfulEqOrd κ]

theorem Remembers.recencyCache {cache : CacheMap κ β} {history : List (κ × β)}
    (remembers : Remembers cache history) : RecencyCache cache cache.maxSize history := by
  have recent := remembers.recent
  constructor
  case size => exact remembers.size
  case distinct =>
    intro key other entry kept present found different same
    exact different (recent.stamp_injective present found same)
  case below =>
    intro key entry present
    rw [UInt64.lt_iff_toNat_lt, remembers.counter]
    exact (recent.last key entry present).lt_length
  case get =>
    intro key
    cases present : cache.map[key]? with
    | none => exact Or.inl (by rw [get, present]; rfl)
    | some entry =>
        refine Or.inr ⟨_, entry.value, recent.last key entry present, ?_⟩
        rw [get, present]
        rfl
  case newest => exact remembers.newest
  case recent =>
    intro position key value later other newer last newerLast after shown
    rcases get_ne_none_iff.mp shown with ⟨entry, present⟩
    have stamp := (recent.last key entry present).position_unique last
    have member := recent.closed key entry present later other newer newerLast (by omega)
    rw [Std.ExtTreeMap.mem_iff_isSome_getElem?] at member
    exact get_ne_none_iff.mpr (Option.isSome_iff_exists.mp member)
  case prune =>
    intro order filled
    rcases prune_spec order filled with ⟨oldest, entry, present, smallest, pruned⟩
    refine ⟨oldest, _, _, recent.last oldest entry present,
      get_ne_none_iff.mpr ⟨entry, present⟩, ?_, pruned⟩
    intro other shown different
    rcases get_ne_none_iff.mp shown with ⟨kept, found⟩
    refine ⟨_, _, recent.last other kept found, ?_⟩
    have order := UInt64.le_iff_toNat_le.mp (smallest other kept found)
    apply Nat.lt_of_le_of_ne order
    intro same
    exact different (recent.stamp_injective found present (UInt64.toNat_inj.mp same.symm))

/-- A new cache keeps the most recent insertions of every sequence of insertions. -/
theorem recencyCache_insertAll {maxSize : Nat} (maxSize_pos : 1 ≤ maxSize)
    (insertions : List (Insertion κ β)) (short : insertions.length < 2 ^ 64) :
    ∃ cache : CacheMap κ β, new maxSize = .ok cache ∧
      RecencyCache (cache.insertAll insertions) maxSize (writes insertions) := by
  refine ⟨ofSize maxSize maxSize_pos, dif_pos maxSize_pos, ?_⟩
  have result := (remembers_insertAll maxSize_pos insertions short).recencyCache
  rw [maxSize_insertAll] at result
  exact result

/-- A repeated key in a full cache, and then a new one. -/
def sampleInsertions : List (Insertion String Nat) :=
  [("a", 1), ("b", 2), ("a", 3), ("c", 4)].map fun (key, value) =>
    { order := .byKey String (Entry Nat), key := key, value := value }

theorem recencyCache_insertAll_sample :
    ∃ cache : CacheMap String Nat, new 2 = .ok cache ∧
      RecencyCache (cache.insertAll sampleInsertions) 2 (writes sampleInsertions) :=
  recencyCache_insertAll (by decide) sampleInsertions (by decide)

end Runs

end DmarcReportViewer.CacheMap
