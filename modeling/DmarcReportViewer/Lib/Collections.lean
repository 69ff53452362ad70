import Mathlib.Algebra.BigOperators.Group.List.Basic
import Mathlib.Algebra.GroupWithZero.Nat
import Mathlib.Data.List.Destutter
import Mathlib.Data.List.Nodup
import Mathlib.Data.List.Perm.Basic
import Mathlib.Data.List.Sort
import Mathlib.Data.String.Basic
import Std.Data.ExtTreeMap

/-!
# Ordered and unordered maps

Both map types are extensional finite maps.  An ordered map is read in the
ascending order of its keys.  An unordered map has the same contents but no
iteration order of its own: code that iterates over one takes an
`IterationOrder`, an arbitrary rearrangement of the entries.
-/

namespace Collections

universe u v

/-- A map which is iterated in the ascending order of its keys. -/
abbrev BTreeMap (κ : Type u) (β : Type v) [Ord κ] : Type (max u v) :=
  Std.ExtTreeMap κ β compare

/-- A map whose iteration order is not determined by its contents. -/
abbrev HashMap (κ : Type u) (β : Type v) [Ord κ] : Type (max u v) :=
  Std.ExtTreeMap κ β compare

/-- An iteration order of unordered maps: it lists the entries of a map in
some order, without losing or inventing one. -/
structure IterationOrder (κ : Type u) (β : Type v) where
  arrange : List (κ × β) → List (κ × β)
  arrange_perm : ∀ entries, (arrange entries).Perm entries

/-- The iteration order which follows the keys. -/
def IterationOrder.byKey (κ : Type u) (β : Type v) : IterationOrder κ β where
  arrange entries := entries
  arrange_perm _ := List.Perm.refl _

/-- Ordering by an injective number is lawful, so such types can be map keys. -/
theorem lawfulEqCmp_compareOn {κ : Type u} {rank : κ → ℕ} (injective : Function.Injective rank) :
    Std.LawfulEqCmp (compareOn rank) where
  eq_of_compare {left right} same := by
    apply injective
    exact Std.compare_eq_iff_eq.mp same

theorem sum_map_ite_eq_count {κ : Type u} [DecidableEq κ] (keys : List κ) (name : κ) :
    (keys.map fun other => if name = other then 1 else 0).sum = keys.count name := by
  induction keys with
  | nil => rfl
  | cons key keys ih =>
      by_cases same : name = key
      · subst same
        simp [ih, Nat.add_comm]
      · simp [ih, same, Ne.symm same]

/-- Counting the items of a list by a key counts every item once, if all keys
are listed once. -/
theorem sum_map_countP {ι : Type v} {κ : Type u} [DecidableEq κ] {keys : List κ}
    (distinct : keys.Nodup) (key : ι → κ) {items : List ι}
    (covered : ∀ item ∈ items, key item ∈ keys) :
    (keys.map fun name => items.countP fun item => key item = name).sum = items.length := by
  induction items with
  | nil => simp
  | cons item items ih =>
      have rest := ih fun other member => covered other (List.mem_cons_of_mem _ member)
      have once : (keys.map fun name => if key item = name then 1 else 0).sum = 1 := by
        rw [sum_map_ite_eq_count]
        exact List.count_eq_one_of_mem distinct (covered item List.mem_cons_self)
      simp only [List.countP_cons, List.length_cons, decide_eq_true_eq, List.sum_map_add, rest,
        once]

section Sorting

variable {α : Type u} [LinearOrder α]

/-- Sort a list and remove the repetitions. -/
def sortDedup (items : List α) : List α :=
  (items.mergeSort (· ≤ ·)).destutter (· ≠ ·)

end Sorting

section Maps

variable {κ : Type u} {β : Type v} [Ord κ] [Std.TransOrd κ]

/-- The values of a map in the order of their keys. -/
def valueList (map : BTreeMap κ β) : List β :=
  map.toList.map Prod.snd

/-- The entries of an unordered map in a given iteration order. -/
def iterate (order : IterationOrder κ β) (map : HashMap κ β) : List (κ × β) :=
  order.arrange map.toList

theorem iterate_perm (order : IterationOrder κ β) (map : HashMap κ β) :
    (iterate order map).Perm map.toList :=
  order.arrange_perm _

@[simp]
theorem length_valueList (map : BTreeMap κ β) : (valueList map).length = map.size := by
  simp [valueList]

@[simp]
theorem valueList_empty : valueList (∅ : BTreeMap κ β) = [] := by
  simp [valueList]

theorem exists_mem_valueList {map : BTreeMap κ β} {holds : β → Prop} :
    (∃ value ∈ valueList map, holds value) ↔ ∃ entry ∈ map.toList, holds entry.2 := by
  constructor
  · rintro ⟨value, listed, held⟩
    rcases List.mem_map.mp listed with ⟨entry, stored, rfl⟩
    exact ⟨entry, stored, held⟩
  · rintro ⟨entry, stored, held⟩
    exact ⟨entry.2, List.mem_map_of_mem stored, held⟩

/-- A part of a map selected by its values is read in the same order. -/
theorem valueList_filter (map : BTreeMap κ β) (select : β → Bool) :
    valueList (map.filter fun _ value => select value) = (valueList map).filter select := by
  simp only [valueList, Std.ExtTreeMap.toList_filter, List.filter_map]
  rfl

variable [Std.LawfulEqOrd κ]

theorem mem_valueList {map : BTreeMap κ β} {value : β} :
    value ∈ valueList map ↔ ∃ key : κ, map[key]? = some value := by
  simp [valueList, Std.ExtTreeMap.mem_toList_iff_getElem?_eq_some]

theorem nodup_keys_toList (map : BTreeMap κ β) : (map.toList.map Prod.fst).Nodup := by
  refine List.pairwise_map.mpr ?_
  refine (Std.ExtTreeMap.distinct_keys_toList (t := map)).imp ?_
  intro first second distinct same
  exact distinct (by simp [same])

/-- A value found after inserting a list of entries comes from the list or was
there before. -/
theorem mem_or_getElem?_of_insertMany {map : BTreeMap κ β} {entries : List (κ × β)} {key : κ}
    {value : β} (found : (map.insertMany entries)[key]? = some value) :
    (key, value) ∈ entries ∨ map[key]? = some value := by
  induction entries generalizing map with
  | nil => exact Or.inr (by simpa using found)
  | cons entry entries ih =>
      rw [Std.ExtTreeMap.insertMany_cons] at found
      rcases ih found with listed | earlier
      · exact Or.inl (List.mem_cons_of_mem _ listed)
      · rw [Std.ExtTreeMap.getElem?_insert] at earlier
        split at earlier
        · next same =>
            left
            rw [← Std.compare_eq_iff_eq.mp same, ← Option.some.inj earlier]
            exact List.mem_cons_self
        · exact Or.inr earlier

theorem mem_insertMany_iff {map : BTreeMap κ β} {entries : List (κ × β)} {key : κ} :
    key ∈ map.insertMany entries ↔ key ∈ entries.map Prod.fst ∨ key ∈ map := by
  induction entries generalizing map with
  | nil => simp
  | cons entry entries ih =>
      rw [Std.ExtTreeMap.insertMany_cons, ih, Std.ExtTreeMap.mem_insert, List.map_cons,
        List.mem_cons, Std.compare_eq_iff_eq]
      tauto

/-- With distinct keys, an entry of the list is what a lookup of its key finds. -/
theorem getElem?_insertMany_of_mem {map : BTreeMap κ β} {entries : List (κ × β)}
    (distinct : (entries.map Prod.fst).Nodup) {key : κ} {value : β}
    (listed : (key, value) ∈ entries) : (map.insertMany entries)[key]? = some value := by
  induction entries generalizing map with
  | nil => cases listed
  | cons entry entries ih =>
      rw [List.map_cons, List.nodup_cons] at distinct
      rw [Std.ExtTreeMap.insertMany_cons]
      rcases List.mem_cons.mp listed with rfl | later
      · have present : key ∈ (map.insert key value).insertMany entries :=
          mem_insertMany_iff.mpr (Or.inr (by simp))
        obtain ⟨other, found⟩ := Option.isSome_iff_exists.mp
          (Std.ExtTreeMap.mem_iff_isSome_getElem?.mp present)
        rcases mem_or_getElem?_of_insertMany found with again | kept
        · exact absurd (List.mem_map_of_mem again) distinct.1
        · rw [found, ← kept]
          simp
      · exact ih distinct.2 later

theorem getElem?_insertMany_of_not_mem {map : BTreeMap κ β} {entries : List (κ × β)} {key : κ}
    (absent : key ∉ entries.map Prod.fst) : (map.insertMany entries)[key]? = map[key]? := by
  induction entries generalizing map with
  | nil => simp
  | cons entry entries ih =>
      rw [List.map_cons, List.mem_cons, not_or] at absent
      rw [Std.ExtTreeMap.insertMany_cons, ih absent.2, Std.ExtTreeMap.getElem?_insert, if_neg]
      exact fun same => absent.1 (Std.compare_eq_iff_eq.mp same).symm

/-- Inserting entries with distinct keys does not depend on their order. -/
theorem insertMany_perm {map : BTreeMap κ β} {left right : List (κ × β)}
    (distinct : (left.map Prod.fst).Nodup) (perm : left.Perm right) :
    map.insertMany left = map.insertMany right := by
  refine Std.ExtTreeMap.ext_getElem? fun key => ?_
  by_cases present : key ∈ left.map Prod.fst
  · obtain ⟨⟨found, value⟩, listed, rfl⟩ := List.mem_map.mp present
    rw [getElem?_insertMany_of_mem distinct listed, getElem?_insertMany_of_mem
      ((perm.map _).nodup_iff.mp distinct) (perm.mem_iff.mp listed)]
  · rw [getElem?_insertMany_of_not_mem present, getElem?_insertMany_of_not_mem
      fun other => present ((perm.map _).mem_iff.mpr other)]

/-- Copying an unordered map into an ordered one does not depend on the
iteration order. -/
theorem insertMany_iterate (map : BTreeMap κ β) (source : HashMap κ β)
    (order : IterationOrder κ β) :
    map.insertMany (iterate order source) = map.insertMany source.toList := by
  have perm := iterate_perm order source
  exact insertMany_perm ((perm.map _).nodup_iff.mpr (nodup_keys_toList source)) perm

/-- Entries with distinct keys are, up to their order, the contents of the map
built from them. -/
theorem toList_insertMany_perm {entries : List (κ × β)}
    (distinct : (entries.map Prod.fst).Nodup) :
    ((∅ : BTreeMap κ β).insertMany entries).toList.Perm entries := by
  refine (List.perm_ext_iff_of_nodup (List.Nodup.of_map _ (nodup_keys_toList _))
    (List.Nodup.of_map _ distinct)).mpr ?_
  rintro ⟨key, value⟩
  rw [Std.ExtTreeMap.mem_toList_iff_getElem?_eq_some]
  constructor
  · intro found
    rcases mem_or_getElem?_of_insertMany found with listed | empty
    · exact listed
    · simp at empty
  · exact getElem?_insertMany_of_mem distinct

/-- The values of a union of maps without a common key are those of both maps. -/
theorem valueList_union_perm {left right : BTreeMap κ β}
    (disjoint : ∀ key : κ, key ∈ left → key ∉ right) :
    (valueList (left ∪ right)).Perm (valueList left ++ valueList right) := by
  have distinct : ((left.toList ++ right.toList).map Prod.fst).Nodup := by
    rw [List.map_append, List.nodup_append]
    refine ⟨nodup_keys_toList left, nodup_keys_toList right, ?_⟩
    intro key leftMem other rightMem same
    rw [Std.ExtTreeMap.map_fst_toList_eq_keys, Std.ExtTreeMap.mem_keys] at leftMem rightMem
    exact disjoint key leftMem (same ▸ rightMem)
  have perm : (left ∪ right).toList.Perm (left.toList ++ right.toList) := by
    apply (List.perm_ext_iff_of_nodup (List.Nodup.of_map _ (nodup_keys_toList _))
      (List.Nodup.of_map _ distinct)).mpr
    rintro ⟨key, value⟩
    rw [List.mem_append, Std.ExtTreeMap.mem_toList_iff_getElem?_eq_some,
      Std.ExtTreeMap.mem_toList_iff_getElem?_eq_some,
      Std.ExtTreeMap.mem_toList_iff_getElem?_eq_some, Std.ExtTreeMap.getElem?_union]
    cases inRight : right[key]? with
    | none => simp
    | some other =>
        have absent : left[key]? = none := by
          by_contra present
          rcases Option.ne_none_iff_exists'.mp present with ⟨found, inLeft⟩
          apply disjoint key
          · rw [Std.ExtTreeMap.mem_iff_isSome_getElem?, inLeft]
            rfl
          · rw [Std.ExtTreeMap.mem_iff_isSome_getElem?, inRight]
            rfl
        simp [absent]
  rw [valueList, valueList, valueList, ← List.map_append]
  exact perm.map _

/-- A new entry adds its value. -/
theorem valueList_insert_perm {map : BTreeMap κ β} {key : κ} (absent : key ∉ map) (value : β) :
    (valueList (map.insert key value)).Perm (value :: valueList map) := by
  have distinct : (((key, value) :: map.toList).map Prod.fst).Nodup := by
    rw [List.map_cons, List.nodup_cons]
    refine ⟨?_, nodup_keys_toList map⟩
    rwa [Std.ExtTreeMap.map_fst_toList_eq_keys, Std.ExtTreeMap.mem_keys]
  have perm : (map.insert key value).toList.Perm ((key, value) :: map.toList) := by
    apply (List.perm_ext_iff_of_nodup (List.Nodup.of_map _ (nodup_keys_toList _))
      (List.Nodup.of_map _ distinct)).mpr
    rintro ⟨other, found⟩
    rw [List.mem_cons, Std.ExtTreeMap.mem_toList_iff_getElem?_eq_some,
      Std.ExtTreeMap.mem_toList_iff_getElem?_eq_some, Std.ExtTreeMap.getElem?_insert, Prod.mk.injEq]
    by_cases same : key = other
    · subst same
      simp [Std.ExtTreeMap.getElem?_eq_none absent, eq_comm]
    · simp [same, Ne.symm same]
  exact perm.map _

/-- An insertion replaces the value which was there before, if there was one. -/
theorem sum_valueList_insert (map : BTreeMap κ ℕ) (key : κ) (value : ℕ) :
    (valueList (map.insert key value)).sum + (map[key]?).getD 0 = (valueList map).sum + value := by
  have fresh : ∀ map : BTreeMap κ ℕ, key ∉ map → ∀ value : ℕ,
      (valueList (map.insert key value)).sum = value + (valueList map).sum := by
    intro map absent value
    rw [(valueList_insert_perm absent value).sum_eq, List.sum_cons]
  cases found : map[key]? with
  | none =>
      have absent : key ∉ map := by
        rw [Std.ExtTreeMap.mem_iff_isSome_getElem?, found]
        exact Bool.false_ne_true
      rw [fresh map absent, Option.getD_none]
      omega
  | some old =>
      have replaced : ∀ other : ℕ, map.insert key other = (map.erase key).insert key other := by
        intro other
        apply Std.ExtTreeMap.ext_getElem?
        intro label
        simp only [Std.ExtTreeMap.getElem?_insert, Std.ExtTreeMap.getElem?_erase]
        split <;> rfl
      have before : map = (map.erase key).insert key old := by
        rw [← replaced]
        apply Std.ExtTreeMap.ext_getElem?
        intro label
        rw [Std.ExtTreeMap.getElem?_insert]
        split
        · next same => rw [← Std.compare_eq_iff_eq.mp same, found]
        · rfl
      have total := congrArg (fun map => (valueList map).sum) before
      have absent : key ∉ map.erase key := by simp
      simp only [fresh _ absent] at total
      rw [replaced, fresh _ absent, Option.getD_some, total]
      omega

theorem valueList_insertMany_perm {entries : List (κ × β)}
    (distinct : (entries.map Prod.fst).Nodup) :
    (valueList ((∅ : BTreeMap κ β).insertMany entries)).Perm (entries.map Prod.snd) :=
  (toList_insertMany_perm distinct).map _

end Maps

end Collections
