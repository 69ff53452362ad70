import DmarcReportViewer.Lib.Collections
import Mathlib.Algebra.BigOperators.Group.List.Basic
import Mathlib.Algebra.Order.BigOperators.Group.List
import Mathlib.Data.UInt

/-!
# Histograms

A histogram is a map from keys to totals which is filled by adding weights to
its entries one after the other.  `tally` is the histogram of a list of
weighted events.  Every accumulation loop computes one, and its keys and
totals are read off from the list of events.
-/

namespace Histogram

open Collections

universe u v

section Weights

variable {κ : Type u} {M : Type v} [DecidableEq κ] [AddCommMonoid M]

/-- The total weight of the events with a given key. -/
def weightOf (events : List (κ × M)) (key : κ) : M :=
  ((events.filter fun event => event.1 = key).map Prod.snd).sum

@[simp]
theorem weightOf_nil (key : κ) : weightOf ([] : List (κ × M)) key = 0 := by
  simp [weightOf]

theorem weightOf_cons (event : κ × M) (events : List (κ × M)) (key : κ) :
    weightOf (event :: events) key =
      (if event.1 = key then event.2 else 0) + weightOf events key := by
  by_cases same : event.1 = key <;> simp [weightOf, same]

theorem weightOf_append (left right : List (κ × M)) (key : κ) :
    weightOf (left ++ right) key = weightOf left key + weightOf right key := by
  simp [weightOf]

theorem weightOf_perm {left right : List (κ × M)} (perm : left.Perm right) (key : κ) :
    weightOf left key = weightOf right key :=
  ((perm.filter _).map _).sum_eq

end Weights

section Totals64

variable {κ : Type u} {ι : Type v} [DecidableEq κ]

/-- The mathematical sum of the 64-bit weights of the events with a given key. -/
def total (events : List (κ × UInt64)) (key : κ) : ℕ :=
  ((events.filter fun event => event.1 = key).map fun event => event.2.toNat).sum

theorem toNat_sum (weights : List UInt64) :
    weights.sum.toNat = (weights.map UInt64.toNat).sum % 2 ^ 64 := by
  induction weights with
  | nil => rfl
  | cons weight weights ih =>
      simp only [List.sum_cons, List.map_cons, UInt64.toNat_add, ih, Nat.add_mod_mod]

/-- A total of 64-bit weights is the sum of the weights modulo `2 ^ 64`. -/
theorem toNat_weightOf (events : List (κ × UInt64)) (key : κ) :
    (weightOf events key).toNat = total events key % 2 ^ 64 := by
  simp only [weightOf, total, toNat_sum, List.map_map]
  rfl

theorem total_flatMap (items : List ι) (events : ι → List (κ × UInt64)) (key : κ) :
    total (items.flatMap events) key = (items.map fun item => total (events item) key).sum := by
  induction items with
  | nil => rfl
  | cons item items ih =>
      simp only [total, List.flatMap_cons, List.filter_append, List.map_append, List.sum_append,
        List.map_cons, List.sum_cons] at ih ⊢
      rw [ih]

theorem total_map (items : List ι) (name : ι → κ) (weight : ι → UInt64) (key : κ) :
    total (items.map fun item => (name item, weight item)) key =
      ((items.filter fun item => name item = key).map fun item => (weight item).toNat).sum := by
  simp only [total, List.filter_map, List.map_map]
  rfl

theorem total_map_one (items : List ι) (name : ι → κ) (key : κ) :
    total (items.map fun item => (name item, 1)) key =
      items.countP fun item => name item = key := by
  rw [total_map, List.countP_eq_length_filter]
  simp

/-- A sum over the selected items of a list. -/
theorem sum_map_filter (items : List ι) (select : ι → Prop) [DecidablePred select]
    (weight : ι → ℕ) :
    ((items.filter fun item => select item).map weight).sum =
      (items.map fun item => if select item then weight item else 0).sum := by
  induction items with
  | nil => rfl
  | cons item items ih =>
      by_cases selected : select item <;> simp [selected, ih]

end Totals64

section Accumulation

variable {κ : Type u} {M : Type v} [Ord κ] [Std.TransOrd κ] [Add M]

/-- Add a weight to the entry of a key, or start the entry with it. -/
def bump (histogram : HashMap κ M) (key : κ) (weight : M) : HashMap κ M :=
  match histogram[key]? with
  | some entry => histogram.insert key (entry + weight)
  | none => histogram.insert key weight

def bumpAll (histogram : HashMap κ M) (events : List (κ × M)) : HashMap κ M :=
  events.foldl (fun current event => bump current event.1 event.2) histogram

def tally (events : List (κ × M)) : HashMap κ M :=
  bumpAll ∅ events

@[simp]
theorem bumpAll_nil (histogram : HashMap κ M) : bumpAll histogram [] = histogram :=
  rfl

@[simp]
theorem bumpAll_cons (histogram : HashMap κ M) (event : κ × M) (events : List (κ × M)) :
    bumpAll histogram (event :: events) = bumpAll (bump histogram event.1 event.2) events :=
  rfl

theorem bumpAll_append (histogram : HashMap κ M) (left right : List (κ × M)) :
    bumpAll histogram (left ++ right) = bumpAll (bumpAll histogram left) right := by
  simp [bumpAll]

variable [Std.LawfulEqOrd κ]

theorem mem_bump {histogram : HashMap κ M} {key other : κ} {weight : M} :
    other ∈ bump histogram key weight ↔ key = other ∨ other ∈ histogram := by
  simp only [bump]
  split <;> simp

theorem mem_bumpAll {histogram : HashMap κ M} {events : List (κ × M)} {key : κ} :
    key ∈ bumpAll histogram events ↔ key ∈ events.map Prod.fst ∨ key ∈ histogram := by
  induction events generalizing histogram with
  | nil => simp
  | cons event events ih =>
      simp only [bumpAll_cons, List.map_cons, List.mem_cons]
      rw [ih, mem_bump]
      tauto

@[simp]
theorem mem_tally {events : List (κ × M)} {key : κ} :
    key ∈ tally events ↔ key ∈ events.map Prod.fst := by
  simp [tally, mem_bumpAll]

end Accumulation

section Totals

variable {κ : Type u} {M : Type v} [Ord κ] [Std.TransOrd κ] [AddCommMonoid M]

/-- The total recorded for a key, zero if it has no entry. -/
def count (histogram : HashMap κ M) (key : κ) : M :=
  histogram.getD key 0

@[simp]
theorem count_empty (key : κ) : count (∅ : HashMap κ M) key = 0 := by
  simp [count]

variable [Std.LawfulEqOrd κ] [DecidableEq κ]

theorem count_bump (histogram : HashMap κ M) (key other : κ) (weight : M) :
    count (bump histogram key weight) other =
      count histogram other + if key = other then weight else 0 := by
  simp only [bump, count]
  split
  · next entry present =>
      by_cases same : key = other
      · subst same
        simp [Std.ExtTreeMap.getD_eq_getD_getElem?, present]
      · simp [Std.ExtTreeMap.getD_insert, same]
  · next absent =>
      by_cases same : key = other
      · subst same
        simp [Std.ExtTreeMap.getD_eq_getD_getElem?, absent]
      · simp [Std.ExtTreeMap.getD_insert, same]

theorem count_bumpAll (histogram : HashMap κ M) (events : List (κ × M)) (key : κ) :
    count (bumpAll histogram events) key = count histogram key + weightOf events key := by
  induction events generalizing histogram with
  | nil => simp
  | cons event events ih =>
      rw [bumpAll_cons, ih, count_bump, weightOf_cons, add_assoc]

/-- A histogram of events from two sources is the sum of their histograms. -/
theorem count_tally_of_perm {events left right : List (κ × M)}
    (perm : events.Perm (left ++ right)) (key : κ) :
    count (tally events) key = count (tally left) key + count (tally right) key := by
  simp [tally, count_bumpAll, weightOf_perm perm, weightOf_append]

@[simp]
theorem count_tally (events : List (κ × M)) (key : κ) :
    count (tally events) key = weightOf events key := by
  simp [tally, count_bumpAll]

end Totals

section Overflow

variable {κ : Type u} [DecidableEq κ]

/-- All exact totals are 64-bit numbers. -/
def Fits (events : List (κ × UInt64)) : Prop :=
  ∀ key, total events key < 2 ^ 64

theorem total_append (left right : List (κ × UInt64)) (key : κ) :
    total (left ++ right) key = total left key + total right key := by
  simp [total]

theorem total_singleton (key other : κ) (weight : UInt64) :
    total [(key, weight)] other = if key = other then weight.toNat else 0 := by
  by_cases same : key = other <;> simp [total, same]

theorem total_le_of_sublist {few many : List (κ × UInt64)} (sublist : few.Sublist many) (key : κ) :
    total few key ≤ total many key :=
  ((sublist.filter _).map _).sum_le_sum fun _ _ => Nat.zero_le _

theorem Fits.of_sublist {few many : List (κ × UInt64)} (fits : Fits many)
    (sublist : few.Sublist many) : Fits few :=
  fun key => Nat.lt_of_le_of_lt (total_le_of_sublist sublist key) (fits key)

variable [Ord κ] [Std.TransOrd κ] {events : List (κ × UInt64)}

/-- No addition of a 64-bit weight to the total of its key overflows. -/
def InRange (events : List (κ × UInt64)) : Prop :=
  ∀ before key weight after, events = before ++ (key, weight) :: after →
    (count (tally before) key).toNat + weight.toNat < 2 ^ 64

/-- A histogram is filled without an overflow and shows the exact totals. -/
structure Exact (histogram : HashMap κ UInt64) (events : List (κ × UInt64)) : Prop where
  inRange : InRange events
  totals : ∀ key, (count histogram key).toNat = total events key

variable [Std.LawfulEqOrd κ]

theorem toNat_count_tally (events : List (κ × UInt64)) (key : κ) :
    (count (tally events) key).toNat = total events key % 2 ^ 64 := by
  rw [count_tally, toNat_weightOf]

theorem toNat_count_tally_map_one {ι : Type v} (items : List ι) (name : ι → κ) (key : κ) :
    (count (tally (items.map fun item => (name item, (1 : UInt64)))) key).toNat =
      (items.countP fun item => name item = key) % 2 ^ 64 := by
  rw [toNat_count_tally, total_map_one]

/-- No addition overflows if and only if all exact totals are 64-bit numbers. -/
theorem inRange_iff : InRange events ↔ Fits events := by
  constructor
  · intro inRange
    induction events using List.reverseRecOn with
    | nil => exact fun key => by simp [total]
    | append_singleton events event ih =>
        have earlier : InRange events := fun before key weight after split =>
          inRange before key weight (after ++ [event]) (by simp [split])
        have last := inRange events event.1 event.2 [] rfl
        intro key
        have fits := ih earlier key
        rw [total_append, total_singleton]
        split
        · next same =>
            rw [toNat_count_tally, same, Nat.mod_eq_of_lt fits] at last
            exact last
        · exact fits
  · intro fits before key weight after split
    have whole := fits key
    rw [split, total_append, ← List.singleton_append, total_append, total_singleton, if_pos rfl]
      at whole
    rw [toNat_count_tally, Nat.mod_eq_of_lt (by omega)]
    omega

/-- A tally is exact if and only if all exact totals are 64-bit numbers. -/
theorem exact_tally_iff : Exact (tally events) events ↔ Fits events := by
  constructor
  · exact fun exact => inRange_iff.mp exact.inRange
  · intro fits
    refine ⟨inRange_iff.mpr fits, fun key => ?_⟩
    rw [toNat_count_tally, Nat.mod_eq_of_lt (fits key)]

end Overflow

end Histogram
