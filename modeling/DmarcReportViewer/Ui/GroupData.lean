import DmarcReportViewer.Lib.Collections

/-!
# Grouping of small slices

The model of `groupData` in `ui/components/dashboard.js`, which the dashboard calls with the
group label `Other`.  Counts are exact, and the threshold is a floating-point number.  The
order of the labels in the result is left out, since the charts sort them.
-/

namespace DmarcReportViewer.Ui

open Collections

def groupLabel : String :=
  "Other"

def threshold (sum : ℕ) (maxPercent : Float) : Float :=
  sum.toFloat * (maxPercent / 100.0)

def IsSmall (threshold : Float) (value : ℕ) : Prop :=
  value.toFloat < threshold

instance (threshold : Float) (value : ℕ) : Decidable (IsSmall threshold value) :=
  inferInstanceAs (Decidable (value.toFloat < threshold))

/-- `object[label] = value`.  A number is no prototype, so it is ignored for the one label
under which every object has a setter. -/
def setProperty (object : HashMap String ℕ) (label : String) (value : ℕ) : HashMap String ℕ :=
  if label = "__proto__" then object else object.insert label value

/-- The body of the loop.  A missing value is false, and so is zero. -/
def groupEntry (threshold : Float) (grouped : HashMap String ℕ) (entry : String × ℕ) :
    HashMap String ℕ :=
  if IsSmall threshold entry.2 then
    if (grouped[groupLabel]?).getD 0 ≠ 0 then
      setProperty grouped groupLabel ((grouped[groupLabel]?).getD 0 + entry.2)
    else
      setProperty grouped groupLabel entry.2
  else
    setProperty grouped entry.1 entry.2

/-- Two or more of enough labels are small. -/
def IsGrouped (threshold minItems : Float) (values : List ℕ) : Prop :=
  1 < (values.filter fun value => IsSmall threshold value).length ∧
    minItems < values.length.toFloat

instance (threshold minItems : Float) (values : List ℕ) :
    Decidable (IsGrouped threshold minItems values) :=
  inferInstanceAs (Decidable (_ ∧ minItems < values.length.toFloat))

def groupData (order : IterationOrder String ℕ) (data : HashMap String ℕ)
    (maxPercent minItems : Float) : HashMap String ℕ :=
  let entries := iterate order data
  let values := entries.map Prod.snd
  let threshold := threshold values.sum maxPercent
  if IsGrouped threshold minItems values then
    entries.foldl (groupEntry threshold) ∅
  else
    data

section Specification

/-- The total stays the same, large values are not lost, and if slices are grouped then the
small ones are. -/
structure MergesSmall (data result : HashMap String ℕ) (threshold minItems : Float) : Prop where
  total : (valueList result).sum = (valueList data).sum
  keeps : ∀ (label : String) (value : ℕ), data[label]? = some value →
    ¬ IsSmall threshold value → ∃ kept, result[label]? = some kept ∧ value ≤ kept
  merged : ∀ (label : String) (value : ℕ), label ≠ groupLabel →
    (result[label]? = some value ↔ data[label]? = some value ∧
      (IsGrouped threshold minItems (valueList data) → ¬ IsSmall threshold value))

/-- The value of `__proto__` is not large, and no small values come before a large one under
the label of the group. -/
structure Survives (entries : List (String × ℕ)) (threshold : Float) : Prop where
  proto : ∀ value, ("__proto__", value) ∈ entries → IsSmall threshold value
  group : ∀ before after value, entries = before ++ (groupLabel, value) :: after →
    ¬ IsSmall threshold value →
      ∀ entry ∈ before, IsSmall threshold entry.2 → entry.2 = 0

end Specification

/-- The small values together. -/
def smallSum (threshold : Float) (entries : List (String × ℕ)) : ℕ :=
  ((entries.filter fun entry => IsSmall threshold entry.2).map Prod.snd).sum

section Steps

variable {bound : Float} {grouped : HashMap String ℕ} {entry : String × ℕ}

/-- A small value is added to the group, also if there is none yet. -/
theorem groupEntry_of_small (small : IsSmall bound entry.2) :
    groupEntry bound grouped entry =
      grouped.insert groupLabel ((grouped[groupLabel]?).getD 0 + entry.2) := by
  have own : groupLabel ≠ "__proto__" := by decide
  rw [groupEntry, if_pos small]
  split
  · rw [setProperty, if_neg own]
  · next zero => rw [setProperty, if_neg own, not_not.mp zero, Nat.zero_add]

theorem groupEntry_of_large (large : ¬ IsSmall bound entry.2) (own : entry.1 ≠ "__proto__") :
    groupEntry bound grouped entry = grouped.insert entry.1 entry.2 := by
  rw [groupEntry, if_neg large, setProperty, if_neg own]

theorem groupEntry_of_proto (large : ¬ IsSmall bound entry.2) (own : entry.1 = "__proto__") :
    groupEntry bound grouped entry = grouped := by
  rw [groupEntry, if_neg large, setProperty, if_pos own]

theorem mem_groupEntry {label : String} (present : label ∈ grouped) :
    label ∈ groupEntry bound grouped entry := by
  by_cases small : IsSmall bound entry.2
  · rw [groupEntry_of_small small, Std.ExtTreeMap.mem_insert]
    exact .inr present
  · by_cases own : entry.1 = "__proto__"
    · rwa [groupEntry_of_proto small own]
    · rw [groupEntry_of_large small own, Std.ExtTreeMap.mem_insert]
      exact .inr present

/-- A label of which no large value is copied keeps what it has, unless it is the group. -/
theorem getElem?_groupEntry {label : String} (other : label ≠ groupLabel)
    (absent : entry.1 = label → IsSmall bound entry.2 ∨ label = "__proto__") :
    (groupEntry bound grouped entry)[label]? = grouped[label]? := by
  by_cases small : IsSmall bound entry.2
  · rw [groupEntry_of_small small, Std.ExtTreeMap.getElem?_insert,
      if_neg (by simpa using Ne.symm other)]
  · by_cases own : entry.1 = "__proto__"
    · rw [groupEntry_of_proto small own]
    · have different : entry.1 ≠ label := by
        intro same
        exact own (same.trans ((absent same).resolve_left small))
      rw [groupEntry_of_large small own, Std.ExtTreeMap.getElem?_insert,
        if_neg (by simpa using different)]

/-- The value of the group grows by the small values. -/
theorem getD_groupEntry (small : entry.1 = groupLabel → IsSmall bound entry.2) :
    ((groupEntry bound grouped entry)[groupLabel]?).getD 0 =
      (grouped[groupLabel]?).getD 0 + smallSum bound [entry] := by
  by_cases isSmall : IsSmall bound entry.2
  · rw [groupEntry_of_small isSmall]
    simp [smallSum, isSmall]
  · have other : entry.1 ≠ groupLabel := fun same => isSmall (small same)
    by_cases own : entry.1 = "__proto__"
    · rw [groupEntry_of_proto isSmall own]
      simp [smallSum, isSmall]
    · rw [groupEntry_of_large isSmall own, Std.ExtTreeMap.getElem?_insert,
        if_neg (by simpa using other)]
      simp [smallSum, isSmall]

/-- The total grows by a value which is not ignored and does not replace another one. -/
theorem sum_groupEntry (proto : entry.1 = "__proto__" → IsSmall bound entry.2)
    (fresh : ¬ IsSmall bound entry.2 → entry.1 ∉ grouped) :
    (valueList (groupEntry bound grouped entry)).sum = (valueList grouped).sum + entry.2 := by
  by_cases small : IsSmall bound entry.2
  · have total := sum_valueList_insert grouped groupLabel
      ((grouped[groupLabel]?).getD 0 + entry.2)
    rw [groupEntry_of_small small]
    omega
  · have own : entry.1 ≠ "__proto__" := fun same => small (proto same)
    have total := sum_valueList_insert grouped entry.1 entry.2
    rw [Std.ExtTreeMap.getElem?_eq_none (fresh small), Option.getD_none] at total
    rw [groupEntry_of_large small own]
    exact total

end Steps

section Loops

variable {bound : Float} {entries : List (String × ℕ)}

theorem mem_foldl_groupEntry {grouped : HashMap String ℕ} {label : String}
    (present : label ∈ grouped) : label ∈ entries.foldl (groupEntry bound) grouped := by
  induction entries generalizing grouped with
  | nil => exact present
  | cons entry entries ih => exact ih (mem_groupEntry present)

theorem getElem?_foldl_groupEntry {grouped : HashMap String ℕ} {label : String}
    (other : label ≠ groupLabel)
    (absent : ∀ value, (label, value) ∈ entries → IsSmall bound value ∨ label = "__proto__") :
    (entries.foldl (groupEntry bound) grouped)[label]? = grouped[label]? := by
  induction entries generalizing grouped with
  | nil => rfl
  | cons entry entries ih =>
      rw [List.foldl_cons, ih fun value listed => absent value (List.mem_cons_of_mem _ listed)]
      apply getElem?_groupEntry other
      intro same
      exact absent entry.2 (same ▸ List.mem_cons_self)

/-- A label occurs once. -/
theorem not_mem_of_split {before after : List (String × ℕ)} {label : String} {value : ℕ}
    (distinct : ((before ++ (label, value) :: after).map Prod.fst).Nodup) :
    (∀ other, (label, other) ∉ before) ∧ ∀ other, (label, other) ∉ after := by
  rw [List.map_append, List.map_cons, List.nodup_middle, List.nodup_cons] at distinct
  constructor
  · intro other listed
    exact distinct.1 (List.mem_append_left _ (List.mem_map.mpr ⟨_, listed, rfl⟩))
  · intro other listed
    exact distinct.1 (List.mem_append_right _ (List.mem_map.mpr ⟨_, listed, rfl⟩))

/-- A large value is copied. -/
theorem getElem?_grouped_of_mem (distinct : (entries.map Prod.fst).Nodup) {label : String}
    (other : label ≠ groupLabel) {value : ℕ} (listed : (label, value) ∈ entries)
    (large : ¬ IsSmall bound value) (own : label ≠ "__proto__") :
    (entries.foldl (groupEntry bound) ∅)[label]? = some value := by
  rcases List.append_of_mem listed with ⟨before, after, rfl⟩
  have later : ∀ again, (label, again) ∈ after → IsSmall bound again ∨ label = "__proto__" := by
    intro again repeated
    exact absurd repeated ((not_mem_of_split distinct).2 again)
  rw [List.foldl_append, List.foldl_cons, getElem?_foldl_groupEntry other later,
    @groupEntry_of_large bound _ (label, value) large own, Std.ExtTreeMap.getElem?_insert_self]

/-- Apart from the group, the result has the large values. -/
theorem getElem?_grouped_iff (distinct : (entries.map Prod.fst).Nodup) {label : String}
    (other : label ≠ groupLabel) {value : ℕ} :
    (entries.foldl (groupEntry bound) ∅)[label]? = some value ↔
      (label, value) ∈ entries ∧ ¬ IsSmall bound value ∧ label ≠ "__proto__" := by
  constructor
  · intro found
    by_cases copied : ∃ value, (label, value) ∈ entries ∧ ¬ IsSmall bound value ∧
      label ≠ "__proto__"
    · rcases copied with ⟨own, listed, large, named⟩
      rw [getElem?_grouped_of_mem distinct other listed large named] at found
      cases found
      exact ⟨listed, large, named⟩
    · have absent : ∀ value, (label, value) ∈ entries →
          IsSmall bound value ∨ label = "__proto__" := by
        intro value listed
        by_contra neither
        rw [not_or] at neither
        exact copied ⟨value, listed, neither⟩
      rw [getElem?_foldl_groupEntry other absent] at found
      simp at found
  · rintro ⟨listed, large, own⟩
    exact getElem?_grouped_of_mem distinct other listed large own

/-- The value of the group is the sum of the small values, unless its label is large. -/
theorem getD_foldl_groupEntry
    (small : ∀ value, (groupLabel, value) ∈ entries → IsSmall bound value)
    (grouped : HashMap String ℕ) :
    ((entries.foldl (groupEntry bound) grouped)[groupLabel]?).getD 0 =
      (grouped[groupLabel]?).getD 0 + smallSum bound entries := by
  induction entries generalizing grouped with
  | nil => rfl
  | cons entry entries ih =>
      have whole : smallSum bound (entry :: entries) =
          smallSum bound [entry] + smallSum bound entries := by
        rw [smallSum, ← List.singleton_append, List.filter_append, List.map_append, List.sum_append]
        rfl
      rw [List.foldl_cons, ih fun value listed => small value (List.mem_cons_of_mem _ listed),
        getD_groupEntry, whole, Nat.add_assoc]
      intro same
      apply small
      rw [← same]
      exact List.mem_cons_self

theorem sum_foldl_groupEntry (distinct : (entries.map Prod.fst).Nodup)
    (small : ∀ value, (groupLabel, value) ∈ entries → IsSmall bound value)
    (proto : ∀ value, ("__proto__", value) ∈ entries → IsSmall bound value)
    {grouped : HashMap String ℕ}
    (fresh : ∀ entry ∈ entries, ¬ IsSmall bound entry.2 → entry.1 ∉ grouped) :
    (valueList (entries.foldl (groupEntry bound) grouped)).sum =
      (valueList grouped).sum + (entries.map Prod.snd).sum := by
  induction entries generalizing grouped with
  | nil => rfl
  | cons entry entries ih =>
      rw [List.map_cons, List.nodup_cons] at distinct
      have added := @sum_groupEntry bound grouped entry (by
        intro same
        apply proto
        rw [← same]
        exact List.mem_cons_self) (fresh entry List.mem_cons_self)
      have rest : ∀ other ∈ entries, ¬ IsSmall bound other.2 →
          other.1 ∉ groupEntry bound grouped entry := by
        intro other listed large
        have different : entry.1 ≠ other.1 := by
          intro same
          exact distinct.1 (same ▸ List.mem_map_of_mem listed)
        have notGroup : other.1 ≠ groupLabel := by
          intro same
          exact large (small other.2 (same ▸ List.mem_cons_of_mem _ listed))
        have unchanged := @getElem?_groupEntry bound grouped entry other.1 notGroup
          fun same => absurd same different
        rw [Std.ExtTreeMap.mem_iff_isSome_getElem?, unchanged,
          ← Std.ExtTreeMap.mem_iff_isSome_getElem?]
        exact fresh other (List.mem_cons_of_mem _ listed) large
      rw [List.foldl_cons, ih distinct.2
        (fun value listed => small value (List.mem_cons_of_mem _ listed))
        (fun value listed => proto value (List.mem_cons_of_mem _ listed)) rest, added,
        List.map_cons, List.sum_cons, Nat.add_assoc]

/-- If nothing is overwritten, then the result has the same total. -/
theorem sum_grouped (distinct : (entries.map Prod.fst).Nodup)
    (small : ∀ value, (groupLabel, value) ∈ entries → IsSmall bound value)
    (proto : ∀ value, ("__proto__", value) ∈ entries → IsSmall bound value) :
    (valueList (entries.foldl (groupEntry bound) ∅)).sum = (entries.map Prod.snd).sum := by
  have fresh : ∀ entry ∈ entries, ¬ IsSmall bound entry.2 →
      entry.1 ∉ (∅ : HashMap String ℕ) := fun _ _ _ => Std.ExtTreeMap.not_mem_empty
  rw [sum_foldl_groupEntry distinct small proto fresh, valueList_empty, List.sum_nil,
    Nat.zero_add]

theorem smallSum_eq_zero_iff :
    smallSum bound entries = 0 ↔ ∀ entry ∈ entries, IsSmall bound entry.2 → entry.2 = 0 := by
  rw [smallSum, List.sum_eq_zero_iff_forall_eq_nat]
  constructor
  · intro zero entry listed small
    exact zero entry.2 (List.mem_map.mpr
      ⟨entry, List.mem_filter.mpr ⟨listed, decide_eq_true small⟩, rfl⟩)
  · intro zero value listed
    rcases List.mem_map.mp listed with ⟨entry, kept, rfl⟩
    rcases List.mem_filter.mp kept with ⟨member, small⟩
    exact zero entry member (of_decide_eq_true small)

end Loops

section Overwriting

variable {bound : Float} {before after : List (String × ℕ)} {value : ℕ}

/-- A large value under the label of the group starts the group again. -/
theorem foldl_of_large (large : ¬ IsSmall bound value) :
    (before ++ (groupLabel, value) :: after).foldl (groupEntry bound) ∅ =
      after.foldl (groupEntry bound)
        ((before.foldl (groupEntry bound) ∅).insert groupLabel value) := by
  have own : groupLabel ≠ "__proto__" := by decide
  rw [List.foldl_append, List.foldl_cons,
    @groupEntry_of_large bound _ (groupLabel, value) large own]

theorem keeps_of_large (distinct : ((before ++ (groupLabel, value) :: after).map Prod.fst).Nodup)
    (large : ¬ IsSmall bound value) :
    ∃ kept, ((before ++ (groupLabel, value) :: after).foldl (groupEntry bound) ∅)[groupLabel]? =
      some kept ∧ value ≤ kept := by
  let restarted := (before.foldl (groupEntry bound) ∅).insert groupLabel value
  have present : groupLabel ∈ after.foldl (groupEntry bound) restarted :=
    mem_foldl_groupEntry Std.ExtTreeMap.mem_insert_self
  have later : ∀ other, (groupLabel, other) ∈ after → IsSmall bound other := by
    intro other listed
    exact absurd listed ((not_mem_of_split distinct).2 other)
  have grows := getD_foldl_groupEntry later restarted
  rcases Option.isSome_iff_exists.mp (Std.ExtTreeMap.mem_iff_isSome_getElem?.mp present) with
    ⟨kept, found⟩
  rw [found, Std.ExtTreeMap.getElem?_insert_self, Option.getD_some, Option.getD_some] at grows
  rw [foldl_of_large large]
  exact ⟨kept, found, by omega⟩

/-- The large values after that of the group have new labels. -/
theorem not_mem_restarted
    (distinct : ((before ++ (groupLabel, value) :: after).map Prod.fst).Nodup)
    {entry : String × ℕ} (listed : entry ∈ after) :
    entry.1 ∉ (before.foldl (groupEntry bound) ∅).insert groupLabel value := by
  rw [List.map_append, List.map_cons, List.nodup_append, List.nodup_cons] at distinct
  rcases distinct with ⟨_, ⟨notGroup, _⟩, apart⟩
  have label : entry.1 ∈ after.map Prod.fst := List.mem_map.mpr ⟨entry, listed, rfl⟩
  have other : entry.1 ≠ groupLabel := by
    intro same
    exact notGroup (same ▸ label)
  have unmerged : (before.foldl (groupEntry bound) ∅)[entry.1]? = none := by
    rw [getElem?_foldl_groupEntry other]
    · exact Std.ExtTreeMap.getElem?_empty
    · intro again repeated
      exact absurd rfl (apart _ (List.mem_map_of_mem repeated) _ (List.mem_cons_of_mem _ label))
  rw [Std.ExtTreeMap.mem_iff_isSome_getElem?, Std.ExtTreeMap.getElem?_insert,
    if_neg (by simpa using Ne.symm other), unmerged]
  exact Bool.false_ne_true

/-- What was merged before the large value of the group is missing from the total. -/
theorem sum_grouped_of_large
    (distinct : ((before ++ (groupLabel, value) :: after).map Prod.fst).Nodup)
    (proto : ∀ other, ("__proto__", other) ∈ before ++ (groupLabel, value) :: after →
      IsSmall bound other)
    (large : ¬ IsSmall bound value) :
    (valueList ((before ++ (groupLabel, value) :: after).foldl (groupEntry bound) ∅)).sum +
        smallSum bound before =
      ((before ++ (groupLabel, value) :: after).map Prod.snd).sum := by
  have absent := not_mem_of_split distinct
  have parts := distinct
  rw [List.map_append, List.map_cons, List.nodup_append, List.nodup_cons] at parts
  have earlier : ∀ other, (groupLabel, other) ∈ before → IsSmall bound other := by
    intro other listed
    exact absurd listed (absent.1 other)
  have later : ∀ other, (groupLabel, other) ∈ after → IsSmall bound other := by
    intro other listed
    exact absurd listed (absent.2 other)
  have totalBefore := sum_grouped parts.1 earlier fun other listed =>
    proto other (List.mem_append_left _ listed)
  have group := getD_foldl_groupEntry earlier ∅
  have totalAfter := sum_foldl_groupEntry parts.2.1.2 later
    (fun other listed => proto other (List.mem_append_right _ (List.mem_cons_of_mem _ listed)))
    fun _ listed _ => @not_mem_restarted bound _ _ _ distinct _ listed
  have replaced := sum_valueList_insert (before.foldl (groupEntry bound) ∅) groupLabel value
  rw [Std.ExtTreeMap.getElem?_empty, Option.getD_none, Nat.zero_add] at group
  rw [foldl_of_large large, List.map_append, List.map_cons, List.sum_append, List.sum_cons]
  omega

end Overwriting

section Results

variable {bound minItems : Float} {data : HashMap String ℕ} {entries : List (String × ℕ)}

theorem getElem?_iff_mem (perm : entries.Perm data.toList) {label : String} {value : ℕ} :
    data[label]? = some value ↔ (label, value) ∈ entries := by
  rw [perm.mem_iff, Std.ExtTreeMap.mem_toList_iff_getElem?_eq_some]

/-- The order of the values does not matter for the decision to group them. -/
theorem isGrouped_iff_of_perm {left right : List ℕ} (perm : left.Perm right) :
    IsGrouped bound minItems left ↔ IsGrouped bound minItems right := by
  rw [IsGrouped, IsGrouped, (perm.filter _).length_eq, perm.length_eq]

/-- The sum of the grouped values differs from the total by what was overwritten. -/
theorem sum_grouped_iff (distinct : (entries.map Prod.fst).Nodup)
    (proto : ∀ value, ("__proto__", value) ∈ entries → IsSmall bound value) :
    (valueList (entries.foldl (groupEntry bound) ∅)).sum = (entries.map Prod.snd).sum ↔
      ∀ before after value, entries = before ++ (groupLabel, value) :: after →
        ¬ IsSmall bound value → ∀ entry ∈ before, IsSmall bound entry.2 → entry.2 = 0 := by
  constructor
  · rintro total before after value rfl large
    have overwritten := sum_grouped_of_large distinct proto large
    rw [← smallSum_eq_zero_iff]
    omega
  · intro survives
    by_cases overwrites : ∃ value, (groupLabel, value) ∈ entries ∧ ¬ IsSmall bound value
    · rcases overwrites with ⟨value, listed, large⟩
      rcases List.append_of_mem listed with ⟨before, after, rfl⟩
      have overwritten := sum_grouped_of_large distinct proto large
      rw [smallSum_eq_zero_iff.mpr (survives before after value rfl large)] at overwritten
      exact overwritten
    · have small : ∀ value, (groupLabel, value) ∈ entries → IsSmall bound value := by
        intro value listed
        by_contra large
        exact overwrites ⟨value, listed, large⟩
      exact sum_grouped distinct small proto

/-- Merging keeps the total and the large values exactly if nothing is overwritten. -/
theorem mergesSmall_iff (perm : entries.Perm data.toList)
    (grouped : IsGrouped bound minItems (valueList data)) :
    MergesSmall data (entries.foldl (groupEntry bound) ∅) bound minItems ↔
      Survives entries bound := by
  have distinct := (perm.map Prod.fst).nodup_iff.mpr (nodup_keys_toList data)
  have sameSum : (valueList data).sum = (entries.map Prod.snd).sum :=
    (perm.map Prod.snd).sum_eq.symm
  constructor
  · intro merges
    have proto : ∀ value, ("__proto__", value) ∈ entries → IsSmall bound value := by
      intro value listed
      by_contra large
      have other : "__proto__" ≠ groupLabel := by decide
      have kept := (merges.merged _ value other).mpr
        ⟨(getElem?_iff_mem perm).mpr listed, fun _ => large⟩
      exact ((getElem?_grouped_iff distinct other).mp kept).2.2 rfl
    exact ⟨proto, (sum_grouped_iff distinct proto).mp (merges.total.trans sameSum)⟩
  · intro survives
    have named : ∀ label value, (label, value) ∈ entries → ¬ IsSmall bound value →
        label ≠ "__proto__" := by
      rintro label value listed large rfl
      exact large (survives.proto value listed)
    constructor
    · exact ((sum_grouped_iff distinct survives.proto).mpr survives.group).trans sameSum.symm
    · intro label value found large
      have listed := (getElem?_iff_mem perm).mp found
      by_cases own : label = groupLabel
      · subst own
        rcases List.append_of_mem listed with ⟨before, after, rfl⟩
        exact keeps_of_large distinct large
      · exact ⟨value, (getElem?_grouped_iff distinct own).mpr
          ⟨listed, large, named label value listed large⟩, le_rfl⟩
    · intro label value other
      rw [getElem?_grouped_iff distinct other, getElem?_iff_mem perm]
      constructor
      · rintro ⟨listed, large, _⟩
        exact ⟨listed, fun _ => large⟩
      · rintro ⟨listed, large⟩
        exact ⟨listed, large grouped, named label value listed (large grouped)⟩

/-- Grouping keeps the total and the large values, and merges exactly the small ones, if and
only if no slices are grouped or nothing is overwritten. -/
theorem mergesSmall_groupData_iff (order : IterationOrder String ℕ) (data : HashMap String ℕ)
    (maxPercent minItems : Float) :
    MergesSmall data (groupData order data maxPercent minItems)
        (threshold (valueList data).sum maxPercent) minItems ↔
      (IsGrouped (threshold (valueList data).sum maxPercent) minItems (valueList data) →
        Survives (iterate order data) (threshold (valueList data).sum maxPercent)) := by
  have perm := iterate_perm order data
  have values : ((iterate order data).map Prod.snd).Perm (valueList data) := perm.map Prod.snd
  by_cases grouped : IsGrouped (threshold (valueList data).sum maxPercent) minItems
    (valueList data)
  · have result : groupData order data maxPercent minItems = (iterate order data).foldl
        (groupEntry (threshold (valueList data).sum maxPercent)) ∅ := by
      simp only [groupData, values.sum_eq, isGrouped_iff_of_perm values, grouped, if_true]
    rw [result, mergesSmall_iff perm grouped]
    exact ⟨fun survives _ => survives, fun survives => survives grouped⟩
  · have result : groupData order data maxPercent minItems = data := by
      simp only [groupData, values.sum_eq, isGrouped_iff_of_perm values, grouped, if_false]
    rw [result]
    constructor
    · intro _ again
      exact absurd again grouped
    · intro _
      constructor
      · rfl
      · intro label value found _
        exact ⟨value, found, le_rfl⟩
      · intro label value _
        exact (and_iff_left fun again => absurd again grouped).symm

/-- The report counts of eight organizations, one of which is called like the group. -/
def sampleOrgs : HashMap String ℕ :=
  (∅ : HashMap String ℕ).insertMany [("Alpha", 1), ("Beta", 1), ("Delta", 20), ("Echo", 20),
    ("Golf", 20), ("India", 20), ("Other", 20), ("Zulu", 18)]

/-- The two reports of small organizations are replaced by those of the large one. -/
theorem not_mergesSmall_sample :
    (groupData (.byKey String ℕ) sampleOrgs 2.0 7.0)[groupLabel]? = some 20 ∧
      ¬ MergesSmall sampleOrgs (groupData (.byKey String ℕ) sampleOrgs 2.0 7.0)
        (threshold (valueList sampleOrgs).sum 2.0) 7.0 := by
  refine ⟨by decide +kernel, fun merges => ?_⟩
  have total := merges.total
  revert total
  decide +kernel

end Results

end DmarcReportViewer.Ui
