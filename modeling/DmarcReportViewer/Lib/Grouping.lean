import DmarcReportViewer.Lib.Collections

/-!
# Grouping by a key

A map is filled by visiting items one after the other: the entry of an item's
key is started by the first item with that key and updated in place by all of
them.  The entry of a key depends only on the items with that key, taken in the
order in which they are visited.
-/

namespace Grouping

open Collections

universe u v w

section Upsert

variable {κ : Type u} {γ : Type v} [Ord κ] [Std.TransOrd κ]

/-- Start an entry unless it exists, then update it in place. -/
def upsert (map : HashMap κ γ) (key : κ) (start : γ) (update : γ → γ) : HashMap κ γ :=
  map.insert key (update (map[key]?.getD start))

theorem getElem?_upsert [Std.LawfulEqOrd κ] [DecidableEq κ] (map : HashMap κ γ) (key other : κ)
    (start : γ) (update : γ → γ) :
    (upsert map key start update)[other]? =
      if key = other then some (update (map[key]?.getD start)) else map[other]? := by
  simp only [upsert, Std.ExtTreeMap.getElem?_insert, Std.compare_eq_iff_eq]

end Upsert

section Merged

variable {ι : Type w} {γ : Type v} (start : ι → γ) (update : ι → γ → γ)

/-- The entry of a key whose items are given: the first item starts it and all of
them update it. -/
def merged : List ι → Option γ
  | [] => none
  | first :: rest =>
      some ((first :: rest).foldl (fun entry item => update item entry) (start first))

@[simp]
theorem merged_nil : merged start update [] = none :=
  rfl

theorem merged_concat (items : List ι) (item : ι) :
    merged start update (items ++ [item]) =
      some (update item ((merged start update items).getD (start item))) := by
  cases items with
  | nil => rfl
  | cons first rest => simp [merged]

theorem merged_eq_none_iff {items : List ι} : merged start update items = none ↔ items = [] := by
  cases items with
  | nil => simp
  | cons first rest => simp [merged]

end Merged

section Group

variable {ι : Type w} {κ : Type u} {γ : Type v} [Ord κ] [Std.TransOrd κ]
variable (key : ι → κ) (start : ι → γ) (update : ι → γ → γ)

def group (items : List ι) : HashMap κ γ :=
  items.foldl (fun map item => upsert map (key item) (start item) (update item)) ∅

/-- The entry of a key is made of the items with that key. -/
theorem getElem?_group [Std.LawfulEqOrd κ] [DecidableEq κ] (items : List ι) (name : κ) :
    (group key start update items)[name]? =
      merged start update (items.filter fun item => key item = name) := by
  induction items using List.reverseRecOn with
  | nil => simp [group]
  | append_singleton items item ih =>
      have step : group key start update (items ++ [item]) =
          upsert (group key start update items) (key item) (start item) (update item) := by
        simp only [group, List.foldl_append, List.foldl_cons, List.foldl_nil]
      rw [step, getElem?_upsert]
      by_cases same : key item = name
      · subst same
        rw [if_pos rfl, ih, List.filter_append, List.filter_cons_of_pos (by simp),
          List.filter_nil, merged_concat]
      · rw [if_neg same, ih, List.filter_append, List.filter_cons_of_neg (by simpa using same),
          List.filter_nil, List.append_nil]

end Group

end Grouping
