import Mathlib.Data.List.Basic

/-!
# First-wins filtering by a key

A list is read from left to right and, of the items which share a key, only
the first one is kept.  `verdicts` records for every item what became of it:
it has no key and is skipped, it is the first of its key, or it repeats an
earlier item.  The filter can be switched off, and then every item with a key
counts as a first one.
-/

namespace FirstWins

universe u v

/-- What the filter decides about one item. -/
inductive Verdict (α : Type u) where
  | skipped
  | repeats (leader : α)
  | first
deriving DecidableEq

/-- The item repeats another one. -/
def Verdict.isRepeat {α : Type u} : Verdict α → Bool
  | .repeats _ => true
  | _ => false

/-- Every item of a judged list is skipped, repeats another one or is a first one. -/
theorem countP_map_fst {α : Type u} [DecidableEq α] (judged : List (α × Verdict α))
    (select : α → Bool) :
    (judged.map Prod.fst).countP select =
      judged.countP (fun entry => select entry.1 && entry.2 = .first) +
        judged.countP (fun entry => select entry.1 && entry.2.isRepeat) +
          judged.countP (fun entry => select entry.1 && entry.2 = .skipped) := by
  induction judged with
  | nil => rfl
  | cons entry judged ih =>
      rcases entry with ⟨item, verdict⟩
      simp only [List.map_cons, List.countP_cons, ih]
      cases verdict <;> cases select item <;> simp [Verdict.isRepeat] <;> omega

variable {α : Type u} {κ : Type v} [DecidableEq κ]

/-- The earlier item which an item with a given key repeats, if the filter is
switched on and there is one. -/
def leader? (key : α → Option κ) (active : Bool) (seen : List α) (name : κ) : Option α :=
  if active then seen.find? fun item => key item = some name else none

/-- The verdicts on a list, given the first items `seen` before it. -/
def verdicts (key : α → Option κ) (active : Bool) (seen : List α) :
    List α → List (α × Verdict α)
  | [] => []
  | item :: rest =>
      match key item with
      | none => (item, .skipped) :: verdicts key active seen rest
      | some name =>
          match leader? key active seen name with
          | some leader => (item, .repeats leader) :: verdicts key active seen rest
          | none => (item, .first) :: verdicts key active (seen ++ [item]) rest

/-- The first items of a list, given those seen before it. -/
def leaders (key : α → Option κ) (active : Bool) (seen items : List α) : List α :=
  (verdicts key active seen items).filterMap fun entry =>
    match entry.2 with
    | .first => some entry.1
    | _ => none

variable {key : α → Option κ} {active : Bool} {seen : List α}

@[simp]
theorem leader?_inactive (name : κ) : leader? key false seen name = none := by
  simp [leader?]

theorem mem_of_leader? {name : κ} {item : α} (found : leader? key active seen name = some item) :
    item ∈ seen ∧ key item = some name := by
  cases active with
  | false => simp at found
  | true =>
      simp only [leader?, if_true] at found
      exact ⟨List.mem_of_find?_eq_some found, by simpa using List.find?_some found⟩

theorem leader?_isSome_iff {name : κ} :
    (leader? key true seen name).isSome ↔ ∃ item ∈ seen, key item = some name := by
  simp [leader?]

theorem verdicts_of_skipped {item : α} {rest : List α} (unkeyed : key item = none) :
    verdicts key active seen (item :: rest) =
      (item, .skipped) :: verdicts key active seen rest := by
  simp only [verdicts, unkeyed]

theorem verdicts_of_repeats {item leader : α} {rest : List α} {name : κ}
    (keyed : key item = some name) (repeated : leader? key active seen name = some leader) :
    verdicts key active seen (item :: rest) =
      (item, .repeats leader) :: verdicts key active seen rest := by
  simp only [verdicts, keyed, repeated]

theorem verdicts_of_first {item : α} {rest : List α} {name : κ} (keyed : key item = some name)
    (fresh : leader? key active seen name = none) :
    verdicts key active seen (item :: rest) =
      (item, .first) :: verdicts key active (seen ++ [item]) rest := by
  simp only [verdicts, keyed, fresh]

/-- Case analysis on the verdict about the head of a list: the rest is judged
with the head added to the items seen exactly when the head is a first one. -/
theorem verdicts_cons_cases (key : α → Option κ) (active : Bool) (seen : List α) (item : α)
    (rest : List α) :
    (key item = none ∧ verdicts key active seen (item :: rest) =
        (item, .skipped) :: verdicts key active seen rest) ∨
      (∃ name leader, key item = some name ∧ leader? key active seen name = some leader ∧
        verdicts key active seen (item :: rest) =
          (item, .repeats leader) :: verdicts key active seen rest) ∨
      (∃ name, key item = some name ∧ leader? key active seen name = none ∧
        verdicts key active seen (item :: rest) =
          (item, .first) :: verdicts key active (seen ++ [item]) rest) := by
  cases keyed : key item with
  | none => exact Or.inl ⟨rfl, verdicts_of_skipped keyed⟩
  | some name =>
      right
      cases repeated : leader? key active seen name with
      | some leader =>
          exact Or.inl ⟨name, leader, rfl, repeated, verdicts_of_repeats keyed repeated⟩
      | none => exact Or.inr ⟨name, rfl, repeated, verdicts_of_first keyed repeated⟩

@[simp]
theorem map_fst_verdicts (key : α → Option κ) (active : Bool) (seen items : List α) :
    (verdicts key active seen items).map Prod.fst = items := by
  induction items generalizing seen with
  | nil => rfl
  | cons item rest ih =>
      rcases verdicts_cons_cases key active seen item rest with
        ⟨_, same⟩ | ⟨_, _, _, _, same⟩ | ⟨_, _, _, same⟩ <;>
      rw [same, List.map_cons, ih]

theorem mem_of_mem_verdicts {items : List α} {item : α} {verdict : Verdict α}
    (judged : (item, verdict) ∈ verdicts key active seen items) : item ∈ items := by
  rw [← map_fst_verdicts key active seen items]
  exact List.mem_map_of_mem judged

theorem mem_leaders {items : List α} {item : α} :
    item ∈ leaders key active seen items ↔
      (item, .first) ∈ verdicts key active seen items := by
  simp only [leaders, List.mem_filterMap]
  constructor
  · rintro ⟨⟨other, verdict⟩, judged, selected⟩
    cases verdict with
    | first =>
        cases selected
        exact judged
    | skipped => cases selected
    | repeats leader => cases selected
  · intro judged
    exact ⟨(item, .first), judged, rfl⟩

/-- The verdict on an item tells whether the item has a key. -/
theorem key_of_mem_verdicts {items : List α} {item : α} {verdict : Verdict α}
    (judged : (item, verdict) ∈ verdicts key active seen items) :
    (verdict = .skipped ↔ key item = none) := by
  induction items generalizing seen with
  | nil => cases judged
  | cons head rest ih =>
      rcases verdicts_cons_cases key active seen head rest with
        ⟨unkeyed, same⟩ | ⟨_, _, keyed, _, same⟩ | ⟨_, keyed, _, same⟩ <;>
      · rw [same] at judged
        rcases List.mem_cons.mp judged with here | later
        · cases here
          simp [*]
        · exact ih later

/-- A repeated item names an earlier first item with the same key. -/
theorem leader_of_mem_verdicts {items : List α} {item leader : α}
    (judged : (item, .repeats leader) ∈ verdicts key active seen items) :
    leader ∈ seen ++ leaders key active seen items ∧ key leader = key item := by
  induction items generalizing seen with
  | nil => cases judged
  | cons head rest ih =>
      rcases verdicts_cons_cases key active seen head rest with
        ⟨_, same⟩ | ⟨name, other, keyed, repeated, same⟩ | ⟨_, _, _, same⟩
      · rw [same] at judged
        rcases List.mem_cons.mp judged with here | later
        · cases here
        · simpa [leaders, same] using ih later
      · rw [same] at judged
        rcases List.mem_cons.mp judged with here | later
        · cases here
          have origin := mem_of_leader? repeated
          exact ⟨List.mem_append_left _ origin.1, origin.2.trans keyed.symm⟩
        · simpa [leaders, same] using ih later
      · rw [same] at judged
        rcases List.mem_cons.mp judged with here | later
        · cases here
        · simpa [leaders, same] using ih later

theorem verdicts_append (items rest : List α) :
    verdicts key active seen (items ++ rest) =
      verdicts key active seen items ++
        verdicts key active (seen ++ leaders key active seen items) rest := by
  induction items generalizing seen with
  | nil => simp [verdicts, leaders]
  | cons head items ih =>
      rw [List.cons_append]
      cases keyed : key head with
      | none => rw [verdicts_of_skipped keyed, ih]; simp [leaders, verdicts_of_skipped keyed]
      | some name =>
          cases repeated : leader? key active seen name with
          | some leader =>
              rw [verdicts_of_repeats keyed repeated, ih]
              simp [leaders, verdicts_of_repeats keyed repeated]
          | none =>
              rw [verdicts_of_first keyed repeated, ih]
              simp [leaders, verdicts_of_first keyed repeated]

theorem leaders_append (items rest : List α) :
    leaders key active seen (items ++ rest) =
      leaders key active seen items ++
        leaders key active (seen ++ leaders key active seen items) rest := by
  simp only [leaders, verdicts_append, List.filterMap_append]

/-- Every key of the list is the key of a first item. -/
theorem exists_leader_of_mem (active : Bool) (seen : List α) {items : List α} {item : α}
    {name : κ} (listed : item ∈ items) (keyed : key item = some name) :
    ∃ other ∈ seen ++ leaders key active seen items, key other = some name := by
  induction items generalizing seen with
  | nil => cases listed
  | cons head rest ih =>
      rcases List.mem_cons.mp listed with rfl | later
      · cases repeated : leader? key active seen name with
        | some leader =>
            have origin := mem_of_leader? repeated
            exact ⟨leader, List.mem_append_left _ origin.1, origin.2⟩
        | none =>
            refine ⟨item, List.mem_append_right _ (mem_leaders.mpr ?_), keyed⟩
            rw [verdicts_of_first keyed repeated]
            exact List.mem_cons_self
      · rcases verdicts_cons_cases key active seen head rest with
          ⟨_, same⟩ | ⟨_, _, _, _, same⟩ | ⟨_, _, _, same⟩
        · simpa [leaders, same] using ih seen later
        · simpa [leaders, same] using ih seen later
        · simpa [leaders, same] using ih (seen ++ [head]) later

/-- The first items are a part of the list in the same order. -/
theorem leaders_sublist (key : α → Option κ) (active : Bool) (seen items : List α) :
    (leaders key active seen items).Sublist items := by
  induction items generalizing seen with
  | nil => exact List.Sublist.refl _
  | cons head rest ih =>
      rcases verdicts_cons_cases key active seen head rest with
        ⟨_, same⟩ | ⟨_, _, _, _, same⟩ | ⟨_, _, _, same⟩
      · simpa [leaders, same] using (ih seen).cons head
      · simpa [leaders, same] using (ih seen).cons head
      · simpa [leaders, same] using (ih (seen ++ [head])).cons_cons head

/-- With the filter on, no two first items have the same key. -/
theorem nodup_keys_leaders (items : List α) (distinct : (seen.map key).Nodup) :
    ((seen ++ leaders key true seen items).map key).Nodup := by
  induction items generalizing seen with
  | nil => simpa [leaders, verdicts] using distinct
  | cons head rest ih =>
      rcases verdicts_cons_cases key true seen head rest with
        ⟨_, same⟩ | ⟨_, _, _, _, same⟩ | ⟨name, keyed, fresh, same⟩
      · simpa [leaders, same] using ih distinct
      · simpa [leaders, same] using ih distinct
      · have grown : ((seen ++ [head]).map key).Nodup := by
          rw [List.map_append, List.map_singleton, List.nodup_append]
          refine ⟨distinct, by simp, ?_⟩
          intro other otherMem last lastMem sameKey
          rcases List.mem_map.mp otherMem with ⟨item, itemMem, rfl⟩
          rw [List.mem_singleton.mp lastMem, keyed] at sameKey
          have found := leader?_isSome_iff.mpr ⟨item, itemMem, sameKey⟩
          rw [fresh] at found
          cases found
        simpa [leaders, same] using ih grown

theorem mem_items_of_mem_leaders {items : List α} {item : α}
    (leads : item ∈ leaders key active seen items) : item ∈ items :=
  mem_of_mem_verdicts (mem_leaders.mp leads)

/-- With the filter off, every item with a key is a first one. -/
theorem leaders_inactive (items : List α) :
    leaders key false seen items = items.filter fun item => (key item).isSome := by
  induction items generalizing seen with
  | nil => rfl
  | cons head rest ih =>
      rcases verdicts_cons_cases key false seen head rest with
        ⟨unkeyed, same⟩ | ⟨name, leader, _, repeated, _⟩ | ⟨name, keyed, _, same⟩
      · simpa [leaders, same, unkeyed] using ih
      · rw [leader?_inactive] at repeated
        cases repeated
      · simpa [leaders, same, keyed] using ih

/-- With the filter on, an item has a leader exactly when an item of the same
key came before it. -/
theorem leader?_after_isSome_iff {items : List α} {name : κ} :
    (leader? key true (leaders key true [] items) name).isSome ↔
      ∃ item ∈ items, key item = some name := by
  rw [leader?_isSome_iff]
  constructor
  · rintro ⟨item, leads, keyed⟩
    exact ⟨item, mem_items_of_mem_leaders leads, keyed⟩
  · rintro ⟨item, listed, keyed⟩
    simpa using exists_leader_of_mem true [] listed keyed

/-- The step of `verdicts_filter`: an item that is left out must not be a first
one, so that it changes nothing about the items seen. -/
theorem verdicts_filter_cons {select : α → Bool} {head : α} {verdict : Verdict α}
    {after rest : List α}
    (headJudged : ∀ items, verdicts key true seen (head :: items) =
      (head, verdict) :: verdicts key true after items)
    (leftOut : select head = false → verdict ≠ .first ∧ after = seen)
    (next : (verdicts key true after rest).filter (fun entry => select entry.1) =
        verdicts key true after (rest.filter select) ∧
      ∀ item verdict, (item, verdict) ∈ verdicts key true after rest → select item = false →
        verdict ≠ .first) :
    (verdicts key true seen (head :: rest)).filter (fun entry => select entry.1) =
        verdicts key true seen ((head :: rest).filter select) ∧
      ∀ item verdict, (item, verdict) ∈ verdicts key true seen (head :: rest) →
        select item = false → verdict ≠ .first := by
  refine ⟨?_, ?_⟩
  · rw [headJudged]
    cases selected : select head with
    | true =>
        rw [List.filter_cons_of_pos (by simpa using selected), next.1,
          List.filter_cons_of_pos (by simpa using selected), headJudged]
    | false =>
        rw [List.filter_cons_of_neg (by simp [selected]), next.1,
          List.filter_cons_of_neg (by simp [selected]), (leftOut selected).2]
  · intro item other judged dropped
    rw [headJudged] at judged
    rcases List.mem_cons.mp judged with here | later
    · cases here
      exact (leftOut dropped).1
    · exact next.2 item other later dropped

/-- Items which only repeat what other items said before them can be left out:
the verdicts on the other items stay the same, and none of those left out is a
first one. -/
theorem verdicts_filter (select : α → Bool) {items : List α}
    (repeating : ∀ before item after, items = before ++ item :: after → select item = false →
      ∀ name, key item = some name →
        ∃ other, (other ∈ seen ∨ other ∈ before ∧ select other = true) ∧ key other = some name) :
    (verdicts key true seen items).filter (fun entry => select entry.1) =
        verdicts key true seen (items.filter select) ∧
      ∀ item verdict, (item, verdict) ∈ verdicts key true seen items → select item = false →
        verdict ≠ .first := by
  induction items generalizing seen with
  | nil => simp [verdicts]
  | cons head rest ih =>
      -- The hypothesis for the rest, whatever the head adds to the items seen.
      have onward : ∀ extended : List α, (∀ other ∈ seen, other ∈ extended) →
          (select head = true → ∀ name, key head = some name →
            ∃ other ∈ extended, key other = some name) →
          ∀ before item after, rest = before ++ item :: after → select item = false →
            ∀ name, key item = some name → ∃ other,
              (other ∈ extended ∨ other ∈ before ∧ select other = true) ∧
                key other = some name := by
        intro extended grows headKept before item after split dropped name keyed
        obtain ⟨other, origin, sameKey⟩ :=
          repeating (head :: before) item after (by rw [split]; rfl) dropped name keyed
        rcases origin with old | ⟨earlier, selected⟩
        · exact ⟨other, Or.inl (grows other old), sameKey⟩
        · rcases List.mem_cons.mp earlier with rfl | inside
          · obtain ⟨kept, keptMem, keptKey⟩ := headKept selected name sameKey
            exact ⟨kept, Or.inl keptMem, keptKey⟩
          · exact ⟨other, Or.inr ⟨inside, selected⟩, sameKey⟩
      rcases verdicts_cons_cases key true seen head rest with
        ⟨unkeyed, _⟩ | ⟨name, leader, keyed, repeated, _⟩ | ⟨name, keyed, fresh, _⟩
      · apply verdicts_filter_cons (fun _ => verdicts_of_skipped unkeyed)
        · intro _
          exact ⟨by simp, rfl⟩
        · exact ih (onward seen (fun _ old => old) (by simp [unkeyed]))
      · apply verdicts_filter_cons (fun _ => verdicts_of_repeats keyed repeated)
        · intro _
          exact ⟨by simp, rfl⟩
        · apply ih (onward seen (fun _ old => old) _)
          intro _ other otherKeyed
          have origin := mem_of_leader? repeated
          exact ⟨leader, origin.1, origin.2.trans (keyed.symm.trans otherKeyed)⟩
      · -- Nothing before the head says the same, so the head is not left out.
        have selected : select head = true := by
          by_contra dropped
          obtain ⟨other, origin, sameKey⟩ :=
            repeating [] head rest rfl (by simpa using dropped) name keyed
          rcases origin with old | ⟨impossible, _⟩
          · have found := leader?_isSome_iff.mpr ⟨other, old, sameKey⟩
            rw [fresh] at found
            cases found
          · cases impossible
        apply verdicts_filter_cons (fun _ => verdicts_of_first keyed fresh)
        · intro dropped
          rw [selected] at dropped
          cases dropped
        · apply ih (onward (seen ++ [head]) (fun _ old => List.mem_append_left _ old) _)
          intro _ other otherKeyed
          exact ⟨head, by simp, otherKeyed⟩

end FirstWins
