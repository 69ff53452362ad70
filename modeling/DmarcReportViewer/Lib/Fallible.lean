import Mathlib.Data.List.Basic

/-!
# Fallible computations

Inversion and run rules for computations in `Except`: a sequence succeeds if
and only if its steps do, and what every successful step preserves holds after
every successful loop.  Computations in `ExceptT ε Option` may also end without any
result, and they follow the same rules.
-/

namespace Fallible

universe v w

variable {ε α β : Type v}

@[simp]
theorem bind_eq_ok_iff {computation : Except ε α} {next : α → Except ε β} {value : β} :
    (computation >>= next) = .ok value ↔
      ∃ intermediate, computation = .ok intermediate ∧ next intermediate = .ok value := by
  cases computation <;> simp [bind, Except.bind]

@[simp]
theorem pure_eq_ok_iff {left right : α} :
    (pure left : Except ε α) = .ok right ↔ left = right := by
  simp [pure, Except.pure]

theorem map_eq_ok_iff {computation : Except ε α} {f : α → β} {value : β} :
    f <$> computation = .ok value ↔
      ∃ intermediate, computation = .ok intermediate ∧ f intermediate = value := by
  cases computation <;> simp [Functor.map, Except.map]

section Panics

variable {computation : ExceptT ε Option α} {next : α → ExceptT ε Option β}

@[simp]
theorem run_bind_eq_ok_iff {value : β} :
    (computation >>= next).run = some (.ok value) ↔
      ∃ intermediate, computation.run = some (.ok intermediate) ∧
        (next intermediate).run = some (.ok value) := by
  rw [ExceptT.run_bind]
  constructor
  · intro finished
    rcases Option.bind_eq_some_iff.mp finished with ⟨result, returned, rest⟩
    cases result with
    | error error => cases rest
    | ok intermediate => exact ⟨intermediate, returned, rest⟩
  · rintro ⟨intermediate, returned, rest⟩
    rw [returned]
    exact rest

@[simp]
theorem run_pure_eq_ok_iff {left right : α} :
    (pure left : ExceptT ε Option α).run = some (.ok right) ↔ left = right := by
  simp [ExceptT.run_pure]

@[simp]
theorem run_liftM_result {result : Except ε α} :
    (liftM result : ExceptT ε Option α).run = some result :=
  rfl

@[simp]
theorem run_liftM_option_eq_ok_iff {returned : Option α} {value : α} :
    (liftM returned : ExceptT ε Option α).run = some (.ok value) ↔ returned = some value := by
  cases returned <;> simp [liftM, monadLift, MonadLift.monadLift]

theorem isSome_run_bind (returned : computation.run.isSome)
    (rest : ∀ intermediate, computation.run = some (.ok intermediate) →
      (next intermediate).run.isSome) : (computation >>= next).run.isSome := by
  rw [ExceptT.run_bind]
  rcases Option.isSome_iff_exists.mp returned with ⟨result, found⟩
  rw [found]
  cases result with
  | error error => rfl
  | ok intermediate => exact rest intermediate found

end Panics

/-- The invariant rule of a loop which may fail or panic. -/
theorem run_foldlM_invariant {ι : Type w} {step : α → ι → ExceptT ε Option α}
    (invariant : α → Prop) {items : List ι} {start finish : α} (initially : invariant start)
    (preserved : ∀ state item next, item ∈ items → invariant state →
      (step state item).run = some (.ok next) → invariant next)
    (finished : (items.foldlM step start).run = some (.ok finish)) : invariant finish := by
  induction items generalizing start with
  | nil =>
      simp only [List.foldlM_nil, run_pure_eq_ok_iff] at finished
      exact finished ▸ initially
  | cons item items ih =>
      simp only [List.foldlM_cons, run_bind_eq_ok_iff] at finished
      rcases finished with ⟨next, stepped, rest⟩
      have nextInvariant := preserved start item next List.mem_cons_self initially stepped
      apply ih nextInvariant _ rest
      intro state other following member
      exact preserved state other following (List.mem_cons_of_mem _ member)

theorem isSome_run_foldlM {ι : Type w} {step : α → ι → ExceptT ε Option α} {items : List ι}
    {start : α} (returned : ∀ state, ∀ item ∈ items, (step state item).run.isSome) :
    (items.foldlM step start).run.isSome := by
  induction items generalizing start with
  | nil => rfl
  | cons item items ih =>
      rw [List.foldlM_cons]
      refine isSome_run_bind (returned start item List.mem_cons_self) fun next _ => ?_
      exact ih fun state other member => returned state other (List.mem_cons_of_mem _ member)

/-- A loop none of whose steps can panic. -/
theorem run_foldlM_liftM {ι : Type w} {step : α → ι → Except ε α} {items : List ι} {start : α} :
    (items.foldlM (fun state item => (liftM (step state item) : ExceptT ε Option α)) start).run =
      some (items.foldlM step start) := by
  induction items generalizing start with
  | nil => rfl
  | cons item items ih =>
      rw [List.foldlM_cons, List.foldlM_cons, ExceptT.run_bind, run_liftM_result]
      cases step start item with
      | error error => rfl
      | ok next => exact ih

/-- The invariant rule of a fallible loop. -/
theorem foldlM_invariant {ι : Type w} {step : α → ι → Except ε α} (invariant : α → Prop)
    {items : List ι} {start finish : α} (initially : invariant start)
    (preserved : ∀ state item next, item ∈ items → invariant state →
      step state item = .ok next → invariant next)
    (finished : items.foldlM step start = .ok finish) : invariant finish := by
  apply run_foldlM_invariant invariant initially _ (run_foldlM_liftM.trans (congrArg some finished))
  intro state item next member invariantHere stepped
  exact preserved state item next member invariantHere (Option.some.inj stepped)

theorem length_eq_of_mapM_eq_ok {f : α → Except ε β} {items : List α} {values : List β}
    (finished : items.mapM f = .ok values) : values.length = items.length := by
  induction items generalizing values with
  | nil =>
      cases pure_eq_ok_iff.mp finished
      rfl
  | cons item items ih =>
      simp only [List.mapM_cons, bind_eq_ok_iff, pure_eq_ok_iff] at finished
      rcases finished with ⟨value, _, others, rest, rfl⟩
      rw [List.length_cons, List.length_cons, ih rest]

/-- A loop can be undone and done again, if this holds of every single value. -/
theorem mapM_map_eq_ok {γ : Type v} {f : α → Except ε β} {g : β → γ} {again : γ → Except ε β}
    (repeatable : ∀ item value, f item = .ok value → again (g value) = .ok value)
    {items : List α} {values : List β} (finished : items.mapM f = .ok values) :
    (values.map g).mapM again = .ok values := by
  induction items generalizing values with
  | nil =>
      cases pure_eq_ok_iff.mp finished
      rfl
  | cons item items ih =>
      simp only [List.mapM_cons, bind_eq_ok_iff, pure_eq_ok_iff] at finished
      rcases finished with ⟨value, found, others, rest, rfl⟩
      simp only [List.map_cons, List.mapM_cons, bind_eq_ok_iff, pure_eq_ok_iff]
      exact ⟨value, repeatable item value found, others, ih rest, rfl⟩

section Concatenation

/-- What a computation contributes to a list: nothing if it fails. -/
def contribution (computation : Except ε (List β)) : List β :=
  match computation with
  | .ok values => values
  | .error _ => []

@[simp]
theorem contribution_ok (values : List β) :
    contribution (.ok values : Except ε (List β)) = values :=
  rfl

@[simp]
theorem contribution_error (error : ε) : contribution (.error error : Except ε (List β)) = [] :=
  rfl

variable {ι : Type v} {f : ι → Except ε (List β)} {entries : List ι}

/-- A loop which appends what every item yields succeeds if and only if every item does. -/
theorem foldlM_append_eq_ok_iff {start result : List β} :
    entries.foldlM (fun collected item => do
        let found ← f item
        return collected ++ found) start = .ok result ↔
      (∀ item ∈ entries, ∃ found, f item = .ok found) ∧
        result = start ++ entries.flatMap fun item => contribution (f item) := by
  induction entries generalizing start with
  | nil =>
      simp only [List.foldlM_nil, pure_eq_ok_iff, List.flatMap_nil, List.append_nil]
      exact ⟨fun same => ⟨by simp, same.symm⟩, fun same => same.2.symm⟩
  | cons item entries ih =>
      simp only [List.foldlM_cons, bind_eq_ok_iff, pure_eq_ok_iff, List.forall_mem_cons,
        List.flatMap_cons]
      constructor
      · rintro ⟨_, ⟨found, yields, rfl⟩, rest⟩
        rcases ih.mp rest with ⟨others, same⟩
        exact ⟨⟨⟨found, yields⟩, others⟩, by rw [same, yields, contribution_ok, List.append_assoc]⟩
      · rintro ⟨⟨⟨found, yields⟩, others⟩, same⟩
        refine ⟨start ++ found, ⟨found, yields, rfl⟩, ih.mpr ⟨others, ?_⟩⟩
        rw [same, yields, contribution_ok, List.append_assoc]

end Concatenation

section Option

variable {f : α → Option β} {items : List α} {values : List β}

/-- A loop which collects one value for every item keeps their order. -/
theorem getElem?_of_mapM (collected : items.mapM f = some values) (i : Nat) :
    values[i]?.map some = items[i]?.map f := by
  induction items generalizing values i with
  | nil => simp_all
  | cons item items ih =>
      rw [List.mapM_cons] at collected
      rcases Option.bind_eq_some_iff.mp collected with ⟨value, found, rest⟩
      rcases Option.bind_eq_some_iff.mp rest with ⟨others, collectedRest, equal⟩
      cases equal
      cases i with
      | zero => simp [found]
      | succ i => simpa using ih collectedRest i

theorem length_of_mapM (collected : items.mapM f = some values) : values.length = items.length := by
  apply Nat.le_antisymm
  · apply List.getElem?_eq_none_iff.mp
    simpa using getElem?_of_mapM collected items.length
  · apply List.getElem?_eq_none_iff.mp
    simpa using (getElem?_of_mapM collected values.length).symm

/-- A loop whose steps depend on the items alone gets to its end if and only if every
step does. -/
theorem isSome_foldlM_iff {ι : Type w} {step : β → ι → Option β} {holds : ι → Prop}
    (each : ∀ state item, (step state item).isSome ↔ holds item) {entries : List ι} {start : β} :
    (entries.foldlM step start).isSome ↔ ∀ item ∈ entries, holds item := by
  induction entries generalizing start with
  | nil => simp
  | cons item entries ih =>
      rw [List.foldlM_cons, List.forall_mem_cons, ← each start item]
      cases step start item with
      | none => simp
      | some next => simpa using ih

end Option

end Fallible
