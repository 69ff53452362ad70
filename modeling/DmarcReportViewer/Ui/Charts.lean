import DmarcReportViewer.Lib.Runs

/-!
# The charts of the dashboard

The model of `updateCharts` and `createPieChart` of `ui/components/dashboard.js`.  Every
change of the parameters starts a run, which destroys and creates one chart after the other
and is suspended between the two.  The library refuses to create a chart on a canvas which
another chart uses, and the run stops there.
-/

namespace DmarcReportViewer.Charts

open Runs

/-- The canvases of the page.  The dashboard has one property for the chart of each. -/
inductive Canvas where
  | dmarcOrgsChart
  | dmarcDomainsChart
  | spfPolicyChart
  | dkimPolicyChart
  | spfAuthChart
  | dkimAuthChart
  | tlsOrgsChart
  | tlsDomainsChart
  | tlsPolicyTypesChart
  | stsPolicyResultsChart
  | stsFailureTypesChart
  | tlsaPolicyResultsChart
  | tlsaFailureTypesChart
deriving DecidableEq

/-- The order in which `updateCharts` replaces the charts. -/
def canvases : List Canvas :=
  [.dmarcOrgsChart, .dmarcDomainsChart, .spfPolicyChart, .dkimPolicyChart, .spfAuthChart,
    .dkimAuthChart, .tlsOrgsChart, .tlsDomainsChart, .tlsPolicyTypesChart, .stsPolicyResultsChart,
    .stsFailureTypesChart, .tlsaPolicyResultsChart, .tlsaFailureTypesChart]

/-- A chart, with the number of charts that were created before it. -/
structure Chart where
  number : Nat
  canvas : Canvas
deriving DecidableEq

/-- What a run of `updateCharts` waits for. -/
inductive Run where
  | response
  | json
  /-- The timer of `createPieChart`, with the canvases that follow. -/
  | timer (canvas : Canvas) (rest : List Canvas)
  /-- The result of `createPieChart`, which is stored next. -/
  | chart (canvas : Canvas) (chart : Chart) (rest : List Canvas)
  | finished
  /-- The request has failed. -/
  | failed
  /-- A chart could not be created. -/
  | stopped
deriving DecidableEq

structure View where
  paramsChanged : Bool
  runs : List Run
  /-- The properties of the dashboard. -/
  charts : Canvas → Option Chart
  /-- The charts which have been created and not destroyed. -/
  live : List Chart
  created : Nat

def View.new : View where
  paramsChanged := true
  runs := []
  charts := fun _ => none
  live := []
  created := 0

def View.setRun (view : View) (run : Nat) (next : Run) : View :=
  { view with runs := view.runs.set run next }

def View.destroy (view : View) (canvas : Canvas) : View :=
  match view.charts canvas with
  | some chart => { view with live := view.live.filter fun other => other ≠ chart }
  | none => view

/-- `new Chart` throws if the canvas is in use. -/
def View.newChart (view : View) (canvas : Canvas) : Option (Chart × View) :=
  if view.live.any fun chart => chart.canvas = canvas then
    none
  else
    let chart := { number := view.created, canvas := canvas }
    some (chart, { view with live := view.live ++ [chart], created := view.created + 1 })

def View.store (view : View) (canvas : Canvas) (chart : Chart) : View :=
  { view with charts := fun other => if other = canvas then some chart else view.charts other }

/-- A run goes on to the next canvas: it destroys the chart and waits for the timer. -/
def View.next (view : View) (run : Nat) : List Canvas → View
  | canvas :: rest => (view.destroy canvas).setRun run (.timer canvas rest)
  | [] => view.setRun run .finished

/-- Something that happens to the view.  A run is known by the number of the runs started
before it. -/
inductive Event where
  | setParams
  | updated
  | response (run : Nat)
  | json (run : Nat)
  | timer (run : Nat)
  | chart (run : Nat)
  | failed (run : Nat)
deriving DecidableEq

/-- A step of the view.  An event which no run waits for does not happen. -/
def step (event : Event) (view : View) : View :=
  match event with
  | .setParams => { view with paramsChanged := true }
  | .updated =>
      if view.paramsChanged then
        { view with paramsChanged := false, runs := view.runs ++ [.response] }
      else
        view
  | .response run =>
      match view.runs[run]? with
      | some .response => view.setRun run .json
      | _ => view
  | .json run =>
      match view.runs[run]? with
      | some .json => view.next run canvases
      | _ => view
  | .timer run =>
      match view.runs[run]? with
      | some (.timer canvas rest) =>
          match view.newChart canvas with
          | some (chart, view) => view.setRun run (.chart canvas chart rest)
          | none => view.setRun run .stopped
      | _ => view
  | .chart run =>
      match view.runs[run]? with
      | some (.chart canvas chart rest) => (view.store canvas chart).next run rest
      | _ => view
  | .failed run =>
      match view.runs[run]? with
      | some .response | some .json => view.setRun run .failed
      | _ => view

/-- The canvas whose chart a run has destroyed and not yet stored again. -/
def Run.canvas : Run → Option Canvas
  | .timer canvas _ => some canvas
  | .chart canvas _ _ => some canvas
  | _ => none

/-- The run which goes on to a canvas with an event, and this canvas. -/
def goesOn (view : View) : Event → Option (Nat × Canvas)
  | .json run =>
      match view.runs[run]? with
      | some .json => canvases.head?.map fun canvas => (run, canvas)
      | _ => none
  | .chart run =>
      match view.runs[run]? with
      | some (.chart _ _ rest) => rest.head?.map fun canvas => (run, canvas)
      | _ => none
  | _ => none

/-- A run goes on to a canvas while another run has not yet stored its chart of the canvas. -/
def Overlaps (view : View) (event : Event) : Prop :=
  ∃ run canvas, goesOn view event = some (run, canvas) ∧
    ∃ other waiting, other ≠ run ∧ view.runs[other]? = some waiting ∧ waiting.canvas = some canvas

/-- No canvas has two charts, and no run has stopped because a canvas was in use. -/
structure Sound (view : View) : Prop where
  single : ∀ left ∈ view.live, ∀ right ∈ view.live, left.canvas = right.canvas → left = right
  running : .stopped ∉ view.runs

/-- Each canvas is used by one run at most. -/
def Alone (runs : List Run) : Prop :=
  ∀ (first second : Nat) (left right : Run) (canvas : Canvas),
    runs[first]? = some left → runs[second]? = some right →
      left.canvas = some canvas → right.canvas = some canvas → first = second

/-- No run uses the canvas. -/
def Unused (runs : List Run) (canvas : Canvas) : Prop :=
  ∀ run ∈ runs, run.canvas ≠ some canvas

/-- Each canvas is used by one run at most, and its chart is known to this run or stored. -/
structure Invariant (view : View) : Prop where
  alone : Alone view.runs
  waiting : ∀ canvas rest, .timer canvas rest ∈ view.runs →
    ∀ chart ∈ view.live, chart.canvas ≠ canvas
  created : ∀ canvas chart rest, .chart canvas chart rest ∈ view.runs →
    ∀ other ∈ view.live, other.canvas = canvas → other = chart
  stored : ∀ canvas, Unused view.runs canvas →
    ∀ chart ∈ view.live, chart.canvas = canvas → view.charts canvas = some chart
  running : .stopped ∉ view.runs

variable {view : View}

theorem invariant_new : Invariant View.new where
  alone := by simp [Alone, View.new]
  waiting := by simp [View.new]
  created := by simp [View.new]
  stored := by simp [View.new]
  running := by simp [View.new]

theorem Invariant.sound (held : Invariant view) : Sound view where
  running := held.running
  single := by
    intro left inLive right inLive' same
    by_cases used : ∃ run ∈ view.runs, run.canvas = some left.canvas
    · rcases used with ⟨run, member, uses⟩
      cases run with
      | timer canvas rest =>
          cases uses
          exact absurd rfl (held.waiting _ rest member left inLive)
      | chart canvas chart rest =>
          cases uses
          have first := held.created _ chart rest member left inLive rfl
          have second := held.created _ chart rest member right inLive' same.symm
          exact first.trans second.symm
      | response | json | finished | failed | stopped => cases uses
    · have unused : Unused view.runs left.canvas := fun run member uses =>
        used ⟨run, member, uses⟩
      have first := held.stored _ unused left inLive rfl
      have second := held.stored _ unused right inLive' same.symm
      exact Option.some.inj (first.symm.trans second)

section Steps

variable {runs : List Run} {run : Nat} {old next : Run} {canvas : Canvas} {chart : Chart}
  {rest : List Canvas}

theorem getElem?_set_cases {number : Nat} {found : Run}
    (listed : (runs.set run next)[number]? = some found) :
    number ≠ run ∧ runs[number]? = some found ∨ number = run ∧ found = next := by
  rw [List.getElem?_set] at listed
  split at listed
  · next same =>
      split at listed
      · exact .inr ⟨same.symm, (Option.some.inj listed).symm⟩
      · cases listed
  · next different => exact .inl ⟨Ne.symm different, listed⟩

/-- A run may go on to a canvas which no other run uses. -/
theorem Alone.set (alone : Alone runs)
    (free : ∀ number other canvas, number ≠ run → runs[number]? = some other →
      next.canvas = some canvas → other.canvas ≠ some canvas) : Alone (runs.set run next) := by
  intro first second left right canvas inFirst inSecond uses usesToo
  rcases getElem?_set_cases inFirst with ⟨different, before⟩ | ⟨isFirst, rfl⟩ <;>
    rcases getElem?_set_cases inSecond with ⟨differentToo, beforeToo⟩ | ⟨isSecond, rfl⟩
  · exact alone _ _ _ _ canvas before beforeToo uses usesToo
  · exact absurd uses (free _ _ _ different before usesToo)
  · exact absurd usesToo (free _ _ _ differentToo beforeToo uses)
  · exact isFirst.trans isSecond.symm

/-- A run which moves on leaves a canvas unused only if it did not use it before or no run
uses it now. -/
theorem Unused.of_set (found : runs[run]? = some old) (idle : old.canvas ≠ some canvas)
    (unused : Unused (runs.set run next) canvas) : Unused runs canvas := by
  intro other member
  rcases List.mem_iff_getElem?.mp member with ⟨number, listed⟩
  by_cases same : number = run
  · rw [same, found] at listed
    cases listed
    exact idle
  · apply unused other
    apply List.mem_of_getElem?
    rw [List.getElem?_set_ne (Ne.symm same), listed]

theorem stopped_not_mem_set (running : .stopped ∉ runs) (going : next ≠ .stopped) :
    .stopped ∉ runs.set run next := by
  intro member
  rcases List.mem_or_eq_of_mem_set member with earlier | same
  · exact running earlier
  · exact going same.symm

/-- A run which uses no canvas any more leaves behind a chart that is stored. -/
theorem Invariant.setIdle (held : Invariant view) (found : view.runs[run]? = some old)
    (idle : next.canvas = none) (going : next ≠ .stopped)
    (left : ∀ canvas, old.canvas = some canvas →
      ∀ chart ∈ view.live, chart.canvas = canvas → view.charts canvas = some chart) :
    Invariant (view.setRun run next) where
  running := stopped_not_mem_set held.running going
  alone := by
    apply held.alone.set
    intro _ _ _ _ _ uses
    cases idle.symm.trans uses
  waiting := by
    intro canvas rest member
    rcases List.mem_or_eq_of_mem_set member with earlier | rfl
    · exact held.waiting canvas rest earlier
    · cases idle
  created := by
    intro canvas chart rest member
    rcases List.mem_or_eq_of_mem_set member with earlier | rfl
    · exact held.created canvas chart rest earlier
    · cases idle
  stored := by
    intro canvas unused chart inLive on
    by_cases used : old.canvas = some canvas
    · exact left canvas used chart inLive on
    · exact held.stored canvas (unused.of_set found used) chart inLive on

theorem destroy_runs (view : View) (canvas : Canvas) :
    (view.destroy canvas).runs = view.runs ∧ (view.destroy canvas).charts = view.charts := by
  rw [View.destroy]
  split <;> exact ⟨rfl, rfl⟩

theorem mem_destroy (member : chart ∈ (view.destroy canvas).live) :
    chart ∈ view.live ∧ view.charts canvas ≠ some chart := by
  rw [View.destroy] at member
  split at member
  · next stored found =>
      rw [List.mem_filter, decide_eq_true_eq] at member
      exact ⟨member.1, fun same => member.2 (Option.some.inj (same.symm.trans found))⟩
  · next found => exact ⟨member, fun same => by cases found.symm.trans same⟩

/-- A run which uses no canvas goes on to one which no other run uses. -/
theorem Invariant.enter (held : Invariant view) (found : view.runs[run]? = some old)
    (idle : old.canvas = none) (free : Unused view.runs canvas) :
    Invariant ((view.destroy canvas).setRun run (.timer canvas rest)) := by
  have runs : ((view.destroy canvas).setRun run (.timer canvas rest)).runs =
      view.runs.set run (.timer canvas rest) :=
    congrArg (List.set · run _) (destroy_runs view canvas).1
  constructor
  case running =>
    rw [runs]
    exact stopped_not_mem_set held.running Run.noConfusion
  case alone =>
    rw [runs]
    apply held.alone.set
    rintro number other _ _ listed ⟨⟩
    exact free other (List.mem_of_getElem? listed)
  case waiting =>
    intro other others member chart inLive on
    have earlier := mem_destroy inLive
    rw [runs] at member
    rcases List.mem_or_eq_of_mem_set member with before | same
    · exact held.waiting other others before chart earlier.1 on
    · cases same
      exact earlier.2 (held.stored _ free chart earlier.1 on)
  case created =>
    intro other stored others member chart inLive on
    rw [runs] at member
    rcases List.mem_or_eq_of_mem_set member with before | same
    · exact held.created other stored others before chart (mem_destroy inLive).1 on
    · cases same
  case stored =>
    intro other unused chart inLive on
    rw [runs] at unused
    have before := unused.of_set found (idle ▸ (Option.some_ne_none other).symm)
    rw [View.setRun, (destroy_runs view canvas).2]
    exact held.stored other before chart (mem_destroy inLive).1 on

/-- The chart which a run has created is stored. -/
theorem Invariant.store (held : Invariant view) (member : .chart canvas chart rest ∈ view.runs) :
    Invariant (view.store canvas chart) where
  alone := held.alone
  waiting := held.waiting
  created := held.created
  running := held.running
  stored := by
    intro other unused chart' inLive on
    have different : other ≠ canvas := by
      rintro rfl
      exact unused _ member rfl
    change (if other = canvas then some chart else view.charts other) = some chart'
    rw [if_neg different]
    exact held.stored other unused chart' inLive on

theorem mem_live_of_ne {other : Chart} (inLive : other ∈ view.live ++ [chart])
    (off : other.canvas ≠ chart.canvas) : other ∈ view.live := by
  rcases List.mem_append.mp inLive with earlier | last
  · exact earlier
  · exact absurd (congrArg Chart.canvas (List.mem_singleton.mp last)) off

/-- The canvas for which a run has waited is free, and the run creates its chart. -/
theorem Invariant.timer (held : Invariant view)
    (found : view.runs[run]? = some (.timer canvas rest)) :
    ∃ chart created, view.newChart canvas = some (chart, created) ∧
      Invariant (created.setRun run (.chart canvas chart rest)) := by
  have free := held.waiting canvas rest (List.mem_of_getElem? found)
  have unused : ¬ (view.live.any fun chart => chart.canvas = canvas) = true := by
    rw [List.any_eq_true]
    rintro ⟨chart, inLive, on⟩
    exact free chart inLive (of_decide_eq_true on)
  refine ⟨_, _, if_neg unused, ?_⟩
  have others : ∀ {number : Nat} {other : Run}, number ≠ run → view.runs[number]? = some other →
      other.canvas ≠ some canvas := fun different listed uses =>
    different (held.alone _ _ _ _ canvas listed found uses rfl)
  constructor
  case running => exact stopped_not_mem_set held.running Run.noConfusion
  case alone =>
    apply held.alone.set
    rintro number other _ different listed ⟨⟩
    exact others different listed
  case waiting =>
    intro other after member chart inLive on
    rcases List.mem_iff_getElem?.mp member with ⟨number, listed⟩
    rcases getElem?_set_cases listed with ⟨different, earlier⟩ | ⟨_, same⟩
    · have off : chart.canvas ≠ canvas := fun same =>
        others different earlier (congrArg some (on.symm.trans same))
      exact held.waiting other after (List.mem_of_getElem? earlier) chart
        (mem_live_of_ne inLive off) on
    · cases same
  case created =>
    intro other stored after member chart inLive on
    rcases List.mem_iff_getElem?.mp member with ⟨number, listed⟩
    rcases getElem?_set_cases listed with ⟨different, earlier⟩ | ⟨_, same⟩
    · have off : chart.canvas ≠ canvas := fun same =>
        others different earlier (congrArg some (on.symm.trans same))
      exact held.created other stored after (List.mem_of_getElem? earlier) chart
        (mem_live_of_ne inLive off) on
    · cases same
      rcases List.mem_append.mp inLive with earlier | last
      · exact absurd on (free chart earlier)
      · exact List.mem_singleton.mp last
  case stored =>
    intro other unused chart inLive on
    have off : other ≠ canvas := by
      rintro rfl
      apply unused (.chart other { number := view.created, canvas := other } rest) _ rfl
      apply List.mem_of_getElem?
      exact List.getElem?_set_self (List.getElem?_eq_some_iff.mp found).1
    have before := unused.of_set found fun uses => off (Option.some.inj uses).symm
    exact held.stored other before chart (mem_live_of_ne inLive (on ▸ off)) on

theorem next_setRun (view : View) (run : Nat) (before : Run) (rest : List Canvas) :
    (view.setRun run before).next run rest = view.next run rest := by
  cases rest with
  | nil => simp [View.next, View.setRun]
  | cons canvas rest =>
      simp only [View.next, View.destroy, View.setRun]
      split <;> simp

/-- A run goes on if it leaves a stored chart behind and no other run uses the next canvas. -/
theorem Invariant.goOn (held : Invariant view) (found : view.runs[run]? = some old)
    (left : ∀ canvas, old.canvas = some canvas →
      ∀ chart ∈ view.live, chart.canvas = canvas → view.charts canvas = some chart)
    (free : ∀ canvas, rest.head? = some canvas → ∀ other waiting, other ≠ run →
      view.runs[other]? = some waiting → waiting.canvas ≠ some canvas) :
    Invariant (view.next run rest) := by
  have idle : Invariant (view.setRun run .finished) :=
    held.setIdle found rfl Run.noConfusion left
  have listed : (view.setRun run .finished).runs[run]? = some .finished :=
    List.getElem?_set_self (List.getElem?_eq_some_iff.mp found).1
  cases rest with
  | nil => exact idle
  | cons canvas rest =>
      rw [← next_setRun view run .finished]
      apply idle.enter listed rfl
      intro other member
      rcases List.mem_iff_getElem?.mp member with ⟨number, found⟩
      rcases getElem?_set_cases found with ⟨different, earlier⟩ | ⟨_, rfl⟩
      · exact free canvas rfl number other different earlier
      · exact (Option.some_ne_none canvas).symm

/-- A run which has just been started uses no canvas. -/
theorem Invariant.updated (held : Invariant view) :
    Invariant { view with paramsChanged := false, runs := view.runs ++ [.response] } where
  alone := by
    intro first second leftRun rightRun used inFirst inSecond uses usesToo
    rcases getElem?_concat_cases inFirst with inFirst | ⟨_, rfl⟩
    · rcases getElem?_concat_cases inSecond with inSecond | ⟨_, rfl⟩
      · exact held.alone _ _ _ _ used inFirst inSecond uses usesToo
      · cases usesToo
    · cases uses
  waiting := by simpa using held.waiting
  created := by simpa using held.created
  stored := by
    intro canvas unused
    exact held.stored canvas fun other member => unused other (List.mem_append_left _ member)
  running := by simpa using held.running

/-- Every step keeps the invariant, unless a run goes on to a canvas in use. -/
theorem Invariant.step (held : Invariant view) {event : Event} (apart : ¬ Overlaps view event) :
    Invariant (step event view) := by
  cases event with
  | setParams => exact ⟨held.alone, held.waiting, held.created, held.stored, held.running⟩
  | updated =>
      simp only [Charts.step]
      split
      · exact held.updated
      · exact held
  | response run =>
      simp only [Charts.step]
      split
      · next found => exact held.setIdle found rfl Run.noConfusion (by rintro _ ⟨⟩)
      · exact held
  | json run =>
      simp only [Charts.step]
      split
      · next found =>
          apply held.goOn found (by rintro _ ⟨⟩)
          intro canvas first other waiting different listed uses
          apply apart
          refine ⟨run, canvas, ?_, other, waiting, different, listed, uses⟩
          simp only [goesOn, found, first, Option.map_some]
      · exact held
  | timer run =>
      simp only [Charts.step]
      split
      · next canvas rest found =>
          rcases held.timer found with ⟨chart, created, free, kept⟩
          rw [free]
          exact kept
      · exact held
  | chart run =>
      simp only [Charts.step]
      split
      · next canvas chart rest found =>
          have member := List.mem_of_getElem? found
          apply (held.store member).goOn found
          · rintro used ⟨⟩ other inLive on
            rw [held.created canvas chart rest member other inLive on]
            exact if_pos rfl
          · intro following first other waiting different listed uses
            apply apart
            refine ⟨run, following, ?_, other, waiting, different, listed, uses⟩
            simp only [goesOn, found, first, Option.map_some]
      · exact held
  | failed run =>
      simp only [Charts.step]
      split
      · next found => exact held.setIdle found rfl Run.noConfusion (by rintro _ ⟨⟩)
      · next found => exact held.setIdle found rfl Run.noConfusion (by rintro _ ⟨⟩)
      · exact held

end Steps

/-- In every run in which no run of `updateCharts` goes on to a canvas which another one
uses, no canvas has two charts and no chart fails to be created. -/
theorem sound_of_apart (events : List Event)
    (apart : Explained (fun before event => ¬ Overlaps (run step before View.new) event) events) :
    Sound (run step events View.new) :=
  (run_invariant_of_explained Invariant invariant_new (fun _ _ held => held.step) apart).sound

section Samples

theorem overlaps_iff {event : Event} :
    (∃ going ∈ (goesOn view event).toList, ∃ other < view.runs.length,
      other ≠ going.1 ∧ view.runs[other]?.bind Run.canvas = some going.2) ↔
        Overlaps view event := by
  constructor
  · rintro ⟨⟨run, canvas⟩, going, other, _, different, uses⟩
    rcases Option.bind_eq_some_iff.mp uses with ⟨waiting, listed, uses⟩
    exact ⟨run, canvas, Option.mem_toList.mp going, other, waiting, different, listed, uses⟩
  · rintro ⟨run, canvas, going, other, waiting, different, listed, uses⟩
    refine ⟨(run, canvas), Option.mem_toList.mpr going, other,
      (List.getElem?_eq_some_iff.mp listed).1, different, ?_⟩
    rw [listed]
    exact uses

instance (view : View) (event : Event) : Decidable (Overlaps view event) :=
  decidable_of_iff _ overlaps_iff

/-- The parameters change while the charts are replaced, and a second run follows the first
one from canvas to canvas. -/
def sampleFollowing : List Event :=
  [.updated, .response 0, .json 0, .timer 0, .chart 0, .setParams, .updated, .response 1, .json 1,
    .timer 0, .chart 0, .timer 1, .chart 1]

theorem sound_of_apart_sample :
    (run step sampleFollowing View.new).live =
        [{ number := 2, canvas := .dmarcOrgsChart }] ∧
      Sound (run step sampleFollowing View.new) :=
  ⟨by decide +kernel, sound_of_apart sampleFollowing (explained_of_take (by decide +kernel))⟩

/-- The parameters change while the first summary is requested, and both responses arrive
before a chart has been created. -/
def sampleOverlap : List Event :=
  [.updated, .setParams, .updated, .response 0, .response 1, .json 0, .json 1, .timer 0, .timer 1]

theorem not_sound_sample : ¬ Sound (run step sampleOverlap View.new) := by
  intro sound
  exact sound.running (by decide +kernel)

end Samples

end DmarcReportViewer.Charts
