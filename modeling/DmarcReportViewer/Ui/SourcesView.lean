import DmarcReportViewer.Http.Ips
import DmarcReportViewer.Lib.Runs
import DmarcReportViewer.Ui.SourceFilter

/-!
# The view of the sources

The model of `updateSources` of `ui/components/sources.js`.  Every change of the
parameters starts a run of it.  A run is suspended at each `await`, and whatever
arrives next resumes one of the suspended runs.
-/

namespace DmarcReportViewer.SourcesView

open Runs Sources Ips

/-- A source of the view.  Its host name is undefined until it has been loaded. -/
structure Entry where
  source : Source
  dns : Option (Option String) := none
deriving DecidableEq

/-- A run of the loop over the sources which waits for the response to a batch. -/
structure Loop where
  i : Nat
  startOffset : Nat
  chunk : List IpAddr
  /-- The version of the sources when the batch was requested. -/
  version : Nat
deriving DecidableEq

/-- What a run of `updateSources` waits for. -/
inductive Run where
  | sourcesResponse
  | sourcesJson
  | batchResult (loop : Loop)
  | ended
deriving DecidableEq

structure View where
  params : Params
  paramsChanged : Bool
  sources : List Entry
  filtered : Bool
  runs : List Run
  /-- Counts the arrays which `this.sources` has been set to. -/
  version : Nat
  /-- The answers which the batch handler has returned.  The code does not keep them. -/
  answers : List (IpAddr × Option String)

def View.new : View where
  params := {}
  paramsChanged := true
  sources := []
  filtered := false
  runs := []
  version := 0
  answers := []

/-- Something that happens to the view.  A run is known by the number of the runs
started before it. -/
inductive Event where
  | setParams (params : Params)
  | updated
  | sourcesResponse (run : Nat)
  | sourcesJson (run : Nat) (sources : List Source)
  | batchResult (run : Nat) (tasks : Tasks)
  | failed (run : Nat)

def chunkSize : Nat := 100

/-- The loop from index `i` on, up to the next request: its index and its chunk. -/
def nextBatch : List Entry → Nat → List IpAddr → Option (Nat × List IpAddr)
  | [], _, _ => none
  | entry :: rest, i, chunk =>
      let chunk := chunk ++ [entry.source.ip]
      if chunk.length ≥ chunkSize ∨ rest = [] then some (i, chunk) else nextBatch rest (i + 1) chunk

/-- The run of a loop which goes on at the index `i` with an empty chunk. -/
def continueLoop (view : View) (i startOffset : Nat) : Run :=
  match nextBatch (view.sources.drop i) i [] with
  | some (i, chunk) =>
      .batchResult { i := i, startOffset := startOffset, chunk := chunk, version := view.version }
  | none => .ended

/-- The loop which stores the remaining `n` results of a chunk, and whether it came
to its end.  It throws at an index which the sources do not have. -/
def storeResults (startOffset : Nat) (batchResult : List (Option String)) :
    (n i : Nat) → List Entry → List Entry × Bool
  | 0, _, sources => (sources, true)
  | n + 1, i, sources =>
      if startOffset + i < sources.length then
        storeResults startOffset batchResult n (i + 1)
          (sources.modify (startOffset + i) fun entry => { entry with dns := batchResult[i]? })
      else
        (sources, false)

def resumeLoop (view : View) (run : Nat) (loop : Loop) (tasks : Tasks) : View :=
  match dnsBatchHandler loop.chunk tasks with
  | .json batchResult =>
      let stored := storeResults loop.startOffset batchResult loop.chunk.length 0 view.sources
      let view := { view with
        sources := stored.1
        answers := view.answers ++ answersOf loop.chunk tasks }
      if stored.2 then
        let next := continueLoop view (loop.i + 1) (loop.startOffset + loop.chunk.length)
        { view with runs := view.runs.set run next }
      else
        { view with runs := view.runs.set run .ended }
  -- A plain text is not valid JSON.
  | .text _ _ => { view with runs := view.runs.set run .ended }

/-- A step of the view.  An event which no run waits for does not happen. -/
def step (env : Externals) (event : Event) (view : View) : View :=
  match event with
  | .setParams params => { view with params := params, paramsChanged := true }
  | .updated =>
      if view.paramsChanged then
        { view with paramsChanged := false, runs := view.runs ++ [.sourcesResponse] }
      else
        view
  | .sourcesResponse run =>
      match view.runs[run]? with
      | some .sourcesResponse =>
          { view with filtered := false, runs := view.runs.set run .sourcesJson }
      | _ => view
  | .sourcesJson run sources =>
      match view.runs[run]? with
      | some .sourcesJson =>
          let shown := filterSources env view.params sources
          let active := [view.params.domain, view.params.issues, view.params.type].any
            fun param => (truthy param).isSome
          let view := { view with
            sources := shown.map fun source => { source := source }
            filtered := view.filtered || active
            version := view.version + 1 }
          { view with runs := view.runs.set run (continueLoop view 0 0) }
      | _ => view
  | .batchResult run tasks =>
      match view.runs[run]? with
      | some (.batchResult loop) => resumeLoop view run loop tasks
      | _ => view
  | .failed run => { view with runs := view.runs.set run .ended }

/-- Every host name which is shown is the answer of the batch handler for the
address of its source. -/
def RightNames (view : View) : Prop :=
  ∀ entry ∈ view.sources, ∀ answer, entry.dns = some answer →
    (entry.source.ip, answer) ∈ view.answers

/-- The results of a batch meet sources with other addresses, for which the batch handler
has not returned them: another run has replaced the sources since the batch was requested. -/
def Misplaced (view : View) : Event → Prop
  | .batchResult run tasks =>
      ∃ loop, view.runs[run]? = some (.batchResult loop) ∧ Joined loop.chunk tasks ∧
        loop.version ≠ view.version ∧
        ∃ i ip entry result, loop.chunk[i]? = some ip ∧ tasks i ip = some result ∧
          view.sources[loop.startOffset + i]? = some entry ∧ entry.source.ip ≠ ip ∧
            (entry.source.ip, flatResult result) ∉ view.answers ++ answersOf loop.chunk tasks
  | _ => False

/-- A loop knows where its chunk belongs as long as the sources are not replaced. -/
structure Aligned (sources : List Entry) (version : Nat) (loop : Loop) : Prop where
  next : loop.startOffset + loop.chunk.length = loop.i + 1
  version_le : loop.version ≤ version
  ips : loop.version = version → ∀ i ip entry, loop.chunk[i]? = some ip →
    sources[loop.startOffset + i]? = some entry → entry.source.ip = ip

structure Invariant (view : View) : Prop where
  names : RightNames view
  aligned : ∀ loop, .batchResult loop ∈ view.runs → Aligned view.sources view.version loop

section Loops

variable {view : View} {loop : Loop}

/-- The next batch consists of the addresses from the index on. -/
theorem nextBatch_eq_some {rest : List Entry} {i j : Nat} {chunk chunk' : List IpAddr}
    (requested : nextBatch rest i chunk = some (j, chunk')) :
    ∃ n, chunk' = chunk ++ (rest.take n).map (fun entry => entry.source.ip) ∧
      j + 1 = i + n ∧ n ≤ rest.length := by
  induction rest generalizing i chunk with
  | nil => cases requested
  | cons entry rest ih =>
      simp only [nextBatch] at requested
      split at requested
      · cases requested
        exact ⟨1, by simp, rfl, by simp⟩
      · rcases ih requested with ⟨n, chunk'_eq, index, inside⟩
        refine ⟨n + 1, ?_, by omega, by simpa using inside⟩
        rw [chunk'_eq, List.take_succ_cons, List.map_cons, List.append_assoc]
        rfl

theorem aligned_continueLoop {i : Nat} (continues : continueLoop view i i = .batchResult loop) :
    Aligned view.sources view.version loop := by
  simp only [continueLoop] at continues
  split at continues
  case h_1 last chunk requested =>
    cases continues
    rcases nextBatch_eq_some requested with ⟨n, chunk_eq, index, inside⟩
    have length : chunk.length = n := by
      rw [chunk_eq]
      simpa using inside
    refine ⟨by simp only; omega, le_rfl, ?_⟩
    intro _ position ip entry asked found
    rw [chunk_eq, List.nil_append, List.getElem?_map] at asked
    rcases Option.map_eq_some_iff.mp asked with ⟨other, taken, rfl⟩
    rw [List.getElem?_take] at taken
    split at taken
    · rw [List.getElem?_drop] at taken
      rw [found] at taken
      cases taken
      rfl
    · cases taken
  case h_2 => cases continues

/-- Only the positions of the chunk are changed, and of these only the host names. -/
theorem getElem?_storeResults (startOffset : Nat) (batchResult : List (Option String)) (n i : Nat)
    (sources : List Entry) (k : Nat) :
    (storeResults startOffset batchResult n i sources).1[k]? =
      sources[k]?.map fun entry =>
        if startOffset + i ≤ k ∧ k < startOffset + i + n then
          { entry with dns := batchResult[k - startOffset]? }
        else entry := by
  induction n generalizing i sources with
  | zero =>
      have nowhere : ¬ (startOffset + i ≤ k ∧ k < startOffset + i + 0) := by omega
      simp only [storeResults, if_neg nowhere, Option.map_id']
  | succ n ih =>
      simp only [storeResults]
      split
      · rw [ih, List.getElem?_modify, Option.map_eq_map, Option.map_map]
        congr 1
        funext entry
        rcases Nat.lt_trichotomy k (startOffset + i) with before | rfl | behind
        · have unchanged : startOffset + i ≠ k := by omega
          simp only [Function.comp_apply, if_neg unchanged]
          rw [if_neg (by omega), if_neg (by omega)]
        · simp
        · have unchanged : startOffset + i ≠ k := by omega
          simp only [Function.comp_apply, if_neg unchanged]
          congr 1
          simp only [eq_iff_iff]
          omega
      · next outside =>
          cases found : sources[k]? with
          | none => rfl
          | some entry =>
              rcases List.getElem?_eq_some_iff.mp found with ⟨inside, _⟩
              rw [Option.map_some, if_neg (by omega)]

theorem Aligned.storeResults {sources : List Entry} {version : Nat}
    (aligned : Aligned sources version loop) (startOffset : Nat)
    (batchResult : List (Option String)) (n i : Nat) :
    Aligned (storeResults startOffset batchResult n i sources).1 version loop where
  next := aligned.next
  version_le := aligned.version_le
  ips := by
    intro current position ip entry asked found
    rw [getElem?_storeResults] at found
    rcases Option.map_eq_some_iff.mp found with ⟨old, present, rfl⟩
    have same := aligned.ips current position ip old asked present
    split <;> exact same

theorem Aligned.replaced {sources sources' : List Entry} {version : Nat}
    (aligned : Aligned sources version loop) : Aligned sources' (version + 1) loop where
  next := aligned.next
  version_le := Nat.le_succ_of_le aligned.version_le
  ips := by
    intro current
    have earlier := aligned.version_le
    omega

/-- A run which goes on to a loop that is aligned keeps the invariant. -/
theorem Invariant.setRun (held : Invariant view) (run : Nat) {next : Run}
    (aligned : ∀ loop, next = .batchResult loop → Aligned view.sources view.version loop) :
    Invariant { view with runs := view.runs.set run next } where
  names := held.names
  aligned := by
    intro loop member
    rcases List.mem_or_eq_of_mem_set member with waiting | started
    · exact held.aligned loop waiting
    · exact aligned loop started.symm

/-- The results of a batch are stored with the addresses they belong to. -/
theorem Invariant.storeResults (held : Invariant view) {tasks : Tasks}
    {batchResult : List (Option String)}
    (placed : ∀ i ip entry answer, loop.chunk[i]? = some ip → batchResult[i]? = some answer →
      view.sources[loop.startOffset + i]? = some entry →
        (entry.source.ip, answer) ∈ view.answers ++ answersOf loop.chunk tasks) :
    Invariant { view with
      sources := (storeResults loop.startOffset batchResult loop.chunk.length 0 view.sources).1
      answers := view.answers ++ answersOf loop.chunk tasks } where
  names := by
    intro entry member answer named
    rcases List.mem_iff_getElem?.mp member with ⟨k, found⟩
    simp only [getElem?_storeResults, Nat.add_zero] at found
    rcases Option.map_eq_some_iff.mp found with ⟨old, present, rfl⟩
    split at named
    · next range =>
        have inside : k - loop.startOffset < loop.chunk.length := by omega
        have asked := List.getElem?_eq_getElem inside
        have position : loop.startOffset + (k - loop.startOffset) = k := by omega
        rw [if_pos range]
        exact placed _ _ old answer asked named (position.symm ▸ present)
    · next range =>
        rw [if_neg range]
        apply List.mem_append_left
        exact held.names old (List.mem_of_getElem? present) answer named
  aligned loop member := (held.aligned loop member).storeResults _ _ _ _

/-- New sources have no host names, and no earlier loop refers to them. -/
theorem Invariant.replaceSources (held : Invariant view) (shown : List Source) (filtered : Bool) :
    Invariant { view with
      sources := shown.map fun source => { source := source }
      filtered := filtered
      version := view.version + 1 } where
  names := by
    intro entry member answer named
    rcases List.mem_map.mp member with ⟨source, _, rfl⟩
    cases named
  aligned loop member := (held.aligned loop member).replaced

theorem Invariant.resumeLoop (held : Invariant view) {run : Nat} {tasks : Tasks}
    (waiting : view.runs[run]? = some (.batchResult loop))
    (placed : ¬ Misplaced view (.batchResult run tasks)) :
    Invariant (resumeLoop view run loop tasks) := by
  have aligned := held.aligned loop (List.mem_of_getElem? waiting)
  unfold SourcesView.resumeLoop
  split
  case h_1 batchResult response =>
    have stored : Invariant _ := held.storeResults <| by
      intro i ip entry answer asked returned found
      by_cases same : entry.source.ip = ip
      · rw [same]
        exact List.mem_append_right _ (mem_answersOf response asked returned)
      · by_contra other
        rcases (inOrder loop.chunk tasks batchResult response).2 i ip asked with
          ⟨result, task, stored⟩
        cases stored.symm.trans returned
        by_cases current : loop.version = view.version
        · exact same (aligned.ips current i ip entry asked found)
        · exact placed ⟨loop, waiting, joined_of_json response, current, i, ip, entry, result,
            asked, task, found, same, other⟩
    dsimp only
    split
    · rw [aligned.next]
      exact stored.setRun run fun _ => aligned_continueLoop
    · exact stored.setRun run fun _ ended => by cases ended
  case h_2 => exact held.setRun run fun _ ended => by cases ended

theorem Invariant.step {env : Externals} (event : Event) (held : Invariant view)
    (placed : ¬ Misplaced view event) : Invariant (step env event view) := by
  cases event with
  | setParams params => exact ⟨held.names, held.aligned⟩
  | updated =>
      simp only [SourcesView.step]
      split
      · refine ⟨held.names, fun loop member => ?_⟩
        rcases List.mem_append.mp member with waiting | started
        · exact held.aligned loop waiting
        · cases List.mem_singleton.mp started
      · exact held
  | sourcesResponse run =>
      simp only [SourcesView.step]
      split
      · have kept : Invariant { view with runs := view.runs.set run .sourcesJson } :=
          held.setRun run fun _ other => by cases other
        exact ⟨kept.names, kept.aligned⟩
      · exact held
  | sourcesJson run sources =>
      simp only [SourcesView.step]
      split
      · exact (held.replaceSources _ _).setRun run fun _ => aligned_continueLoop
      · exact held
  | batchResult run tasks =>
      simp only [SourcesView.step]
      split
      case h_1 loop waiting => exact held.resumeLoop waiting placed
      case h_2 => exact held
  | failed run => exact held.setRun run fun _ ended => by cases ended

end Loops

theorem invariant_new : Invariant View.new where
  names := by
    intro entry member
    cases member
  aligned := by
    intro loop member
    cases member

/-- In every run in which no results are misplaced, the host names belong to their
sources, and the batch handler returns its results in the order of the request. -/
theorem rightNames_run (env : Externals) (events : List Event)
    (placed : Explained (fun before event => ¬ Misplaced (run (step env) before View.new) event)
      events) :
    RightNames (run (step env) events View.new) ∧ ∀ ips tasks, InOrder ips tasks :=
  ⟨(run_invariant_of_explained Invariant invariant_new (fun event _ => Invariant.step event)
    placed).names, inOrder⟩

section Samples

def sampleSource (ip : IpAddr) (domain : String) : Source where
  ip := ip
  details := { count := 1, domain := domain, issues := ∅, types := {.dmarc} }

def sampleSources : List Source :=
  [sampleSource (.v4 3221226219) "example.com", sampleSource (.v4 3221226220) "example.org"]

def sampleTasks : Tasks := fun _ ip =>
  some (.ok (some (if ip = .v4 3221226219 then "mail.example.com" else "mail.example.org")))

/-- The view is opened, and its sources and their host names are loaded. -/
def sampleLoading : List Event :=
  [.updated, .sourcesResponse 0, .sourcesJson 0 sampleSources, .batchResult 0 sampleTasks]

theorem rightNames_run_sample :
    (run (step sampleEnv) sampleLoading View.new).sources.map Entry.dns =
        [some (some "mail.example.com"), some (some "mail.example.org")] ∧
      RightNames (run (step sampleEnv) sampleLoading View.new) := by
  refine ⟨by decide +kernel, (rightNames_run sampleEnv sampleLoading ?_).1⟩
  have opened : Explained
      (fun before event => ¬ Misplaced (run (step sampleEnv) before View.new) event)
      [.updated, .sourcesResponse 0, .sourcesJson 0 sampleSources] :=
    explained_concat (explained_concat (explained_concat explained_nil id) id) id
  apply explained_concat opened
  rintro ⟨loop, waiting, _, replaced, _⟩
  have requested : (run (step sampleEnv)
      [.updated, .sourcesResponse 0, .sourcesJson 0 sampleSources] View.new).runs[0]? =
        some (.batchResult
          { i := 1, startOffset := 0, chunk := sampleSources.map Source.ip, version := 1 }) := by
    decide +kernel
  cases requested.symm.trans waiting
  exact replaced rfl

/-- While the host names of all sources are being loaded, the view is filtered by a
domain.  The results arrive after the filtered sources. -/
def sampleOverlap : List Event :=
  [.updated, .sourcesResponse 0, .sourcesJson 0 sampleSources,
    .setParams { domain := some "example.org" }, .updated, .sourcesResponse 1,
    .sourcesJson 1 sampleSources, .batchResult 0 sampleTasks]

theorem not_rightNames_sample :
    ¬ RightNames (run (step sampleEnv) sampleOverlap View.new) := by
  intro right
  have shown : (run (step sampleEnv) sampleOverlap View.new).sources =
      [{ source := sampleSource (.v4 3221226220) "example.org"
         dns := some (some "mail.example.com") }] := by
    decide +kernel
  have answered := right _ (shown ▸ List.mem_cons_self) (some "mail.example.com") rfl
  exact absurd answered (by decide +kernel)

end Samples

end DmarcReportViewer.SourcesView
