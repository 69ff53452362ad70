import DmarcReportViewer.Basic
import DmarcReportViewer.Lib.Fallible

/-!
# Host names of a batch of addresses

The model of `dns_batch_handler` of `http/ips.rs`.  Every address of a batch is
looked up by a task of its own and the tasks are joined in the order of the batch.
-/

namespace DmarcReportViewer.Ips

open Fallible

/-- The response of the handler: a list in the JSON format or a plain text. -/
inductive BatchResponse where
  | json (results : List (Option String))
  | text (status : Nat) (body : String)
deriving DecidableEq

def MAX_IP_COUNT : Nat := 100

/-- What a task stands for: the result of its lookup, or nothing if the task cannot
be joined.  A task depends on its place in the batch, for the lookups of one address
may differ. -/
abbrev Tasks := Nat → IpAddr → Option (Result (Option String))

/-- Errors will be also mapped to `none`. -/
def flatResult (result : Result (Option String)) : Option String :=
  result.toOption.join

def dnsBatchHandler (ips : List IpAddr) (tasks : Tasks) : BatchResponse :=
  if ips.length > MAX_IP_COUNT then
    .text 400 s!"Requests can only contain up to {MAX_IP_COUNT} IPs"
  else
    let handles := ips.mapIdx tasks
    match handles.mapM fun handle => handle.map flatResult with
    | some results => .json results
    | none => .text 500 "Failed to join DNS query task"

/-- The answers of a batch, with the addresses they have been looked up for. -/
def answersOf (ips : List IpAddr) (tasks : Tasks) : List (IpAddr × Option String) :=
  ips.mapIdx fun i ip => (ip, ((tasks i ip).map flatResult).join)

def Joined (ips : List IpAddr) (tasks : Tasks) : Prop :=
  ∀ i ip, ips[i]? = some ip → (tasks i ip).isSome

/-- A list which is returned has the result of the task of the i-th address at its
i-th place. -/
def InOrder (ips : List IpAddr) (tasks : Tasks) : Prop :=
  ∀ results, dnsBatchHandler ips tasks = .json results →
    results.length = ips.length ∧
      ∀ i ip, ips[i]? = some ip →
        ∃ result, tasks i ip = some result ∧ results[i]? = some (flatResult result)

variable {ips : List IpAddr} {tasks : Tasks} {results : List (Option String)}

theorem mapM_of_json (returned : dnsBatchHandler ips tasks = .json results) :
    (ips.mapIdx tasks).mapM (fun handle => handle.map flatResult) = some results := by
  simp only [dnsBatchHandler] at returned
  split at returned
  · cases returned
  · split at returned
    case h_1 joined =>
      cases returned
      exact joined
    case h_2 => cases returned

theorem inOrder (ips : List IpAddr) (tasks : Tasks) : InOrder ips tasks := by
  intro results returned
  have joined := getElem?_of_mapM (mapM_of_json returned)
  constructor
  · have lengths : results.length = (ips.mapIdx tasks).length :=
      length_of_mapM (mapM_of_json returned)
    rw [lengths, List.length_mapIdx]
  · intro i ip asked
    have result := joined i
    rw [List.getElem?_mapIdx, asked] at result
    rcases Option.map_eq_some_iff.mp result with ⟨value, found, flat⟩
    rcases Option.map_eq_some_iff.mp flat.symm with ⟨outcome, task, equal⟩
    exact ⟨outcome, task, equal ▸ found⟩

theorem joined_of_json (returned : dnsBatchHandler ips tasks = .json results) :
    Joined ips tasks := by
  intro i ip asked
  rcases (inOrder ips tasks results returned).2 i ip asked with ⟨outcome, task, _⟩
  exact Option.isSome_of_eq_some task

theorem mem_answersOf (returned : dnsBatchHandler ips tasks = .json results) {i : Nat} {ip : IpAddr}
    {answer : Option String} (asked : ips[i]? = some ip) (found : results[i]? = some answer) :
    (ip, answer) ∈ answersOf ips tasks := by
  rcases (inOrder ips tasks results returned).2 i ip asked with ⟨outcome, task, result⟩
  rw [found] at result
  cases result
  refine List.mem_of_getElem? (i := i) ?_
  rw [answersOf, List.getElem?_mapIdx, asked]
  simp [task]

end DmarcReportViewer.Ips
