import DmarcReportViewer.Lib.Runs
import Mathlib.Data.List.Basic
import Mathlib.Logic.Function.Basic

/-!
# Loads into slots

A client sends requests to a server whose state changes.  A request is answered from the
state of the server at some moment after it was sent, and the answer arrives at some later
moment.  The client has a slot for each part of what it shows, and an answer which arrives
replaces the value of the slot of its request, unless it is of no use.  Answers can overtake
each other and can be lost.
-/

namespace Loads

open Runs

universe u

variable {σ ε π ι ς ρ α β : Type u}

/-- What the server and the client do.  An action of the client sends a list of requests
for each slot. -/
structure Setting (σ ε π ι ς ρ α β : Type u) where
  serve : ε → σ → σ
  act : ι → π → π × (ς → List ρ)
  answer : σ → ρ → α
  use : ς → α → Option β

/-- A request which the client waits for. -/
structure Flight (ρ α : Type u) where
  request : ρ
  answer : Option α

structure World (σ π ς ρ α β : Type u) where
  server : σ
  client : π
  flights : ς → List (Flight ρ α)
  shown : ς → Option β
  /-- All requests so far.  They are not part of the client. -/
  sent : ς → List ρ

def start (server : σ) (client : π) : World σ π ς ρ α β where
  server := server
  client := client
  flights := fun _ => []
  shown := fun _ => none
  sent := fun _ => []

/-- Something that happens.  A flight is known by its place in its slot. -/
inductive Event (ε ι ς : Type u) where
  | serve (event : ε)
  | act (action : ι)
  | answer (slot : ς) (number : ℕ)
  | arrive (slot : ς) (number : ℕ)
  | lose (slot : ς) (number : ℕ)

variable [DecidableEq ς]

namespace World

def setFlights (world : World σ π ς ρ α β) (slot : ς) (flights : List (Flight ρ α)) :
    World σ π ς ρ α β :=
  { world with flights := Function.update world.flights slot flights }

def send (world : World σ π ς ρ α β) (requests : ς → List ρ) : World σ π ς ρ α β :=
  { world with
    flights := fun slot => world.flights slot ++
      (requests slot).map fun request => { request := request, answer := none }
    sent := fun slot => world.sent slot ++ requests slot }

def put (world : World σ π ς ρ α β) (slot : ς) (value : Option β) : World σ π ς ρ α β :=
  { world with shown := Function.update world.shown slot (value.or (world.shown slot)) }

end World

/-- One step.  An answer which is not under way does not arrive. -/
def step (setting : Setting σ ε π ι ς ρ α β) (event : Event ε ι ς)
    (world : World σ π ς ρ α β) : World σ π ς ρ α β :=
  match event with
  | .serve event => { world with server := setting.serve event world.server }
  | .act action =>
      let (client, requests) := setting.act action world.client
      { world.send requests with client := client }
  | .answer slot number =>
      match (world.flights slot)[number]? with
      | some ⟨request, none⟩ =>
          let answer := setting.answer world.server request
          world.setFlights slot ((world.flights slot).set number ⟨request, some answer⟩)
      | _ => world
  | .arrive slot number =>
      match (world.flights slot)[number]? with
      | some ⟨_, some answer⟩ =>
          (world.setFlights slot ((world.flights slot).eraseIdx number)).put slot
            (setting.use slot answer)
      | _ => world
  | .lose slot number => world.setFlights slot ((world.flights slot).eraseIdx number)

/-- The requests of a slot are answered one after the other. -/
def Event.InOrder : Event ε ι ς → Prop
  | .arrive _ number => number = 0
  | .lose _ _ => False
  | _ => True

def Event.Keeps : Event ε ι ς → Prop
  | .lose _ _ => False
  | _ => True

section Worlds

variable (setting : Setting σ ε π ι ς ρ α β) (first : World σ π ς ρ α β)

/-- Some world on the way has the property. -/
def Passed (events : List (Event ε ι ς)) (holds : World σ π ς ρ α β → Prop) : Prop :=
  ∃ earlier, earlier <+: events ∧ holds (run (step setting) earlier first)

/-- An answer to a request of the slot, given after the request was sent. -/
def Answered (events : List (Event ε ι ς)) (slot : ς) (request : ρ) (answer : α) : Prop :=
  Passed setting first events fun world =>
    request ∈ world.sent slot ∧ answer = setting.answer world.server request

/-- An answer to a request of the slot, given when no later request of it had been sent. -/
def Latest (events : List (Event ε ι ς)) (slot : ς) (request : ρ) (answer : α) : Prop :=
  Passed setting first events fun world =>
    world.sent slot = (run (step setting) events first).sent slot ∧
      answer = setting.answer world.server request

/-- Whatever is shown or under way was an answer to a request of its slot. -/
structure Sound (events : List (Event ε ι ς)) (world : World σ π ς ρ α β) : Prop where
  flights : ∀ slot, ∀ flight ∈ world.flights slot, flight.request ∈ world.sent slot ∧
    ∀ answer ∈ flight.answer, Answered setting first events slot flight.request answer
  shown : ∀ slot, ∀ value ∈ world.shown slot, ∃ request answer,
    Answered setting first events slot request answer ∧ setting.use slot answer = some value

end Worlds

section Steps

variable {setting : Setting σ ε π ι ς ρ α β} {world : World σ π ς ρ α β}

/-- What a step can do.  The flights before the one which an event is about are as many as
the event says. -/
inductive Change (setting : Setting σ ε π ι ς ρ α β) (world : World σ π ς ρ α β) :
    Event ε ι ς → World σ π ς ρ α β → Prop where
  | unchanged (event : Event ε ι ς) : Change setting world event world
  | served (event : ε) :
      Change setting world (.serve event) { world with server := setting.serve event world.server }
  | acted (action : ι) :
      Change setting world (.act action)
        { world.send (setting.act action world.client).2 with
          client := (setting.act action world.client).1 }
  | answered (slot : ς) (before : List (Flight ρ α)) (request : ρ) (after : List (Flight ρ α))
      (split : world.flights slot = before ++ ⟨request, none⟩ :: after) :
      Change setting world (.answer slot before.length)
        (world.setFlights slot
          (before ++ ⟨request, some (setting.answer world.server request)⟩ :: after))
  | arrived (slot : ς) (before : List (Flight ρ α)) (request : ρ) (answer : α)
      (after : List (Flight ρ α))
      (split : world.flights slot = before ++ ⟨request, some answer⟩ :: after) :
      Change setting world (.arrive slot before.length)
        ((world.setFlights slot (before ++ after)).put slot (setting.use slot answer))
  | lost (slot : ς) (before : List (Flight ρ α)) (flight : Flight ρ α)
      (after : List (Flight ρ α)) (split : world.flights slot = before ++ flight :: after) :
      Change setting world (.lose slot before.length) (world.setFlights slot (before ++ after))

theorem exists_split {items : List α} {number : ℕ} {item : α}
    (found : items[number]? = some item) :
    ∃ before after, items = before ++ item :: after ∧ number = before.length := by
  rcases List.getElem?_eq_some_iff.mp found with ⟨inside, rfl⟩
  refine ⟨items.take number, items.drop (number + 1), ?_, ?_⟩
  · simp
  · simp only [List.length_take]
    omega

theorem change_step (event : Event ε ι ς) :
    Change setting world event (step setting event world) := by
  cases event with
  | serve event => exact .served event
  | act action => exact .acted action
  | answer slot number =>
      simp only [step]
      split
      · next request found =>
          rcases exists_split found with ⟨before, after, split, rfl⟩
          rw [split, List.set_append_right _ _ (Nat.le_refl _), Nat.sub_self, List.set_cons_zero]
          exact .answered slot before request after split
      · exact .unchanged _
  | arrive slot number =>
      simp only [step]
      split
      · next request answer found =>
          rcases exists_split found with ⟨before, after, split, rfl⟩
          rw [split, List.eraseIdx_append_of_length_le (Nat.le_refl _), Nat.sub_self,
            List.eraseIdx_cons_zero]
          exact .arrived slot before request answer after split
      · exact .unchanged _
  | lose slot number =>
      simp only [step]
      cases found : (world.flights slot)[number]? with
      | none =>
          rw [List.eraseIdx_of_length_le (List.getElem?_eq_none_iff.mp found), World.setFlights,
            Function.update_eq_self]
          exact .unchanged _
      | some flight =>
          rcases exists_split found with ⟨before, after, split, rfl⟩
          rw [split, List.eraseIdx_append_of_length_le (Nat.le_refl _), Nat.sub_self,
            List.eraseIdx_cons_zero]
          exact .lost slot before flight after split

end Steps

section Soundness

variable {setting : Setting σ ε π ι ς ρ α β} {first : World σ π ς ρ α β}
  {events : List (Event ε ι ς)} {event : Event ε ι ς}

theorem Passed.concat {holds : World σ π ς ρ α β → Prop}
    (passed : Passed setting first events holds) :
    Passed setting first (events ++ [event]) holds := by
  rcases passed with ⟨earlier, before, held⟩
  exact ⟨earlier, before.trans (List.prefix_append _ _), held⟩

theorem passed_last {holds : World σ π ς ρ α β → Prop}
    (held : holds (run (step setting) events first)) : Passed setting first events holds :=
  ⟨events, List.prefix_refl _, held⟩

/-- What is under way stays sound when more requests are sent. -/
theorem Sound.later {world : World σ π ς ρ α β} (sound : Sound setting first events world)
    {slot : ς} {flight : Flight ρ α} (member : flight ∈ world.flights slot) {sent : List ρ}
    (grown : world.sent slot ⊆ sent) : flight.request ∈ sent ∧ ∀ answer ∈ flight.answer,
      Answered setting first (events ++ [event]) slot flight.request answer := by
  rcases sound.flights slot flight member with ⟨asked, answered⟩
  exact ⟨grown asked, fun answer given => (answered answer given).concat⟩

theorem setFlights_subset {world : World σ π ς ρ α β} {slot : ς} {flight : Flight ρ α}
    {before after : List (Flight ρ α)} (split : world.flights slot = before ++ flight :: after)
    (other : ς) :
    (world.setFlights slot (before ++ after)).flights other ⊆ world.flights other := by
  by_cases same : other = slot
  · subst same
    simp [World.setFlights, split]
  · simp [World.setFlights, same]

theorem sound_step (sound : Sound setting first events (run (step setting) events first)) :
    Sound setting first (events ++ [event])
      (step setting event (run (step setting) events first)) := by
  have change := @change_step _ _ _ _ _ _ _ _ _ setting (run (step setting) events first) event
  obtain ⟨world, reached⟩ : ∃ world, run (step setting) events first = world := ⟨_, rfl⟩
  have last : ∀ holds : World σ π ς ρ α β → Prop, holds world →
      Passed setting first (events ++ [event]) holds :=
    fun holds held => (passed_last (reached ▸ held)).concat
  rw [reached] at change sound ⊢
  have shown : ∀ slot, ∀ value ∈ world.shown slot, ∃ request answer,
      Answered setting first (events ++ [event]) slot request answer ∧
        setting.use slot answer = some value := by
    intro slot value some
    rcases sound.shown slot value some with ⟨request, answer, answered, used⟩
    exact ⟨request, answer, answered.concat, used⟩
  generalize step setting event world = next at change
  cases change with
  | unchanged => exact ⟨fun slot flight member => sound.later member (.refl _), shown⟩
  | served event => exact ⟨fun slot flight member => sound.later member (.refl _), shown⟩
  | acted action =>
      refine ⟨?_, shown⟩
      intro slot flight member
      rcases List.mem_append.mp member with old | new
      · exact sound.later old (List.subset_append_left _ _)
      · rcases List.mem_map.mp new with ⟨request, asked, rfl⟩
        refine ⟨List.mem_append_right _ asked, ?_⟩
        rintro answer ⟨⟩
  | answered slot before request after split =>
      refine ⟨?_, shown⟩
      intro other flight member
      by_cases same : other = slot
      · subst same
        have asked : request ∈ world.sent other :=
          (sound.flights other ⟨request, none⟩ (by simp [split])).1
        have cases : flight = ⟨request, some (setting.answer world.server request)⟩ ∨
            flight ∈ world.flights other := by
          simp only [World.setFlights, Function.update_self, List.mem_append,
            List.mem_cons] at member
          rw [split, List.mem_append, List.mem_cons]
          tauto
        rcases cases with rfl | old
        · refine ⟨asked, ?_⟩
          rintro answer ⟨⟩
          exact last _ ⟨asked, rfl⟩
        · exact sound.later old (.refl _)
      · have old : flight ∈ world.flights other := by
          simpa [World.setFlights, same] using member
        exact sound.later old (.refl _)
  | arrived slot before request answer after split =>
      constructor
      · intro other flight member
        exact sound.later (setFlights_subset split other member) (.refl _)
      · intro other value some
        by_cases same : other = slot
        · subst same
          have under : ⟨request, .some answer⟩ ∈ world.flights other := by simp [split]
          have arrived := (sound.flights other _ under).2 answer rfl
          simp only [World.put, World.setFlights, Function.update_self, Option.mem_def,
            Option.or_eq_some_iff] at some
          rcases some with used | ⟨_, old⟩
          · exact ⟨request, answer, arrived.concat, used⟩
          · exact shown other value old
        · apply shown other value
          simpa [World.put, World.setFlights, same] using some
  | lost slot before flight after split =>
      refine ⟨?_, shown⟩
      intro other flight member
      exact sound.later (setFlights_subset split other member) (.refl _)

/-- What is shown was an answer to a request of its slot, in whatever order answers arrive. -/
theorem sound_world (server : σ) (client : π) (events : List (Event ε ι ς)) :
    Sound setting (start server client) events
      (run (step setting) events (start server client)) := by
  induction events using List.reverseRecOn with
  | nil =>
      constructor
      · rintro slot flight ⟨⟩
      · rintro slot value ⟨⟩
  | append_singleton events event ih =>
      rw [run_concat]
      exact sound_step ih

theorem exists_answer_of_shown {server : σ} {client : π} {slot : ς} {value : β}
    (shown : (run (step setting) events (start server client)).shown slot = some value) :
    ∃ earlier, earlier <+: events ∧
      ∃ request ∈ (run (step setting) earlier (start server client)).sent slot,
        setting.use slot (setting.answer
          (run (step setting) earlier (start server client)).server request) = some value := by
  rcases (sound_world server client events).shown slot value shown with
    ⟨request, answer, ⟨earlier, before, asked, given⟩, used⟩
  rw [given] at used
  exact ⟨earlier, before, request, asked, used⟩

end Soundness

section Order

variable (setting : Setting σ ε π ι ς ρ α β) (first : World σ π ς ρ α β)

/-- The last request of the slot is the last one under way, or its answer has arrived. -/
def Current (events : List (Event ε ι ς)) (world : World σ π ς ρ α β) (slot : ς) : Prop :=
  ∀ before request, world.sent slot = before ++ [request] →
    (∃ earlier answer, world.flights slot = earlier ++ [⟨request, answer⟩] ∧
      ∀ given ∈ answer, Latest setting first events slot request given) ∨
    world.flights slot = [] ∧ ∃ answer, Latest setting first events slot request answer ∧
      ∀ value ∈ setting.use slot answer, world.shown slot = some value

variable {setting first} {events : List (Event ε ι ς)} {event : Event ε ι ς} {slot : ς}
  {request : ρ} {answer : α}

theorem Latest.concat (latest : Latest setting first events slot request answer)
    (same : (step setting event (run (step setting) events first)).sent slot =
      (run (step setting) events first).sent slot) :
    Latest setting first (events ++ [event]) slot request answer := by
  rcases latest with ⟨earlier, before, sent, answered⟩
  refine ⟨earlier, before.trans (List.prefix_append _ _), ?_, answered⟩
  rw [run_concat, same]
  exact sent

theorem Current.concat {next : World σ π ς ρ α β}
    (current : Current setting first events (run (step setting) events first) slot)
    (reached : step setting event (run (step setting) events first) = next)
    (flights : next.flights slot = (run (step setting) events first).flights slot)
    (shown : next.shown slot = (run (step setting) events first).shown slot)
    (sent : next.sent slot = (run (step setting) events first).sent slot) :
    Current setting first (events ++ [event]) next slot := by
  have latest : ∀ request answer, Latest setting first events slot request answer →
      Latest setting first (events ++ [event]) slot request answer :=
    fun request answer given => given.concat (by rw [reached, sent])
  intro before request last
  rw [flights, shown]
  rcases current before request (sent ▸ last) with
    ⟨earlier, answer, under, given⟩ | ⟨none, answer, given, used⟩
  · exact Or.inl ⟨earlier, answer, under, fun answer some => latest _ _ (given answer some)⟩
  · exact Or.inr ⟨none, answer, latest _ _ given, used⟩

/-- The last item of a list is the one where the list is split, or it comes later. -/
theorem last_of_split {earlier before after : List α} {last item : α}
    (split : earlier ++ [last] = before ++ item :: after) :
    (after = [] ∧ last = item) ∨ ∃ rest, after = rest ++ [last] := by
  induction after using List.reverseRecOn with
  | nil =>
      have same := List.append_inj_right' split rfl
      exact Or.inl ⟨rfl, (List.cons.inj same).1⟩
  | append_singleton rest final _ =>
      rw [← List.cons_append, ← List.append_assoc] at split
      have same := List.append_inj_right' split rfl
      exact Or.inr ⟨rest, by rw [(List.cons.inj same).1]⟩

theorem current_step (inOrder : event.InOrder)
    (current : Current setting first events (run (step setting) events first) slot) :
    Current setting first (events ++ [event])
      (step setting event (run (step setting) events first)) slot := by
  have change := @change_step _ _ _ _ _ _ _ _ _ setting (run (step setting) events first) event
  generalize reached : step setting event (run (step setting) events first) = next at change
  cases change with
  | unchanged => exact current.concat reached rfl rfl rfl
  | served event => exact current.concat reached rfl rfl rfl
  | acted action =>
      cases asked : (setting.act action (run (step setting) events first).client).2 slot using
        List.reverseRecOn with
      | nil =>
          exact current.concat reached (by simp [World.send, asked]) rfl
            (by simp [World.send, asked])
      | append_singleton requests request =>
          intro before other last
          simp only [World.send, asked, ← List.append_assoc] at last
          have same := List.append_inj_right' last rfl
          cases same
          refine Or.inl ⟨(run (step setting) events first).flights slot ++
            requests.map fun request => { request := request, answer := none }, none, ?_, ?_⟩
          · simp [World.send, asked]
          · rintro answer ⟨⟩
  | answered other before request after split =>
      by_cases same : slot = other
      · subst same
        intro sent asked last
        have latest : ∀ request answer, Latest setting first events slot request answer →
            Latest setting first (events ++ [_]) slot request answer :=
          fun request answer given => given.concat (by rw [reached]; rfl)
        left
        rcases current sent asked last with ⟨earlier, answer, under, given⟩ | ⟨none, _⟩
        · rcases last_of_split (under.symm.trans split) with ⟨rfl, final⟩ | ⟨rest, rfl⟩
          · cases final
            refine ⟨before, _, Function.update_self .., ?_⟩
            rintro answer ⟨⟩
            exact latest _ _ (passed_last ⟨rfl, rfl⟩)
          · let now := (run (step setting) events first).server
            refine ⟨before ++ ⟨request, some (setting.answer now request)⟩ :: rest, answer, ?_, ?_⟩
            · rw [List.append_assoc]
              exact Function.update_self ..
            · exact fun answer some => latest _ _ (given answer some)
        · rw [none] at split
          simp at split
      · exact current.concat reached (by simp [World.setFlights, same]) rfl rfl
  | arrived other before request answer after split =>
      by_cases same : slot = other
      · subst same
        have head : before = [] := List.eq_nil_of_length_eq_zero inOrder
        subst head
        intro sent asked last
        have latest : ∀ request answer, Latest setting first events slot request answer →
            Latest setting first (events ++ [_]) slot request answer :=
          fun request answer given => given.concat (by rw [reached]; rfl)
        rcases current sent asked last with ⟨earlier, other, under, given⟩ | ⟨none, _⟩
        · rcases last_of_split (under.symm.trans split) with ⟨rfl, final⟩ | ⟨rest, rfl⟩
          · cases final
            refine Or.inr ⟨by simp [World.put, World.setFlights], answer,
              latest _ _ (given answer rfl), ?_⟩
            intro value used
            simp [World.put, Option.mem_def.mp used]
          · refine Or.inl ⟨rest, other, by simp [World.put, World.setFlights], ?_⟩
            exact fun answer some => latest _ _ (given answer some)
        · rw [none] at split
          simp at split
      · exact current.concat reached (by simp [World.put, World.setFlights, same])
          (by simp [World.put, World.setFlights, same]) rfl
  | lost other before flight after split => exact inOrder.elim

theorem current_world (server : σ) (client : π)
    (inOrder : ∀ event ∈ events, event.InOrder) (slot : ς) :
    Current setting (start server client) events
      (run (step setting) events (start server client)) slot := by
  induction events using List.reverseRecOn with
  | nil =>
      intro before request last
      simp [start] at last
  | append_singleton events event ih =>
      rw [run_concat]
      exact current_step (inOrder event (by simp))
        (ih fun event member => inOrder event (by simp [member]))

/-- If no answer overtakes another one and none is lost, then a slot without a request under
way shows the answer to its last request, provided that this is of use. -/
theorem exists_answer_of_settled {server : σ} {client : π} {before : List ρ}
    (inOrder : ∀ event ∈ events, event.InOrder)
    (last : (run (step setting) events (start server client)).sent slot = before ++ [request])
    (settled : (run (step setting) events (start server client)).flights slot = []) :
    ∃ earlier, earlier <+: events ∧
      (run (step setting) earlier (start server client)).sent slot =
        (run (step setting) events (start server client)).sent slot ∧
      ∀ value, setting.use slot (setting.answer
          (run (step setting) earlier (start server client)).server request) = some value →
        (run (step setting) events (start server client)).shown slot = some value := by
  rcases current_world server client inOrder slot before request last with
    ⟨earlier, answer, under, _⟩ | ⟨_, answer, ⟨earlier, before, same, given⟩, used⟩
  · have empty := settled.symm.trans under
    simp at empty
  · rw [given] at used
    exact ⟨earlier, before, same, used⟩

end Order

section Losses

variable {setting : Setting σ ε π ι ς ρ α β} {first : World σ π ς ρ α β}
  {events : List (Event ε ι ς)} {event : Event ε ι ς} {slot : ς}

/-- Every request of a slot is one which an action sends. -/
theorem holds_of_sent {holds : ρ → Prop} {server : σ} {client : π}
    (asks : ∀ action client, ∀ request ∈ (setting.act action client).2 slot, holds request) :
    ∀ request ∈ (run (step setting) events (start server client)).sent slot, holds request := by
  induction events using List.reverseRecOn with
  | nil =>
      intro request asked
      cases asked
  | append_singleton events event ih =>
      rw [run_concat]
      have change := @change_step _ _ _ _ _ _ _ _ _ setting
        (run (step setting) events (start server client)) event
      generalize run (step setting) events (start server client) = world at change ih ⊢
      generalize step setting event world = next at change
      cases change with
      | acted action =>
          intro request asked
          rcases List.mem_append.mp asked with old | new
          · exact ih request old
          · exact asks action world.client request new
      | _ => exact ih

/-- A slot for which a request was sent waits for an answer or has a value. -/
def World.Waits (world : World σ π ς ρ α β) (slot : ς) : Prop :=
  world.sent slot ≠ [] → world.shown slot = none → world.flights slot ≠ []

theorem waits_step (keeps : event.Keeps)
    (usable : ∀ request ∈ (run (step setting) events first).sent slot,
      ∀ server, (setting.use slot (setting.answer server request)).isSome)
    (sound : Sound setting first events (run (step setting) events first))
    (waits : (run (step setting) events first).Waits slot) :
    (step setting event (run (step setting) events first)).Waits slot := by
  have change := @change_step _ _ _ _ _ _ _ _ _ setting (run (step setting) events first) event
  generalize run (step setting) events first = world at change sound waits usable ⊢
  generalize step setting event world = next at change
  cases change with
  | unchanged => exact waits
  | served event => exact waits
  | acted action =>
      intro sent shown
      cases asked : (setting.act action world.client).2 slot with
      | nil =>
          simp only [World.send, asked, List.append_nil, List.map_nil] at sent ⊢
          exact waits sent shown
      | cons request requests => simp [World.send, asked]
  | answered other before request after split =>
      by_cases same : slot = other
      · subst same
        simp [World.Waits, World.setFlights]
      · simpa [World.Waits, World.setFlights, same] using waits
  | arrived other before request answer after split =>
      by_cases same : slot = other
      · subst same
        intro sent shown
        have under : ⟨request, some answer⟩ ∈ world.flights slot := by simp [split]
        rcases sound.flights slot _ under with ⟨asked, given⟩
        rcases given answer rfl with ⟨earlier, _, _, answered⟩
        have value := usable request asked (run (step setting) earlier first).server
        rw [← answered] at value
        rcases Option.isSome_iff_exists.mp value with ⟨found, used⟩
        simp [World.put, used] at shown
      · simpa [World.Waits, World.put, World.setFlights, same] using waits
  | lost other before flight after split => exact keeps.elim

/-- If no answer is lost and every answer is of use, then no slot is left without a value. -/
theorem waits_world {holds : ρ → Prop} (server : σ) (client : π)
    (keeps : ∀ event ∈ events, event.Keeps)
    (asks : ∀ action client, ∀ request ∈ (setting.act action client).2 slot, holds request)
    (usable : ∀ request, holds request →
      ∀ server, (setting.use slot (setting.answer server request)).isSome) :
    (run (step setting) events (start server client)).Waits slot := by
  induction events using List.reverseRecOn with
  | nil =>
      intro sent
      exact absurd rfl sent
  | append_singleton events event ih =>
      rw [run_concat]
      refine waits_step (keeps event (by simp)) ?_ (sound_world server client events)
        (ih fun event member => keeps event (by simp [member]))
      intro request asked
      exact usable request (holds_of_sent asks request asked)

end Losses

end Loads
