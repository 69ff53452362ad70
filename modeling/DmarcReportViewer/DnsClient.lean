import DmarcReportViewer.Basic
import DmarcReportViewer.Lib.Fallible
import DmarcReportViewer.Lib.Runs
import DmarcReportViewer.Lib.Text

/-!
# Lookups of host names

The model of `dns_client.rs`: a client which numbers its queries with 16 bits, sends
each from a socket of its own and takes the first datagram that the socket receives
for the answer.  The sockets are not connected, and a port is used again after the
lookup which used it has ended, so late answers reach later lookups.
-/

namespace DmarcReportViewer.DnsClient

open Runs Text

section Messages

/-- The types of resource records.  Other types are known by their printed names. -/
inductive ResourceType where
  | ptr
  | other (name : String)
deriving DecidableEq

structure Question where
  name : String
  ty : ResourceType
  «class» : UInt16
deriving DecidableEq

structure ResourceRecord where
  name : String
  ty : ResourceType
  data : List UInt8
deriving DecidableEq

structure Message where
  id : UInt16
  questions : List Question
  answers : List ResourceRecord
deriving DecidableEq

/-- The lowest octets of an address, the most significant one first. -/
def octets (address count : Nat) : List Nat :=
  ((List.range count).map fun index => (address >>> (8 * index)) % 256).reverse

def ipv4Query (ip : BitVec 32) : String :=
  ".".intercalate ((octets ip.toNat 4).reverse.map toString) ++ ".in-addr.arpa"

def ipv6Query (ip : BitVec 128) : String :=
  let nibbles := (octets ip.toNat 16).flatMap fun octet =>
    [String.singleton (Nat.digitChar ((octet &&& 0xF0) >>> 4)),
      String.singleton (Nat.digitChar (octet &&& 0x0F))]
  ".".intercalate nibbles.reverse ++ ".ip6.arpa"

def query : IpAddr → String
  | .v4 address => ipv4Query address
  | .v6 address => ipv6Query address

example : query (.v4 3221226219) = "235.2.0.192.in-addr.arpa" := by
  decide +kernel

def question (ip : IpAddr) : Question where
  name := query ip
  ty := .ptr
  «class» := 1

/-- The labels of a name, up to the empty label or the end of the data. -/
def parseLabels : List UInt8 → Result (List String)
  | [] => .ok []
  | len :: rest =>
      if len = 0 then
        .ok []
      else if rest.length < len.toNat then
        .error "Label length out of bounds"
      else do
        let label ← orError (fromUtf8 (rest.take len.toNat)) "Failed to parse segment as UTF8"
        let labels ← parseLabels (rest.drop len.toNat)
        return label :: labels
termination_by data => data.length
decreasing_by
  simp only [List.length_drop, List.length_cons]
  omega

def parseDnsName (data : List UInt8) : Result String := do
  let labels ← parseLabels data
  return ".".intercalate labels

/-- What `host_from_ip` makes of the received datagram. -/
def readResponse (id : UInt16) (response : Result Message) : Result (Option String) := do
  let message ← response.context "Failed to read DNS message"
  if message.id ≠ id then
    .error ("Received response with mismatched ID: expected " ++ toString id ++ ", got " ++
      toString message.id)
  else
    match message.answers.head? with
    | none => return none
    | some answer =>
        match answer.ty with
        | .other name => .error ("Wrong answer type: " ++ name)
        | .ptr => do
            let name ← (parseDnsName answer.data).context "Failed to parse DNS name"
            return some name

/-- The first answer of a message is a host name. -/
def HasName (message : Message) : Prop :=
  ∃ answer name, message.answers.head? = some answer ∧ answer.ty = .ptr ∧
    parseDnsName answer.data = .ok name

/-- A name is returned only for a message with the ID of the query. -/
theorem readResponse_eq_name {id : UInt16} {response : Result Message} {name : String}
    (read : readResponse id response = .ok (some name)) :
    ∃ message, response = .ok message ∧ message.id = id ∧ HasName message := by
  simp only [readResponse] at read
  rw [Fallible.bind_eq_ok_iff] at read
  rcases read with ⟨message, received, read⟩
  rw [context_eq_ok_iff] at received
  refine ⟨message, received, ?_⟩
  split at read
  · cases read
  · next same =>
      refine ⟨not_not.mp same, ?_⟩
      split at read
      · cases read
      · next answer first =>
          split at read
          · cases read
          · next ptr =>
              rw [Fallible.bind_eq_ok_iff] at read
              rcases read with ⟨found, parsed, _⟩
              rw [context_eq_ok_iff] at parsed
              exact ⟨answer, found, first, ptr, parsed⟩

end Messages

section Network

inductive Status where
  | waiting
  /-- The result, and the message that was accepted for the answer.  The code does not
  keep it. -/
  | returned (result : Result (Option String)) (accepted : Option Message)
deriving DecidableEq

structure Lookup where
  ip : IpAddr
  id : UInt16
  port : UInt16
  status : Status
deriving DecidableEq

structure System where
  nextId : UInt16
  /-- All lookups so far, the first one first. -/
  lookups : List Lookup

def new : System where
  nextId := 1
  lookups := []

inductive Event where
  /-- A lookup sends its query from a port. -/
  | start (ip : IpAddr) (port : UInt16)
  /-- An answer of the name server to the query of one lookup arrives at the socket of
  a lookup, possibly late or repeatedly. -/
  | answer (asked receiver : Nat) (message : Message)
  /-- A datagram of another host arrives. -/
  | stray (receiver : Nat) (datagram : Result Message)
  /-- A lookup fails, for example because of its timeout. -/
  | fail (receiver : Nat) (error : String)

def settle (system : System) (receiver : Nat) (accepted : Option Message)
    (result : Lookup → Result (Option String)) : System :=
  match system.lookups[receiver]? with
  | none => system
  | some lookup =>
      match lookup.status with
      | .returned _ _ => system
      | .waiting =>
          { system with
            lookups := system.lookups.set receiver
              { lookup with status := .returned (result lookup) accepted } }

/-- A datagram which reaches the socket of a lookup. -/
def receive (system : System) (receiver : Nat) (datagram : Result Message) : System :=
  settle system receiver datagram.toOption fun lookup => readResponse lookup.id datagram

/-- An answer of the name server: it has the ID and the question of the query. -/
def Answers (message : Message) (lookup : Lookup) : Prop :=
  message.id = lookup.id ∧ message.questions = [question lookup.ip]

instance (message : Message) (lookup : Lookup) : Decidable (Answers message lookup) :=
  inferInstanceAs (Decidable (_ ∧ _))

/-- The operating system binds a socket to a port which no other open socket has, and
the network delivers an answer to the port from which the query came. -/
def step (event : Event) (system : System) : System :=
  match event with
  | .start ip port =>
      if system.lookups.any fun lookup => lookup.status = .waiting ∧ lookup.port = port then
        system
      else
        { nextId := system.nextId + 1
          lookups := system.lookups ++
            [{ ip := ip, id := system.nextId, port := port, status := .waiting }] }
  | .answer asked receiver message =>
      match system.lookups[asked]?, system.lookups[receiver]? with
      | some sender, some lookup =>
          if Answers message sender ∧ sender.port = lookup.port then
            receive system receiver (.ok message)
          else
            system
      | _, _ => system
  | .stray receiver datagram => receive system receiver datagram
  | .fail receiver error => settle system receiver none fun _ => .error error

end Network

section Association

/-- The question or the owner of the first answer is the name of the address. -/
def About (message : Message) (ip : IpAddr) : Prop :=
  (∃ asked ∈ message.questions, asked.name = query ip) ∨
    ∃ answer, message.answers.head? = some answer ∧ answer.name = query ip

/-- Every name that was returned comes from a message about the address of the
lookup. -/
def RightAnswers (system : System) : Prop :=
  ∀ lookup ∈ system.lookups, ∀ name accepted,
    lookup.status = .returned (.ok (some name)) accepted →
      ∃ message, accepted = some message ∧ About message lookup.ip

/-- A waiting lookup gets a name which is not meant for it: the answer to a lookup of
another address which was a multiple of 65536 lookups away, or a datagram of another
host with the ID of the lookup. -/
def Misdelivered (system : System) : Event → Prop
  | .answer asked receiver message =>
      ∃ sender lookup, system.lookups[asked]? = some sender ∧
        system.lookups[receiver]? = some lookup ∧ lookup.status = .waiting ∧
          sender.port = lookup.port ∧ sender.ip ≠ lookup.ip ∧
            asked % 65536 = receiver % 65536 ∧ HasName message ∧ ¬ About message lookup.ip
  | .stray receiver datagram =>
      ∃ lookup message, system.lookups[receiver]? = some lookup ∧ lookup.status = .waiting ∧
        datagram = .ok message ∧ message.id = UInt16.ofNat (receiver + 1) ∧ HasName message ∧
          ¬ About message lookup.ip
  | _ => False

/-- The IDs count the lookups modulo 65536. -/
structure Invariant (system : System) : Prop where
  nextId : system.nextId = UInt16.ofNat (system.lookups.length + 1)
  ids : ∀ number lookup, system.lookups[number]? = some lookup →
    lookup.id = UInt16.ofNat (number + 1)
  right : RightAnswers system

variable {system : System}

theorem invariant_new : Invariant new := by
  constructor
  case nextId => rfl
  case ids => simp [new]
  case right => simp [RightAnswers, new]

/-- Lookups with the same ID are a multiple of 65536 lookups apart. -/
theorem ofNat_succ_inj {first second : Nat}
    (same : UInt16.ofNat (first + 1) = UInt16.ofNat (second + 1)) :
    first % 65536 = second % 65536 := by
  have equal := congrArg UInt16.toNat same
  rw [UInt16.toNat_ofNat', UInt16.toNat_ofNat'] at equal
  omega

/-- A lookup may return if a name it returns is right. -/
theorem Invariant.settle (invariant : Invariant system) (receiver : Nat)
    {accepted : Option Message} {result : Lookup → Result (Option String)}
    (right : ∀ lookup name, system.lookups[receiver]? = some lookup → lookup.status = .waiting →
      result lookup = .ok (some name) →
        ∃ message, accepted = some message ∧ About message lookup.ip) :
    Invariant (settle system receiver accepted result) := by
  simp only [DnsClient.settle]
  split
  · exact invariant
  · next lookup found =>
      split
      · exact invariant
      · next waiting =>
          constructor
          case nextId =>
            rw [List.length_set]
            exact invariant.nextId
          case ids =>
            intro number other listed
            rcases getElem?_set_cases listed with before | ⟨rfl, rfl⟩
            · exact invariant.ids number other before
            · exact invariant.ids receiver lookup found
          case right =>
            intro other listed name message returned
            rcases List.mem_or_eq_of_mem_set listed with before | rfl
            · exact invariant.right other before name message returned
            · have equal : result lookup = .ok (some name) ∧ accepted = message := by
                simpa using returned
              rcases equal with ⟨read, rfl⟩
              exact right lookup name found waiting read

/-- A new lookup gets the next ID. -/
theorem Invariant.start (invariant : Invariant system) (ip : IpAddr) (port : UInt16) :
    Invariant (step (.start ip port) system) := by
  simp only [step]
  split
  · exact invariant
  · constructor
    case nextId =>
      simp only [List.length_append, List.length_singleton, invariant.nextId]
      exact (UInt16.ofNat_add _ 1).symm
    case ids =>
      intro number lookup listed
      rcases getElem?_concat_cases listed with before | ⟨rfl, rfl⟩
      · exact invariant.ids number lookup before
      · exact invariant.nextId
    case right =>
      intro lookup listed name message returned
      rcases List.mem_append.mp listed with before | last
      · exact invariant.right lookup before name message returned
      · rw [List.mem_singleton.mp last] at returned
        cases returned

theorem Invariant.mod_eq_of_id_eq (invariant : Invariant system) {first second : Nat}
    {left right : Lookup} (leftListed : system.lookups[first]? = some left)
    (rightListed : system.lookups[second]? = some right) (same : left.id = right.id) :
    first % 65536 = second % 65536 := by
  apply ofNat_succ_inj
  rw [← invariant.ids first left leftListed, ← invariant.ids second right rightListed, same]

/-- Every step whose datagram is not misdelivered keeps the answers right. -/
theorem invariant_step (event : Event) (system : System) (invariant : Invariant system)
    (delivered : ¬ Misdelivered system event) : Invariant (step event system) := by
  cases event with
  | start ip port => exact invariant.start ip port
  | answer asked receiver message =>
      simp only [step]
      split
      · next sender lookup asking waiting =>
          split
          · next arrives =>
              apply invariant.settle
              intro other name found status read
              rcases readResponse_eq_name read with ⟨accepted, same, id, named⟩
              cases same
              rw [waiting] at found
              cases found
              refine ⟨message, rfl, ?_⟩
              by_contra foreign
              have different : sender.ip ≠ lookup.ip := by
                intro own
                apply foreign
                refine Or.inl ⟨question sender.ip, ?_, by rw [question, own]⟩
                rw [arrives.1.2]
                exact List.mem_singleton.mpr rfl
              have sameId := invariant.mod_eq_of_id_eq asking waiting (arrives.1.1.symm.trans id)
              exact delivered ⟨sender, lookup, asking, waiting, status, arrives.2, different,
                sameId, named, foreign⟩
          · exact invariant
      · exact invariant
  | stray receiver datagram =>
      apply invariant.settle
      intro lookup name found status read
      rcases readResponse_eq_name read with ⟨message, rfl, id, named⟩
      refine ⟨message, rfl, ?_⟩
      by_contra foreign
      apply delivered
      rw [invariant.ids receiver lookup found] at id
      exact ⟨lookup, message, found, status, rfl, id, named, foreign⟩
  | fail receiver error =>
      apply invariant.settle
      intro lookup name found status read
      cases read

/-- In a run without misdelivered datagrams, every name comes from an answer about the
address that was looked up. -/
theorem rightAnswers_run {events : List Event}
    (delivered : Explained (fun before event => ¬ Misdelivered (run step before new) event)
      events) : RightAnswers (run step events new) :=
  (run_invariant_of_explained Invariant invariant_new invariant_step delivered).right

end Association

section Samples

def sampleMessage : Message where
  id := 1
  questions := [question (.v4 3221226219)]
  answers := [{
    name := query (.v4 3221226219)
    ty := .ptr
    data := [4, 109, 97, 105, 108, 7, 101, 120, 97, 109, 112, 108, 101, 0] }]

theorem readResponse_sampleMessage :
    readResponse 1 (.ok sampleMessage) = .ok (some "mail.example") := by
  decide +kernel

def sampleEvents : List Event :=
  [.start (.v4 3221226219) 40000, .answer 0 0 sampleMessage]

theorem rightAnswers_run_sample : RightAnswers (run step sampleEvents new) := by
  apply rightAnswers_run
  have started : Explained (fun before event => ¬ Misdelivered (run step before new) event)
      [Event.start (.v4 3221226219) 40000] := explained_concat explained_nil id
  apply explained_concat started
  rintro ⟨sender, lookup, asking, waiting, _, _, different, _⟩
  rw [asking] at waiting
  exact different (congrArg Lookup.ip (Option.some.inj waiting))

/-- A number of lookups, one after the other, which get no answer in time. -/
def unanswered (ip : IpAddr) (port : UInt16) (count : Nat) : List Event :=
  (List.range count).flatMap fun number => [.start ip port, .fail number "Timeout"]

theorem run_unanswered (ip : IpAddr) (port : UInt16) (count : Nat) :
    run step (unanswered ip port count) new =
      { nextId := UInt16.ofNat (count + 1)
        lookups := (List.range count).map fun number =>
          { ip := ip
            id := UInt16.ofNat (number + 1)
            port := port
            status := .returned (.error "Timeout") none } } := by
  induction count with
  | zero => rfl
  | succ count ih =>
      have split : unanswered ip port (count + 1) =
          unanswered ip port count ++ [.start ip port] ++ [.fail count "Timeout"] := by
        simp [unanswered, List.range_succ]
      rw [split, run_concat, run_concat, ih]
      simp [step, settle, List.range_succ, UInt16.ofNat_add]

/-- When the IDs have wrapped around, a late answer to the first lookup is taken for
the answer to the last one. -/
theorem late_answer_accepted (ip other : IpAddr) (port : UInt16) (count : Nat)
    (positive : 0 < count) (wrapped : UInt16.ofNat (count + 1) = 1) (message : Message)
    (id : message.id = 1) (questions : message.questions = [question ip]) :
    { ip := other
      id := 1
      port := port
      status := .returned (readResponse 1 (.ok message)) (some message) } ∈
        (run step (unanswered ip port count ++ [.start other port] ++ [.answer 0 count message])
          new).lookups := by
  rw [run_concat, run_concat, run_unanswered]
  simp [step, receive, settle, Answers, wrapped, id, questions, positive, Except.toOption]

/-- After 65536 lookups of one address, the answer to the first of them reaches a
lookup of another address. -/
def sampleLateEvents : List Event :=
  unanswered (.v4 3221226219) 40000 65536 ++ [.start (.v4 3221226220) 40000] ++
    [.answer 0 65536 sampleMessage]

theorem not_rightAnswers_sample : ¬ RightAnswers (run step sampleLateEvents new) := by
  intro right
  have accepted := late_answer_accepted (.v4 3221226219) (.v4 3221226220) 40000 65536
    (by decide) (by decide) sampleMessage rfl rfl
  rw [readResponse_sampleMessage] at accepted
  rcases right _ accepted "mail.example" (some sampleMessage) rfl with ⟨message, same, about⟩
  cases same
  rcases about with ⟨asked, listed, name⟩ | ⟨answer, first, name⟩
  · rw [List.mem_singleton.mp listed] at name
    exact absurd name (by decide +kernel)
  · cases first
    exact absurd name (by decide +kernel)

end Samples

end DmarcReportViewer.DnsClient
