import DmarcReportViewer.Imap.Chunks
import DmarcReportViewer.Lib.LastWrites

/-!
# Unsolicited responses

A server may send FETCH responses on its own, such as changes of flags, between the
responses to a request.  Both loops of a download give up on responses without the data
they asked for, and take the rest for answers.  The metadata loop panics on subjects which
cannot be decoded.
-/

namespace DmarcReportViewer

open Collections Fallible LastWrites

/-- A FETCH response.  An additional one is sent by the server on its own. -/
structure StreamItem where
  fetch : Fetch
  additional : Bool

/-- What a loop receives from a stream. -/
def delivered (stream : List StreamItem) : List (Result Fetch) :=
  stream.map fun item => .ok item.fetch

def withoutAdditional (stream : List StreamItem) : List StreamItem :=
  stream.filter fun item => !item.additional

/-- The loop of the metadata phase. -/
def metadataLoop (env : Externals) (config : Configuration) (imapFolder : String)
    (stream : List (Result Fetch)) : MayPanic (HashMap String Mail) :=
  stream.foldlM (receiveMetadata env config imapFolder) ∅

/-- The loop of the body phase over the responses for one chunk.  It never panics. -/
def bodyLoop (config : Configuration) (uidIdMap : HashMap UInt32 String)
    (mails : HashMap String Mail) (stream : List (Result Fetch)) :
    MayPanic (HashMap String Mail) :=
  ExceptT.mk (some (stream.foldlM (receiveBody config uidIdMap) mails))

/-- A loop completes, with the mails which it returns without the additional responses. -/
def Undisturbed (loop : List (Result Fetch) → MayPanic (HashMap String Mail))
    (stream : List StreamItem) : Prop :=
  ∃ mails, (loop (delivered stream)).run = some (.ok mails) ∧
    (loop (delivered (withoutAdditional stream))).run = some (.ok mails)

section Writes

variable {loop : List (Result Fetch) → MayPanic (HashMap String Mail)}
  {base : HashMap String Mail}

/-- A loop accepts some of the responses, and each of them writes at most one mail. -/
structure WritesMails (loop : List (Result Fetch) → MayPanic (HashMap String Mail))
    (base : HashMap String Mail) (accepts : Fetch → Prop)
    (write : Fetch → Option (String × Mail)) : Prop where
  completes : ∀ fetched : List Fetch, (∀ fetch ∈ fetched, accepts fetch) →
    (loop (fetched.map .ok)).run = some (.ok (base.insertMany (fetched.filterMap write)))
  fails : ∀ (fetched : List Fetch) (mails : HashMap String Mail),
    (loop (fetched.map .ok)).run = some (.ok mails) → ∀ fetch ∈ fetched, accepts fetch

/-- A loop writes mails if each of its steps does, as long as an invariant holds. -/
theorem WritesMails.of_step
    {receive : HashMap String Mail → Result Fetch → MayPanic (HashMap String Mail)}
    {accepts : Fetch → Prop} {write : Fetch → Option (String × Mail)}
    (invariant : HashMap String Mail → Prop) (start : invariant base)
    (writes : ∀ {current fetch}, invariant current → accepts fetch →
      (receive current (.ok fetch)).run =
          some (.ok (current.insertMany (write fetch).toList)) ∧
        invariant (current.insertMany (write fetch).toList))
    (accepted : ∀ {current next fetch},
      (receive current (.ok fetch)).run = some (.ok next) → accepts fetch) :
    WritesMails (fun stream => stream.foldlM receive base) base accepts write := by
  constructor
  case completes =>
    intro fetched
    induction fetched generalizing base with
    | nil => intro _; rfl
    | cons fetch rest ih =>
        intro all
        rcases writes start (all fetch List.mem_cons_self) with ⟨received, kept⟩
        have entries : (fetch :: rest).filterMap write =
            (write fetch).toList ++ rest.filterMap write := by
          rw [List.filterMap_cons]
          cases write fetch <;> rfl
        rw [List.map_cons, List.foldlM_cons, entries, Std.ExtTreeMap.insertMany_append,
          run_bind_eq_ok_iff]
        refine ⟨_, received, ?_⟩
        exact ih kept fun other member => all other (List.mem_cons_of_mem _ member)
  case fails =>
    intro fetched mails
    clear start
    induction fetched generalizing base with
    | nil =>
        intro _ fetch member
        cases member
    | cons fetch rest ih =>
        intro finished other member
        rw [List.map_cons, List.foldlM_cons, run_bind_eq_ok_iff] at finished
        rcases finished with ⟨next, received, later⟩
        rcases List.mem_cons.mp member with rfl | inRest
        · exact accepted received
        · exact ih later other inRest

/-- The additional responses are accepted, and each of them is overwritten later or
leaves the mail behind which the other responses leave behind. -/
def Harmless (base : HashMap String Mail) (accepts : Fetch → Prop)
    (write : Fetch → Option (String × Mail)) (stream : List StreamItem) : Prop :=
  ∀ before item after, stream = before ++ item :: after → item.additional = true →
    accepts item.fetch ∧ ∀ id mail, write item.fetch = some (id, mail) →
      (∃ later ∈ after, ∃ newer, write later.fetch = some (id, newer)) ∨
        (lastValue ((withoutAdditional stream).filterMap fun item => write item.fetch) id).or
          base[id]? = some mail

theorem delivered_eq (items : List StreamItem) :
    delivered items = (items.map StreamItem.fetch).map .ok := by
  rw [delivered, List.map_map]
  rfl

/-- What a loop does if it accepts all responses. -/
theorem WritesMails.delivered_eq_ok {accepts : Fetch → Prop}
    {write : Fetch → Option (String × Mail)} (writes : WritesMails loop base accepts write)
    {items : List StreamItem} (accepted : ∀ item ∈ items, accepts item.fetch) :
    (loop (delivered items)).run =
      some (.ok (base.insertMany (items.filterMap fun item => write item.fetch))) := by
  have written : (items.map StreamItem.fetch).filterMap write =
      items.filterMap fun item => write item.fetch := by
    rw [List.filterMap_map]
    rfl
  rw [delivered_eq, ← written]
  apply writes.completes
  intro fetch member
  rcases List.mem_map.mp member with ⟨item, inItems, rfl⟩
  exact accepted item inItems

/-- A loop is undisturbed if and only if it accepts the responses which it has asked for and
the additional ones are harmless. -/
theorem WritesMails.undisturbed_iff_harmless {accepts : Fetch → Prop}
    {write : Fetch → Option (String × Mail)} (writes : WritesMails loop base accepts write)
    {stream : List StreamItem} :
    Undisturbed loop stream ↔
      (∀ item ∈ stream, item.additional = false → accepts item.fetch) ∧
        Harmless base accepts write stream := by
  have quiet : (∀ item ∈ stream, item.additional = false → accepts item.fetch) → _ :=
    fun complete => @WritesMails.delivered_eq_ok _ _ _ _ writes (withoutAdditional stream) (by
      intro item kept
      rcases List.mem_filter.mp kept with ⟨inStream, solicited⟩
      exact complete item inStream (by simpa using solicited))
  constructor
  · rintro ⟨mails, whole, rest⟩
    have accepted : ∀ item ∈ stream, accepts item.fetch := fun item member =>
      writes.fails _ _ (delivered_eq stream ▸ whole) item.fetch (List.mem_map_of_mem member)
    rw [writes.delivered_eq_ok accepted] at whole
    rw [quiet fun item member _ => accepted item member] at rest
    have same := Except.ok.inj (Option.some.inj (whole.trans rest.symm))
    refine ⟨fun item member _ => accepted item member, ?_⟩
    intro before item after split additional
    refine ⟨accepted item (split ▸ List.mem_append_right _ List.mem_cons_self), ?_⟩
    intro id mail written
    exact insertMany_filter_iff.mp same before item after split (by simp [additional]) id mail
      written
  · rintro ⟨complete, harmless⟩
    have accepted : ∀ item ∈ stream, accepts item.fetch := by
      intro item inStream
      cases additional : item.additional with
      | false => exact complete item inStream additional
      | true =>
          rcases List.append_of_mem inStream with ⟨before, after, split⟩
          exact (harmless before item after split additional).1
    refine ⟨_, ?_, quiet complete⟩
    rw [writes.delivered_eq_ok accepted]
    refine congrArg (fun mails => some (Except.ok mails)) (insertMany_filter_iff.mpr ?_)
    intro before item after split additional id mail written
    exact (harmless before item after split (by simpa using additional)).2 id mail written

/-- Of two conditions on the accepted responses, one may be stated on its own. -/
theorem harmless_and_iff {accepts decodes : Fetch → Prop}
    {write : Fetch → Option (String × Mail)} {stream : List StreamItem} :
    Harmless base (fun fetch => accepts fetch ∧ decodes fetch) write stream ↔
      (∀ item ∈ stream, item.additional = true → decodes item.fetch) ∧
        Harmless base accepts write stream := by
  constructor
  · intro harmless
    constructor
    · intro item member additional
      rcases List.append_of_mem member with ⟨before, after, split⟩
      exact (harmless before item after split additional).1.2
    · intro before item after split additional
      have here := harmless before item after split additional
      exact ⟨here.1.1, here.2⟩
  · rintro ⟨decodable, harmless⟩ before item after split additional
    have here := harmless before item after split additional
    have member : item ∈ stream := split ▸ List.mem_append_right _ List.mem_cons_self
    exact ⟨⟨here.1, decodable item member additional⟩, here.2⟩

end Writes

section MetadataPhase

variable {env : Externals} {config : Configuration} {imapFolder : String}

/-- A response with all the data that is needed to add a mail. -/
def HasMetadata (fetch : Fetch) : Prop :=
  fetch.uid.isSome ∧ fetch.envelope.isSome ∧ fetch.internalDate.isSome

/-- The mail which a response announces, under its ID. -/
def announced (env : Externals) (config : Configuration) (imapFolder : String) (fetch : Fetch) :
    Option (String × Mail) :=
  match (extractMetadata env fetch config.maxMailSize.toNat config.imapUser imapFolder).run with
  | some (.ok mail) => some (mail.id, mail)
  | _ => none

theorem exists_extractMetadata_iff {fetch : Fetch} {maxSize : Nat} {account folder : String} :
    (∃ mail, (extractMetadata env fetch maxSize account folder).run = some (.ok mail)) ↔
      HasMetadata fetch ∧ fetch.Decodable env := by
  simp only [HasMetadata, extractMetadata, run_bind_eq_ok_iff, run_pure_eq_ok_iff,
    run_liftM_result, run_liftM_option_eq_ok_iff, Option.some.injEq, orError_eq_ok_iff,
    Option.isSome_iff_exists]
  constructor
  · rintro ⟨_, uid, hasUid, envelope, hasEnvelope, date, hasDate, subject, decoded, _⟩
    refine ⟨⟨⟨uid, hasUid⟩, ⟨envelope, hasEnvelope⟩, ⟨date, hasDate⟩⟩, ?_⟩
    intro other given
    cases hasEnvelope.symm.trans given
    rw [decoded]
    rfl
  · rintro ⟨⟨⟨uid, hasUid⟩, ⟨envelope, hasEnvelope⟩, ⟨date, hasDate⟩⟩, decodable⟩
    rcases Option.isSome_iff_exists.mp (decodable envelope hasEnvelope) with ⟨subject, decoded⟩
    exact ⟨_, uid, hasUid, envelope, hasEnvelope, date, hasDate, subject, decoded, rfl⟩

theorem receiveMetadata_eq_ok_iff {mails next : HashMap String Mail} {fetch : Fetch} :
    (receiveMetadata env config imapFolder mails (.ok fetch)).run = some (.ok next) ↔
      ∃ mail, (extractMetadata env fetch config.maxMailSize.toNat config.imapUser imapFolder).run =
        some (.ok mail) ∧ mails.insert mail.id mail = next := by
  simp only [receiveMetadata, run_bind_eq_ok_iff, run_context_eq_ok_iff, run_pure_eq_ok_iff,
    run_liftM_result, Option.some.injEq, context_eq_ok_iff, Except.ok.injEq, exists_eq_left']

theorem writesMails_metadataLoop :
    WritesMails (metadataLoop env config imapFolder) ∅
      (fun fetch => HasMetadata fetch ∧ fetch.Decodable env)
      (announced env config imapFolder) := by
  refine WritesMails.of_step (fun _ => True) trivial ?_ ?_
  · intro current fetch _ accepted
    rcases exists_extractMetadata_iff.mpr accepted with ⟨mail, extracted⟩
    have writes : announced env config imapFolder fetch = some (mail.id, mail) := by
      rw [announced, extracted]
    rw [writes, Option.toList_some, Std.ExtTreeMap.insertMany_list_singleton]
    exact ⟨receiveMetadata_eq_ok_iff.mpr ⟨mail, extracted, rfl⟩, trivial⟩
  · intro current next fetch received
    rcases receiveMetadata_eq_ok_iff.mp received with ⟨mail, extracted, _⟩
    exact exists_extractMetadata_iff.mp ⟨mail, extracted⟩

end MetadataPhase

section BodyPhase

variable {config : Configuration} {uidIdMap : HashMap UInt32 String} {mails : HashMap String Mail}

/-- The mail with the body of a response, if the response has a body and is about a
requested mail. -/
def stored (config : Configuration) (uidIdMap : HashMap UInt32 String)
    (mails : HashMap String Mail) (fetch : Fetch) : Option (String × Mail) := do
  let uid ← fetch.uid
  let id ← uidIdMap[uid]?
  let mail ← mails[id]?
  let body ← fetch.body
  return (id, mail.storeBody config.maxMailSize.toNat body)

theorem receiveBody_eq_stored {fetch : Fetch} (hasUid : fetch.uid.isSome) :
    receiveBody config uidIdMap mails (.ok fetch) =
      .ok (mails.insertMany (stored config uidIdMap mails fetch).toList) := by
  rcases Option.isSome_iff_exists.mp hasUid with ⟨uid, found⟩
  simp only [receiveBody, stored, found, Result.context, orError, bind, Except.bind,
    Option.bind_some]
  cases uidIdMap[uid]? with
  | none => rfl
  | some id =>
      simp only [Option.bind_some]
      cases mails[id]? with
      | none => rfl
      | some mail =>
          cases fetch.body with
          | none => rfl
          | some body => rfl

/-- Two versions of the mails become the same when a body is stored. -/
def SameUpToBodies (maxMailSize : Nat) (mails other : HashMap String Mail) : Prop :=
  ∀ id : String, (mails[id]?.map fun mail => mail.storeBody maxMailSize) =
    other[id]?.map fun mail => mail.storeBody maxMailSize

theorem SameUpToBodies.stored_eq {other : HashMap String Mail}
    (same : SameUpToBodies config.maxMailSize.toNat mails other) (fetch : Fetch) :
    stored config uidIdMap mails fetch = stored config uidIdMap other fetch := by
  simp only [stored, bind, pure]
  congr 1
  funext uid
  congr 1
  funext id
  have here := same id
  cases first : mails[id]? <;> cases second : other[id]? <;> simp only [first, second] at here
  · rfl
  · cases here
  · cases here
  · simp only [Option.bind_some]
    congr 1
    funext body
    exact congrArg (fun mail => some (id, mail)) (congrFun (Option.some.inj here) body)

theorem SameUpToBodies.insertMany_stored {other : HashMap String Mail}
    (same : SameUpToBodies config.maxMailSize.toNat mails other) (fetch : Fetch) :
    SameUpToBodies config.maxMailSize.toNat
      (mails.insertMany (stored config uidIdMap mails fetch).toList) other := by
  cases written : stored config uidIdMap mails fetch with
  | none => simpa using same
  | some entry =>
      simp only [stored, bind, pure, Option.bind_eq_some_iff, Option.some.injEq] at written
      rcases written with ⟨uid, _, id, _, mail, present, body, _, rfl⟩
      intro key
      rw [Option.toList_some, Std.ExtTreeMap.insertMany_list_singleton,
        Std.ExtTreeMap.getElem?_insert]
      split
      · next equal =>
          rw [Std.compare_eq_iff_eq] at equal
          rw [← equal, ← same id, present]
          rfl
      · exact same key

theorem writesMails_bodyLoop :
    WritesMails (bodyLoop config uidIdMap mails) mails (fun fetch => fetch.uid.isSome)
      (stored config uidIdMap mails) := by
  have loop : bodyLoop config uidIdMap mails = fun stream => stream.foldlM (fun current response =>
      (liftM (receiveBody config uidIdMap current response) : MayPanic _)) mails := by
    funext stream
    exact ExceptT.ext run_foldlM_liftM.symm
  rw [loop]
  refine WritesMails.of_step (fun current => SameUpToBodies config.maxMailSize.toNat current mails)
    (fun _ => rfl) ?_ ?_
  · intro current fetch same accepted
    rw [← same.stored_eq]
    exact ⟨congrArg some (receiveBody_eq_stored accepted), same.insertMany_stored fetch⟩
  · intro current next fetch received
    have stepped : receiveBody config uidIdMap current (.ok fetch) = .ok next :=
      Option.some.inj received
    simp only [receiveBody, bind_eq_ok_iff, context_eq_ok_iff, Except.ok.injEq,
      exists_eq_left', orError_eq_ok_iff] at stepped
    rcases stepped with ⟨uid, found, _⟩
    rw [found]
    rfl

end BodyPhase

section Loops

variable {env : Externals} {config : Configuration} {imapFolder : String}
  {uidIdMap : HashMap UInt32 String} {mails : HashMap String Mail}

/-- A response with everything that the metadata phase requests. -/
structure CompleteMetadata (fetch : Fetch) : Prop where
  metadata : HasMetadata fetch
  size : fetch.size.isSome

/-- A response with everything that the body phase requests. -/
structure CompleteBody (fetch : Fetch) : Prop extends CompleteMetadata fetch where
  body : fetch.body.isSome

/-- Changes of flags carry no metadata but possibly a UID. -/
structure FlagsOnly (fetch : Fetch) : Prop where
  envelope : fetch.envelope = none
  internalDate : fetch.internalDate = none
  body : fetch.body = none

/-- In the metadata phase, no change of flags is harmless. -/
theorem harmless_metadata_flags_iff {stream : List StreamItem}
    (flags : ∀ item ∈ stream, item.additional = true → FlagsOnly item.fetch) :
    Harmless ∅ HasMetadata (announced env config imapFolder) stream ↔
      ∀ item ∈ stream, item.additional = false := by
  constructor
  · intro harmless item member
    cases additional : item.additional with
    | false => rfl
    | true =>
        rcases List.append_of_mem member with ⟨before, after, split⟩
        have metadata := (harmless before item after split additional).1
        rw [HasMetadata, (flags item member additional).envelope] at metadata
        cases metadata.2.1
  · intro none before item after split additional
    rw [none item (split ▸ List.mem_append_right _ List.mem_cons_self)] at additional
    cases additional

/-- In the body phase, changes of flags are harmless if they carry a UID. -/
theorem harmless_body_flags_iff {stream : List StreamItem}
    (flags : ∀ item ∈ stream, item.additional = true → FlagsOnly item.fetch) :
    Harmless mails (fun fetch => fetch.uid.isSome) (stored config uidIdMap mails) stream ↔
      ∀ item ∈ stream, item.additional = true → item.fetch.uid.isSome := by
  constructor
  · intro harmless item member additional
    rcases List.append_of_mem member with ⟨before, after, split⟩
    exact (harmless before item after split additional).1
  · intro hasUid before item after split additional
    have member : item ∈ stream := split ▸ List.mem_append_right _ List.mem_cons_self
    refine ⟨hasUid item member additional, ?_⟩
    intro id mail written
    have noBody := (flags item member additional).body
    simp [stored, noBody, bind] at written

/-- Both loops complete with the mails of the complete responses if and only if every subject
can be decoded and the additional responses are harmless. -/
theorem undisturbed_iff (env : Externals) (config : Configuration) (imapFolder : String)
    (uidIdMap : HashMap UInt32 String) (mails : HashMap String Mail)
    {metadataStream bodyStream : List StreamItem}
    (metadata : ∀ item ∈ metadataStream, item.additional = false → CompleteMetadata item.fetch)
    (bodies : ∀ item ∈ bodyStream, item.additional = false → CompleteBody item.fetch) :
    Undisturbed (metadataLoop env config imapFolder) metadataStream ∧
        Undisturbed (bodyLoop config uidIdMap mails) bodyStream ↔
      (∀ item ∈ metadataStream, item.fetch.Decodable env) ∧
        Harmless ∅ HasMetadata (announced env config imapFolder) metadataStream ∧
        Harmless mails (fun fetch => fetch.uid.isSome) (stored config uidIdMap mails)
          bodyStream := by
  have metadataPhase : Undisturbed (metadataLoop env config imapFolder) metadataStream ↔ _ :=
    writesMails_metadataLoop.undisturbed_iff_harmless
  have bodyPhase : Undisturbed (bodyLoop config uidIdMap mails) bodyStream ↔ _ :=
    writesMails_bodyLoop.undisturbed_iff_harmless
  rw [metadataPhase, bodyPhase, harmless_and_iff]
  constructor
  · rintro ⟨⟨solicited, additional, harmlessMetadata⟩, _, harmlessBodies⟩
    refine ⟨fun item member => ?_, harmlessMetadata, harmlessBodies⟩
    cases unasked : item.additional with
    | false => exact (solicited item member unasked).2
    | true => exact additional item member unasked
  · rintro ⟨decodable, harmlessMetadata, harmlessBodies⟩
    refine ⟨⟨fun item member asked => ?_, fun item member _ => decodable item member,
      harmlessMetadata⟩, fun item member asked => ?_, harmlessBodies⟩
    · exact ⟨(metadata item member asked).metadata, decodable item member⟩
    · exact (bodies item member asked).metadata.1

/-- A change of flags. -/
def sampleFlags (uid : Option UInt32) : StreamItem where
  fetch := { uid := uid, size := none, envelope := none, internalDate := none, body := none }
  additional := true

def sampleAnswer (body : Option (List UInt8)) : StreamItem where
  fetch := sampleFetch body 1
  additional := false

def sampleUidIdMap : HashMap UInt32 String :=
  (∅ : HashMap UInt32 String).insert 1 (sampleMail 1).id

theorem undisturbed_iff_sample :
    Undisturbed (metadataLoop sampleEnv sampleConfig "INBOX") [sampleAnswer none] ∧
      Undisturbed (bodyLoop sampleConfig sampleUidIdMap (sampleMetadata [1]))
        [sampleAnswer (some sampleBody), sampleFlags (some 4)] := by
  have complete : CompleteMetadata (sampleFetch none 1) := ⟨⟨rfl, rfl, rfl⟩, rfl⟩
  refine (undisturbed_iff sampleEnv sampleConfig "INBOX" sampleUidIdMap (sampleMetadata [1])
    ?_ ?_).mpr ⟨?_, ?_, ?_⟩
  · intro item member _
    rw [List.mem_singleton.mp member]
    exact complete
  · intro item member additional
    rcases List.mem_cons.mp member with rfl | flags
    · exact ⟨⟨⟨rfl, rfl, rfl⟩, rfl⟩, rfl⟩
    · rw [List.mem_singleton.mp flags] at additional
      cases additional
  · intro item member envelope given
    rw [List.mem_singleton.mp member] at given
    cases given
    decide +kernel
  · refine (harmless_metadata_flags_iff ?_).mpr ?_ <;> simp [sampleAnswer]
  · refine (harmless_body_flags_iff ?_).mpr ?_
    · intro item member additional
      rcases List.mem_cons.mp member with rfl | flags
      · cases additional
      · rw [List.mem_singleton.mp flags]
        exact ⟨rfl, rfl, rfl⟩
    · simp [sampleAnswer, sampleFlags]

/-- A change of flags without a UID ends either loop. -/
theorem not_undisturbed_sample :
    ¬ Undisturbed (metadataLoop sampleEnv sampleConfig "INBOX")
        [sampleAnswer none, sampleFlags none] ∧
      ¬ Undisturbed (bodyLoop sampleConfig sampleUidIdMap (sampleMetadata [1]))
        [sampleAnswer (some sampleBody), sampleFlags none] := by
  have metadata : (metadataLoop sampleEnv sampleConfig "INBOX"
      (delivered [sampleAnswer none, sampleFlags none])).run =
        some (.error "Unable to extract mail metadata: Mail server did not provide UID") := by
    decide +kernel
  have bodies : (bodyLoop sampleConfig sampleUidIdMap (sampleMetadata [1])
      (delivered [sampleAnswer (some sampleBody), sampleFlags none])).run =
        some (.error "Failed to get UID from IMAP fetch result") := by
    decide +kernel
  constructor
  · rintro ⟨mails, completed, _⟩
    rw [metadata] at completed
    cases completed
  · rintro ⟨mails, completed, _⟩
    rw [bodies] at completed
    cases completed

end Loops

end DmarcReportViewer
