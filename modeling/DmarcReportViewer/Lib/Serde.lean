import DmarcReportViewer.Lib.Fallible
import Mathlib.Data.List.Nodup

/-!
# Serializers and deserializers

Values are written to and read from the trees of any data format.  What a reader
accepts may be written differently from how it was read, or in another format, but it
must be read as the same value again.  A codec carries this law with it, so codecs for
larger types only have to be put together from those for smaller ones.
-/

namespace Serde

open Fallible

/-- What a structure is read from: members with names, or the values alone in the
order of the fields. -/
inductive Layout (μ : Type) where
  | named (members : List (String × μ))
  | positional (items : List μ)

/-- A data format.  A member is what stands under a name of a structure; it may be
the place of several nodes. -/
structure Format where
  Node : Type
  Member : Type
  text : String → Node
  readText : Node → Except String String
  /-- The name of a variant of an enumeration. -/
  readVariant : Node → Except String String
  number : Nat → Node
  readNumber : Node → Except String Nat
  struct : List (String × Member) → Node
  readStruct : Node → Except String (Layout Member)
  single : Node → Member
  first : Member → Node
  isSingle : Member → Bool
  /-- The member which stands for a sequence.  Some formats have none for the empty
  sequence. -/
  items : List Node → Option Member
  readItems : Member → Except String (List Node)
  null : Member
  isNull : Member → Bool
  readText_text : ∀ value, readText (text value) = .ok value
  readVariant_text : ∀ value, readVariant (text value) = .ok value
  readNumber_number : ∀ value, readNumber (number value) = .ok value
  readStruct_struct : ∀ members, (members.map Prod.fst).Nodup →
    readStruct (struct members) = .ok (.named members)
  first_single : ∀ node, first (single node) = node
  isSingle_single : ∀ node, isSingle (single node) = true
  readItems_items : ∀ nodes member, items nodes = some member → readItems member = .ok nodes
  isNull_text : ∀ value, isNull (single (text value)) = false
  isNull_number : ∀ value, isNull (single (number value)) = false
  isNull_struct : ∀ members, isNull (single (struct members)) = false
  isNull_items : ∀ nodes member, items nodes = some member → isNull member = false

/-- Every sequence which is read from the first format can be written in the second
one. -/
def Format.Carries (F G : Format) : Prop :=
  ∀ member nodes, F.readItems member = .ok nodes →
    ∀ others : List G.Node, others.length = nodes.length → ∃ written, G.items others = some written

def Format.HasNull (F : Format) : Prop :=
  F.isNull F.null = true

/-- A serializer and a deserializer for values of a type in any format.  What has been
read from one format is not lost when it is written in another one which meets the
requirement `P`. -/
structure Codec (P : Format → Prop) (α : Type) where
  serialize (F : Format) : α → F.Node
  deserialize (F : Format) : F.Node → Except String α
  present : ∀ (F : Format) value, F.isNull (F.single (serialize F value)) = false
  lossless : ∀ {F G : Format}, P G → F.Carries G → ∀ node value,
    deserialize F node = .ok value → deserialize G (serialize G value) = .ok value

/-- A codec for what stands under a name.  Every value which has been read is written. -/
structure MemberCodec (P : Format → Prop) (α : Type) where
  write (F : Format) : α → Option F.Member
  read (F : Format) : F.Member → Except String α
  lossless : ∀ {F G : Format}, P G → F.Carries G → ∀ member value, read F member = .ok value →
    ∃ written, write G value = some written ∧ G.isNull written = false ∧
      read G written = .ok value

/-- The form in which values of a type are written as texts. -/
structure TextForm (α : Type) where
  toText : α → String
  fromText : String → Except String α
  lossless : ∀ text value, fromText text = .ok value → fromText (toText value) = .ok value

namespace Codec

variable {P : Format → Prop} {α : Type}

def text : Codec P String where
  serialize F := F.text
  deserialize F := F.readText
  present F := F.isNull_text
  lossless {_ G} _ _ _ value _ := G.readText_text value

def ofText (form : TextForm α) : Codec P α where
  serialize F value := F.text (form.toText value)
  deserialize F node := F.readText node >>= form.fromText
  present F value := F.isNull_text (form.toText value)
  lossless {_ G} _ _ node value accepted := by
    rcases bind_eq_ok_iff.mp accepted with ⟨text, _, parsed⟩
    exact bind_eq_ok_iff.mpr ⟨_, G.readText_text _, form.lossless text value parsed⟩

def number (toNat : α → Nat) (ofNat? : Nat → Option α)
    (lossless : ∀ value, ofNat? (toNat value) = some value) : Codec P α where
  serialize F value := F.number (toNat value)
  deserialize F node := do
    let number ← F.readNumber node
    match ofNat? number with
    | some value => .ok value
    | none => .error "invalid value"
  present F value := F.isNull_number (toNat value)
  lossless {_ G} _ _ _ value _ := by
    refine bind_eq_ok_iff.mpr ⟨_, G.readNumber_number _, ?_⟩
    rw [lossless]

def uint8 : Codec P UInt8 :=
  number UInt8.toNat (fun value => if value < UInt8.size then some (.ofNat value) else none) <| by
    intro value
    rw [if_pos value.toNat_lt, UInt8.ofNat_toNat]

def uint64 : Codec P UInt64 :=
  number UInt64.toNat (fun value => if value < UInt64.size then some (.ofNat value) else none) <| by
    intro value
    rw [if_pos value.toNat_lt, UInt64.ofNat_toNat]

/-- An enumeration whose variants have one name each and any number of aliases. -/
def enumeration (all : List α) (name : α → String) (aliases : α → List String)
    (lossless : ∀ value, all.find? (fun other => name value ∈ name other :: aliases other) =
      some value) : Codec P α where
  serialize F value := F.text (name value)
  deserialize F node := do
    let text ← F.readVariant node
    match all.find? (fun value => text ∈ name value :: aliases value) with
    | some value => .ok value
    | none => .error s!"unknown variant {text}"
  present F value := F.isNull_text (name value)
  lossless {_ G} _ _ _ value _ := by
    refine bind_eq_ok_iff.mpr ⟨_, G.readVariant_text _, ?_⟩
    rw [lossless]

end Codec

section Members

variable {P : Format → Prop} {α : Type}

def one (codec : Codec P α) : MemberCodec P α where
  write F value := some (F.single (codec.serialize F value))
  read F member := do
    let value ← codec.deserialize F (F.first member)
    if F.isSingle member then .ok value else .error "duplicate field"
  lossless {_ G} suitable carries member value accepted := by
    rcases bind_eq_ok_iff.mp accepted with ⟨other, read, equal⟩
    split at equal
    case isTrue =>
      cases equal
      refine ⟨_, rfl, codec.present G _, bind_eq_ok_iff.mpr ⟨value, ?_, ?_⟩⟩
      · rw [G.first_single]
        exact codec.lossless suitable carries _ _ read
      · rw [G.isSingle_single, if_pos rfl]
    case isFalse => cases equal

def many (codec : Codec P α) : MemberCodec P (List α) where
  write F values := F.items (values.map (codec.serialize F))
  read F member := do
    let nodes ← F.readItems member
    nodes.mapM (codec.deserialize F)
  lossless {_ G} suitable carries member values accepted := by
    rcases bind_eq_ok_iff.mp accepted with ⟨nodes, read, deserialized⟩
    have lengths : (values.map (codec.serialize G)).length = nodes.length := by
      rw [List.length_map]
      exact length_eq_of_mapM_eq_ok deserialized
    rcases carries member nodes read _ lengths with ⟨written, writes⟩
    exact ⟨written, writes, G.isNull_items _ _ writes, bind_eq_ok_iff.mpr
      ⟨_, G.readItems_items _ _ writes,
        mapM_map_eq_ok (codec.lossless suitable carries) deserialized⟩⟩

end Members

/-- How the fields of a structure are read: a visitor stores each member in a slot,
and the slots are made into a value at the end. -/
structure Visitor (μ α : Type) where
  Slots : Type
  empty : Slots
  visit : String → μ → Slots → Except String Slots
  finish : Slots → Except String α
  /-- Reads the fields in their order, and returns the remaining items. -/
  next : List μ → Except String (α × List μ)

namespace Visitor

variable {μ α β : Type}

def visitAll (visitor : Visitor μ α) (members : List (String × μ)) (slots : visitor.Slots) :
    Except String visitor.Slots :=
  members.foldlM (fun slots member => visitor.visit member.1 member.2 slots) slots

@[simp]
theorem visitAll_nil (visitor : Visitor μ α) (slots : visitor.Slots) :
    visitor.visitAll [] slots = .ok slots :=
  rfl

theorem visitAll_cons_eq_ok_iff {visitor : Visitor μ α} {member : String × μ}
    {members : List (String × μ)} {slots final : visitor.Slots} :
    visitor.visitAll (member :: members) slots = .ok final ↔
      ∃ next, visitor.visit member.1 member.2 slots = .ok next ∧
        visitor.visitAll members next = .ok final := by
  rw [visitAll, List.foldlM_cons, bind_eq_ok_iff]
  rfl

theorem visitAll_append_eq_ok_iff {visitor : Visitor μ α} {earlier later : List (String × μ)}
    {slots final : visitor.Slots} :
    visitor.visitAll (earlier ++ later) slots = .ok final ↔
      ∃ next, visitor.visitAll earlier slots = .ok next ∧
        visitor.visitAll later next = .ok final := by
  rw [visitAll, List.foldlM_append, bind_eq_ok_iff]
  rfl

/-- A value is read from members with names. -/
def Reads (visitor : Visitor μ α) (members : List (String × μ)) (value : α) : Prop :=
  ∃ slots, visitor.visitAll members visitor.empty = .ok slots ∧ visitor.finish slots = .ok value

/-- A value is read in one of the two ways. -/
def Produces (visitor : Visitor μ α) (value : α) : Prop :=
  (∃ members, visitor.Reads members value) ∨
    ∃ items rest, visitor.next items = .ok (value, rest)

/-- The visitor of one field.  A repeated member is an error. -/
def field (name : String) (read : μ → Except String α) (missing : Except String α) :
    Visitor μ α where
  Slots := Option α
  empty := none
  visit key member slot :=
    if key = name then
      if slot.isSome then .error s!"duplicate field {name}" else some <$> read member
    else
      .ok slot
  finish slot :=
    match slot with
    | some value => .ok value
    | none => missing
  next items :=
    match items with
    | [] => .error "invalid length"
    | item :: rest => (fun value => (value, rest)) <$> read item

/-- The visitors of two groups of fields.  The second one gets the items which the
first one leaves. -/
def and (first : Visitor μ α) (second : Visitor μ β) : Visitor μ (α × β) where
  Slots := first.Slots × second.Slots
  empty := (first.empty, second.empty)
  visit key member slots := do
    let left ← first.visit key member slots.1
    let right ← second.visit key member slots.2
    .ok (left, right)
  finish slots := do
    let left ← first.finish slots.1
    let right ← second.finish slots.2
    .ok (left, right)
  next items := do
    let (left, items) ← first.next items
    let (right, items) ← second.next items
    .ok ((left, right), items)

section Field

variable {name : String} {read : μ → Except String α} {missing : Except String α} {value : α}

theorem read_of_visitAll {members : List (String × μ)} {slot : Option α}
    (visited : (field name read missing).visitAll members slot = .ok (some value)) :
    slot = some value ∨ ∃ member, read member = .ok value := by
  induction members generalizing slot with
  | nil => exact Or.inl (pure_eq_ok_iff.mp visited)
  | cons member members ih =>
      rcases visitAll_cons_eq_ok_iff.mp visited with ⟨next, stored, later⟩
      rcases ih later with rfl | known
      · simp only [field] at stored
        split at stored
        · split at stored
          · cases stored
          · rcases map_eq_ok_iff.mp stored with ⟨other, found, equal⟩
            cases equal
            exact Or.inr ⟨member.2, found⟩
        · cases stored
          exact Or.inl rfl
      · exact Or.inr known

/-- A value of a field has been read from a member, unless there was none. -/
theorem read_of_produces (produced : (field name read missing).Produces value) :
    (∃ member, read member = .ok value) ∨ missing = .ok value := by
  rcases produced with ⟨members, slots, visited, finished⟩ | ⟨items, rest, consumed⟩
  · cases slots with
    | none => exact Or.inr finished
    | some other =>
        cases finished
        rcases read_of_visitAll visited with empty | known
        · cases empty
        · exact Or.inl known
  · cases items with
    | nil => cases consumed
    | cons item items =>
        rcases map_eq_ok_iff.mp consumed with ⟨other, found, equal⟩
        cases equal
        exact Or.inl ⟨item, found⟩

end Field

section Groups

variable {first : Visitor μ α} {second : Visitor μ β}

theorem visitAll_and_eq_ok_iff {members : List (String × μ)}
    {slots final : (first.and second).Slots} :
    (first.and second).visitAll members slots = .ok final ↔
      first.visitAll members slots.1 = .ok final.1 ∧
        second.visitAll members slots.2 = .ok final.2 := by
  induction members generalizing slots with
  | nil =>
      simp only [visitAll_nil, Except.ok.injEq]
      exact Prod.ext_iff
  | cons member members ih =>
      simp only [visitAll_cons_eq_ok_iff, ih]
      constructor
      · rintro ⟨next, visited, left, right⟩
        rcases bind_eq_ok_iff.mp visited with ⟨next₁, visited₁, rest⟩
        rcases bind_eq_ok_iff.mp rest with ⟨next₂, visited₂, equal⟩
        cases equal
        exact ⟨⟨_, visited₁, left⟩, ⟨_, visited₂, right⟩⟩
      · rintro ⟨⟨next₁, visited₁, left⟩, ⟨next₂, visited₂, right⟩⟩
        refine ⟨(next₁, next₂), ?_, left, right⟩
        exact bind_eq_ok_iff.mpr ⟨_, visited₁, bind_eq_ok_iff.mpr ⟨_, visited₂, rfl⟩⟩

theorem finish_and_eq_ok_iff {slots : (first.and second).Slots} {value : α × β} :
    (first.and second).finish slots = .ok value ↔
      first.finish slots.1 = .ok value.1 ∧ second.finish slots.2 = .ok value.2 := by
  constructor
  · intro finished
    rcases bind_eq_ok_iff.mp finished with ⟨left, finished₁, rest⟩
    rcases bind_eq_ok_iff.mp rest with ⟨right, finished₂, equal⟩
    cases equal
    exact ⟨finished₁, finished₂⟩
  · rintro ⟨finished₁, finished₂⟩
    exact bind_eq_ok_iff.mpr ⟨_, finished₁, bind_eq_ok_iff.mpr ⟨_, finished₂, rfl⟩⟩

theorem reads_and_iff {members : List (String × μ)} {value : α × β} :
    (first.and second).Reads members value ↔
      first.Reads members value.1 ∧ second.Reads members value.2 := by
  simp only [Reads, visitAll_and_eq_ok_iff, finish_and_eq_ok_iff]
  constructor
  · rintro ⟨slots, ⟨visited₁, visited₂⟩, finished₁, finished₂⟩
    exact ⟨⟨_, visited₁, finished₁⟩, ⟨_, visited₂, finished₂⟩⟩
  · rintro ⟨⟨slots₁, visited₁, finished₁⟩, ⟨slots₂, visited₂, finished₂⟩⟩
    exact ⟨(slots₁, slots₂), ⟨visited₁, visited₂⟩, finished₁, finished₂⟩

theorem produces_of_and {value : α × β} (produced : (first.and second).Produces value) :
    first.Produces value.1 ∧ second.Produces value.2 := by
  rcases produced with ⟨members, read⟩ | ⟨items, rest, consumed⟩
  · rcases reads_and_iff.mp read with ⟨read₁, read₂⟩
    exact ⟨Or.inl ⟨members, read₁⟩, Or.inl ⟨members, read₂⟩⟩
  · rcases bind_eq_ok_iff.mp consumed with ⟨⟨left, between⟩, consumed₁, more⟩
    rcases bind_eq_ok_iff.mp more with ⟨⟨right, last⟩, consumed₂, equal⟩
    cases equal
    exact ⟨Or.inr ⟨items, between, consumed₁⟩, Or.inr ⟨between, rest, consumed₂⟩⟩

end Groups

end Visitor

/-- The fields of a structure.  The laws hold if the names of the fields are
different. -/
structure Fields (P : Format → Prop) (α : Type) where
  visitor (F : Format) : Visitor F.Member α
  names : List String
  write (F : Format) : α → List (String × F.Member)
  visit_other : ∀ (F : Format) name member slots, name ∉ names →
    (visitor F).visit name member slots = .ok slots
  write_names : ∀ (F : Format) value, ((write F value).map Prod.fst).Sublist names
  lossless : ∀ {F G : Format}, P G → F.Carries G → names.Nodup →
    ∀ value, (visitor F).Produces value → (visitor G).Reads (write G value) value

namespace Fields

variable {P : Format → Prop} {F : Format} {α β : Type}

theorem visitAll_other (fields : Fields P α) {members : List (String × F.Member)}
    (other : ∀ member ∈ members, member.1 ∉ fields.names) (slots : (fields.visitor F).Slots) :
    (fields.visitor F).visitAll members slots = .ok slots := by
  induction members with
  | nil => rfl
  | cons member members ih =>
      refine Visitor.visitAll_cons_eq_ok_iff.mpr ⟨slots, ?_, ih ?_⟩
      · exact fields.visit_other _ _ _ _ (other member List.mem_cons_self)
      · exact fun another later => other another (List.mem_cons_of_mem _ later)

theorem mem_names (fields : Fields P α) {value : α} {member : String × F.Member}
    (written : member ∈ fields.write F value) : member.1 ∈ fields.names :=
  (fields.write_names F value).subset (List.mem_map_of_mem written)

def field (name : String) (read : (F : Format) → F.Member → Except String α)
    (missing : Except String α) (write : (F : Format) → α → Option F.Member)
    (lossless : ∀ {F G : Format}, P G → F.Carries G → ∀ value,
      ((∃ member, read F member = .ok value) ∨ missing = .ok value) →
        match write G value with
        | some member => read G member = .ok value
        | none => missing = .ok value) : Fields P α where
  visitor F := .field name (read F) missing
  names := [name]
  write F value := ((write F value).map fun member => (name, member)).toList
  visit_other F key member slots other := if_neg (by simpa using other)
  write_names F value := by
    cases write F value <;> simp
  lossless suitable carries _ value produced := by
    have kept := lossless suitable carries value (Visitor.read_of_produces produced)
    split at kept
    case h_1 member writes =>
      refine ⟨some value, ?_, rfl⟩
      rw [writes]
      refine Visitor.visitAll_cons_eq_ok_iff.mpr ⟨some value, ?_, rfl⟩
      simp [Visitor.field, kept]
    case h_2 nothing =>
      refine ⟨none, ?_, kept⟩
      rw [nothing]
      rfl

def required (name : String) (codec : MemberCodec P α) : Fields P α :=
  field name codec.read (.error s!"missing field {name}") codec.write <| by
    intro F G suitable carries value produced
    rcases produced with ⟨member, accepted⟩ | impossible
    · rcases codec.lossless suitable carries member value accepted with ⟨written, writes, _, kept⟩
      rw [writes]
      exact kept
    · cases impossible

def readOption (codec : MemberCodec P α) (F : Format) (member : F.Member) :
    Except String (Option α) :=
  if F.isNull member then .ok none else some <$> codec.read F member

theorem readOption_of_lossless (codec : MemberCodec P α) {G : Format} (suitable : P G)
    (carries : F.Carries G) {member : F.Member} {value : α}
    (accepted : readOption codec F member = .ok (some value)) :
    ∃ written, codec.write G value = some written ∧
      readOption codec G written = .ok (some value) := by
  simp only [readOption] at accepted
  split at accepted
  · cases accepted
  · rcases map_eq_ok_iff.mp accepted with ⟨other, read, equal⟩
    cases equal
    rcases codec.lossless suitable carries member value read with ⟨written, writes, present, kept⟩
    refine ⟨written, writes, ?_⟩
    rw [readOption, present, kept]
    rfl

/-- An optional field which is skipped if it has no value. -/
def optional (name : String) (codec : MemberCodec P α) : Fields P (Option α) :=
  field name (readOption codec) (.ok none) (fun F value => value.bind (codec.write F)) <| by
    intro F G suitable carries value produced
    cases value with
    | none => rfl
    | some value =>
        rcases produced with ⟨member, accepted⟩ | impossible
        · rcases readOption_of_lossless codec suitable carries accepted with
            ⟨written, writes, kept⟩
          rw [Option.bind_some, writes]
          exact kept
        · cases impossible

/-- An optional field which is written as null if it has no value. -/
def nullable (hasNull : ∀ G, P G → G.HasNull) (name : String) (codec : MemberCodec P α) :
    Fields P (Option α) :=
  field name (readOption codec) (.ok none)
    (fun F value =>
      match value with
      | some value => codec.write F value
      | none => some F.null) <| by
    intro F G suitable carries value produced
    cases value with
    | none => exact if_pos (hasNull G suitable)
    | some value =>
        rcases produced with ⟨member, accepted⟩ | impossible
        · rcases readOption_of_lossless codec suitable carries accepted with
            ⟨written, writes, kept⟩
          simp only [writes]
          exact kept
        · cases impossible

def and (first : Fields P α) (second : Fields P β) : Fields P (α × β) where
  visitor F := (first.visitor F).and (second.visitor F)
  names := first.names ++ second.names
  write F value := first.write F value.1 ++ second.write F value.2
  visit_other F key member slots other := by
    rw [List.mem_append, not_or] at other
    refine bind_eq_ok_iff.mpr ⟨_, first.visit_other F _ _ _ other.1, ?_⟩
    exact bind_eq_ok_iff.mpr ⟨_, second.visit_other F _ _ _ other.2, rfl⟩
  write_names F value := by
    rw [List.map_append]
    exact (first.write_names F value.1).append (second.write_names F value.2)
  lossless {_ G} suitable carries distinct value produced := by
    rw [List.nodup_append] at distinct
    rcases distinct with ⟨distinct₁, distinct₂, disjoint⟩
    rcases Visitor.produces_of_and produced with ⟨produced₁, produced₂⟩
    rcases first.lossless suitable carries distinct₁ value.1 produced₁ with
      ⟨slots₁, visited₁, finished₁⟩
    rcases second.lossless suitable carries distinct₂ value.2 produced₂ with
      ⟨slots₂, visited₂, finished₂⟩
    apply Visitor.reads_and_iff.mpr
    constructor
    · refine ⟨slots₁, Visitor.visitAll_append_eq_ok_iff.mpr ⟨slots₁, visited₁, ?_⟩, finished₁⟩
      apply first.visitAll_other
      intro member written shared
      exact disjoint _ shared _ (second.mem_names written) rfl
    · refine ⟨slots₂, Visitor.visitAll_append_eq_ok_iff.mpr ⟨_, ?_, visited₂⟩, finished₂⟩
      apply second.visitAll_other
      intro member written shared
      exact disjoint _ (first.mem_names written) _ shared rfl

@[simp]
theorem names_required (name : String) (codec : MemberCodec P α) :
    (required name codec).names = [name] :=
  rfl

@[simp]
theorem names_optional (name : String) (codec : MemberCodec P α) :
    (optional name codec).names = [name] :=
  rfl

@[simp]
theorem names_nullable (hasNull : ∀ G, P G → G.HasNull) (name : String)
    (codec : MemberCodec P α) : (nullable hasNull name codec).names = [name] :=
  rfl

@[simp]
theorem names_and (first : Fields P α) (second : Fields P β) :
    (first.and second).names = first.names ++ second.names :=
  rfl

end Fields

/-- A structure whose values are built from their fields.  Members with other names
are ignored. -/
def Codec.struct {P : Format → Prop} {α β : Type} (fields : Fields P β) (build : β → α)
    (parts : α → β) (parts_build : ∀ value, parts (build value) = value)
    (distinct : fields.names.Nodup) : Codec P α where
  serialize F value := F.struct (fields.write F (parts value))
  deserialize F node := do
    match ← F.readStruct node with
    | .named members =>
        let slots ← (fields.visitor F).visitAll members (fields.visitor F).empty
        build <$> (fields.visitor F).finish slots
    | .positional items =>
        let (value, rest) ← (fields.visitor F).next items
        if rest.isEmpty then .ok (build value) else .error "invalid length"
  present F value := F.isNull_struct _
  lossless {F G} suitable carries node value accepted := by
    have produced : ∃ tuple, (fields.visitor F).Produces tuple ∧ build tuple = value := by
      rcases bind_eq_ok_iff.mp accepted with ⟨layout, _, read⟩
      cases layout with
      | named members =>
          rcases bind_eq_ok_iff.mp read with ⟨slots, visited, finished⟩
          rcases map_eq_ok_iff.mp finished with ⟨tuple, finishedTuple, built⟩
          exact ⟨tuple, Or.inl ⟨members, slots, visited, finishedTuple⟩, built⟩
      | positional items =>
          rcases bind_eq_ok_iff.mp read with ⟨⟨tuple, rest⟩, consumed, finished⟩
          dsimp only at finished
          split at finished
          · cases finished
            exact ⟨tuple, Or.inr ⟨items, rest, consumed⟩, rfl⟩
          · cases finished
    rcases produced with ⟨tuple, produced, rfl⟩
    rcases fields.lossless suitable carries distinct tuple produced with
      ⟨slots, visited, finished⟩
    have written : ((fields.write G tuple).map Prod.fst).Nodup :=
      (fields.write_names G tuple).nodup distinct
    rw [parts_build]
    refine bind_eq_ok_iff.mpr ⟨_, G.readStruct_struct _ written, ?_⟩
    exact bind_eq_ok_iff.mpr ⟨slots, visited, map_eq_ok_iff.mpr ⟨tuple, finished, rfl⟩⟩

end Serde
