import DmarcReportViewer.Lib.Serde
import DmarcReportViewer.Lib.Text

/-!
# The XML format

XML elements as trees.  The members of a structure are blocks of neighbouring elements
with one name, so a sequence is written as repeated elements and an empty sequence is
not written at all.
-/

namespace Serde

/-- The content of an element: its text and the elements in it. -/
inductive Xml where
  | element (text : String) (children : List (String × Xml))

structure XmlDocument where
  name : String
  root : Xml

namespace Xml

/-- Neighbouring elements with the same name. -/
structure Block where
  first : Xml
  rest : List Xml

def Block.elements (block : Block) : List Xml :=
  block.first :: block.rest

def blocks : List (String × Xml) → List (String × Block)
  | [] => []
  | (name, first) :: children =>
      match blocks children with
      | [] => [(name, ⟨first, []⟩)]
      | (other, block) :: others =>
          if name = other then
            (name, ⟨first, block.elements⟩) :: others
          else
            (name, ⟨first, []⟩) :: (other, block) :: others

def unblocks (members : List (String × Block)) : List (String × Xml) :=
  members.flatMap fun member => member.2.elements.map fun node => (member.1, node)

theorem blocks_append {name : String} {first : Xml} {rest : List Xml}
    {children : List (String × Xml)}
    (other : ∀ member ∈ (blocks children).head?, member.1 ≠ name) :
    blocks ((first :: rest).map (fun node => (name, node)) ++ children) =
      (name, ⟨first, rest⟩) :: blocks children := by
  induction rest generalizing first with
  | nil =>
      simp only [List.map_cons, List.map_nil, List.cons_append, List.nil_append, blocks]
      cases following : blocks children with
      | nil => rfl
      | cons member members =>
          rw [following] at other
          exact if_neg (other member rfl).symm
  | cons second rest ih =>
      rw [List.map_cons, List.cons_append, blocks, ih]
      simp [Block.elements]

theorem blocks_unblocks {members : List (String × Block)}
    (distinct : (members.map Prod.fst).Nodup) : blocks (unblocks members) = members := by
  induction members with
  | nil => rfl
  | cons member members ih =>
      rw [List.map_cons, List.nodup_cons] at distinct
      have rest := ih distinct.2
      have split : unblocks (member :: members) =
          (member.2.first :: member.2.rest).map (fun node => (member.1, node)) ++
            unblocks members := rfl
      rw [split, blocks_append, rest]
      rw [rest]
      intro next head same
      have member := List.mem_map_of_mem (f := Prod.fst) (List.mem_of_head? head)
      exact distinct.1 (same ▸ member)

def readText : Xml → Except String String
  | element text [] => .ok text
  | element _ (_ :: _) => .error "unexpected element"

def readStruct : Xml → Except String (Layout Block)
  | element _ children => .ok (.named (blocks children))

def items : List Xml → Option Block
  | [] => none
  | first :: rest => some ⟨first, rest⟩

def format : Format where
  Node := Xml
  Member := Block
  text value := element value []
  readText := readText
  readVariant := readText
  number value := element value.repr []
  readNumber node := readText node >>= Text.parseNumber
  struct members := element "" (unblocks members)
  readStruct := readStruct
  single node := ⟨node, []⟩
  first := Block.first
  isSingle block := block.rest.isEmpty
  items := items
  readItems block := .ok block.elements
  null := ⟨element "" [], []⟩
  isNull _ := false
  readText_text _ := rfl
  readVariant_text _ := rfl
  readNumber_number value := Text.parseNumber_repr value
  readStruct_struct members distinct := by
    rw [readStruct, blocks_unblocks distinct]
  first_single _ := rfl
  isSingle_single _ := rfl
  readItems_items nodes block written := by
    cases nodes with
    | nil => cases written
    | cons first rest =>
        cases written
        rfl
  isNull_text _ := rfl
  isNull_number _ := rfl
  isNull_struct _ := rfl
  isNull_items _ _ _ := rfl

/-- A sequence which is read from XML is not empty, so it can be written. -/
theorem carries : format.Carries format := by
  intro block nodes read others lengths
  cases read
  cases others with
  | nil => cases lengths
  | cons first rest => exact ⟨_, rfl⟩

end Xml

end Serde
