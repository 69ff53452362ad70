import DmarcReportViewer.Lib.Serde

/-!
# The JSON format

JSON values as trees.  A structure may also be read from an array, and a variant from
an object with one member.
-/

namespace Serde

inductive Json where
  | null
  /-- A boolean, or a number which is negative or not whole. -/
  | literal (text : String)
  | number (value : Nat)
  | string (value : String)
  | array (items : List Json)
  | object (members : List (String × Json))

namespace Json

def readText : Json → Except String String
  | string value => .ok value
  | _ => .error "invalid type, expected a string"

def readVariant : Json → Except String String
  | string value => .ok value
  | object [(name, null)] => .ok name
  | _ => .error "invalid type, expected a variant"

def readNumber : Json → Except String Nat
  | number value => .ok value
  | _ => .error "invalid type, expected a number"

def readStruct : Json → Except String (Layout Json)
  | object members => .ok (.named members)
  | array items => .ok (.positional items)
  | _ => .error "invalid type, expected a structure"

def readItems : Json → Except String (List Json)
  | array items => .ok items
  | _ => .error "invalid type, expected a sequence"

def isNull : Json → Bool
  | null => true
  | _ => false

def format : Format where
  Node := Json
  Member := Json
  text := string
  readText := readText
  readVariant := readVariant
  number := number
  readNumber := readNumber
  struct := object
  readStruct := readStruct
  single := id
  first := id
  isSingle _ := true
  items nodes := some (array nodes)
  readItems := readItems
  null := null
  isNull := isNull
  readText_text _ := rfl
  readVariant_text _ := rfl
  readNumber_number _ := rfl
  readStruct_struct _ _ := rfl
  first_single _ := rfl
  isSingle_single _ := rfl
  readItems_items := by
    rintro nodes _ ⟨⟩
    rfl
  isNull_text _ := rfl
  isNull_number _ := rfl
  isNull_struct _ := rfl
  isNull_items := by
    rintro nodes _ ⟨⟩
    rfl

theorem hasNull : format.HasNull :=
  rfl

/-- Every sequence is an array in JSON. -/
theorem carries (F : Format) : F.Carries format :=
  fun _ _ _ others _ => ⟨array others, rfl⟩

/-- The member of an object with a name. -/
def get (name : String) : Json → Option Json
  | object members => members.lookup name
  | _ => none

def ofValue {P : Format → Prop} {α : Type} (codec : Codec P α) (value : α) : Json :=
  codec.serialize format value

end Json

end Serde
