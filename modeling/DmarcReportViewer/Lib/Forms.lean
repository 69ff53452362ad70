import DmarcReportViewer.Lib.Percent
import DmarcReportViewer.Lib.Splitting

/-!
# Query strings

Pairs of names and values as forms send them: joined by ampersands, with a plus sign for
a space and other characters percent-encoded.  How bytes which are not valid UTF-8 become
a text is a parameter.
-/

namespace Forms

open Text

variable (lossy : List UInt8 → String)

/-- The text for which a name or a value stands. -/
def decode (text : String) : String :=
  lossy (Percent.decodeChars (text.toList.map fun char => if char = '+' then ' ' else char))

def parsePair (piece : String) : String × String :=
  match splitOnce piece '=' with
  | some (name, value) => (decode lossy name, decode lossy value)
  | none => (decode lossy piece, decode lossy "")

def parse (query : String) : List (String × String) :=
  ((split query "&").filter fun piece => piece ≠ "").map (parsePair lossy)

/-- A field which occurs at most once.  The request is rejected if it occurs repeatedly or
if its value cannot be read. -/
def field {α : Type} (pairs : List (String × String)) (name : String) (read : String → Option α) :
    Option (Option α) :=
  match pairs.filter fun pair => pair.1 = name with
  | [] => some none
  | [pair] => (read pair.2).map some
  | _ => none

def pairText (pair : String × String) : String :=
  pair.1 ++ "=" ++ pair.2

def join (pairs : List (String × String)) : String :=
  "&".intercalate (pairs.map pairText)

section Pairs

variable {lossy}

/-- A pair which is told apart from its neighbours, and its name from its value. -/
def Separable (pair : String × String) : Prop :=
  '&' ∉ pair.1.toList ∧ '=' ∉ pair.1.toList ∧ '&' ∉ pair.2.toList

theorem join_ne_empty {pairs : List (String × String)} (some : pairs ≠ []) : join pairs ≠ "" := by
  rcases pairs with _ | ⟨first, _ | ⟨second, rest⟩⟩
  · exact absurd rfl some
  · simp [join, pairText]
  · simp [join, pairText, String.intercalate_cons_cons]

theorem parsePair_pairText {pair : String × String} (separable : Separable pair) :
    parsePair lossy (pairText pair) = (decode lossy pair.1, decode lossy pair.2) := by
  have text : pairText pair =
      String.ofList (pair.1.toList ++ '=' :: pair.2.toList) := by
    apply String.toList_inj.mp
    simp [pairText]
  rw [parsePair, text, splitOnce_of_not_mem separable.2.1]
  simp only [String.ofList_toList]

/-- The pairs which were joined are found again. -/
theorem parse_join {pairs : List (String × String)} (separable : ∀ pair ∈ pairs, Separable pair) :
    parse lossy (join pairs) =
      pairs.map fun pair => (decode lossy pair.1, decode lossy pair.2) := by
  rcases pairs with _ | ⟨first, rest⟩
  · rfl
  · have found : split (join (first :: rest)) "&" = (first :: rest).map pairText := by
      apply split_intercalate (by decide) (by simp)
      intro piece member
      rcases List.mem_map.mp member with ⟨pair, inPairs, rfl⟩
      have separable := separable pair inPairs
      change Clear ['&'] _
      rw [clear_singleton_iff, pairText]
      simp [separable.1, separable.2.2]
    have filled : ((first :: rest).map pairText).filter (fun piece => piece ≠ "") =
        (first :: rest).map pairText := by
      apply List.filter_eq_self.mpr
      intro piece member
      rcases List.mem_map.mp member with ⟨pair, _, rfl⟩
      simp [pairText]
    rw [parse, found, filled, List.map_map]
    exact List.map_congr_left fun pair member => parsePair_pairText (separable pair member)

end Pairs

section Values

variable {lossy}

/-- Only the percent-encoding counts in a text without plus signs. -/
theorem decode_of_not_mem {text : String} (absent : '+' ∉ text.toList) :
    decode lossy text = lossy (Percent.decodeChars text.toList) := by
  have unchanged :
      text.toList.map (fun char => if char = '+' then ' ' else char) = text.toList := by
    have kept : ∀ char ∈ text.toList, (if char = '+' then ' ' else char) = char :=
      fun char member => if_neg fun same : char = '+' => absent (same ▸ member)
    rw [List.map_congr_left kept, List.map_id']
  rw [decode, unchanged]

end Values

section Fields

variable {α : Type} {pairs : List (String × String)} {name : String} {read : String → Option α}

theorem field_of_absent (absent : ∀ pair ∈ pairs, pair.1 ≠ name) :
    field pairs name read = some none := by
  have none : (pairs.filter fun pair => pair.1 = name) = [] := by
    rw [List.filter_eq_nil_iff]
    intro pair member
    simpa using absent pair member
  rw [field, none]

theorem field_cons_of_ne {other value : String} (different : other ≠ name) :
    field ((other, value) :: pairs) name read = field pairs name read := by
  rw [field, List.filter_cons_of_neg (by simpa using different), field]

theorem field_cons_of_absent {value : String} (absent : ∀ pair ∈ pairs, pair.1 ≠ name) :
    field ((name, value) :: pairs) name read = (read value).map some := by
  have none : (pairs.filter fun pair => pair.1 = name) = [] := by
    rw [List.filter_eq_nil_iff]
    intro pair member
    simpa using absent pair member
  rw [field, List.filter_cons_of_pos (by simp), none]

end Fields

end Forms
