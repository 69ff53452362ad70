import DmarcReportViewer.Lib.Text
import Mathlib.Data.List.GetD

/-!
# Hashes of files, mails and reports

The model of `hasher.rs`.  SHA-256 itself is a parameter.  A hash is the first
half of the digest of the concatenated parts in unpadded URL-safe Base64, so
every hash has the same length.
-/

namespace DmarcReportViewer

/-- The digest function: any byte string gives 32 bytes. -/
abbrev Sha256 : Type :=
  List UInt8 → Vector UInt8 32

namespace Base64

/-- The URL-safe alphabet. -/
def alphabet : List Char :=
  "ABCDEFGHIJKLMNOPQRSTUVWXYZabcdefghijklmnopqrstuvwxyz0123456789-_".toList

def symbol (index : ℕ) : Char :=
  alphabet.getD index 'A'

/-- URL-safe Base64 without padding: three bytes give four symbols, and one or
two bytes at the end give two or three. -/
def encode : List UInt8 → List Char
  | [] => []
  | [first] =>
      let bits := first.toNat * 16
      [symbol (bits / 64), symbol (bits % 64)]
  | [first, second] =>
      let bits := (first.toNat * 256 + second.toNat) * 4
      [symbol (bits / 4096), symbol (bits / 64 % 64), symbol (bits % 64)]
  | first :: second :: third :: rest =>
      let bits := (first.toNat * 256 + second.toNat) * 256 + third.toNat
      symbol (bits / 262144) :: symbol (bits / 4096 % 64) :: symbol (bits / 64 % 64) ::
        symbol (bits % 64) :: encode rest

theorem utf8Size_symbol (index : ℕ) : (symbol index).utf8Size = 1 := by
  have ascii : (alphabet.all fun char => char.utf8Size == 1) = true := by decide
  simp only [symbol]
  by_cases inside : index < alphabet.length
  · rw [List.getD_eq_getElem _ _ inside]
    exact eq_of_beq (List.all_eq_true.mp ascii _ (List.getElem_mem inside))
  · rw [List.getD_eq_default _ _ (by omega)]
    decide

theorem utf8Size_of_mem_encode {bytes : List UInt8} {char : Char} (member : char ∈ encode bytes) :
    char.utf8Size = 1 := by
  induction bytes using encode.induct with
  | case1 => simp [encode] at member
  | case2 first =>
      simp only [encode, List.mem_cons, List.not_mem_nil, or_false] at member
      rcases member with rfl | rfl <;> exact utf8Size_symbol _
  | case3 first second =>
      simp only [encode, List.mem_cons, List.not_mem_nil, or_false] at member
      rcases member with rfl | rfl | rfl <;> exact utf8Size_symbol _
  | case4 first second third rest ih =>
      simp only [encode, List.mem_cons] at member
      rcases member with rfl | rfl | rfl | rfl | later
      · exact utf8Size_symbol _
      · exact utf8Size_symbol _
      · exact utf8Size_symbol _
      · exact utf8Size_symbol _
      · exact ih later

theorem length_encode (bytes : List UInt8) :
    (encode bytes).length = (bytes.length * 4 + 2) / 3 := by
  induction bytes using encode.induct with
  | case1 => rfl
  | case2 first => simp [encode]
  | case3 first second => simp [encode]
  | case4 first second third rest ih =>
      simp only [encode, List.length_cons, ih]
      omega

theorem symbol_mem_alphabet (index : ℕ) : symbol index ∈ alphabet := by
  simp only [symbol]
  by_cases inside : index < alphabet.length
  · rw [List.getD_eq_getElem _ _ inside]
    exact List.getElem_mem inside
  · rw [List.getD_eq_default _ _ (by omega)]
    decide

theorem mem_encode {bytes : List UInt8} {char : Char} (member : char ∈ encode bytes) :
    ∃ index, char = symbol index := by
  induction bytes using encode.induct with
  | case1 => simp [encode] at member
  | case2 first =>
      simp only [encode, List.mem_cons, List.not_mem_nil, or_false] at member
      rcases member with same | same <;> exact ⟨_, same⟩
  | case3 first second =>
      simp only [encode, List.mem_cons, List.not_mem_nil, or_false] at member
      rcases member with same | same | same <;> exact ⟨_, same⟩
  | case4 first second third rest ih =>
      simp only [encode, List.mem_cons] at member
      rcases member with same | same | same | same | later
      · exact ⟨_, same⟩
      · exact ⟨_, same⟩
      · exact ⟨_, same⟩
      · exact ⟨_, same⟩
      · exact ih later

end Base64

def createHash (sha256 : Sha256) (parts : List (List UInt8)) : String :=
  let hash := sha256 parts.flatten
  let truncated := hash.toList.take 16
  String.ofList (Base64.encode truncated)

theorem createHash_flatten (sha256 : Sha256) (parts : List (List UInt8)) :
    createHash sha256 parts = createHash sha256 [parts.flatten] := by
  simp [createHash]

/-- Hashes have a fixed length, so a text can be told from a hash behind it. -/
theorem length_asBytes_createHash (sha256 : Sha256) (parts : List (List UInt8)) :
    (Text.asBytes (createHash sha256 parts)).length = 22 := by
  simp only [createHash]
  rw [Text.length_asBytes_ofList fun char member => Base64.utf8Size_of_mem_encode member]
  simp [Base64.length_encode]

/-- No two different byte strings of a list have the same hash. -/
def CollisionFree (sha256 : Sha256) (inputs : List (List UInt8)) : Prop :=
  ∀ left ∈ inputs, ∀ right ∈ inputs,
    createHash sha256 [left] = createHash sha256 [right] → left = right

instance (sha256 : Sha256) (inputs : List (List UInt8)) :
    Decidable (CollisionFree sha256 inputs) :=
  inferInstanceAs (Decidable (∀ left ∈ inputs, ∀ right ∈ inputs,
    createHash sha256 [left] = createHash sha256 [right] → left = right))

theorem CollisionFree.eq {sha256 : Sha256} {inputs : List (List UInt8)}
    (collisionFree : CollisionFree sha256 inputs) {left right : List (List UInt8)}
    (leftMem : left.flatten ∈ inputs) (rightMem : right.flatten ∈ inputs)
    (same : createHash sha256 left = createHash sha256 right) : left.flatten = right.flatten := by
  rw [createHash_flatten sha256 left, createHash_flatten sha256 right] at same
  exact collisionFree _ leftMem _ rightMem same

theorem CollisionFree.mono {sha256 : Sha256} {inputs more : List (List UInt8)}
    (collisionFree : CollisionFree sha256 more) (included : ∀ bytes ∈ inputs, bytes ∈ more) :
    CollisionFree sha256 inputs := by
  intro left leftMem right rightMem same
  exact collisionFree left (included left leftMem) right (included right rightMem) same

end DmarcReportViewer
