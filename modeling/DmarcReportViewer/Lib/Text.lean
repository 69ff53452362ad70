import Mathlib.Data.List.Infix

/-!
# Operations on texts

The string operations of a systems language, on strings as sequences of
Unicode scalar values.
-/

namespace Text

/-- The characters with the Unicode property `White_Space`. -/
def isWhitespace (char : Char) : Bool :=
  let code := char.toNat
  (0x09 ≤ code && code ≤ 0x0d) || code == 0x20 || code == 0x85 || code == 0xa0 ||
    code == 0x1680 || (0x2000 ≤ code && code ≤ 0x200a) || code == 0x2028 || code == 0x2029 ||
    code == 0x202f || code == 0x205f || code == 0x3000

def trim (text : String) : String :=
  String.ofList
    (((text.toList.dropWhile isWhitespace).reverse.dropWhile isWhitespace).reverse)

def contains (text pattern : String) : Bool :=
  decide (pattern.toList <:+: text.toList)

def startsWith (text pattern : String) : Bool :=
  pattern.toList.isPrefixOf text.toList

def endsWith (text pattern : String) : Bool :=
  pattern.toList.isSuffixOf text.toList

/-- The rest of a text behind a prefix, if it starts with that prefix. -/
def stripPrefix (text pattern : String) : Option String :=
  if startsWith text pattern then some (String.ofList (text.toList.drop pattern.length)) else none

/-- Drop the last character, if there is one. -/
def pop (text : String) : String :=
  String.ofList text.toList.dropLast

/-- Drop the first character, if there is one. -/
def removeFirst (text : String) : String :=
  String.ofList text.toList.tail

/-- The pieces between the occurrences of a separator.  `skip` characters of a
separator that was found are still to be passed over, and `piece` holds the
current piece, last character first. -/
def splitAux (separator : List Char) : Nat → List Char → List Char → List (List Char)
  | _, piece, [] => [piece.reverse]
  | skip + 1, piece, _ :: rest => splitAux separator skip piece rest
  | 0, piece, char :: rest =>
      if separator.isPrefixOf (char :: rest) then
        piece.reverse :: splitAux separator (separator.length - 1) [] rest
      else
        splitAux separator 0 (char :: piece) rest

def split (text separator : String) : List String :=
  (splitAux separator.toList 0 [] text.toList).map String.ofList

/-- The number for which a text stands in decimal notation. -/
def parseNumber (text : String) : Except String Nat :=
  let digits := if startsWith text "+" then text.toList.tail else text.toList
  if text = "" then
    .error "cannot parse integer from empty string"
  else if digits ≠ [] ∧ digits.all Char.isDigit then
    .ok (Nat.ofDigitChars 10 digits 0)
  else
    .error "invalid digit found in string"

theorem isAlpha_iff {char : Char} :
    char.isAlpha = true ↔
      65 ≤ char.toNat ∧ char.toNat ≤ 90 ∨ 97 ≤ char.toNat ∧ char.toNat ≤ 122 := by
  have codes : char.isAlpha =
      (decide (char.val ≥ 'A'.val ∧ char.val ≤ 'Z'.val) ||
        decide (char.val ≥ 'a'.val) && decide (char.val ≤ 'z'.val)) := rfl
  simp only [codes, Bool.or_eq_true, Bool.and_eq_true, decide_eq_true_eq, ge_iff_le,
    UInt32.le_iff_toNat_le]
  rfl

theorem isAlphanum_iff {char : Char} :
    char.isAlphanum = true ↔
      65 ≤ char.toNat ∧ char.toNat ≤ 90 ∨ 97 ≤ char.toNat ∧ char.toNat ≤ 122 ∨
        48 ≤ char.toNat ∧ char.toNat ≤ 57 := by
  rw [Char.isAlphanum, Bool.or_eq_true, isAlpha_iff, Char.isDigit_iff_toNat, or_assoc]
  rfl

theorem isWhitespace_of_isDigit {char : Char} (digit : char.isDigit = true) :
    isWhitespace char = false := by
  have range : 48 ≤ char.toNat ∧ char.toNat ≤ 57 := Char.isDigit_iff_toNat.mp digit
  simp [isWhitespace]
  omega

/-- Only the white space around a text which neither begins nor ends with some is removed. -/
theorem trim_append {before core after : List Char}
    (blankBefore : ∀ char ∈ before, isWhitespace char = true)
    (blankAfter : ∀ char ∈ after, isWhitespace char = true)
    (solid : ∀ char ∈ core, isWhitespace char = false) (nonempty : core ≠ []) :
    trim (String.ofList (before ++ core ++ after)) = String.ofList core := by
  have stops : ∀ {chars rest : List Char}, chars ≠ [] →
      (∀ char ∈ chars, isWhitespace char = false) →
        (chars ++ rest).dropWhile isWhitespace = chars ++ rest := by
    intro chars rest some solid
    cases chars with
    | nil => exact absurd rfl some
    | cons char chars =>
        exact List.dropWhile_cons_of_neg (by simp [solid char List.mem_cons_self])
  rw [trim, String.toList_ofList, List.append_assoc, List.dropWhile_append_of_pos blankBefore,
    stops nonempty solid, List.reverse_append,
    List.dropWhile_append_of_pos (by simpa using blankAfter)]
  rw [← List.append_nil core.reverse, stops (by simpa using nonempty) (by simpa using solid)]
  simp

theorem parseNumber_repr (number : Nat) : parseNumber number.repr = .ok number := by
  have digits : ∀ char ∈ Nat.toDigits 10 number, char.isDigit := fun char member =>
    Nat.isDigit_of_mem_toDigits (by decide) (by decide) member
  have unsigned : startsWith number.repr "+" = false := by
    rw [startsWith, Nat.toList_repr]
    cases written : Nat.toDigits 10 number with
    | nil => rfl
    | cons char rest =>
        have digit := digits char (written ▸ List.mem_cons_self)
        have sign : '+' ≠ char := by
          rintro rfl
          cases digit
        change List.isPrefixOf ['+'] (char :: rest) = false
        rw [List.isPrefixOf_cons_cons, beq_false_of_ne sign, Bool.false_and]
  simp only [parseNumber, unsigned, Nat.toList_repr, Bool.false_eq_true, if_false]
  rw [if_neg Nat.repr_ne_empty, if_pos ⟨Nat.toDigits_ne_nil, List.all_eq_true.mpr digits⟩,
    Nat.ofDigitChars_ten_toDigits]

def asBytes (text : String) : List UInt8 :=
  text.toUTF8.data.toList

theorem asBytes_injective : Function.Injective asBytes := by
  intro left right same
  have sameData : left.toUTF8.data = right.toUTF8.data := Array.toList_inj.mp same
  exact String.toByteArray_inj.mp (ByteArray.ext sameData)

theorem asBytes_ofList (chars : List Char) :
    asBytes (String.ofList chars) = chars.flatMap String.utf8EncodeChar := by
  simp [asBytes, List.utf8Encode]

theorem length_asBytes_ofList {chars : List Char} (ascii : ∀ char ∈ chars, char.utf8Size = 1) :
    (asBytes (String.ofList chars)).length = chars.length := by
  rw [asBytes_ofList]
  induction chars with
  | nil => rfl
  | cons char chars ih =>
      have first := ascii char List.mem_cons_self
      have rest := ih fun other member => ascii other (List.mem_cons_of_mem _ member)
      simp [first, rest]
      omega

theorem asBytes_append (left right : String) :
    asBytes (left ++ right) = asBytes left ++ asBytes right := by
  simp [asBytes]

theorem stripPrefix_eq_some_iff {text pattern rest : String} :
    stripPrefix text pattern = some rest ↔ text = pattern ++ rest := by
  unfold stripPrefix startsWith
  rw [← String.toList_inj, String.toList_append]
  constructor
  · intro stripped
    split at stripped
    · next starts =>
        rcases List.isPrefixOf_iff_prefix.mp starts with ⟨suffix, whole⟩
        rw [← Option.some.inj stripped, ← whole, String.toList_ofList, ← String.length_toList,
          List.drop_left]
    · cases stripped
  · intro whole
    rw [whole, if_pos (List.isPrefixOf_iff_prefix.mpr (List.prefix_append _ _)),
      ← String.length_toList, List.drop_left, String.ofList_toList]

/-- Bytes which are valid UTF-8, as a text. -/
def fromUtf8 (bytes : List UInt8) : Option String :=
  String.fromUTF8? ⟨bytes.toArray⟩

theorem fromUtf8_eq_some_iff {bytes : List UInt8} {text : String} :
    fromUtf8 bytes = some text ↔ asBytes text = bytes := by
  unfold fromUtf8 String.fromUTF8?
  constructor
  · intro decoded
    split at decoded
    · rw [← Option.some.inj decoded]
      rfl
    · cases decoded
  · rintro rfl
    exact dif_pos text.isValidUTF8

/-- The parts of a text before and after the first occurrence of a character. -/
def splitOnce (text : String) (separator : Char) : Option (String × String) :=
  match text.toList.span (fun char => char ≠ separator) with
  | (_, []) => none
  | (before, _ :: after) => some (String.ofList before, String.ofList after)

theorem splitOnce_eq_some {text before after : String} {separator : Char}
    (split : splitOnce text separator = some (before, after)) :
    text.toList = before.toList ++ separator :: after.toList := by
  simp only [splitOnce] at split
  rw [List.span_eq_takeWhile_dropWhile] at split
  have whole : text.toList.takeWhile (fun char => decide (char ≠ separator)) ++
      text.toList.dropWhile (fun char => decide (char ≠ separator)) = text.toList :=
    List.takeWhile_append_dropWhile
  cases rest : text.toList.dropWhile fun char => decide (char ≠ separator) with
  | nil =>
      rw [rest] at split
      cases split
  | cons found after' =>
      have stopped : found = separator := by
        have head := List.head?_dropWhile_not (fun char => decide (char ≠ separator)) text.toList
        rw [rest] at head
        simpa using head
      rw [rest] at split whole
      simp only [Option.some.injEq, Prod.mk.injEq] at split
      rw [← whole, ← split.1, ← split.2, String.toList_ofList, String.toList_ofList, stopped]

theorem splitOnce_of_not_mem {before after : List Char} {separator : Char}
    (absent : separator ∉ before) :
    splitOnce (String.ofList (before ++ separator :: after)) separator =
      some (String.ofList before, String.ofList after) := by
  have passed : ∀ char ∈ before, decide (char ≠ separator) = true := by
    intro char member
    exact decide_eq_true fun same => absent (same ▸ member)
  simp only [splitOnce]
  rw [String.toList_ofList, List.span_eq_takeWhile_dropWhile,
    List.takeWhile_append_of_pos passed, List.dropWhile_append_of_pos passed]
  simp

end Text
