import DmarcReportViewer.Lib.Percent

/-!
# Texts which percent-encoding changes

A text changes when it is decoded if it contains an escape, and when it is encoded if it
contains a character which is not kept.  Either change is visible in the number of percent
signs and of twos, whatever is done to the letters of the texts.
-/

namespace Percent

open Text

section Escapes

variable {char : Char} {chars : List Char}

/-- A percent sign is followed by two digits. -/
def HasEscape (chars : List Char) : Prop :=
  ∃ rest, '%' :: rest <:+ chars ∧ StartsWithDigits rest

theorem hasEscape_cons_iff :
    HasEscape (char :: chars) ↔ char = '%' ∧ StartsWithDigits chars ∨ HasEscape chars := by
  constructor
  · rintro ⟨rest, tail, digits⟩
    rcases List.suffix_cons_iff.mp tail with whole | later
    · cases whole
      exact .inl ⟨rfl, digits⟩
    · exact .inr ⟨rest, later, digits⟩
  · rintro (⟨rfl, digits⟩ | ⟨rest, tail, digits⟩)
    · exact ⟨chars, List.suffix_refl _, digits⟩
    · exact ⟨rest, tail.trans (List.suffix_cons _ _), digits⟩

/-- A character which does not begin an escape stands for itself. -/
theorem decodeChars_cons (alone : ¬ (char = '%' ∧ StartsWithDigits chars)) :
    decodeChars (char :: chars) = String.utf8EncodeChar char ++ decodeChars chars := by
  by_cases sign : char = '%'
  · subst sign
    exact decodeChars_percent fun digits => alone ⟨rfl, digits⟩
  · exact decodeChars_other sign

theorem decodeChars_of_not_hasEscape (plain : ¬ HasEscape chars) :
    decodeChars chars = asBytes (String.ofList chars) := by
  rw [asBytes_ofList]
  induction chars with
  | nil => rfl
  | cons char chars ih =>
      rw [hasEscape_cons_iff, not_or] at plain
      rw [decodeChars_cons plain.1, ih plain.2, List.flatMap_cons]

theorem decode_of_not_hasEscape {text : String} (plain : ¬ HasEscape text.toList) :
    decode text = some text := by
  rw [decode, decodeChars_of_not_hasEscape plain, String.ofList_toList]
  exact fromUtf8_eq_some_iff.mpr rfl

end Escapes

section Marks

variable {keep : Char → Bool} {char : Char} {chars : List Char}

/-- A percent sign or a two. -/
def isMark (char : Char) : Bool :=
  char == '%' || char == '2'

def marks (chars : List Char) : Nat :=
  chars.countP isMark

def isMarkByte (byte : UInt8) : Bool :=
  byte == 0x25 || byte == 0x32

theorem marks_eq_count (chars : List Char) : marks chars = chars.count '%' + chars.count '2' := by
  induction chars with
  | nil => rfl
  | cons char chars ih =>
      rw [marks, List.countP_cons, ← marks, ih, List.count_cons, List.count_cons]
      by_cases percent : char = '%'
      · subst percent
        simp [isMark]
        omega
      · by_cases two : char = '2'
        · subst two
          simp [isMark]
          omega
        · simp [isMark, percent, two]

/-- The bytes of a character beyond ASCII are not ASCII. -/
theorem wide_of_mem_utf8EncodeChar (wide : 128 ≤ char.val.toNat) {byte : UInt8}
    (member : byte ∈ String.utf8EncodeChar char) : 128 ≤ byte.toNat := by
  have valid := char.val.toNat_lt
  unfold String.utf8EncodeChar at member
  rw [if_neg (by omega)] at member
  split_ifs at member <;>
    simp only [List.mem_cons, List.not_mem_nil, or_false] at member
  · rcases member with rfl | rfl <;> simp <;> omega
  · rcases member with rfl | rfl | rfl <;> simp <;> omega
  · rcases member with rfl | rfl | rfl | rfl <;> simp <;> omega

theorem isMark_iff : isMark char = true ↔ char.val.toNat = 0x25 ∨ char.val.toNat = 0x32 := by
  simp only [isMark, Bool.or_eq_true, beq_iff_eq, Char.ext_iff, UInt32.toNat_inj.symm]
  rfl

theorem isMarkByte_iff {byte : UInt8} :
    isMarkByte byte = true ↔ byte.toNat = 0x25 ∨ byte.toNat = 0x32 := by
  simp only [isMarkByte, Bool.or_eq_true, beq_iff_eq, UInt8.toNat_inj.symm]
  rfl

theorem countP_utf8EncodeChar (char : Char) :
    (String.utf8EncodeChar char).countP isMarkByte = if isMark char then 1 else 0 := by
  by_cases wide : 128 ≤ char.val.toNat
  · have other : ¬ isMark char = true := by
      rw [isMark_iff]
      omega
    have bytes : ∀ byte ∈ String.utf8EncodeChar char, ¬ isMarkByte byte = true := by
      intro byte member
      have wide := wide_of_mem_utf8EncodeChar wide member
      rw [isMarkByte_iff]
      omega
    rw [if_neg other, List.countP_eq_zero]
    exact bytes
  · have narrow : char.val.toNat ≤ 127 := by omega
    have same : isMarkByte (UInt8.ofNat char.val.toNat) = isMark char := by
      rw [Bool.eq_iff_iff, isMarkByte_iff, isMark_iff, UInt8.toNat_ofNat',
        Nat.mod_eq_of_lt (by omega)]
    unfold String.utf8EncodeChar
    rw [if_pos narrow, List.countP_singleton, same]

/-- A digit is a decimal digit, or a letter of either case. -/
theorem hexValue_eq_some {digit : Nat} (found : hexValue char = some digit) :
    digit < 10 ∧ char.val.toNat = digit + 48 ∨
      10 ≤ digit ∧ digit < 16 ∧
        (char.val.toNat = digit + 55 ∨ char.val.toNat = digit + 87) := by
  simp only [hexValue, Char.le_def, UInt32.le_iff_toNat_le] at found
  have code : char.toNat = char.val.toNat := rfl
  split_ifs at found with decimal upper lower <;> cases found
  · simp at decimal ⊢
    omega
  · simp at upper ⊢
    omega
  · simp at lower ⊢
    omega

theorem eq_two_of_hexValue (found : hexValue char = some 2) : char = '2' := by
  have code : char.val.toNat = 50 := by
    have shape := hexValue_eq_some found
    omega
  exact Char.ext (UInt32.toNat_inj.mp code)

/-- The two digits of an escape for a mark include a two. -/
theorem isMark_of_digits {first second : Char} {high low : Nat}
    (found : hexValue first = some high) (next : hexValue second = some low)
    (mark : isMarkByte (UInt8.ofNat (high * 16 + low)) = true) :
    isMark first = true ∨ isMark second = true := by
  have highShape := hexValue_eq_some found
  have lowShape := hexValue_eq_some next
  rw [isMarkByte_iff, UInt8.toNat_ofNat', Nat.mod_eq_of_lt (by omega)] at mark
  rcases mark with percent | two
  · obtain rfl : high = 2 := by omega
    rw [eq_two_of_hexValue found]
    exact .inl rfl
  · obtain rfl : low = 2 := by omega
    rw [eq_two_of_hexValue next]
    exact .inr rfl

theorem countP_escape_lt {first second : Char} {rest : List Char} {high low : Nat}
    (found : hexValue first = some high) (next : hexValue second = some low)
    (fewer : (decodeChars rest).countP isMarkByte ≤ marks rest) :
    (decodeChars ('%' :: first :: second :: rest)).countP isMarkByte <
      marks ('%' :: first :: second :: rest) := by
  have digits := isMark_of_digits found next
  have sign : isMark '%' = true := rfl
  rw [marks] at fewer ⊢
  rw [decodeChars_escape found next, List.countP_cons, List.countP_cons, List.countP_cons,
    List.countP_cons, if_pos sign]
  split
  · next mark =>
      rcases digits mark with high | low
      · rw [if_pos high]
        omega
      · rw [if_pos low]
        omega
  · omega

/-- Decoding does not add marks. -/
theorem countP_decodeChars_le (chars : List Char) :
    (decodeChars chars).countP isMarkByte ≤ marks chars := by
  fun_induction decodeChars chars with
  | case1 first second rest high low next found ih =>
      rw [← decodeChars_escape found next]
      exact (countP_escape_lt found next ih).le
  | case2 first second rest alone ih =>
      rw [List.countP_append, countP_utf8EncodeChar, marks, List.countP_cons]
      rw [marks] at ih
      omega
  | case3 char rest other ih =>
      rw [List.countP_append, countP_utf8EncodeChar, marks, List.countP_cons]
      rw [marks] at ih
      omega
  | case4 => exact le_refl _

/-- Decoding an escape removes a mark. -/
theorem countP_decodeChars_lt (escape : HasEscape chars) :
    (decodeChars chars).countP isMarkByte < marks chars := by
  induction chars with
  | nil =>
      rcases escape with ⟨rest, tail, _⟩
      exact absurd (List.suffix_nil.mp tail) (List.cons_ne_nil _ _)
  | cons char chars ih =>
      by_cases head : char = '%' ∧ StartsWithDigits chars
      · rcases head with ⟨rfl, digits⟩
        rcases chars with _ | ⟨first, _ | ⟨second, rest⟩⟩
        · exact digits.elim
        · exact digits.elim
        · rcases Option.isSome_iff_exists.mp digits.1 with ⟨high, found⟩
          rcases Option.isSome_iff_exists.mp digits.2 with ⟨low, next⟩
          exact countP_escape_lt found next (countP_decodeChars_le rest)
      · have later := (hasEscape_cons_iff.mp escape).resolve_left head
        rw [decodeChars_cons head, List.countP_append, countP_utf8EncodeChar, marks,
          List.countP_cons]
        have fewer := ih later
        rw [marks] at fewer
        omega

theorem marks_of_asBytes (text : String) :
    (asBytes text).countP isMarkByte = marks text.toList := by
  rw [← String.ofList_toList (s := text), asBytes_ofList, String.toList_ofList]
  induction text.toList with
  | nil => rfl
  | cons char chars ih =>
      rw [List.flatMap_cons, List.countP_append, countP_utf8EncodeChar, ih, marks, marks,
        List.countP_cons, Nat.add_comm]

theorem marks_lt_of_decode {text decoded : String} (escape : HasEscape text.toList)
    (found : decode text = some decoded) : marks decoded.toList < marks text.toList := by
  rw [decode, fromUtf8_eq_some_iff] at found
  rw [← marks_of_asBytes, found]
  exact countP_decodeChars_lt escape

theorem marks_encodeChar_lt (dropped : keep char = false) :
    marks [char] < marks (encodeChar keep char) := by
  rw [encodeChar_of_not_keep dropped]
  by_cases mark : isMark char = true
  · rw [isMark, Bool.or_eq_true, beq_iff_eq, beq_iff_eq] at mark
    rcases mark with rfl | rfl <;> decide
  · rcases List.exists_cons_of_ne_nil (@String.utf8EncodeChar_ne_nil char) with
      ⟨byte, bytes, whole⟩
    have sign : isMark '%' = true := rfl
    rw [whole, List.flatMap_cons, encodeByte, marks, marks, List.countP_singleton, if_neg mark,
      List.cons_append, List.countP_cons, if_pos sign]
    exact Nat.succ_pos _

theorem marks_encodeChar_le (keep : Char → Bool) (char : Char) :
    marks [char] ≤ marks (encodeChar keep char) := by
  cases kept : keep char with
  | true => rw [encodeChar_of_keep kept]
  | false => exact (marks_encodeChar_lt kept).le

/-- Encoding a character which is not kept adds marks. -/
theorem marks_lt_encode {text : String} (dropped : ∃ char ∈ text.toList, keep char = false) :
    marks text.toList < marks (encode keep text).toList := by
  rw [encode, String.toList_ofList]
  have split : ∀ char chars, marks (char :: chars) = marks [char] + marks chars := by
    intro char chars
    rw [← List.singleton_append, marks, List.countP_append, ← marks, ← marks]
  have append : ∀ left right, marks (left ++ right) = marks left + marks right :=
    fun _ _ => List.countP_append
  have fewer : ∀ chars, marks chars ≤ marks (encodeChars keep chars) := by
    intro chars
    induction chars with
    | nil => exact le_refl _
    | cons char chars ih =>
        have first := marks_encodeChar_le keep char
        rw [split, encodeChars_cons, append]
        omega
  rcases dropped with ⟨char, member, dropped⟩
  rcases List.append_of_mem member with ⟨before, after, whole⟩
  have first := fewer before
  have last := fewer after
  have middle := marks_encodeChar_lt dropped
  rw [whole, encodeChars, List.flatMap_append, List.flatMap_cons, ← encodeChars, ← encodeChars,
    append, append, append, split]
  omega

end Marks

end Percent
