import DmarcReportViewer.Lib.Text

/-!
# Percent-encoding

Texts in which bytes are written as a percent sign with two hexadecimal digits.  An
encoder is given by the characters which it keeps; one that keeps the percent sign can be
applied to texts which are encoded already.
-/

namespace Percent

open Text

def hexDigit (digit : Nat) : Char :=
  (Nat.digitChar digit).toUpper

def hexValue (char : Char) : Option Nat :=
  if '0' ≤ char ∧ char ≤ '9' then some (char.toNat - '0'.toNat)
  else if 'A' ≤ char ∧ char ≤ 'F' then some (char.toNat - 'A'.toNat + 10)
  else if 'a' ≤ char ∧ char ≤ 'f' then some (char.toNat - 'a'.toNat + 10)
  else none

def encodeByte (byte : UInt8) : List Char :=
  ['%', hexDigit (byte.toNat / 16), hexDigit (byte.toNat % 16)]

def encodeChar (keep : Char → Bool) (char : Char) : List Char :=
  if keep char then [char] else (String.utf8EncodeChar char).flatMap encodeByte

def encodeChars (keep : Char → Bool) (chars : List Char) : List Char :=
  chars.flatMap (encodeChar keep)

def encode (keep : Char → Bool) (text : String) : String :=
  String.ofList (encodeChars keep text.toList)

/-- A percent sign which is not followed by two digits stands for itself. -/
def decodeChars : List Char → List UInt8
  | '%' :: first :: second :: rest =>
      match hexValue first, hexValue second with
      | some high, some low => UInt8.ofNat (high * 16 + low) :: decodeChars rest
      | _, _ => String.utf8EncodeChar '%' ++ decodeChars (first :: second :: rest)
  | char :: rest => String.utf8EncodeChar char ++ decodeChars rest
  | [] => []

/-- The text for which a text stands, if its bytes are valid UTF-8. -/
def decode (text : String) : Option String :=
  fromUtf8 (decodeChars text.toList)

section Digits

theorem hexValue_hexDigit {digit : Nat} (small : digit < 16) :
    hexValue (hexDigit digit) = some digit := by
  decide +revert

theorem halves (byte : UInt8) :
    UInt8.ofNat (byte.toNat / 16 * 16 + byte.toNat % 16) = byte := by
  rw [Nat.div_add_mod', UInt8.ofNat_toNat]

theorem hexDigit_isAlphanum {digit : Nat} (small : digit < 16) :
    (hexDigit digit).isAlphanum = true := by
  decide +revert

theorem isAlphanum_of_hexValue {char : Char} (digit : (hexValue char).isSome) :
    char.isAlphanum = true := by
  have range :
      ('0' ≤ char ∧ char ≤ '9') ∨ ('A' ≤ char ∧ char ≤ 'F') ∨ ('a' ≤ char ∧ char ≤ 'f') := by
    rw [hexValue] at digit
    split_ifs at digit with decimal upper lower
    · exact .inl decimal
    · exact .inr (.inl upper)
    · exact .inr (.inr lower)
    · cases digit
  simp only [Char.le_def, UInt32.le_iff_toNat_le, Char.toNat_val] at range
  simp at range
  rw [isAlphanum_iff]
  omega

end Digits

section Decoding

variable {first second char : Char} {rest : List Char}

/-- The first two characters of a text are digits. -/
def StartsWithDigits : List Char → Prop
  | first :: second :: _ => (hexValue first).isSome ∧ (hexValue second).isSome
  | _ => False

theorem decodeChars_escape {high low : Nat} (found : hexValue first = some high)
    (next : hexValue second = some low) :
    decodeChars ('%' :: first :: second :: rest) =
      UInt8.ofNat (high * 16 + low) :: decodeChars rest := by
  rw [decodeChars, found, next]

theorem decodeChars_percent (alone : ¬ StartsWithDigits rest) :
    decodeChars ('%' :: rest) = String.utf8EncodeChar '%' ++ decodeChars rest := by
  rcases rest with _ | ⟨first, _ | ⟨second, rest⟩⟩
  · rfl
  · rfl
  · rw [decodeChars]
    split
    · next high low found next => exact absurd ⟨by simp [found], by simp [next]⟩ alone
    · rfl

theorem decodeChars_other (other : char ≠ '%') :
    decodeChars (char :: rest) = String.utf8EncodeChar char ++ decodeChars rest := by
  rw [decodeChars]
  rintro _ _ _ rfl
  exact absurd rfl other

theorem decodeChars_encodeByte (byte : UInt8) (rest : List Char) :
    decodeChars (encodeByte byte ++ rest) = byte :: decodeChars rest := by
  have high :=
    hexValue_hexDigit (Nat.div_lt_of_lt_mul (show byte.toNat < 16 * 16 from byte.toNat_lt))
  have low := hexValue_hexDigit (Nat.mod_lt byte.toNat (by decide : 0 < 16))
  rw [encodeByte, List.cons_append, List.cons_append, List.cons_append, List.nil_append,
    decodeChars_escape high low, halves]

theorem decodeChars_encodeBytes (bytes : List UInt8) (rest : List Char) :
    decodeChars (bytes.flatMap encodeByte ++ rest) = bytes ++ decodeChars rest := by
  induction bytes with
  | nil => rfl
  | cons byte bytes ih =>
      rw [List.flatMap_cons, List.append_assoc, decodeChars_encodeByte, ih, List.cons_append]

/-- A text without percent signs stands for itself. -/
theorem decodeChars_of_not_mem {chars : List Char} (absent : '%' ∉ chars) :
    decodeChars chars = asBytes (String.ofList chars) := by
  rw [asBytes_ofList]
  induction chars with
  | nil => rfl
  | cons char chars ih =>
      rw [List.mem_cons, not_or] at absent
      rw [decodeChars_other (Ne.symm absent.1), ih absent.2, List.flatMap_cons]

end Decoding

section Encoding

variable {keep : Char → Bool}

theorem encodeChars_cons (char : Char) (chars : List Char) :
    encodeChars keep (char :: chars) = encodeChar keep char ++ encodeChars keep chars :=
  List.flatMap_cons

/-- What was encoded without percent signs is decoded to its bytes. -/
theorem decodeChars_encodeChars (percent : keep '%' = false) (chars : List Char) :
    decodeChars (encodeChars keep chars) = asBytes (String.ofList chars) := by
  rw [asBytes_ofList]
  induction chars with
  | nil => rfl
  | cons char chars ih =>
      rw [encodeChars_cons, encodeChar, List.flatMap_cons]
      split
      · next kept =>
          have other : char ≠ '%' := by
            rintro rfl
            exact Bool.false_ne_true (percent.symm.trans kept)
          rw [List.singleton_append, decodeChars_other other, ih]
      · rw [decodeChars_encodeBytes, ih]

theorem decode_encode (percent : keep '%' = false) (text : String) :
    decode (encode keep text) = some text := by
  rw [decode, encode, String.toList_ofList, decodeChars_encodeChars percent, String.ofList_toList]
  exact fromUtf8_eq_some_iff.mpr rfl

theorem encodeChar_of_keep {char : Char} (kept : keep char = true) :
    encodeChar keep char = [char] :=
  if_pos kept

theorem encodeChar_of_not_keep {char : Char} (dropped : keep char = false) :
    encodeChar keep char = (String.utf8EncodeChar char).flatMap encodeByte :=
  if_neg (Bool.eq_false_iff.mp dropped)

/-- A character is kept, or what is written for it begins with a percent sign. -/
theorem encodeChar_cases (char : Char) :
    encodeChar keep char = [char] ∨ ∃ tail, encodeChar keep char = '%' :: tail := by
  cases kept : keep char with
  | true => exact .inl (encodeChar_of_keep kept)
  | false =>
      right
      rw [encodeChar_of_not_keep kept]
      cases bytes : String.utf8EncodeChar char with
      | nil =>
          have length := String.length_utf8EncodeChar char
          have positive := char.utf8Size_pos
          rw [bytes, List.length_nil] at length
          omega
      | cons byte bytes => exact ⟨_, List.flatMap_cons⟩

/-- Digits at the beginning of an encoded text were there before. -/
theorem startsWithDigits_of_encodeChars {chars : List Char}
    (digits : StartsWithDigits (encodeChars keep chars)) : StartsWithDigits chars := by
  have percent : ∀ {tail : List Char}, ¬ StartsWithDigits ('%' :: tail) := by
    rintro (_ | ⟨second, tail⟩) starts
    · exact starts
    · cases starts.1
  have afterPercent : ∀ {first : Char} {tail : List Char},
      ¬ StartsWithDigits (first :: '%' :: tail) := by
    intro first tail starts
    cases starts.2
  rcases chars with _ | ⟨first, chars⟩
  · exact digits
  · rw [encodeChars_cons] at digits
    rcases @encodeChar_cases keep first with kept | ⟨tail, escaped⟩
    · rw [kept, List.singleton_append] at digits
      rcases chars with _ | ⟨second, chars⟩
      · exact digits
      · rw [encodeChars_cons] at digits
        rcases @encodeChar_cases keep second with kept | ⟨tail, escaped⟩
        · rw [kept] at digits
          exact digits
        · rw [escaped] at digits
          exact absurd digits afterPercent
    · rw [escaped] at digits
      exact absurd digits percent

/-- Encoding again what is encoded does not change what it stands for. -/
theorem decodeChars_encodeChars_again (percent : keep '%' = true)
    (digits : ∀ char, (hexValue char).isSome → keep char = true) (chars : List Char) :
    decodeChars (encodeChars keep chars) = decodeChars chars := by
  have single : ∀ {rest : List Char}, ¬ StartsWithDigits rest →
      decodeChars (encodeChars keep ('%' :: rest)) =
        String.utf8EncodeChar '%' ++ decodeChars (encodeChars keep rest) := by
    intro rest alone
    rw [encodeChars_cons, encodeChar_of_keep percent, List.singleton_append]
    exact decodeChars_percent fun starts => alone (startsWithDigits_of_encodeChars starts)
  fun_induction decodeChars chars with
  | case1 first second rest high low next found ih =>
      have keepFirst := encodeChar_of_keep (digits first (Option.isSome_of_eq_some found))
      have keepSecond := encodeChar_of_keep (digits second (Option.isSome_of_eq_some next))
      rw [encodeChars_cons, encodeChars_cons, encodeChars_cons, encodeChar_of_keep percent,
        keepFirst, keepSecond]
      exact (decodeChars_escape found next).trans (congrArg _ ih)
  | case2 first second rest alone ih =>
      rw [single, ih]
      rintro ⟨found, next⟩
      rcases Option.isSome_iff_exists.mp found with ⟨high, found⟩
      rcases Option.isSome_iff_exists.mp next with ⟨low, next⟩
      exact alone high low found next
  | case3 char rest short ih =>
      by_cases sign : char = '%'
      · subst sign
        rw [single, ih]
        intro starts
        rcases rest with _ | ⟨first, _ | ⟨second, rest⟩⟩
        · exact starts
        · exact starts
        · exact short first second rest rfl rfl
      · rw [encodeChars_cons]
        cases kept : keep char with
        | true =>
            rw [encodeChar_of_keep kept, List.singleton_append, decodeChars_other sign, ih]
        | false => rw [encodeChar_of_not_keep kept, decodeChars_encodeBytes, ih]
  | case4 => rfl

/-- What stands in an encoded text was kept, or belongs to an escape. -/
theorem mem_encode {char : Char} {text : String} (member : char ∈ (encode keep text).toList) :
    char = '%' ∨ char.isAlphanum = true ∨ keep char = true ∧ char ∈ text.toList := by
  rw [encode, String.toList_ofList, encodeChars, List.mem_flatMap] at member
  rcases member with ⟨source, inText, member⟩
  cases kept : keep source with
  | true =>
      rw [encodeChar_of_keep kept, List.mem_singleton] at member
      exact .inr (.inr (member ▸ ⟨kept, inText⟩))
  | false =>
      rw [encodeChar_of_not_keep kept, List.mem_flatMap] at member
      rcases member with ⟨byte, _, member⟩
      have high := hexDigit_isAlphanum (Nat.div_lt_of_lt_mul (show byte.toNat < 16 * 16 from
        byte.toNat_lt))
      have low := hexDigit_isAlphanum (Nat.mod_lt byte.toNat (by decide : 0 < 16))
      simp only [encodeByte, List.mem_cons, List.not_mem_nil, or_false] at member
      rcases member with rfl | rfl | rfl
      · exact .inl rfl
      · exact .inr (.inl high)
      · exact .inr (.inl low)

theorem not_mem_encode {char : Char} (sign : char ≠ '%') (other : char.isAlphanum = false)
    {text : String} (dropped : keep char = false ∨ char ∉ text.toList) :
    char ∉ (encode keep text).toList := by
  intro member
  rcases mem_encode member with percent | digit | ⟨kept, inText⟩
  · exact sign percent
  · exact Bool.false_ne_true (other.symm.trans digit)
  · rcases dropped with dropped | absent
    · exact Bool.false_ne_true (dropped.symm.trans kept)
    · exact absent inText

theorem encode_append (left right : String) :
    encode keep (left ++ right) = encode keep left ++ encode keep right := by
  simp [encode, encodeChars]

theorem encode_ne_empty {text : String} (nonempty : text ≠ "") : encode keep text ≠ "" := by
  intro empty
  have chars : encodeChars keep text.toList = [] := by
    rw [← String.toList_ofList (l := encodeChars keep text.toList), ← encode, empty]
    rfl
  cases list : text.toList with
  | nil => exact nonempty (String.toList_eq_nil_iff.mp list)
  | cons char rest =>
      rw [list, encodeChars_cons] at chars
      rcases @encodeChar_cases keep char with kept | ⟨tail, escaped⟩
      · rw [kept] at chars
        cases chars
      · rw [escaped] at chars
        cases chars

/-- A text of characters which are all kept is not changed. -/
theorem encode_of_keeps {text : String} (kept : ∀ char ∈ text.toList, keep char = true) :
    encode keep text = text := by
  have same : encodeChars keep text.toList = text.toList.flatMap fun char => [char] :=
    List.flatMap_congr fun char member => encodeChar_of_keep (kept char member)
  rw [encode, same, List.flatMap_singleton', String.ofList_toList]

end Encoding

end Percent
