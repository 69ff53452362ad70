import DmarcReportViewer.Subject.QEncoding

/-!
# The Q encoding as a grammar

An equal sign in Q-encoded text is followed by two hexadecimal digits.  `q_decode` reads
the two characters as a number, and a number can also be a plus sign with one digit.
-/

namespace DmarcReportViewer.Subject

open Text

/-- Two hexadecimal digits, in upper or lower case. -/
def hexPair (first second : Char) : Option UInt8 := do
  let high ← hexDigit first
  let low ← hexDigit second
  return UInt8.ofNat (high * 16 + low)

/-- A plus sign and a hexadecimal digit. -/
def signedDigit (first second : Char) : Option UInt8 :=
  if first = '+' then (hexDigit second).map UInt8.ofNat else none

/-- The bytes for which a text stands, where `pair` reads what follows an equal sign. -/
inductive Encodes (pair : Char → Char → Option UInt8) : List Char → List UInt8 → Prop where
  | nil : Encodes pair [] []
  | space {rest : List Char} {bytes : List UInt8} : Encodes pair rest bytes →
      Encodes pair ('_' :: rest) (0x20 :: bytes)
  | escape {first second : Char} {value : UInt8} {rest : List Char} {bytes : List UInt8} :
      pair first second = some value → Encodes pair rest bytes →
      Encodes pair ('=' :: first :: second :: rest) (value :: bytes)
  | other {char : Char} {rest : List Char} {bytes : List UInt8} : char ≠ '_' → char ≠ '=' →
      Encodes pair rest bytes → Encodes pair (char :: rest) (UInt8.ofNat char.toNat :: bytes)

/-- The pairs of characters which follow the equal signs of a text, from left to right, if
no pair is cut off by the end of the text. -/
def escapes : List Char → Option (List (Char × Char))
  | [] => some []
  | char :: rest =>
      if char = '=' then
        match rest with
        | first :: second :: rest => (escapes rest).map ((first, second) :: ·)
        | _ => none
      else
        escapes rest

/-- Text in which some equal sign is followed by a plus sign and a hexadecimal digit, and
all others by the same or by two hexadecimal digits. -/
def PlusSigned (text : List Char) : Prop :=
  ∃ pairs ∈ escapes text,
    (∀ pair ∈ pairs, (hexPair pair.1 pair.2).isSome ∨ (signedDigit pair.1 pair.2).isSome) ∧
    ∃ pair ∈ pairs, (signedDigit pair.1 pair.2).isSome

instance (text : List Char) : Decidable (PlusSigned text) :=
  inferInstanceAs (Decidable (∃ pairs ∈ escapes text, _))

/-- The ways in which a byte can be written in Q-encoded text. -/
inductive Writes : UInt8 → List Char → Prop where
  | space : Writes 0x20 ['_']
  | escape {first second : Char} {value : UInt8} : hexPair first second = some value →
      Writes value ['=', first, second]
  | other {char : Char} : char.utf8Size = 1 → char ≠ '_' → char ≠ '=' →
      Writes (UInt8.ofNat char.toNat) [char]

/-- A text is decoded if and only if it is Q-encoded, and a sequence of bytes which was
encoded as this text is given back. -/
structure DecodesQEncoding (text : String) : Prop where
  accepts : ∀ bytes, qDecode text = some (.ok bytes) ↔ Encodes hexPair text.toList bytes
  inverts : ∀ bytes pieces, List.Forall₂ Writes bytes pieces → text.toList = pieces.flatten →
    qDecode text = some (.ok bytes)

section Numbers

theorem hexDigit_lt {char : Char} {digit : Nat} (found : hexDigit char = some digit) :
    digit < 16 := by
  unfold hexDigit at found
  split at found
  · next range =>
      have bound : char.toNat ≤ '9'.toNat := range.2
      rw [show '9'.toNat = 57 from rfl] at bound
      rw [← Option.some.inj found, show '0'.toNat = 48 from rfl]
      omega
  · split at found
    · next range =>
        have bound : char.toNat ≤ 'f'.toNat := range.2
        rw [show 'f'.toNat = 102 from rfl] at bound
        rw [← Option.some.inj found, show 'a'.toNat = 97 from rfl]
        omega
    · split at found
      · next range =>
          have bound : char.toNat ≤ 'F'.toNat := range.2
          rw [show 'F'.toNat = 70 from rfl] at bound
          rw [← Option.some.inj found, show 'A'.toNat = 65 from rfl]
          omega
      · cases found

theorem hexValue_one {char : Char} {digit : Nat} (found : hexDigit char = some digit) :
    hexValue [char] = .ok digit := by
  have small : digit < 256 := Nat.lt_trans (hexDigit_lt found) (by decide)
  simp [hexValue, found, bind, Except.bind, pure, Except.pure, small]

/-- Two digits are a number which fits in a byte. -/
theorem hexValue_two {first second : Char} {high low : Nat} (found : hexDigit first = some high)
    (next : hexDigit second = some low) : hexValue [first, second] = .ok (high * 16 + low) := by
  have highBound := hexDigit_lt found
  have lowBound := hexDigit_lt next
  have fits : high * 16 + low < 256 := by omega
  have small : high < 256 := by omega
  simp [hexValue, found, next, bind, Except.bind, pure, Except.pure, fits, small]

/-- The numbers of two characters. -/
def numberPair (first second : Char) : Option UInt8 :=
  if first = '+' then signedDigit first second else hexPair first second

theorem fromStrRadix16_eq_ok_iff {first second : Char} {value : UInt8} :
    fromStrRadix16 [first, second] = .ok value ↔ numberPair first second = some value := by
  unfold numberPair
  by_cases sign : first = '+'
  · subst sign
    rw [if_pos rfl, signedDigit, if_pos rfl]
    cases found : hexDigit second with
    | none => simp [fromStrRadix16, hexValue, found, bind, Except.bind]
    | some digit => simp [fromStrRadix16, hexValue_one found]
  · rw [if_neg sign]
    cases found : hexDigit first with
    | none => simp [fromStrRadix16, hexValue, sign, found, hexPair, bind, Except.bind]
    | some high =>
        have small : high < 256 := Nat.lt_trans (hexDigit_lt found) (by decide)
        cases next : hexDigit second with
        | none =>
            simp [fromStrRadix16, hexValue, sign, found, next, small, hexPair, bind, Except.bind]
        | some low => simp [fromStrRadix16, sign, hexValue_two found next, hexPair, found, next]

theorem hexPair_plus (second : Char) : hexPair '+' second = none :=
  rfl

theorem numberPair_of_hexPair {first second : Char} {value : UInt8}
    (found : hexPair first second = some value) : numberPair first second = some value := by
  rw [numberPair, if_neg, found]
  rintro rfl
  cases (hexPair_plus second).symm.trans found

theorem isSome_numberPair_iff {first second : Char} :
    (numberPair first second).isSome ↔
      (hexPair first second).isSome ∨ (signedDigit first second).isSome := by
  unfold numberPair
  by_cases sign : first = '+'
  · subst sign
    rw [if_pos rfl, hexPair_plus]
    simp
  · rw [if_neg sign]
    simp [signedDigit, sign]

end Numbers

section Grammar

variable {pair : Char → Char → Option UInt8} {char first second : Char} {rest text : List Char}

theorem Encodes.mono {wider : Char → Char → Option UInt8} {bytes : List UInt8}
    (more : ∀ first second value, pair first second = some value →
      wider first second = some value)
    (encodes : Encodes pair text bytes) : Encodes wider text bytes := by
  induction encodes with
  | nil => exact .nil
  | space _ ih => exact .space ih
  | escape found _ ih => exact .escape (more _ _ _ found) ih
  | other space sign _ ih => exact .other space sign ih

theorem encodes_space_iff {bytes : List UInt8} :
    Encodes pair ('_' :: rest) bytes ↔ ∃ tail, bytes = 0x20 :: tail ∧ Encodes pair rest tail := by
  constructor
  · intro encodes
    cases encodes with
    | space encodes => exact ⟨_, rfl, encodes⟩
    | other space _ _ => exact absurd rfl space
  · rintro ⟨tail, rfl, encodes⟩
    exact .space encodes

theorem encodes_escape_iff {bytes : List UInt8} :
    Encodes pair ('=' :: first :: second :: rest) bytes ↔
      ∃ value tail, pair first second = some value ∧ bytes = value :: tail ∧
        Encodes pair rest tail := by
  constructor
  · intro encodes
    cases encodes with
    | escape found encodes => exact ⟨_, _, found, rfl, encodes⟩
    | other _ sign _ => exact absurd rfl sign
  · rintro ⟨value, tail, found, rfl, encodes⟩
    exact .escape found encodes

theorem encodes_other_iff {bytes : List UInt8} (space : char ≠ '_') (sign : char ≠ '=') :
    Encodes pair (char :: rest) bytes ↔
      ∃ tail, bytes = UInt8.ofNat char.toNat :: tail ∧ Encodes pair rest tail := by
  constructor
  · intro encodes
    cases encodes with
    | space _ => exact absurd rfl space
    | escape _ _ => exact absurd rfl sign
    | other _ _ encodes => exact ⟨_, rfl, encodes⟩
  · rintro ⟨tail, rfl, encodes⟩
    exact .other space sign encodes

theorem escapes_escape :
    escapes ('=' :: first :: second :: rest) = (escapes rest).map ((first, second) :: ·) := by
  rw [escapes, if_pos rfl]

theorem escapes_other (sign : char ≠ '=') : escapes (char :: rest) = escapes rest := by
  rw [escapes.eq_def]
  exact if_neg sign

/-- A text stands for bytes if and only if all pairs in it do. -/
theorem exists_encodes_iff :
    (∃ bytes, Encodes pair text bytes) ↔
      ∃ pairs, escapes text = some pairs ∧
        ∀ found ∈ pairs, (pair found.1 found.2).isSome := by
  constructor
  · rintro ⟨bytes, encodes⟩
    induction encodes with
    | nil => exact ⟨[], rfl, by simp⟩
    | space _ ih => rwa [escapes_other (by decide)]
    | escape found _ ih =>
        rcases ih with ⟨pairs, rest, all⟩
        rw [escapes_escape, rest]
        refine ⟨_, rfl, ?_⟩
        simpa [found] using all
    | other _ sign _ ih => rwa [escapes_other sign]
  · rintro ⟨pairs, escaped, all⟩
    fun_induction escapes text generalizing pairs with
    | case1 => exact ⟨[], .nil⟩
    | case2 first second rest ih =>
        rcases Option.map_eq_some_iff.mp escaped with ⟨tail, escapedRest, rfl⟩
        have later := ih tail escapedRest fun found member =>
          all found (List.mem_cons_of_mem _ member)
        rcases later with ⟨bytes, encodes⟩
        rcases Option.isSome_iff_exists.mp (all _ List.mem_cons_self) with ⟨value, found⟩
        exact ⟨value :: bytes, .escape found encodes⟩
    | case3 => cases escaped
    | case4 char rest sign ih =>
        rcases ih pairs escaped all with ⟨bytes, encodes⟩
        by_cases space : char = '_'
        · exact ⟨_, space ▸ Encodes.space encodes⟩
        · exact ⟨_, .other space sign encodes⟩

theorem encodes_flatten {bytes : List UInt8} {pieces : List (List Char)}
    (written : List.Forall₂ Writes bytes pieces) : Encodes hexPair pieces.flatten bytes := by
  induction written with
  | nil => exact .nil
  | cons piece _ ih =>
      cases piece with
      | space => exact .space ih
      | escape found => exact .escape found ih
      | other _ space sign => exact .other space sign ih

end Grammar

section Loop

variable {char : Char} {rest : List Char}

theorem cuttable_of_ascii {data : List Char} (ascii : ∀ char ∈ data, char.utf8Size = 1) :
    Cuttable data := by
  unfold Cuttable
  split
  · trivial
  · trivial
  · rw [ascii _ (by simp)]
    decide
  · exact .inr ⟨ascii _ (by simp), ascii _ (by simp)⟩
  · exact ascii _ (by simp)

theorem take_one_asBytes (narrow : char.utf8Size = 1) :
    (asBytes (String.ofList (char :: rest))).take 1 = [UInt8.ofNat char.toNat] := by
  rw [asBytes_ofList, List.flatMap_cons, String.utf8EncodeChar_eq_singleton narrow]
  rfl

/-- The bytes which `q_decode` appends are those for which the rest of its data stands. -/
theorem qDecodeLoop_eq_ok_iff {data : List Char} (ascii : ∀ char ∈ data, char.utf8Size = 1)
    {result out : List UInt8} :
    qDecodeLoop result data = some (.ok out) ↔
      ∃ bytes, out = result ++ bytes ∧ Encodes numberPair data bytes := by
  induction long : data.length using Nat.strongRecOn generalizing result data with
  | ind size ih =>
      cases data with
      | nil =>
          rw [qDecodeLoop_nil]
          constructor
          · intro same
            cases same
            exact ⟨[], (List.append_nil _).symm, .nil⟩
          · rintro ⟨bytes, rfl, encodes⟩
            cases encodes
            rw [List.append_nil]
      | cons char rest =>
          have asciiRest : ∀ other ∈ rest, other.utf8Size = 1 := fun other member =>
            ascii other (List.mem_cons_of_mem _ member)
          have stepped := @ih rest.length (by simp [← long]) rest asciiRest
          by_cases space : char = '_'
          · subst space
            rw [qDecodeLoop_space, stepped rfl]
            simp [encodes_space_iff]
          · by_cases sign : char = '='
            · subst sign
              have cuttable := cuttable_of_ascii ascii
              by_cases escape : ∃ first second tail value, rest = first :: second :: tail ∧
                  fromStrRadix16 [first, second] = .ok value
              · rcases escape with ⟨first, second, tail, value, rfl, valid⟩
                rw [qDecodeLoop_of_valid result valid cuttable, ih tail.length
                  (by simp [← long]; omega)
                  (fun other member => asciiRest other (by simp [member])) rfl]
                simp [encodes_escape_iff, fromStrRadix16_eq_ok_iff.mp valid]
              · rcases qDecodeLoop_of_invalid result cuttable fun first second tail value split
                  valid => escape ⟨first, second, tail, value, split, valid⟩ with ⟨error, stopped⟩
                rw [stopped]
                constructor
                · intro same
                  cases same
                · rintro ⟨bytes, rfl, encodes⟩
                  cases encodes with
                  | escape found _ =>
                      exact absurd ⟨_, _, _, _, rfl, fromStrRadix16_eq_ok_iff.mpr found⟩ escape
                  | other _ sign _ => exact absurd rfl sign
            · have narrow := ascii char List.mem_cons_self
              rw [qDecodeLoop_other result space sign narrow, stepped rfl,
                take_one_asBytes narrow]
              simp [encodes_other_iff space sign]

theorem qDecode_eq_ok_iff {text : String} (ascii : ∀ char ∈ text.toList, char.utf8Size = 1)
    {bytes : List UInt8} :
    qDecode text = some (.ok bytes) ↔ Encodes numberPair text.toList bytes := by
  rw [qDecode, qDecodeLoop_eq_ok_iff ascii]
  simp

end Loop

section Results

/-- A text which `q_decode` accepts but which is not Q-encoded has a plus sign in place of
a hexadecimal digit. -/
theorem decodesQEncoding_iff {text : String}
    (ascii : ∀ char ∈ text.toList, char.utf8Size = 1) :
    DecodesQEncoding text ↔ ¬ PlusSigned text.toList := by
  have sound : ∀ {bytes}, Encodes hexPair text.toList bytes → qDecode text = some (.ok bytes) :=
    fun encodes => (qDecode_eq_ok_iff ascii).mpr
      (encodes.mono fun _ _ _ found => numberPair_of_hexPair found)
  constructor
  · rintro decodes ⟨pairs, escaped, all, signed, member, plus⟩
    have read : ∃ bytes, Encodes numberPair text.toList bytes :=
      exists_encodes_iff.mpr
        ⟨pairs, escaped, fun found member => isSome_numberPair_iff.mpr (all found member)⟩
    rcases read with ⟨bytes, encodes⟩
    have strict := (decodes.accepts bytes).mp ((qDecode_eq_ok_iff ascii).mpr encodes)
    rcases exists_encodes_iff.mp ⟨bytes, strict⟩ with ⟨same, escapedSame, hex⟩
    cases escaped.symm.trans escapedSame
    have digit := hex signed member
    have sign : signed.1 = '+' := by
      by_contra other
      rw [signedDigit, if_neg other] at plus
      cases plus
    rw [sign, hexPair_plus] at digit
    cases digit
  · intro unsigned
    refine ⟨fun bytes => ⟨fun decoded => ?_, sound⟩, fun bytes pieces written split =>
      sound (split ▸ encodes_flatten written)⟩
    have encodes := (qDecode_eq_ok_iff ascii).mp decoded
    rcases exists_encodes_iff.mp ⟨bytes, encodes⟩ with ⟨pairs, escaped, all⟩
    have hex : ∀ found ∈ pairs, (hexPair found.1 found.2).isSome := by
      intro found member
      rcases isSome_numberPair_iff.mp (all found member) with digits | plus
      · exact digits
      · exact absurd ⟨pairs, escaped,
          fun other member => isSome_numberPair_iff.mp (all other member), found, member, plus⟩
          unsigned
    rcases exists_encodes_iff.mpr ⟨pairs, escaped, hex⟩ with ⟨strict, strictly⟩
    have same := decoded.symm.trans (sound strictly)
    cases same
    exact strictly

/-- All hexadecimal digits and an underscore. -/
theorem decodesQEncoding_sample : DecodesQEncoding "=00=ff=AA_abc" := by
  have ascii : ("=00=ff=AA_abc".toList.all fun char => char.utf8Size == 1) = true := by decide
  have single : ∀ char ∈ "=00=ff=AA_abc".toList, char.utf8Size = 1 := fun char member =>
    eq_of_beq (List.all_eq_true.mp ascii char member)
  exact (decodesQEncoding_iff single).mpr (by decide +kernel)

theorem not_decodesQEncoding_sample : ¬ DecodesQEncoding "=+5" := by
  intro decodes
  have decoded : qDecode "=+5" = some (.ok [5]) := by decide +kernel
  have strict := (decodes.accepts _).mp decoded
  rcases exists_encodes_iff.mp ⟨_, strict⟩ with ⟨pairs, escaped, hex⟩
  have pair : escapes "=+5".toList = some [('+', '5')] := by decide +kernel
  cases pair.symm.trans escaped
  cases hex ('+', '5') List.mem_cons_self

end Results

end DmarcReportViewer.Subject
