import DmarcReportViewer.Basic
import DmarcReportViewer.Lib.Substitution
import DmarcReportViewer.Lib.Text
import Mathlib.Algebra.GroupWithZero.Nat

/-!
# Subjects with encoded words

The model of `decode_subject` in `mail.rs`, with the functions it calls.  A text is cut
at byte offsets, so a slice can be out of range or inside a character; then the program
panics, which is `none`.  The Base64 engine, the character sets and the lower-case
mapping are parameters.
-/

namespace DmarcReportViewer.Subject

open Substitution Text

structure Codecs where
  base64Decode : String → Result (List UInt8)
  forLabel : List UInt8 → Option (List UInt8 → String)
  toLowercase : String → String

section Slices

/-- The length of a text in bytes. -/
def byteLength (text : List Char) : Nat :=
  (text.map Char.utf8Size).sum

/-- `text[offset..]`, if the offset is at a boundary between characters. -/
def sliceFrom : Nat → List Char → Option (List Char)
  | 0, text => some text
  | _ + 1, [] => none
  | offset + 1, char :: rest =>
      if char.utf8Size ≤ offset + 1 then sliceFrom (offset + 1 - char.utf8Size) rest else none

/-- `text[..offset]`, if the offset is at a boundary between characters. -/
def sliceTo : Nat → List Char → Option (List Char)
  | 0, _ => some []
  | _ + 1, [] => none
  | offset + 1, char :: rest =>
      if char.utf8Size ≤ offset + 1 then
        (sliceTo (offset + 1 - char.utf8Size) rest).map (char :: ·)
      else
        none

/-- A slice which does not start at the beginning is shorter. -/
theorem length_sliceFrom_lt {offset : Nat} {text rest : List Char}
    (sliced : sliceFrom (offset + 1) text = some rest) : rest.length < text.length := by
  induction text generalizing offset with
  | nil => cases sliced
  | cons char tail ih =>
      rw [sliceFrom] at sliced
      split at sliced
      · cases left : offset + 1 - char.utf8Size with
        | zero =>
            rw [left, sliceFrom] at sliced
            cases sliced
            simp
        | succ offset =>
            rw [left] at sliced
            exact Nat.lt_succ_of_lt (ih sliced)
      · cases sliced

end Slices

section Words

def hexDigit (char : Char) : Option Nat :=
  if '0' ≤ char ∧ char ≤ '9' then some (char.toNat - '0'.toNat)
  else if 'a' ≤ char ∧ char ≤ 'f' then some (char.toNat - 'a'.toNat + 10)
  else if 'A' ≤ char ∧ char ≤ 'F' then some (char.toNat - 'A'.toNat + 10)
  else none

def hexValue (digits : List Char) : Result Nat :=
  digits.foldlM (fun value char =>
    match hexDigit char with
    | none => .error "invalid digit found in string"
    | some digit =>
        if value * 16 + digit < 256 then .ok (value * 16 + digit)
        else .error "number too large to fit in target type") 0

/-- `u8::from_str_radix` for the radix 16, which accepts a plus sign. -/
def fromStrRadix16 (text : List Char) : Result UInt8 :=
  match text with
  | [] => .error "cannot parse integer from empty string"
  | ['+'] => .error "invalid digit found in string"
  | '+' :: digits => UInt8.ofNat <$> hexValue digits
  | digits => UInt8.ofNat <$> hexValue digits

/-- The loop of `q_decode`, with the bytes decoded so far. -/
def qDecodeLoop (result : List UInt8) (data : List Char) : Option (Result (List UInt8)) :=
  if data = [] then
    some (.ok result)
  else if data.head? = some '_' then
    match _sliced : sliceFrom 1 data with
    | none => none
    | some rest => qDecodeLoop (result ++ [0x20]) rest
  else if data.head? = some '=' then
    if 3 ≤ byteLength data then
      match (sliceFrom 1 data).bind (sliceTo 2) with
      | none => none
      | some hex =>
          match (fromStrRadix16 hex).context
              "Expected valid hex string but found something else" with
          | .error error => some (.error error)
          | .ok value =>
              match _sliced : sliceFrom 3 data with
              | none => none
              | some rest => qDecodeLoop (result ++ [value]) rest
    else
      some (.error "The equal character must be followed by two hex characters")
  else
    let byte := (asBytes (String.ofList data)).take 1
    match _sliced : sliceFrom 1 data with
    | none => none
    | some rest => qDecodeLoop (result ++ byte) rest
termination_by data.length
decreasing_by all_goals exact length_sliceFrom_lt _sliced

def qDecode (data : String) : Option (Result (List UInt8)) :=
  qDecodeLoop [] data.toList

def decodeWord (codecs : Codecs) (charset encoding data : String) : Option (Result String) := do
  let charset := codecs.toLowercase charset
  let encoding := codecs.toLowercase encoding
  let decoded ←
    if encoding = "b" then
      some ((codecs.base64Decode data).context "Failed to decode Base64 data")
    else if encoding = "q" then do
      let decoded ← qDecode data
      some (decoded.context "Failed to decode Q data")
    else
      some (.error ("Unsupported encoding: " ++ encoding))
  some do
    let decoded ← decoded
    match codecs.forLabel (asBytes charset) with
    | some decode => .ok (decode decoded)
    | none => .error ("Unsupported charset: " ++ charset)

end Words

section Captures

variable {γ : Type}

/-- Match a fixed text, and then the rest of the expression. -/
def literal (text : String) (next : List Char → Option γ) (chars : List Char) : Option γ :=
  if text.toList.isPrefixOf chars then next (chars.drop text.length) else none

/-- Match `(.)`: any character except a line feed. -/
def dot (next : List Char → Option γ) : List Char → Option (Char × γ)
  | [] => none
  | char :: rest => if char = '\n' then none else (next rest).map (char, ·)

/-- Match `(.+?)`: as few characters as possible, but at least one. -/
def lazyDots (next : List Char → Option γ) : List Char → Option (List Char × γ)
  | [] => none
  | char :: rest =>
      if char = '\n' then none
      else
        match next rest with
        | some found => some ([char], found)
        | none => (lazyDots next rest).map fun (dots, found) => (char :: dots, found)

/-- The groups of a match. -/
structure Capture where
  charset : List Char
  encoding : Char
  encoded : List Char
deriving DecidableEq

/-- The text which was matched. -/
def Capture.matched (capture : Capture) : List Char :=
  '=' :: '?' :: capture.charset ++ '?' :: capture.encoding :: '?' :: capture.encoded ++ ['?', '=']

/-- Match `=\?(.+?)\?(.)\?(.+?)\?=` at the beginning of a text. -/
def matchWord (chars : List Char) : Option Capture :=
  (literal "=?" (lazyDots (literal "?" (dot (literal "?" (lazyDots (literal "?=" fun _ =>
    some ())))))) chars).map fun (charset, encoding, encoded, _) =>
      { charset := charset, encoding := encoding, encoded := encoded }

def findWord (chars : List Char) : Option (Capture × Nat) :=
  (matchWord chars).map fun capture => (capture, capture.matched.length)

/-- The pieces of a subject: its characters, and the matches as holes. -/
def pieces (value : String) : List (Piece Char Capture) :=
  scan findWord value.toList

def captures (value : String) : List Capture :=
  holes (pieces value)

end Captures

section Decoding

variable (decodeWord : String → String → String → Option (Result String))

/-- What the loop of `decode_subject` does with a capture. -/
def replaceCapture (result : List Char) (capture : Capture) : Option (List Char) := do
  let decoded ← decodeWord (String.ofList capture.charset) (String.ofList [capture.encoding])
    (String.ofList capture.encoded)
  match decoded with
  | .ok word => some (replace capture.matched word.toList result)
  | .error _ => some result

def decodeSubject (value : String) : Option String := do
  let result ← (captures value).foldlM (replaceCapture decodeWord) value.toList
  some (String.ofList result)

end Decoding

end DmarcReportViewer.Subject
