import DmarcReportViewer.DnsClient

/-!
# The labels of a name

`parse_dns_name` walks over a datagram with an index and cuts the labels out of it.  A
slice which is out of range makes the program panic, which is `none`.
-/

namespace DmarcReportViewer.DnsClient

open Text

/-- `data[start..stop]`, if the range lies in the data. -/
def slice (data : List UInt8) (start stop : Nat) : Option (List UInt8) :=
  if start ≤ stop ∧ stop ≤ data.length then some ((data.drop start).take (stop - start)) else none

/-- The loop of `parse_dns_name`, with the labels parsed so far. -/
def parseDnsNameLoop (data : List UInt8) (labels : List String) (i : Nat) :
    Option (Result (List String)) :=
  if _inside : i < data.length then
    match data[i]? with
    | none => none
    | some len =>
        if len = 0 then
          some (.ok labels)
        else if i + 1 + len.toNat > data.length then
          some (.error "Label length out of bounds")
        else
          match slice data (i + 1) (i + 1 + len.toNat) with
          | none => none
          | some label =>
              match orError (fromUtf8 label) "Failed to parse segment as UTF8" with
              | .error error => some (.error error)
              | .ok parsedLabel =>
                  parseDnsNameLoop data (labels ++ [parsedLabel]) (i + 1 + len.toNat)
  else
    some (.ok labels)
termination_by data.length - i

/-- `parse_dns_name` with its slices. -/
def parseDnsNameSliced (data : List UInt8) : Option (Result String) :=
  (parseDnsNameLoop data [] 0).map fun labels => do
    let labels ← labels
    return ".".intercalate labels

/-- Data which starts with labels.  They end at a length of zero, after which anything can
follow, or with the data. -/
inductive Labels : List UInt8 → List String → Prop where
  | done : Labels [] []
  | zero {ignored : List UInt8} : Labels (0 :: ignored) []
  | label {len : UInt8} {bytes rest : List UInt8} {label : String} {labels : List String} :
      len ≠ 0 → bytes.length = len.toNat → fromUtf8 bytes = some label → Labels rest labels →
      Labels (len :: (bytes ++ rest)) (label :: labels)

def encodeLabel (label : String) : List UInt8 :=
  UInt8.ofNat (asBytes label).length :: asBytes label

section Slices

theorem drop_of_getElem? {data : List UInt8} {i : Nat} {len : UInt8}
    (found : data[i]? = some len) : data.drop i = len :: data.drop (i + 1) := by
  rcases List.getElem?_eq_some_iff.mp found with ⟨inside, rfl⟩
  exact List.drop_eq_getElem_cons inside

theorem slice_of_le {data : List UInt8} {start count : Nat} (inside : start + count ≤ data.length) :
    slice data start (start + count) = some ((data.drop start).take count) := by
  rw [slice, if_pos ⟨Nat.le_add_right _ _, inside⟩, Nat.add_sub_cancel_left]

/-- No slice is out of range, and the loop parses what is left of the data. -/
theorem parseDnsNameLoop_eq (data : List UInt8) (labels : List String) (i : Nat) :
    parseDnsNameLoop data labels i = some ((labels ++ ·) <$> parseLabels (data.drop i)) := by
  fun_induction parseDnsNameLoop data labels i with
  | case1 labels i inside missing => exact absurd (List.getElem?_eq_none_iff.mp missing) (by omega)
  | case2 labels i inside found =>
      rw [drop_of_getElem? found, parseLabels, if_pos rfl]
      simp
  | case3 labels i inside len found positive long =>
      rw [drop_of_getElem? found, parseLabels, if_neg positive,
        if_pos (by rw [List.length_drop]; omega)]
      rfl
  | case4 labels i inside len found positive short missing =>
      rw [slice_of_le (Nat.not_lt.mp short)] at missing
      cases missing
  | case5 labels i inside len found positive short bytes sliced error invalid =>
      rw [slice_of_le (Nat.not_lt.mp short)] at sliced
      cases sliced
      rw [drop_of_getElem? found, parseLabels, if_neg positive,
        if_neg (by rw [List.length_drop]; omega), invalid]
      rfl
  | case6 labels i inside len found positive short bytes sliced label valid ih =>
      rw [slice_of_le (Nat.not_lt.mp short)] at sliced
      cases sliced
      rw [ih, drop_of_getElem? found, parseLabels, if_neg positive,
        if_neg (by rw [List.length_drop]; omega), valid, List.drop_drop]
      cases parseLabels (data.drop (i + 1 + len.toNat)) with
      | error error => rfl
      | ok rest =>
          exact congrArg (fun all => some (Except.ok all)) (List.append_assoc labels [label] rest)
  | case7 labels i outside =>
      rw [List.drop_eq_nil_iff.mpr (Nat.not_lt.mp outside), parseLabels]
      simp

theorem parseDnsNameSliced_eq (data : List UInt8) :
    parseDnsNameSliced data = some (parseDnsName data) := by
  rw [parseDnsNameSliced, parseDnsNameLoop_eq, List.drop_zero, parseDnsName]
  simp

end Slices

section Grammar

variable {data : List UInt8} {labels : List String}

theorem parseLabels_eq_ok_iff : parseLabels data = .ok labels ↔ Labels data labels := by
  constructor
  · intro parsed
    fun_induction parseLabels data generalizing labels with
    | case1 =>
        cases parsed
        exact .done
    | case2 rest =>
        cases parsed
        exact .zero
    | case3 => cases parsed
    | case4 len rest positive fits ih =>
        simp only [Fallible.bind_eq_ok_iff, Fallible.pure_eq_ok_iff, orError_eq_ok_iff] at parsed
        rcases parsed with ⟨label, decoded, others, following, rfl⟩
        have grammar := Labels.label positive
          (List.length_take_of_le (Nat.not_lt.mp fits)) decoded (ih following)
        rwa [List.take_append_drop] at grammar
  · intro grammar
    induction grammar with
    | done => rw [parseLabels]
    | zero => rw [parseLabels, if_pos rfl]
    | @label len bytes rest label labels positive length decoded _ ih =>
        rw [parseLabels, if_neg positive, if_neg (by rw [List.length_append]; omega), ← length,
          List.take_left, List.drop_left, decoded, ih]
        rfl

theorem parseDnsName_eq_ok_iff {name : String} :
    parseDnsName data = .ok name ↔
      ∃ labels, Labels data labels ∧ name = ".".intercalate labels := by
  simp only [parseDnsName, Fallible.bind_eq_ok_iff, Fallible.pure_eq_ok_iff, parseLabels_eq_ok_iff,
    @eq_comm _ _ name]

theorem length_asBytes_pos {label : String} (nonempty : label ≠ "") :
    0 < (asBytes label).length :=
  List.length_pos_iff.mpr fun empty => nonempty (asBytes_injective empty)

/-- Labels which were encoded are found again, up to a length of zero or to the end of the
data. -/
theorem labels_encodeLabel {tail : List UInt8} (ends : Labels tail [])
    (encodable : ∀ label ∈ labels, label ≠ "" ∧ (asBytes label).length ≤ 255) :
    Labels (labels.flatMap encodeLabel ++ tail) labels := by
  induction labels with
  | nil => exact ends
  | cons label labels ih =>
      rcases encodable label List.mem_cons_self with ⟨nonempty, bound⟩
      have rest := ih fun other member => encodable other (List.mem_cons_of_mem _ member)
      have positive := length_asBytes_pos nonempty
      have length : (UInt8.ofNat (asBytes label).length).toNat = (asBytes label).length :=
        UInt8.toNat_ofNat_of_lt' (Nat.lt_succ_of_le bound)
      have len : UInt8.ofNat (asBytes label).length ≠ 0 := by
        intro zero
        rw [zero, UInt8.toNat_zero] at length
        omega
      rw [List.flatMap_cons, encodeLabel, List.cons_append, List.cons_append, List.append_assoc]
      exact .label len length.symm (fromUtf8_eq_some_iff.mpr rfl) rest

end Grammar

section Results

/-- What `parse_dns_name` does with every datagram, and that it gives back the labels which
were encoded in one. -/
structure ParsesNames (parse : List UInt8 → Option (Result String)) : Prop where
  accepts : ∀ data, ∃ result, parse data = some result ∧
    ∀ name, result = .ok name ↔ ∃ labels, Labels data labels ∧ name = ".".intercalate labels
  inverts : ∀ labels ignored, (∀ label ∈ labels, label ≠ "" ∧ (asBytes label).length ≤ 255) →
    parse (labels.flatMap encodeLabel ++ 0 :: ignored) = some (.ok (".".intercalate labels)) ∧
      parse (labels.flatMap encodeLabel) = some (.ok (".".intercalate labels))

theorem parsesNames_parseDnsNameSliced : ParsesNames parseDnsNameSliced where
  accepts data := ⟨parseDnsName data, parseDnsNameSliced_eq data, fun _ => parseDnsName_eq_ok_iff⟩
  inverts labels ignored encodable := by
    have zero := labels_encodeLabel (@Labels.zero ignored) encodable
    have ended := labels_encodeLabel Labels.done encodable
    rw [List.append_nil] at ended
    rw [parseDnsNameSliced_eq, parseDnsNameSliced_eq]
    exact ⟨congrArg some (parseDnsName_eq_ok_iff.mpr ⟨labels, zero, rfl⟩),
      congrArg some (parseDnsName_eq_ok_iff.mpr ⟨labels, ended, rfl⟩)⟩

example : parseDnsNameSliced [3, 97, 98, 99, 2, 100, 101, 0, 7] = some (.ok "abc.de") := by
  decide +kernel

end Results

end DmarcReportViewer.DnsClient
