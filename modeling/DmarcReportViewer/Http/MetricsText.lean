import DmarcReportViewer.Http.Metrics
import DmarcReportViewer.Lib.Splitting

/-!
# Labels in the text of the metrics

The text has one line for each domain, and the domain stands in it as it was received.
A domain with a line break ends its line early.
-/

namespace DmarcReportViewer.Metrics

open Collections Text

/-- The line of an entry, without the line break at its end. -/
def metricLine (metricName labelName : String) (entry : String × UInt64) : String :=
  metricName ++ "\x7b" ++ labelName ++ "=\"" ++ entry.1 ++ "\"\x7d " ++ toString entry.2

/-- A text consists of one line for each entry, and each line shows its label. -/
structure LinePerEntry (metricName labelName : String) (data : BTreeMap String UInt64) : Prop where
  lines : split (formatLabeledMetric data metricName labelName) "\n" =
    data.toList.map (metricLine metricName labelName) ++ [""]
  readable : ∀ entry ∈ data.toList, ∀ other,
    metricLine metricName labelName other = metricLine metricName labelName entry → other = entry

/-- Two maps are told apart by their texts, and both can be read back line by line. -/
structure Unforgeable (metricName labelName : String) (data other : BTreeMap String UInt64) :
    Prop where
  distinct : data ≠ other →
    formatLabeledMetric data metricName labelName ≠ formatLabeledMetric other metricName labelName
  first : LinePerEntry metricName labelName data
  second : LinePerEntry metricName labelName other

section Lines

variable {metricName labelName : String}

/-- What follows the last space of two equal texts is equal. -/
theorem append_cons_inj_of_not_mem {before before' after after' : List Char} {char : Char}
    (absent : char ∉ after) (absent' : char ∉ after')
    (same : before ++ char :: after = before' ++ char :: after') :
    before = before' ∧ after = after' := by
  have reversed := congrArg List.reverse same
  simp only [List.reverse_append, List.reverse_cons, List.append_assoc, List.singleton_append]
    at reversed
  have first := @splitOnce_of_not_mem after.reverse before.reverse char (by simpa using absent)
  have second := @splitOnce_of_not_mem after'.reverse before'.reverse char (by simpa using absent')
  rw [reversed, second] at first
  simp only [Option.some.injEq, Prod.mk.injEq, String.ofList_inj, List.reverse_inj] at first
  exact ⟨first.2.symm, first.1.symm⟩

theorem toString_eq (value : UInt64) : toString value = value.toNat.repr :=
  rfl

theorem not_mem_toString {char : Char} (other : char.isDigit = false) (value : UInt64) :
    char ∉ (toString value).toList := by
  intro member
  rw [toString_eq, Nat.toList_repr] at member
  have digit := Nat.isDigit_of_mem_toDigits (by decide) (by decide) member
  rw [other] at digit
  cases digit

theorem toString_injective : Function.Injective (toString : UInt64 → String) := by
  intro left right same
  have numbers := parseNumber_repr left.toNat
  rw [← toString_eq, same, toString_eq, parseNumber_repr] at numbers
  exact UInt64.toNat_inj.mp (Except.ok.inj numbers).symm

/-- The count stands behind the last space of a line, so a line shows its entry whatever
the label is. -/
theorem metricLine_injective : Function.Injective (metricLine metricName labelName) := by
  rintro ⟨label, value⟩ ⟨label', value'⟩ same
  have chars := congrArg String.toList same
  simp only [metricLine, String.toList_append, show "\"\x7d ".toList = ['"', '\x7d', ' '] from rfl,
    List.append_assoc, List.append_cancel_left_eq] at chars
  have split := @append_cons_inj_of_not_mem (label.toList ++ ['"', '\x7d'])
    (label'.toList ++ ['"', '\x7d']) _ _ ' ' (not_mem_toString rfl value)
    (not_mem_toString rfl value') (by simpa using chars)
  have labels : label = label' := String.toList_inj.mp (List.append_cancel_right split.1)
  have values : value = value' := toString_injective (String.toList_inj.mp split.2)
  rw [labels, values]

theorem formatLabeledMetric_eq (data : BTreeMap String UInt64) :
    formatLabeledMetric data metricName labelName =
      "\n".intercalate (data.toList.map (metricLine metricName labelName) ++ [""]) := by
  have run : ∀ (entries : List (String × UInt64)) (result : String),
      entries.foldl (fun result entry =>
        result ++ (metricName ++ "\x7b" ++ labelName ++ "=\"" ++ entry.1 ++ "\"\x7d " ++
          toString entry.2 ++ "\n")) result =
        result ++ "\n".intercalate (entries.map (metricLine metricName labelName) ++ [""]) := by
    intro entries
    induction entries with
    | nil => simp
    | cons entry entries ih =>
        intro result
        rw [List.foldl_cons, ih, List.map_cons, List.cons_append,
          String.intercalate_cons_of_ne_nil (by simp), metricLine]
        simp only [String.append_assoc]
  rw [formatLabeledMetric, run, String.empty_append]

end Lines

section Breaks

variable {metricName labelName : String}

theorem mem_metricLine_iff {char : Char} (inName : char ∉ metricName.toList)
    (inLabelName : char ∉ labelName.toList) (plain : char ∉ "\x7b=\"\x7d ".toList)
    (other : char.isDigit = false) (entry : String × UInt64) :
    char ∈ (metricLine metricName labelName entry).toList ↔ char ∈ entry.1.toList := by
  have digits := not_mem_toString other entry.2
  simp only [metricLine, String.toList_append, List.mem_append, inName, inLabelName, digits]
  simp at plain
  simp [plain]

/-- A text has one line for each entry if and only if no label has a line break. -/
theorem linePerEntry_iff (oneLine : '\n' ∉ metricName.toList)
    (oneLineLabel : '\n' ∉ labelName.toList) (data : BTreeMap String UInt64) :
    LinePerEntry metricName labelName data ↔ ∀ entry ∈ data.toList, '\n' ∉ entry.1.toList := by
  have inLine := @mem_metricLine_iff metricName labelName '\n' oneLine oneLineLabel (by decide) rfl
  constructor
  · intro linePerEntry entry member
    rw [← inLine]
    apply @not_mem_split '\n' (formatLabeledMetric data metricName labelName) "\n" _ rfl
    rw [linePerEntry.lines]
    exact List.mem_append_left _ (List.mem_map_of_mem member)
  · intro unbroken
    refine ⟨?_, fun entry _ other same => metricLine_injective same⟩
    rw [formatLabeledMetric_eq]
    apply split_intercalate (by decide) (by simp)
    intro piece member
    rw [show "\n".toList = ['\n'] from rfl, clear_singleton_iff]
    rcases List.mem_append.mp member with line | last
    · rcases List.mem_map.mp line with ⟨entry, stored, rfl⟩
      rw [inLine]
      exact unbroken entry stored
    · rw [List.mem_singleton.mp last]
      exact List.not_mem_nil

/-- The metrics cannot be forged if and only if no domain has a line break. -/
theorem unforgeable_iff (oneLine : '\n' ∉ metricName.toList)
    (oneLineLabel : '\n' ∉ labelName.toList) (data other : BTreeMap String UInt64) :
    Unforgeable metricName labelName data other ↔
      ∀ entry ∈ data.toList ++ other.toList, '\n' ∉ entry.1.toList := by
  rw [List.forall_mem_append, ← linePerEntry_iff oneLine oneLineLabel data,
    ← linePerEntry_iff oneLine oneLineLabel other]
  constructor
  · intro unforgeable
    exact ⟨unforgeable.first, unforgeable.second⟩
  · rintro ⟨first, second⟩
    refine ⟨fun distinct same => distinct ?_, first, second⟩
    have lines := first.lines
    rw [same, second.lines, List.append_left_inj] at lines
    exact Std.ExtTreeMap.toList_inj.mp
      (List.map_injective_iff.mpr metricLine_injective lines).symm

end Breaks

section Samples

def sampleData : BTreeMap String UInt64 :=
  ((∅ : BTreeMap String UInt64).insert "a" 1).insert "b" 2

def sampleForged : BTreeMap String UInt64 :=
  (∅ : BTreeMap String UInt64).insert "a\"\x7d 1\ndmarc_reports\x7bdomain=\"b" 2

theorem unforgeable_iff_sample :
    Unforgeable "dmarc_reports" "domain" sampleData
      ((∅ : BTreeMap String UInt64).insert "a\\\"\x7d 1" 2) :=
  (unforgeable_iff (by decide) (by decide) _ _).mpr (by decide +kernel)

/-- One domain of a report makes the text look like that of two domains. -/
theorem not_unforgeable_sample :
    ¬ Unforgeable "dmarc_reports" "domain" sampleData sampleForged := by
  intro unforgeable
  exact unforgeable.distinct (by decide +kernel) (by decide +kernel)

end Samples

end DmarcReportViewer.Metrics
