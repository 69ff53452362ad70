import DmarcReportViewer.Background.Runs
import DmarcReportViewer.Lib.Calendar
import DmarcReportViewer.Ui.LinkValues

/-!
# Date ranges

The model of `ui/date-filter.js` and of the time range in the lists of mails and DMARC
reports.  The texts of the date fields are dates of the local calendar, while the server
compares Unix timestamps.
-/

namespace DmarcReportViewer.Ui

open Calendar Collections Forms Text

section Clocks

def msPerDay : Int :=
  86400000

/-- The clocks of a place: the local time at a time and the time of a local time, all in
milliseconds. -/
structure TimeZone where
  localTime : Int → Int
  utc : Int → Int

/-- The number of the local day. -/
def TimeZone.dayOf (zone : TimeZone) (time : Int) : Int :=
  zone.localTime time / msPerDay

/-- What the clocks have to do on the first and on the last day of a range which is asked for
at some time of a day. -/
structure TimeZone.Suits (zone : TimeZone) (first last timeOfDay : Int) : Prop where
  /-- The first day has begun when its first local time has been reached. -/
  begins : ∀ time, zone.utc (first * msPerDay) ≤ time ↔ first ≤ zone.dayOf time
  /-- The last day lasts until its last local time. -/
  ends : ∀ time, time ≤ zone.utc (last * msPerDay + (msPerDay - 1)) ↔ zone.dayOf time ≤ last
  /-- If the first day skips the time of the day, then this is replaced by one of the same day. -/
  sameDay : zone.dayOf (zone.utc (first * msPerDay + timeOfDay)) = first
  wholeSeconds : zone.utc (first * msPerDay) % 1000 = 0
  /-- Local times are less than a day off. -/
  near : ∀ time ∈ [first * msPerDay, last * msPerDay + (msPerDay - 1)],
    time - msPerDay ≤ zone.utc time ∧ zone.utc time ≤ time + msPerDay

end Clocks

section Dates

/-- The texts of numbers which a date field can contain. -/
def number (text : String) : Option ℕ :=
  if text = "" then
    some 0
  else
    match parseNumber text with
    | .ok number => some number
    | .error _ => none

def padStart (text : String) (length : ℕ) (fill : Char) : String :=
  String.ofList (text.toList.leftpad length fill)

/-- The year which the constructor of `Date` takes a number for. -/
def fullYear (year : Int) : Int :=
  if 0 ≤ year ∧ year ≤ 99 then 1900 + year else year

/-- The number of a day.  The month and the day may be out of their ranges. -/
def makeDay (year month date : Int) : Int :=
  dayFromYear (year + month / 12) +
    daysBeforeMonth (isLeap (year + month / 12)) (month % 12).toNat + (date - 1)

variable (zone : TimeZone)

def formatDateInput (time : Int) : String :=
  let date := Date.ofDay (zone.dayOf time)
  let year := toString date.year
  let month := padStart (toString (date.month + 1)) 2 '0'
  let day := padStart (toString date.day) 2 '0'
  year ++ "-" ++ month ++ "-" ++ day

/-- The Unix timestamp of the beginning or of the end of a local day. -/
def dateToUnix (dateStr : String) (endOfDay : Bool) : Option Int :=
  if dateStr = "" then
    none
  else
    match (split dateStr "-").map number with
    | some year :: some month :: some day :: _ =>
        if year = 0 ∨ month = 0 ∨ day = 0 then
          none
        else
          let time := makeDay (fullYear year) (month - 1) day * msPerDay +
            if endOfDay then msPerDay - 1 else 0
          some (zone.utc time / 1000)
    | _ => none

/-- The fields for a range of days.  The clock is read once for the end and then once for
the beginning. -/
def quickRangeDates (endTime beginTime days : Int) : String × String :=
  let date := Date.ofDay (zone.dayOf beginTime)
  let begin := zone.utc (makeDay date.year date.month (date.day - (days - 1)) * msPerDay +
    zone.localTime beginTime % msPerDay)
  (formatDateInput zone begin, formatDateInput zone endTime)

/-- The time range which a list requests for its date fields. -/
def dateFilters (fields : String × String) : QuickFilters where
  beginUnix := dateToUnix zone fields.1 false
  endUnix := dateToUnix zone fields.2 true

end Dates

section Texts

theorem number_padStart {value : ℕ} (small : value < 100) :
    number (padStart (toString value) 2 '0') = some value := by
  have all : ∀ value < 100, number (padStart (toString value) 2 '0') = some value := by
    decide +kernel
  exact all value small

theorem plain_padStart {value : ℕ} (small : value < 100) :
    '-' ∉ (padStart (toString value) 2 '0').toList := by
  have all : ∀ value < 100, '-' ∉ (padStart (toString value) 2 '0').toList := by
    decide +kernel
  exact all value small

theorem number_repr (value : ℕ) : number value.repr = some value := by
  rw [number, if_neg Nat.repr_ne_empty, parseNumber_repr]

theorem makeDay_eq (date : Date) (days : Int) :
    makeDay date.year date.month (date.day - days) = date.toDay - days := by
  have inside := date.month_lt
  have year : (date.month : Int) / 12 = 0 := by omega
  have month : ((date.month : Int) % 12).toNat = date.month := by omega
  rw [makeDay, Date.toDay, year, month, Int.add_zero]
  omega

/-- A field which was filled with a day stands for this day. -/
theorem dateToUnix_format {zone : TimeZone} {time : Int}
    (year : 100 ≤ (Date.ofDay (zone.dayOf time)).year) (endOfDay : Bool) :
    dateToUnix zone (formatDateInput zone time) endOfDay =
      some (zone.utc (zone.dayOf time * msPerDay + if endOfDay then msPerDay - 1 else 0) /
        1000) := by
  have day : (Date.ofDay (zone.dayOf time)).toDay = zone.dayOf time := toDay_ofDay _
  simp only [formatDateInput]
  generalize Date.ofDay (zone.dayOf time) = date at year day
  have inside := date.month_lt
  have positive := date.day_pos
  have short : date.day < 100 := by
    have bounded := date.day_le
    have length := @daysInMonth_le date.year date.month inside
    omega
  obtain ⟨years, numeral⟩ : ∃ years : ℕ, date.year = years := ⟨date.year.toNat, by omega⟩
  have pieces : split (toString date.year ++ "-" ++ padStart (toString (date.month + 1)) 2 '0' ++
      "-" ++ padStart (toString date.day) 2 '0') "-" =
        [years.repr, padStart (toString (date.month + 1)) 2 '0',
          padStart (toString date.day) 2 '0'] := by
    have joined : toString date.year ++ "-" ++ padStart (toString (date.month + 1)) 2 '0' ++
        "-" ++ padStart (toString date.day) 2 '0' = "-".intercalate [years.repr,
          padStart (toString (date.month + 1)) 2 '0', padStart (toString date.day) 2 '0'] := by
      apply String.toList_inj.mp
      rw [numeral]
      simp only [String.intercalate_cons_cons, String.intercalate_singleton, String.toList_append,
        List.append_assoc]
      rfl
    rw [joined]
    apply split_intercalate (by decide) (List.cons_ne_nil _ _)
    simp only [List.mem_cons, List.not_mem_nil, or_false]
    rintro piece (rfl | rfl | rfl) <;> apply clear_singleton_iff.mpr
    · intro member
      rw [Nat.toList_repr] at member
      have digit := Nat.isDigit_of_mem_toDigits (by decide) (by decide) member
      cases digit
    · exact plain_padStart (by omega)
    · exact plain_padStart short
  have nonempty : toString date.year ++ "-" ++ padStart (toString (date.month + 1)) 2 '0' ++
      "-" ++ padStart (toString date.day) 2 '0' ≠ "" := by
    intro empty
    rw [empty] at pieces
    simp [split, splitAux] at pieces
  have whole : fullYear years = date.year := by
    rw [fullYear, if_neg (by omega), numeral]
  have found := makeDay_eq date 0
  rw [Int.sub_zero, Int.sub_zero, day] at found
  rw [dateToUnix, if_neg nonempty, pieces]
  simp only [List.map_cons, List.map_nil, number_repr, number_padStart short,
    number_padStart (show date.month + 1 < 100 by omega)]
  rw [if_neg (by omega), whole]
  have month : (((date.month + 1 : ℕ) : Int) - 1) = date.month := by omega
  rw [month, found]

end Texts

section Ranges

variable {zone : TimeZone} {first last timeOfDay seconds : Int}

/-- A time lies on the first day or later if it is not before the beginning of this day. -/
theorem begin_le_iff (suits : zone.Suits first last timeOfDay) :
    zone.utc (first * msPerDay + 0) / 1000 ≤ seconds ↔ first ≤ zone.dayOf (seconds * 1000) := by
  have begins := suits.begins (seconds * 1000)
  have whole := suits.wholeSeconds
  rw [← begins, Int.add_zero]
  omega

theorem le_end_iff (suits : zone.Suits first last timeOfDay) :
    seconds ≤ zone.utc (last * msPerDay + (msPerDay - 1)) / 1000 ↔
      zone.dayOf (seconds * 1000) ≤ last := by
  rw [Int.le_ediv_iff_mul_le (by decide), suits.ends]

/-- The days for which a browser has a date and which begin after the epoch everywhere. -/
def InCalendar (day : Int) : Prop :=
  1 ≤ day ∧ day ≤ 100000000

theorem begin_inRange (suits : zone.Suits first last timeOfDay) (inside : InCalendar first) :
    ∃ number : ℕ, zone.utc (first * msPerDay + 0) / 1000 = number ∧ number < 2 ^ 63 := by
  have near := suits.near (first * msPerDay) (by simp)
  rw [InCalendar] at inside
  rw [Int.add_zero]
  rw [msPerDay] at near ⊢
  refine ⟨(zone.utc (first * 86400000) / 1000).toNat, ?_, ?_⟩
  · omega
  · omega

theorem end_inRange (suits : zone.Suits first last timeOfDay) (inside : InCalendar last) :
    ∃ number : ℕ, zone.utc (last * msPerDay + (msPerDay - 1)) / 1000 = number ∧
      number < 2 ^ 63 := by
  have near := suits.near (last * msPerDay + (msPerDay - 1)) (by simp)
  rw [InCalendar] at inside
  rw [msPerDay] at near ⊢
  refine ⟨(zone.utc (last * 86400000 + (86400000 - 1)) / 1000).toNat, ?_, ?_⟩
  · omega
  · omega

/-- The days of a quick range. -/
theorem dateFilters_quickRangeDates {endTime beginTime days : Int}
    (suits : zone.Suits (zone.dayOf beginTime - (days - 1)) (zone.dayOf endTime)
      (zone.localTime beginTime % msPerDay))
    (inFirst : InCalendar (zone.dayOf beginTime - (days - 1)))
    (inLast : InCalendar (zone.dayOf endTime)) :
    dateFilters zone (quickRangeDates zone endTime beginTime days) = {
      beginUnix := some
        (zone.utc ((zone.dayOf beginTime - (days - 1)) * msPerDay + 0) / 1000)
      endUnix := some (zone.utc (zone.dayOf endTime * msPerDay + (msPerDay - 1)) / 1000) } := by
  have year : ∀ day, InCalendar day → 100 ≤ (Date.ofDay day).year := by
    intro day inside
    have modern := @le_yearFromDay day (by rw [InCalendar] at inside; omega)
    change 100 ≤ yearFromDay day
    omega
  have shifted : zone.dayOf (zone.utc (makeDay (Date.ofDay (zone.dayOf beginTime)).year
      (Date.ofDay (zone.dayOf beginTime)).month
        ((Date.ofDay (zone.dayOf beginTime)).day - (days - 1)) * msPerDay +
          zone.localTime beginTime % msPerDay)) = zone.dayOf beginTime - (days - 1) := by
    rw [makeDay_eq, toDay_ofDay]
    exact suits.sameDay
  simp only [dateFilters, quickRangeDates]
  rw [dateToUnix_format (by rw [shifted]; exact year _ inFirst), shifted,
    dateToUnix_format (year _ inLast)]
  rfl

end Ranges

section Lists

variable {env : Externals}

theorem parse_numbers (decodes : env.DecodesUtf8) {path : String} (inPath : Plain path)
    {numbers : Params} (plain : ∀ param ∈ numbers, Plain param.1 ∧ Plain param.2) :
    parse env.fromUtf8Lossy (fetchedQuery (address path numbers)) = numbers := by
  have parsed := @parse_textParam env decodes path
    ⟨inPath.not_mem (by decide), inPath.not_mem (by decide)⟩ [] numbers
    (fun param member => (plain param member).1) (fun param member => (plain param member).2)
  simpa using parsed

theorem mails_fromPairs {begin «end» : Int} {first last : String}
    (readFirst : Query.readI64 first = some begin) (readLast : Query.readI64 last = some «end») :
    Mails.MailFilters.fromPairs [("begin", first), ("end", last)] =
      some { begin := some begin, «end» := some «end» } := by
  simp [Mails.MailFilters.fromPairs, field, readFirst, readLast]

theorem dmarc_fromPairs {begin «end» : UInt64} {first last : String}
    (readFirst : Query.readU64 first = some begin) (readLast : Query.readU64 last = some «end») :
    DmarcReports.ReportFilters.fromPairs [("begin", first), ("end", last)] =
      some { begin := some begin, «end» := some «end» } := by
  simp [DmarcReports.ReportFilters.fromPairs, field, readFirst, readLast]

theorem plain_numbers (begin «end» : Int) :
    ∀ param ∈ [("begin", toString begin), ("end", toString «end»)],
      Plain param.1 ∧ Plain param.2 := by
  simp only [List.mem_cons, List.not_mem_nil, or_false]
  rintro param (rfl | rfl)
  · exact ⟨(by decide : Plain "begin"), plain_toString _⟩
  · exact ⟨(by decide : Plain "end"), plain_toString _⟩

/-- The lists which are requested for the date fields show what lies between two days, both
included: mails by their date, and reports by their time range. -/
structure ListsDays (env : Externals) (state : AppState) (zone : TimeZone)
    (fields : String × String) (first last : Int) : Prop where
  mails : ∃ filters,
    Mails.MailFilters.fromQuery env (fetchedQuery (updateMails [] (dateFilters zone fields))) =
      some filters ∧
    Mails.listHandler env state filters = (valueList state.mails).filter fun mail =>
      first ≤ zone.dayOf (mail.date * 1000) ∧ zone.dayOf (mail.date * 1000) ≤ last
  dmarcReports : ∃ filters,
    DmarcReports.ReportFilters.fromQuery env
        (fetchedQuery (updateDmarcReports [] (dateFilters zone fields))) = some filters ∧
    DmarcReports.listHandler env state filters = (state.dmarcReports.toList.filter fun entry =>
      first ≤ zone.dayOf (entry.2.report.reportMetadata.dateRange.«end».toNat * 1000) ∧
        zone.dayOf (entry.2.report.reportMetadata.dateRange.begin.toNat * 1000) ≤ last).map
          fun entry => DmarcReports.ReportHeader.fromReport entry.1 entry.2.report

/-- Clocks which are put forward by an hour on the last day of March 2024. -/
def sampleZone : TimeZone where
  localTime time := time + if time < 1711846800000 then 3600000 else 7200000
  utc time := time - if time < 1711854000000 then 3600000 else 7200000

end Lists

end DmarcReportViewer.Ui
