import DmarcReportViewer.Ui.RouteParams

/-!
# The values which links carry

A value which is put into a link to a list fills one filter of the list.  It is encoded as
often as it is decoded.
-/

namespace DmarcReportViewer.Ui

open Forms Text

section Numbers

/-- A parameter of the toolbar. -/
def IsNumber (param : String × String) : Prop :=
  param.1 ∈ ["begin", "end", "records_gt"] ∧ Plain param.2

variable {quick : QuickFilters}

theorem isNumber_timeParams : ∀ param ∈ quick.timeParams, IsNumber param := by
  intro param member
  rw [QuickFilters.timeParams, List.mem_append] at member
  rcases member with inBegin | inEnd
  · rcases List.mem_map.mp inBegin with ⟨number, _, rfl⟩
    exact ⟨by simp, plain_toString number⟩
  · rcases List.mem_map.mp inEnd with ⟨number, _, rfl⟩
    exact ⟨by simp, plain_toString number⟩

theorem isNumber_recordsParams : ∀ param ∈ quick.recordsParams, IsNumber param := by
  intro param member
  rw [QuickFilters.recordsParams] at member
  split at member
  · rw [List.mem_singleton.mp member]
    exact ⟨by simp, plain_repr quick.recordsGt⟩
  · exact absurd member List.not_mem_nil

theorem isNumber_dmarcParams : ∀ param ∈ quick.timeParams ++ quick.recordsParams,
    IsNumber param := fun param member =>
  (List.mem_append.mp member).elim (isNumber_timeParams param) (isNumber_recordsParams param)

theorem IsNumber.plain {param : String × String} (number : IsNumber param) : Plain param.1 := by
  have plain : ∀ name ∈ ["begin", "end", "records_gt"], Plain name := by decide
  exact plain param.1 number.1

theorem IsNumber.ne {param : String × String} (number : IsNumber param) {name : String}
    (other : name ∉ ["begin", "end", "records_gt"]) : param.1 ≠ name :=
  fun same => other (same ▸ number.1)

end Numbers

section Filters

variable {numbers : Params} {value : String}

theorem field_numbers {α : Type} {read : String → Option α}
    (numeric : ∀ param ∈ numbers, IsNumber param) {name : String}
    (other : name ∉ ["begin", "end", "records_gt"]) : field numbers name read = some none :=
  field_of_absent fun param member => (numeric param member).ne other

theorem field_text (numeric : ∀ param ∈ numbers, IsNumber param) {name : String}
    (other : name ∉ ["begin", "end", "records_gt"]) :
    field ((name, value) :: numbers) name some = some (some value) :=
  field_cons_of_absent fun param member => (numeric param member).ne other

theorem dmarc_domain (numeric : ∀ param ∈ numbers, IsNumber param) :
    DmarcReports.ReportFilters.fromPairs (("domain", value) :: numbers) =
      (DmarcReports.ReportFilters.fromPairs numbers).map
        fun filters => { filters with domain := some value } := by
  simp (disch := simp) only [DmarcReports.ReportFilters.fromPairs, field_cons_of_ne,
    field_text numeric, field_numbers numeric, Option.bind_eq_bind, Option.pure_def,
    Option.map_bind, Function.comp_def, Option.map_some, Option.bind_some]

theorem dmarc_org (numeric : ∀ param ∈ numbers, IsNumber param) :
    DmarcReports.ReportFilters.fromPairs (("org", value) :: numbers) =
      (DmarcReports.ReportFilters.fromPairs numbers).map
        fun filters => { filters with org := some value } := by
  simp (disch := simp) only [DmarcReports.ReportFilters.fromPairs, field_cons_of_ne,
    field_text numeric, field_numbers numeric, Option.bind_eq_bind, Option.pure_def,
    Option.map_bind, Function.comp_def, Option.map_some, Option.bind_some]

theorem dmarc_ip (numeric : ∀ param ∈ numbers, IsNumber param) :
    DmarcReports.ReportFilters.fromPairs (("ip", value) :: numbers) =
      (DmarcReports.ReportFilters.fromPairs numbers).map
        fun filters => { filters with ip := some value } := by
  simp (disch := simp) only [DmarcReports.ReportFilters.fromPairs, field_cons_of_ne,
    field_text numeric, field_numbers numeric, Option.bind_eq_bind, Option.pure_def,
    Option.map_bind, Function.comp_def, Option.map_some, Option.bind_some]

theorem mails_sender (numeric : ∀ param ∈ numbers, IsNumber param) :
    Mails.MailFilters.fromPairs (("sender", value) :: numbers) =
      (Mails.MailFilters.fromPairs numbers).map
        fun filters => { filters with sender := some value } := by
  simp (disch := simp) only [Mails.MailFilters.fromPairs, field_cons_of_ne,
    field_text numeric, field_numbers numeric, Option.bind_eq_bind, Option.pure_def,
    Option.map_bind, Function.comp_def, Option.map_some, Option.bind_some]

theorem readU64_toString {number : Nat} (bounded : number < 2 ^ 63) :
    Query.readU64 (toString (number : Int)) = some (UInt64.ofNat number) := by
  have bounded : number < 2 ^ 64 := by omega
  change (Query.readUsize number.repr).map UInt64.ofNat = _
  simp only [Query.readUsize, parseNumber_repr, if_pos bounded, Option.map_some]

theorem readUsize_toString {number : Nat} (bounded : number < 2 ^ 64) :
    Query.readUsize (toString number) = some number := by
  change Query.readUsize number.repr = _
  simp only [Query.readUsize, parseNumber_repr, if_pos bounded]

theorem readI64_toString {number : Nat} (bounded : number < 2 ^ 63) :
    Query.readI64 (toString (number : Int)) = some (number : Int) := by
  change Query.readI64 number.repr = _
  have unsigned : stripPrefix number.repr "-" = none := by
    cases stripped : stripPrefix number.repr "-" with
    | none => rfl
    | some rest =>
        have sign : '-' ∈ number.repr.toList := by
          rw [stripPrefix_eq_some_iff.mp stripped, String.toList_append]
          exact List.mem_append_left _ List.mem_cons_self
        rw [Nat.toList_repr] at sign
        cases Nat.isDigit_of_mem_toDigits (by decide) (by decide) sign
  simp only [Query.readI64, unsigned, parseNumber_repr, if_pos bounded]

end Filters

section Carried

variable {env : Externals} {link name value : String} {quick : QuickFilters} {params : Params}

/-- The server can read the numbers of the toolbar. -/
structure QuickFilters.InRange (quick : QuickFilters) : Prop where
  beginUnix : ∀ begin ∈ quick.beginUnix, ∃ number : Nat, begin = number ∧ number < 2 ^ 63
  endUnix : ∀ endTime ∈ quick.endUnix, ∃ number : Nat, endTime = number ∧ number < 2 ^ 63
  recordsGt : quick.recordsGt < 2 ^ 64

theorem dmarcFilters_eq (decodes : env.DecodesUtf8)
    (route : onHashChange (locationHash link) = ("#/dmarc-reports", params)) {texts : Params}
    (plain : ∀ text ∈ texts, Plain text.1)
    (request : updateDmarcReports params quick = address "dmarc-reports"
      ((texts.map fun text => (text.1, encodeURIComponent text.2)) ++
        (quick.timeParams ++ quick.recordsParams))) :
    dmarcFilters env link quick =
      (DmarcReports.ReportFilters.fromPairs
        (texts ++ (quick.timeParams ++ quick.recordsParams))).map fun filters =>
          filters.urlDecode env := by
  have names : ∀ param ∈ texts ++ (quick.timeParams ++ quick.recordsParams), Plain param.1 :=
    fun param member => (List.mem_append.mp member).elim (plain param)
      fun inNumbers => (isNumber_dmarcParams param inNumbers).plain
  have pairs := parse_textParam decodes (by decide : '#' ∉ "dmarc-reports".toList ∧ _) names
    fun param member => (isNumber_dmarcParams param member).2
  have page : component "#/dmarc-reports" = .dmarcReports := by decide
  simp only [dmarcFilters, route, page, request, DmarcReports.ReportFilters.fromQuery, pairs,
    guard_true, Option.pure_def, Option.bind_eq_bind, Option.bind_some]
  rw [Option.map_eq_bind]
  rfl

theorem tlsFilters_eq (decodes : env.DecodesUtf8)
    (route : onHashChange (locationHash link) = ("#/tls-reports", params)) {texts : Params}
    (plain : ∀ text ∈ texts, Plain text.1)
    (request : updateTlsReports params = address "tls-reports"
      (texts.map fun text => (text.1, encodeURIComponent text.2))) :
    tlsFilters env link =
      (TlsReports.ReportFilters.fromPairs texts).map fun filters => filters.urlDecode env := by
  have pairs := @parse_textParam env decodes "tls-reports" (by decide) texts []
    (by simpa using plain) fun param member => absurd member List.not_mem_nil
  rw [List.append_nil, List.append_nil] at pairs
  have page : component "#/tls-reports" = .tlsReports := by decide
  simp only [tlsFilters, route, page, request, TlsReports.ReportFilters.fromQuery, pairs,
    guard_true, Option.pure_def, Option.bind_eq_bind, Option.bind_some]
  rw [Option.map_eq_bind]
  rfl

theorem mailFilters_eq (decodes : env.DecodesUtf8)
    (route : onHashChange (locationHash link) = ("#/mails", params)) {texts : Params}
    (plain : ∀ text ∈ texts, Plain text.1)
    (request : updateMails params quick = address "mails"
      ((texts.map fun text => (text.1, encodeURIComponent text.2)) ++ quick.timeParams)) :
    mailFilters env link quick =
      (Mails.MailFilters.fromPairs (texts ++ quick.timeParams)).map fun filters =>
        filters.urlDecode env := by
  have names : ∀ param ∈ texts ++ quick.timeParams, Plain param.1 :=
    fun param member => (List.mem_append.mp member).elim (plain param)
      fun inNumbers => (isNumber_timeParams param inNumbers).plain
  have pairs := parse_textParam decodes (by decide : '#' ∉ "mails".toList ∧ _) names
    fun param member => (isNumber_timeParams param member).2
  have page : component "#/mails" = .mails := by decide
  simp only [mailFilters, route, page, request, Mails.MailFilters.fromQuery, pairs,
    guard_true, Option.pure_def, Option.bind_eq_bind, Option.bind_some]
  rw [Option.map_eq_bind]
  rfl

theorem encodeURIComponent_ne_empty (nonempty : value ≠ "") : encodeURIComponent value ≠ "" :=
  Percent.encode_ne_empty nonempty

theorem updateDmarcReports_text (known : name ∈ ["domain", "org", "ip"]) (nonempty : value ≠ "") :
    updateDmarcReports [(name, value)] quick = address "dmarc-reports"
      (([(name, value)].map fun text => (text.1, encodeURIComponent text.2)) ++
        (quick.timeParams ++ quick.recordsParams)) := by
  simp only [List.mem_cons, List.not_mem_nil, or_false] at known
  rcases known with rfl | rfl | rfl <;>
    simp [updateDmarcReports, flagParam, textParam, List.lookup_cons, nonempty]

theorem updateTlsReports_text (known : name ∈ ["domain", "org", "ip"]) (nonempty : value ≠ "") :
    updateTlsReports [(name, value)] = address "tls-reports"
      ([(name, value)].map fun text => (text.1, encodeURIComponent text.2)) := by
  simp only [List.mem_cons, List.not_mem_nil, or_false] at known
  rcases known with rfl | rfl | rfl <;>
    simp [updateTlsReports, flagParam, textParam, List.lookup_cons, nonempty]

theorem updateMails_text (nonempty : value ≠ "") :
    updateMails [("sender", value)] quick = address "mails"
      (([("sender", value)].map fun text => (text.1, encodeURIComponent text.2)) ++
        quick.timeParams) := by
  simp [updateMails, flagParam, textParam, List.lookup_cons, nonempty]

end Carried

section Links

variable {env : Externals} {Filters : Type}

/-- The value of a link fills one filter of the list, and the other filters are those of the
list without the value.  The list is requested successfully. -/
structure Carries (follow : String → QuickFilters → Option Filters) (route name value : String)
    (fill : Filters → Filters) : Prop where
  fills : ∀ quick, follow (link route name value) quick = (follow ("#" ++ route) quick).map fill
  accepted : ∀ quick : QuickFilters, quick.InRange → (follow ("#" ++ route) quick).isSome = true

/-- The links of the lists carry a value. -/
structure LinksCarry (env : Externals) (value : String) : Prop where
  dmarcOrg : Carries (dmarcFilters env) "/dmarc-reports" "org" value
    fun filters => { filters with org := some value }
  dmarcIp : Carries (dmarcFilters env) "/dmarc-reports" "ip" value
    fun filters => { filters with ip := some value }
  dmarcDomain : Carries (dmarcFilters env) "/dmarc-reports" "domain" value
    fun filters => { filters with domain := some (env.toLowercase value) }
  tlsOrg : Carries (fun link _ => tlsFilters env link) "/tls-reports" "org" value
    fun filters => { filters with org := some value }
  tlsIp : Carries (fun link _ => tlsFilters env link) "/tls-reports" "ip" value
    fun filters => { filters with ip := some value }
  tlsDomain : Carries (fun link _ => tlsFilters env link) "/tls-reports" "domain" value
    fun filters => { filters with domain := some (env.toLowercase value) }
  mailsSender : Carries (mailFilters env) "/mails" "sender" value
    fun filters => { filters with sender := some (env.toLowercase value) }

/-- A number of the toolbar is sent only if it is set. -/
theorem exists_field_numberParam {α : Type} {read : String → Option α} {name : String}
    {number : Option Int} {rest : Params} (absent : ∀ param ∈ rest, param.1 ≠ name)
    (reads : ∀ value ∈ number, ∃ result, read (toString value) = some result) :
    ∃ result, field (numberParam name number ++ rest) name read = some result := by
  cases number with
  | none => exact ⟨none, field_of_absent absent⟩
  | some value =>
      rcases reads value rfl with ⟨result, read⟩
      refine ⟨some result, ?_⟩
      change field ((name, toString value) :: rest) name _ = _
      rw [field_cons_of_absent absent, read, Option.map_some]

theorem field_numberParam_of_ne {α : Type} {read : String → Option α} {other name : String}
    {number : Option Int} {rest : Params} (different : other ≠ name) :
    field (numberParam other number ++ rest) name read = field rest name read := by
  cases number with
  | none => rfl
  | some value => exact field_cons_of_ne different

theorem absent_numberParam {other name : String} {number : Option Int} {rest : Params}
    (different : other ≠ name) (absent : ∀ param ∈ rest, param.1 ≠ name) :
    ∀ param ∈ numberParam other number ++ rest, param.1 ≠ name := by
  intro param member
  rcases List.mem_append.mp member with inNumber | inRest
  · rcases List.mem_map.mp inNumber with ⟨_, _, rfl⟩
    exact different
  · exact absent param inRest

theorem recordsParams_eq (quick : QuickFilters) :
    quick.recordsParams =
      numberParam "records_gt" (if quick.recordsGt > 0 then some quick.recordsGt else none) ++
        [] := by
  rw [QuickFilters.recordsParams]
  split <;> rfl

section Time

variable {α : Type} {read : String → Option α} {quick : QuickFilters} {rest : Params}

theorem exists_field_begin (absent : ∀ param ∈ rest, param.1 ≠ "begin")
    (reads : ∀ number : Nat, number < 2 ^ 63 →
      ∃ result, read (toString (number : Int)) = some result) (inRange : quick.InRange) :
    ∃ begin, field (quick.timeParams ++ rest) "begin" read = some begin := by
  rw [QuickFilters.timeParams, List.append_assoc]
  apply exists_field_numberParam (absent_numberParam (by decide) absent)
  intro value set
  rcases inRange.beginUnix value set with ⟨number, rfl, bounded⟩
  exact reads number bounded

theorem exists_field_end (absent : ∀ param ∈ rest, param.1 ≠ "end")
    (reads : ∀ number : Nat, number < 2 ^ 63 →
      ∃ result, read (toString (number : Int)) = some result) (inRange : quick.InRange) :
    ∃ endTime, field (quick.timeParams ++ rest) "end" read = some endTime := by
  rw [QuickFilters.timeParams, List.append_assoc, field_numberParam_of_ne (by decide)]
  apply exists_field_numberParam absent
  intro value set
  rcases inRange.endUnix value set with ⟨number, rfl, bounded⟩
  exact reads number bounded

end Time

/-- The list of DMARC reports is shown if the toolbar is filled in sensibly. -/
theorem dmarc_accepted (decodes : env.DecodesUtf8) {quick : QuickFilters}
    (inRange : quick.InRange) :
    (dmarcFilters env ("#" ++ "/dmarc-reports") quick).isSome = true := by
  have route :
      onHashChange (locationHash ("#" ++ "/dmarc-reports")) = ("#/dmarc-reports", []) := by
    decide +kernel
  have others : ∀ {name : String}, "records_gt" ≠ name →
      ∀ param ∈ quick.recordsParams, param.1 ≠ name := by
    intro name different
    rw [recordsParams_eq]
    exact absent_numberParam different fun _ member => absurd member List.not_mem_nil
  have reads : ∀ number : Nat, number < 2 ^ 63 →
      ∃ result, Query.readU64 (toString (number : Int)) = some result :=
    fun _ bounded => ⟨_, readU64_toString bounded⟩
  rcases exists_field_begin (others (by decide)) reads inRange with ⟨begin, foundBegin⟩
  rcases exists_field_end (others (by decide)) reads inRange with ⟨endTime, foundEnd⟩
  have records : ∃ recordsGt, field (quick.timeParams ++ quick.recordsParams) "records_gt"
      Query.readUsize = some recordsGt := by
    rw [QuickFilters.timeParams, List.append_assoc, field_numberParam_of_ne (by decide),
      field_numberParam_of_ne (by decide), recordsParams_eq]
    apply exists_field_numberParam (fun _ member => absurd member List.not_mem_nil)
    intro value set
    split at set <;> cases set
    exact ⟨_, readUsize_toString inRange.recordsGt⟩
  rcases records with ⟨recordsGt, foundRecords⟩
  rw [@dmarcFilters_eq env _ quick _ decodes route [] (by simp) rfl, Option.isSome_map,
    List.nil_append]
  simp (disch := simp) only [DmarcReports.ReportFilters.fromPairs,
    field_numbers (@isNumber_dmarcParams quick), foundBegin, foundEnd, foundRecords,
    Option.bind_eq_bind, Option.bind_some, Option.pure_def, Option.isSome_some]

theorem mails_accepted (decodes : env.DecodesUtf8) {quick : QuickFilters}
    (inRange : quick.InRange) : (mailFilters env ("#" ++ "/mails") quick).isSome = true := by
  have route : onHashChange (locationHash ("#" ++ "/mails")) = ("#/mails", []) := by
    decide +kernel
  have reads : ∀ number : Nat, number < 2 ^ 63 →
      ∃ result, Query.readI64 (toString (number : Int)) = some result :=
    fun _ bounded => ⟨_, readI64_toString bounded⟩
  have none : ∀ {name : String}, ∀ param ∈ ([] : Params), param.1 ≠ name :=
    fun _ member => absurd member List.not_mem_nil
  rcases exists_field_begin none reads inRange with ⟨begin, foundBegin⟩
  rcases exists_field_end none reads inRange with ⟨endTime, foundEnd⟩
  rw [List.append_nil] at foundBegin foundEnd
  rw [@mailFilters_eq env _ quick _ decodes route [] (by simp) rfl, Option.isSome_map,
    List.nil_append]
  simp (disch := simp) only [Mails.MailFilters.fromPairs,
    field_numbers (@isNumber_timeParams quick), foundBegin, foundEnd,
    Option.bind_eq_bind, Option.bind_some, Option.pure_def, Option.isSome_some]

variable {name value : String}

theorem plain_known : ∀ name ∈ ["domain", "org", "ip", "sender"], Plain name := by
  decide

/-- Decoding the filters of a request commutes with filling one of them in. -/
theorem dmarc_carries (decodes : env.DecodesUtf8) (nonempty : value ≠ "")
    (known : name ∈ ["domain", "org", "ip"])
    {encoded decoded : DmarcReports.ReportFilters → DmarcReports.ReportFilters}
    (fills : ∀ numbers : Params, (∀ param ∈ numbers, IsNumber param) →
      DmarcReports.ReportFilters.fromPairs ((name, encodeURIComponent value) :: numbers) =
        (DmarcReports.ReportFilters.fromPairs numbers).map encoded)
    (commutes : ∀ filters, (encoded filters).urlDecode env = decoded (filters.urlDecode env)) :
    Carries (dmarcFilters env) "/dmarc-reports" name value decoded where
  fills quick := by
    have isRoute : IsRoute "/dmarc-reports" := by decide
    have plain := plain_known name (List.mem_append_left ["sender"] known)
    have request := @updateDmarcReports_text name (encodeURIComponent value) quick known
      (encodeURIComponent_ne_empty nonempty)
    rw [dmarcFilters_eq decodes (onHashChange_link isRoute plain) (by simp [plain]) request,
      List.singleton_append, fills _ isNumber_dmarcParams,
      @dmarcFilters_eq env _ quick _ decodes (onHashChange_route isRoute) [] (by simp) rfl,
      Option.map_map, Option.map_map]
    exact congrArg (Option.map · _) (funext commutes)
  accepted _ inRange := dmarc_accepted decodes inRange

theorem tls_carries (decodes : env.DecodesUtf8) (nonempty : value ≠ "")
    (known : name ∈ ["domain", "org", "ip"])
    {encoded decoded : TlsReports.ReportFilters → TlsReports.ReportFilters}
    (fills : TlsReports.ReportFilters.fromPairs [(name, encodeURIComponent value)] =
      (TlsReports.ReportFilters.fromPairs []).map encoded)
    (commutes : ∀ filters, (encoded filters).urlDecode env = decoded (filters.urlDecode env)) :
    Carries (fun link _ => tlsFilters env link) "/tls-reports" name value decoded := by
  have isRoute : IsRoute "/tls-reports" := by decide
  have plain := plain_known name (List.mem_append_left ["sender"] known)
  have request := @updateTlsReports_text name (encodeURIComponent value) known
    (encodeURIComponent_ne_empty nonempty)
  have base := @tlsFilters_eq env _ _ decodes (onHashChange_route isRoute) [] (by simp) rfl
  constructor
  · intro _
    rw [tlsFilters_eq decodes (onHashChange_link isRoute plain) (by simp [plain]) request, fills,
      base, Option.map_map, Option.map_map]
    exact congrArg (Option.map · _) (funext commutes)
  · intro _ _
    rw [base]
    rfl

theorem mails_carries (decodes : env.DecodesUtf8) (nonempty : value ≠ "")
    {encoded decoded : Mails.MailFilters → Mails.MailFilters}
    (fills : ∀ numbers : Params, (∀ param ∈ numbers, IsNumber param) →
      Mails.MailFilters.fromPairs (("sender", encodeURIComponent value) :: numbers) =
        (Mails.MailFilters.fromPairs numbers).map encoded)
    (commutes : ∀ filters, (encoded filters).urlDecode env = decoded (filters.urlDecode env)) :
    Carries (mailFilters env) "/mails" "sender" value decoded where
  fills quick := by
    have isRoute : IsRoute "/mails" := by decide
    have plain := plain_known "sender" (by decide)
    have request := @updateMails_text (encodeURIComponent value) quick
      (encodeURIComponent_ne_empty nonempty)
    rw [mailFilters_eq decodes (onHashChange_link isRoute plain) (by simp [plain]) request,
      List.singleton_append, fills _ isNumber_timeParams,
      @mailFilters_eq env _ quick _ decodes (onHashChange_route isRoute) [] (by simp) rfl,
      Option.map_map, Option.map_map]
    exact congrArg (Option.map · _) (funext commutes)
  accepted _ inRange := mails_accepted decodes inRange

/-- Every value which is not empty arrives at the server as it was put into the link. -/
theorem linksCarry_of_ne_empty (decodes : env.DecodesUtf8) (nonempty : value ≠ "") :
    LinksCarry env value := by
  have decoded : env.urlDecode (encodeURIComponent value) = some value := by
    rw [decodes.urlDecode, encodeURIComponent, Percent.decode_encode (by decide)]
  constructor
  · apply dmarc_carries decodes nonempty (by decide) fun _ => dmarc_org
    simp [DmarcReports.ReportFilters.urlDecode, decoded]
  · apply dmarc_carries decodes nonempty (by decide) fun _ => dmarc_ip
    simp [DmarcReports.ReportFilters.urlDecode, decoded]
  · apply dmarc_carries decodes nonempty (by decide) fun _ => dmarc_domain
    simp [DmarcReports.ReportFilters.urlDecode, decoded]
  · apply @tls_carries env "org" value decodes nonempty (by decide)
      (fun filters => { filters with org := some (encodeURIComponent value) }) _ rfl
    simp [TlsReports.ReportFilters.urlDecode, decoded]
  · apply @tls_carries env "ip" value decodes nonempty (by decide)
      (fun filters => { filters with ip := some (encodeURIComponent value) }) _ rfl
    simp [TlsReports.ReportFilters.urlDecode, decoded]
  · apply @tls_carries env "domain" value decodes nonempty (by decide)
      (fun filters => { filters with domain := some (encodeURIComponent value) }) _ rfl
    simp [TlsReports.ReportFilters.urlDecode, decoded]
  · apply mails_carries decodes nonempty fun _ => mails_sender
    simp [Mails.MailFilters.urlDecode, decoded]

theorem linksCarry_reserved : LinksCarry decodingEnv "50%&flagged=true#+ü?" :=
  linksCarry_of_ne_empty decodesUtf8_decodingEnv (by decide)

end Links

end DmarcReportViewer.Ui
