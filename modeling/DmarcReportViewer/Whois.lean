import DmarcReportViewer.Basic
import DmarcReportViewer.Lib.Fallible
import DmarcReportViewer.Lib.Splitting
import DmarcReportViewer.Lib.Substitution

/-!
# Whois lookups

The model of `whois.rs`: a client which asks a server about an address and follows the
referrals in the answers.  What the network does in every lookup is a parameter.
-/

namespace DmarcReportViewer.Whois

open Text

structure Server where
  host : String
  port : UInt16
  query : String
deriving DecidableEq

def Server.default : Server where
  host := "whois.arin.net"
  port := 43
  query := "n + $addr\r\n"

/-- The address to which a client connects. -/
def Server.serverAddr (server : Server) : String :=
  server.host ++ ":" ++ toString server.port

def readPort (digits : List Char) : Result Nat :=
  digits.foldlM (fun port char =>
    if char.isDigit then
      if port * 10 + (char.toNat - '0'.toNat) < 65536 then
        .ok (port * 10 + (char.toNat - '0'.toNat))
      else
        .error "number too large to fit in target type"
    else
      .error "invalid digit found in string") 0

/-- `str::parse` for a port, which accepts a plus sign. -/
def parsePort (text : String) : Result UInt16 :=
  match text.toList with
  | [] => .error "cannot parse integer from empty string"
  | ['+'] => .error "invalid digit found in string"
  | '+' :: digits => UInt16.ofNat <$> readPort digits
  | digits => UInt16.ofNat <$> readPort digits

def Server.fromStr (value : String) : Result Server :=
  let query := "$addr\r\n"
  match split value ":" with
  | [host] => .ok { host := host, port := 43, query := query }
  | host :: port :: _ => do
      let port ← (parsePort port).context "Failed to parse port"
      return { host := host, port := port, query := query }
  | [] => .error "Cannot parse address, expected host[:port]"

section Referrals

def keywords : List String :=
  ["ReferralServer", "Registrar Whois", "Whois Server", "WHOIS Server", "Registrar WHOIS Server"]

/-- The rest of a text which starts with a keyword and a colon. -/
def afterKeyword (text : String) : Option String :=
  keywords.findSome? fun keyword => stripPrefix text (keyword ++ ":")

/-- A text without the scheme `r?whois://`. -/
def withoutScheme (text : String) : String :=
  ((stripPrefix text "rwhois://").or (stripPrefix text "whois://")).getD text

/-- The last group of the leftmost match of the regular expression: the rest of the line
behind the keyword, the white space `[^\S\n]*` and the scheme. -/
def referral (text : String) : Option String :=
  (text.toList.tails.findSome? fun chars => afterKeyword (String.ofList chars)).map fun rest =>
    let rest := String.ofList
      (rest.toList.dropWhile fun char => isWhitespace char && char != '\n')
    String.ofList ((withoutScheme rest).toList.takeWhile fun char => char != '\n')

end Referrals

example : referral "a\nReferralServer:  rwhois://rwhois.example:4321\nb" =
    some "rwhois.example:4321" := by
  decide +kernel

/-- What the network does in a lookup.  The outer errors are those of the timeouts. -/
structure Exchange where
  connect : Result (Result Unit)
  writeAll : Result (Result Unit)
  flush : Result (Result Unit)
  readToString : Result (Result String)

/-- The exchanges of the lookups, which are numbered.  They can depend on the address to
which the client connects and on the query it sends. -/
abbrev Network : Type :=
  ℕ → String → String → Exchange

structure AddrTextPair where
  serverAddr : String
  text : String
deriving DecidableEq

def getTcpStream (exchange : Exchange) : Result Unit := do
  (← exchange.connect.context "TCP connect timed out").context "TCP connect failed"

/-- Ask a server about a printed address. -/
def lookupOnce (exchange : String → String → Exchange) (ip : String) (server : Server) :
    Result AddrTextPair := do
  let serverAddr := server.serverAddr
  let query := String.ofList
    (Substitution.replace "$addr".toList ip.toList server.query.toList)
  let exchange := exchange serverAddr query
  (getTcpStream exchange).context "Failed to get TCP stream"
  (← exchange.writeAll.context "Sending query timed out").context "Failed to send query"
  (← exchange.flush.context "Flushing query timed out").context "Failed to flush query"
  let result ← (← exchange.readToString.context "Reading response timed out").context
    "Failed to read response"
  return { serverAddr := serverAddr, text := result }

/-- The loop of `lookup_iterative`, with the number of the next lookup.  The first component
lists the servers which it asks. -/
def lookupLoop (network : Network) (ip : String) :
    (follow : ℕ) → (number : ℕ) → AddrTextPair → List Server × Result String
  | 0, _, result => ([], .ok result.text)
  | follow + 1, number, result =>
      match referral result.text with
      | none => ([], .ok result.text)
      | some addr =>
          if addr ≠ result.serverAddr then
            match (Server.fromStr addr).context "Failed to parse server address" with
            | .error error => ([], .error error)
            | .ok server =>
                match (lookupOnce (network number) ip server).context
                    "Secondary whois query failed" with
                | .error error => ([server], .error error)
                | .ok result =>
                    let followed := lookupLoop network ip follow (number + 1) result
                    (server :: followed.1, followed.2)
          else
            ([], .ok result.text)

/-- The servers which a lookup asks, one after the other, and its result. -/
def lookupIterative (network : Network) (ip : String) (server : Server) (follow : UInt8) :
    List Server × Result String :=
  match (lookupOnce (network 0) ip server).context "Initial whois query failed" with
  | .error error => ([server], .error error)
  | .ok result =>
      let followed := lookupLoop network ip follow.toNat 1 result
      (server :: followed.1, followed.2)

structure WhoIsIp where
  server : Server
  maxFollows : UInt8
deriving DecidableEq

def WhoIsIp.default : WhoIsIp where
  server := Server.default
  maxFollows := 3

def WhoIsIp.lookup (whois : WhoIsIp) (network : Network) (ip : String) :
    List Server × Result String :=
  lookupIterative network ip whois.server whois.maxFollows

/-- Two servers with the same host and the same port.  Hosts can be compared as texts or in
any other way, such as regardless of the case. -/
def SameEndpoint (sameHost : String → String → Prop) (left right : Server) : Prop :=
  sameHost left.host right.host ∧ left.port = right.port

/-- No more servers are asked than allowed, and none is asked twice in a row. -/
structure NeverLoops (sameHost : String → String → Prop) (maxFollows : ℕ)
    (asked : List Server) : Prop where
  count : asked.length ≤ 1 + maxFollows
  consecutive : asked.IsChain fun left right => ¬ SameEndpoint sameHost left right

/-- If an answer refers to the server which sent it, then the referral is spelled like the
address to which the client connected. -/
def Recognised (sameHost : String → String → Prop) (asked : Server) (text : String) : Prop :=
  ∀ addr next, referral text = some addr → Server.fromStr addr = .ok next →
    SameEndpoint sameHost asked next → addr = asked.serverAddr

variable {sameHost : String → String → Prop} {network : Network} {ip : String}

section Following

theorem serverAddr_of_lookupOnce {exchange : String → String → Exchange} {server : Server}
    {result : AddrTextPair} (answered : lookupOnce exchange ip server = .ok result) :
    result.serverAddr = server.serverAddr := by
  simp only [lookupOnce, Fallible.bind_eq_ok_iff, Fallible.pure_eq_ok_iff] at answered
  rcases answered with ⟨_, _, _, _, _, _, _, _, _, _, _, _, _, _, rfl⟩
  rfl

theorem recognised_of_none {asked : Server} {text : String} (alone : referral text = none) :
    Recognised sameHost asked text := by
  intro addr next refers
  rw [alone] at refers
  cases refers

/-- A text has one referral. -/
theorem recognised_iff {asked : Server} {text addr : String} (refers : referral text = some addr) :
    Recognised sameHost asked text ↔
      ∀ next, Server.fromStr addr = .ok next → SameEndpoint sameHost asked next →
        addr = asked.serverAddr := by
  constructor
  · intro recognised next
    exact recognised addr next refers
  · intro recognised other next again
    rw [refers] at again
    cases again
    exact recognised next

/-- The loop ends with an answer which is recognised, or it follows a referral which is not
spelled like the address of the server that sent it. -/
theorem lookupLoop_cases (follow number : ℕ) {asked : Server} {result : AddrTextPair}
    (address : result.serverAddr = asked.serverAddr) :
    ((lookupLoop network ip (follow + 1) number result).1 = [] ∧
        Recognised sameHost asked result.text) ∨
      ∃ next,
        (Recognised sameHost asked result.text ↔ ¬ SameEndpoint sameHost asked next) ∧
        (((lookupLoop network ip (follow + 1) number result).1 = [next] ∧
            ∀ answer, lookupOnce (network number) ip next ≠ .ok answer) ∨
          ∃ answer, lookupOnce (network number) ip next = .ok answer ∧
            (lookupLoop network ip (follow + 1) number result).1 =
              next :: (lookupLoop network ip follow (number + 1) answer).1) := by
  cases found : referral result.text with
  | none => exact .inl ⟨by simp only [lookupLoop, found], recognised_of_none found⟩
  | some addr =>
      rw [recognised_iff found]
      by_cases same : addr = result.serverAddr
      · exact .inl ⟨by simp [lookupLoop, found, same], fun _ _ _ => same.trans address⟩
      · have different : addr ≠ asked.serverAddr := address ▸ same
        cases parsed : Server.fromStr addr with
        | error error =>
            refine .inl ⟨by simp [lookupLoop, found, same, parsed, Result.context], ?_⟩
            intro next names
            cases names
        | ok next =>
            refine .inr ⟨next, ?_, ?_⟩
            · constructor
              · intro recognised again
                exact different (recognised next rfl again)
              · intro differs server names again
                cases names
                exact absurd again differs
            · cases answered : lookupOnce (network number) ip next with
              | error error =>
                  refine .inl ⟨by simp [lookupLoop, found, same, parsed, answered, Result.context],
                    ?_⟩
                  intro answer isOk
                  cases isOk
              | ok answer =>
                  exact .inr ⟨answer, rfl, by
                    simp [lookupLoop, found, same, parsed, answered, Result.context]⟩

theorem length_lookupLoop_le (follow number : ℕ) (result : AddrTextPair) :
    (lookupLoop network ip follow number result).1.length ≤ follow := by
  fun_induction lookupLoop network ip follow number result with
  | case4 follow _ _ _ _ _ _ _ _ _ => exact Nat.succ_le_succ (Nat.zero_le follow)
  | case5 _ _ _ _ _ _ _ _ _ _ _ ih => exact Nat.succ_le_succ ih
  | _ => exact Nat.zero_le _

/-- The first lookup that is considered is the one whose answer is known. -/
theorem recognised_zero_iff {number : ℕ} {asked : Server} {others : List Server}
    {result : AddrTextPair} (answered : lookupOnce (network number) ip asked = .ok result) :
    (∀ server answer, (asked :: others)[0]? = some server →
        lookupOnce (network (number + 0)) ip server = .ok answer →
          Recognised sameHost server answer.text) ↔
      Recognised sameHost asked result.text := by
  constructor
  · intro recognised
    exact recognised asked result rfl answered
  · intro recognised server answer first found
    cases first
    rw [Nat.add_zero, answered] at found
    cases found
    exact recognised

/-- The servers which a loop asks differ from the one before them as long as the answers of
the servers are recognised. -/
theorem isChain_lookupLoop (follow number : ℕ) {asked : Server} {result : AddrTextPair}
    (answered : lookupOnce (network number) ip asked = .ok result) :
    (asked :: (lookupLoop network ip follow (number + 1) result).1).IsChain
        (fun left right => ¬ SameEndpoint sameHost left right) ↔
      ∀ i < follow, ∀ server answer,
        (asked :: (lookupLoop network ip follow (number + 1) result).1)[i]? = some server →
          lookupOnce (network (number + i)) ip server = .ok answer →
            Recognised sameHost server answer.text := by
  induction follow generalizing number asked result with
  | zero => simp [lookupLoop]
  | succ follow ih =>
      rw [Nat.forall_lt_succ_left, recognised_zero_iff answered]
      rcases @lookupLoop_cases sameHost network ip follow (number + 1) asked result
        (serverAddr_of_lookupOnce answered) with
        ⟨stopped, recognised⟩ | ⟨next, recognised, ⟨asksNext, failed⟩ | ⟨answer, found, asksNext⟩⟩
      · rw [stopped]
        simp [recognised]
      · have unanswered : ∀ i < follow, ∀ server answer, [asked, next][i + 1]? = some server →
            lookupOnce (network (number + (i + 1))) ip server = .ok answer →
              Recognised sameHost server answer.text := by
          intro i _ server answer asks isOk
          cases i with
          | zero =>
              cases asks
              exact absurd isOk (failed answer)
          | succ i => cases asks
        rw [asksNext, List.isChain_cons_cons, and_iff_left (.singleton next), recognised]
        exact (and_iff_left unanswered).symm
      · rw [asksNext, List.isChain_cons_cons, recognised, ih (number + 1) found]
        simp only [List.getElem?_cons_succ, Nat.add_right_comm number 1, Nat.add_assoc]

end Following

section Results

/-- A lookup never asks a server twice in a row exactly when all answers from which it
could still follow a referral are recognised. -/
theorem neverLoops_iff (sameHost : String → String → Prop) (network : Network) (ip : String)
    (server : Server) (follow : UInt8) :
    NeverLoops sameHost follow.toNat (lookupIterative network ip server follow).1 ↔
      ∀ i < follow.toNat, ∀ asked answer,
        (lookupIterative network ip server follow).1[i]? = some asked →
          lookupOnce (network i) ip asked = .ok answer →
            Recognised sameHost asked answer.text := by
  cases answered : lookupOnce (network 0) ip server with
  | error error =>
      have asksOnce : (lookupIterative network ip server follow).1 = [server] := by
        simp only [lookupIterative, answered, Result.context]
      rw [asksOnce]
      constructor
      · intro _ i _ asked answer asks isOk
        cases i with
        | zero =>
            cases asks
            rw [answered] at isOk
            cases isOk
        | succ i => cases asks
      · intro _
        exact ⟨Nat.le_add_right 1 _, .singleton server⟩
  | ok result =>
      have asks : (lookupIterative network ip server follow).1 =
          server :: (lookupLoop network ip follow.toNat 1 result).1 := by
        simp only [lookupIterative, answered, Result.context]
      have chain := @isChain_lookupLoop sameHost network ip follow.toNat 0 server result answered
      have count : (server :: (lookupLoop network ip follow.toNat 1 result).1).length ≤
          1 + follow.toNat := by
        rw [List.length_cons, Nat.add_comm]
        exact Nat.add_le_add_left (length_lookupLoop_le _ _ _) 1
      simp only [Nat.zero_add] at chain
      rw [asks, ← chain]
      exact ⟨NeverLoops.consecutive, NeverLoops.mk count⟩

/-- A network in which every server refers to the default one. -/
def referringNetwork : Network := fun _ _ _ => {
  connect := .ok (.ok ())
  writeAll := .ok (.ok ())
  flush := .ok (.ok ())
  readToString := .ok (.ok "ReferralServer: whois://whois.arin.net\n") }

/-- The default server is asked four times in a row. -/
theorem not_neverLoops_sample :
    (WhoIsIp.default.lookup referringNetwork "192.0.2.1").1.map Server.serverAddr =
        List.replicate 4 "whois.arin.net:43" ∧
      ¬ NeverLoops Eq WhoIsIp.default.maxFollows.toNat
        (WhoIsIp.default.lookup referringNetwork "192.0.2.1").1 := by
  have asked : (WhoIsIp.default.lookup referringNetwork "192.0.2.1").1 =
      Server.default :: List.replicate 3 { Server.default with query := "$addr\r\n" } := by
    decide +kernel
  rw [asked]
  refine ⟨by decide +kernel, fun never => ?_⟩
  exact (List.isChain_cons_cons.mp never.consecutive).1 ⟨rfl, rfl⟩

end Results

end DmarcReportViewer.Whois
