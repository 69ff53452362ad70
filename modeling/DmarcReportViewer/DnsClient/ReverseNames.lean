import DmarcReportViewer.DnsClient
import DmarcReportViewer.Lib.Digits
import DmarcReportViewer.Lib.Percent
import DmarcReportViewer.Lib.Splitting

/-!
# The names of reverse lookups

The labels in front of `in-addr.arpa` and `ip6.arpa` are the digits of an address, so the
address can be read from the name.
-/

namespace DmarcReportViewer.DnsClient

open Digits Text

/-- An octet in decimal notation. -/
def readOctet (label : String) : Option Nat :=
  match parseNumber label with
  | .ok octet => if octet < 256 then some octet else none
  | .error _ => none

/-- A single hexadecimal digit. -/
def readNibble (label : String) : Option Nat :=
  match label.toList with
  | [char] => Percent.hexValue char
  | _ => none

/-- The number whose digits are the labels, the least significant one first. -/
def readDigits (base count : Nat) (read : String → Option Nat) (labels : List String) :
    Option Nat := do
  let digits ← labels.mapM read
  if digits.length = count then some (Nat.ofDigits base digits) else none

/-- The address to which the name of a reverse lookup belongs. -/
def readName (name : String) : Option IpAddr :=
  match (split name ".").reverse with
  | "arpa" :: "in-addr" :: labels =>
      (readDigits 256 4 readOctet labels.reverse).map fun number => .v4 (BitVec.ofNat 32 number)
  | "arpa" :: "ip6" :: labels =>
      (readDigits 16 32 readNibble labels.reverse).map fun number => .v6 (BitVec.ofNat 128 number)
  | _ => none

/-- The names consist of the digits of their addresses, which can be read from them. -/
structure IdentifiesAddresses (query : IpAddr → String) : Prop where
  ipv4 : ∀ address : BitVec 32, split (query (.v4 address)) "." =
    (lowest 256 4 address.toNat).map toString ++ ["in-addr", "arpa"]
  ipv6 : ∀ address : BitVec 128, split (query (.v6 address)) "." =
    (lowest 16 32 address.toNat).map (fun nibble => String.singleton (Nat.digitChar nibble)) ++
      ["ip6", "arpa"]
  reads : ∀ ip, readName (query ip) = some ip
  distinct : Function.Injective query

section Labels

theorem reverse_octets (address count : Nat) :
    (octets address count).reverse = lowest 256 count address := by
  rw [octets, List.reverse_reverse, lowest]
  apply List.map_congr_left
  intro index _
  rw [Nat.shiftRight_eq_div_pow, Nat.pow_mul]

/-- The nibbles of an octet. -/
theorem nibbles_eq {octet : Nat} (bound : octet < 256) :
    (octet &&& 0xF0) >>> 4 = octet / 16 ∧ octet &&& 0x0F = octet % 16 := by
  have low : ∀ number, number &&& 0x0F = number % 16 := fun number =>
    Nat.and_two_pow_sub_one_eq_mod number 4
  constructor
  · rw [Nat.shiftRight_and_distrib, show 0xF0 >>> 4 = 0x0F from rfl, low,
      Nat.shiftRight_eq_div_pow]
    omega
  · exact low octet

/-- A zone under `arpa` follows the labels. -/
theorem intercalate_zone {labels : List String} (some : labels ≠ []) (zone : String) :
    ".".intercalate (labels ++ [zone, "arpa"]) =
      ".".intercalate labels ++ ("." ++ (zone ++ "." ++ "arpa")) := by
  rw [String.intercalate_append_of_ne_nil some (List.cons_ne_nil _ _), String.append_assoc,
    String.intercalate_cons_cons, String.intercalate_singleton]

theorem query_v4 (address : BitVec 32) :
    query (.v4 address) =
      ".".intercalate ((lowest 256 4 address.toNat).map toString ++ ["in-addr", "arpa"]) := by
  rw [query, ipv4Query, reverse_octets, intercalate_zone (by simp [lowest_succ])]
  rfl

/-- Reversing the nibbles also swaps the two of an octet. -/
theorem query_v6 (address : BitVec 128) :
    query (.v6 address) =
      ".".intercalate ((lowest 16 32 address.toNat).map
        (fun nibble => String.singleton (Nat.digitChar nibble)) ++ ["ip6", "arpa"]) := by
  have digits : ((octets address.toNat 16).flatMap fun octet =>
      [String.singleton (Nat.digitChar ((octet &&& 0xF0) >>> 4)),
        String.singleton (Nat.digitChar (octet &&& 0x0F))]).reverse =
      (lowest 16 32 address.toNat).map fun nibble =>
        String.singleton (Nat.digitChar nibble) := by
    rw [List.reverse_flatMap, reverse_octets, ← @lowest_mul_self 16 16, List.map_flatMap]
    apply List.flatMap_congr
    intro octet member
    have nibbles := nibbles_eq (lt_of_mem_lowest (by decide) member)
    rw [Function.comp_apply, nibbles.1, nibbles.2]
    rfl
  rw [query, ipv6Query, digits, intercalate_zone (by simp [lowest_succ])]
  rfl

end Labels

section Reading

theorem readOctet_toString {octet : Nat} (bound : octet < 256) :
    readOctet (toString octet) = some octet := by
  rw [readOctet, show toString octet = octet.repr from rfl, parseNumber_repr]
  exact if_pos bound

theorem readNibble_singleton {nibble : Nat} (bound : nibble < 16) :
    readNibble (String.singleton (Nat.digitChar nibble)) = some nibble := by
  rw [readNibble, String.toList_singleton]
  decide +revert

/-- No label of a digit contains the dot which separates the labels. -/
theorem dot_not_mem_toString (octet : Nat) : '.' ∉ (toString octet).toList := by
  rw [show toString octet = octet.repr from rfl, Nat.toList_repr]
  intro member
  cases Nat.isDigit_of_mem_toDigits (by decide) (by decide) member

theorem dot_not_mem_nibble {nibble : Nat} (bound : nibble < 16) :
    '.' ∉ (String.singleton (Nat.digitChar nibble)).toList := by
  rw [String.toList_singleton]
  decide +revert

theorem split_zone {labels : List String} {zone : String}
    (clear : ∀ label ∈ labels, '.' ∉ label.toList) (zoneClear : '.' ∉ zone.toList) :
    split (".".intercalate (labels ++ [zone, "arpa"])) "." = labels ++ [zone, "arpa"] := by
  apply split_intercalate (by decide) (by simp)
  intro label member
  rw [show ".".toList = ['.'] from rfl, clear_singleton_iff]
  rcases List.mem_append.mp member with label | zone
  · exact clear _ label
  · rcases List.mem_pair.mp zone with rfl | rfl
    · exact zoneClear
    · decide

theorem mapM_read {read : String → Option Nat} {label : Nat → String} {digits : List Nat}
    (reads : ∀ digit ∈ digits, read (label digit) = some digit) :
    (digits.map label).mapM read = some digits := by
  induction digits with
  | nil => rfl
  | cons digit digits ih =>
      rw [List.map_cons, List.mapM_cons, reads digit List.mem_cons_self,
        ih fun other member => reads other (List.mem_cons_of_mem _ member)]
      rfl

/-- The labels of the digits of a number stand for the number. -/
theorem readDigits_lowest {base count number : Nat} {read : String → Option Nat}
    {label : Nat → String} (positive : 0 < base)
    (reads : ∀ digit < base, read (label digit) = some digit) (small : number < base ^ count) :
    readDigits base count read ((lowest base count number).map label) = some number := by
  rw [readDigits, mapM_read fun digit member => reads digit (lt_of_mem_lowest positive member),
    Option.bind_eq_bind, Option.bind_some, if_pos length_lowest, ofDigits_lowest small]

end Reading

section Results

theorem split_query_v4 (address : BitVec 32) :
    split (query (.v4 address)) "." =
      (lowest 256 4 address.toNat).map toString ++ ["in-addr", "arpa"] := by
  rw [query_v4, split_zone _ (by decide)]
  intro label member
  rcases List.mem_map.mp member with ⟨octet, _, rfl⟩
  exact dot_not_mem_toString octet

theorem split_query_v6 (address : BitVec 128) :
    split (query (.v6 address)) "." =
      (lowest 16 32 address.toNat).map (fun nibble => String.singleton (Nat.digitChar nibble)) ++
        ["ip6", "arpa"] := by
  rw [query_v6, split_zone _ (by decide)]
  intro label member
  rcases List.mem_map.mp member with ⟨nibble, digit, rfl⟩
  exact dot_not_mem_nibble (lt_of_mem_lowest (by decide) digit)

theorem readName_query (ip : IpAddr) : readName (query ip) = some ip := by
  cases ip with
  | v4 address =>
      rw [readName, split_query_v4, List.reverse_append]
      simp only [List.reverse_cons, List.reverse_nil, List.nil_append, List.cons_append,
        List.reverse_reverse]
      rw [readDigits_lowest (by decide) (fun _ => readOctet_toString) address.isLt]
      simp
  | v6 address =>
      rw [readName, split_query_v6, List.reverse_append]
      simp only [List.reverse_cons, List.reverse_nil, List.nil_append, List.cons_append,
        List.reverse_reverse]
      rw [readDigits_lowest (by decide) (fun _ => readNibble_singleton) address.isLt]
      simp

/-- Every address can be read from the labels of its name, so no name belongs to two. -/
theorem identifiesAddresses_query : IdentifiesAddresses query where
  ipv4 := split_query_v4
  ipv6 := split_query_v6
  reads := readName_query
  distinct left right same :=
    Option.some.inj (by rw [← readName_query left, same, readName_query right])

end Results

end DmarcReportViewer.DnsClient
