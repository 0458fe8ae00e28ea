import Vinctor.Foundation.Text
import Mathlib.Data.List.Induction
import Mathlib.Data.Fin.Basic

/-!
# The source that a rate limit counts

The source of a request is the address of its peer, unless the peer is a trusted
proxy: then it is the rightmost forwarded hop that is not one.  A hop that cannot
be read, or that is not trusted, ends the walk from the right, so that nothing
to the left of it can change the source.
-/

namespace Vinctor
namespace RateLimits

open Foundation

/-- Addresses and networks of the language's library: every address is read
back from its canonical text. -/
structure AddressLibrary where
  Address : Type
  Network : Type
  ipAddress : List Char → Option Address
  str : Address → List Char
  contains : Network → Address → Bool
  ipAddress_str : ∀ address, ipAddress (str address) = some address

namespace AddressLibrary

variable (ip : AddressLibrary)

/-! ## Resolution -/

def maxXForwardedForLength : Nat := 4096

def isTrusted (address : ip.Address) (networks : List ip.Network) : Bool :=
  networks.any fun network => ip.contains network address

/-- Source of a list of entries that is read from its head. -/
def walk (peer : String) (networks : List ip.Network) : List (List Char) → String
  | [] => peer
  | entry :: rest =>
      match ip.ipAddress (Text.strip entry) with
      | none => peer
      | some candidate =>
          if ip.isTrusted candidate networks then walk peer networks rest
          else String.ofList (ip.str candidate)

/-- Source of a request; it fails when proxies are trusted and the peer is no
address. -/
def resolveRateLimitSource
    (peer : String)
    (forwardedFor : Option String)
    (trustedProxies : List ip.Network) : Option String :=
  if trustedProxies.isEmpty then some peer
  else
    match ip.ipAddress peer.toList with
    | none => none
    | some peerAddress =>
        if !ip.isTrusted peerAddress trustedProxies then some peer
        else
          match forwardedFor with
          | none => some peer
          | some header =>
              if maxXForwardedForLength < header.length then some peer
              else some (ip.walk peer trustedProxies (header.toList.splitOn ',').reverse)

/-! ## Entries that end the walk -/

/-- The entry is a trusted proxy. -/
def Passes (networks : List ip.Network) (entry : List Char) : Prop :=
  ∃ address, ip.ipAddress (Text.strip entry) = some address ∧
    ip.isTrusted address networks = true

/-- Two headers agree from their rightmost entry that is not a trusted proxy to
the end, or have no such entry. -/
def AgreeFromStop (networks : List ip.Network) (first second : List (List Char)) : Prop :=
  (∃ firstPrefix secondPrefix stop trusted,
    first = firstPrefix ++ stop :: trusted ∧
      second = secondPrefix ++ stop :: trusted ∧
      ¬ ip.Passes networks stop ∧
      ∀ entry ∈ trusted, ip.Passes networks entry) ∨
    (∀ entry ∈ first, ip.Passes networks entry) ∧
      ∀ entry ∈ second, ip.Passes networks entry

/-- A hop outside every trusted network, with trusted proxies to its right. -/
def AttributableHop
    (networks : List ip.Network)
    (entries : List (List Char))
    (address : ip.Address) : Prop :=
  ∃ before hop after,
    entries = before ++ hop :: after ∧
      ip.ipAddress (Text.strip hop) = some address ∧
      (∀ network ∈ networks, ip.contains network address = false) ∧
      ∀ entry ∈ after, ip.Passes networks entry

variable {ip} {peer : String} {networks : List ip.Network}

theorem not_isTrusted_iff {address : ip.Address} :
    ¬ ip.isTrusted address networks = true ↔
      ∀ network ∈ networks, ip.contains network address = false := by
  simp [isTrusted]

/-- The walk skips trusted proxies. -/
theorem walk_append
    {trusted : List (List Char)}
    (pass : ∀ entry ∈ trusted, ip.Passes networks entry)
    (rest : List (List Char)) :
    ip.walk peer networks (trusted ++ rest) = ip.walk peer networks rest := by
  induction trusted with
  | nil => rfl
  | cons entry trusted inductionHypothesis =>
      obtain ⟨address, parsed, isTrusted⟩ := pass entry List.mem_cons_self
      rw [List.cons_append, walk, parsed]
      simp only [isTrusted, if_true]
      exact inductionHypothesis fun other present =>
        pass other (List.mem_cons_of_mem _ present)

/-- An entry that is not a trusted proxy ends the walk. -/
theorem walk_stop
    {stop : List Char}
    (ends : ¬ ip.Passes networks stop)
    (left : List (List Char)) :
    ip.walk peer networks (stop :: left) = ip.walk peer networks [stop] := by
  rw [walk, walk]
  cases parsed : ip.ipAddress (Text.strip stop) with
  | none => rfl
  | some address =>
      have untrusted : ¬ ip.isTrusted address networks = true :=
        fun trusted => ends ⟨address, parsed, trusted⟩
      simp only [untrusted, if_false, Bool.false_eq_true]

/-- A walk over trusted proxies only ends at the peer. -/
theorem walk_trusted
    {entries : List (List Char)}
    (pass : ∀ entry ∈ entries, ip.Passes networks entry) :
    ip.walk peer networks entries = peer := by
  rw [← List.append_nil entries, walk_append pass, walk]

/-- Headers that agree from their rightmost stop have one source. -/
theorem walk_eq_of_agreeFromStop
    {first second : List (List Char)}
    (agree : ip.AgreeFromStop networks first second) :
    ip.walk peer networks first.reverse = ip.walk peer networks second.reverse := by
  rcases agree with ⟨firstPrefix, secondPrefix, stop, trusted, rfl, rfl, ends, pass⟩ |
    ⟨firstPass, secondPass⟩
  · have reversed : ∀ entry ∈ trusted.reverse, ip.Passes networks entry :=
      fun entry present => pass entry (List.mem_reverse.mp present)
    rw [List.reverse_append, List.reverse_cons, List.append_assoc, walk_append reversed,
      List.reverse_append, List.reverse_cons, List.append_assoc, walk_append reversed,
      List.singleton_append, List.singleton_append, walk_stop ends, ← walk_stop ends]
  · rw [walk_trusted fun entry present => firstPass entry (List.mem_reverse.mp present),
      walk_trusted fun entry present => secondPass entry (List.mem_reverse.mp present)]

/-- A walk ends at the peer or at an attributable hop. -/
theorem walk_cases (entries : List (List Char)) :
    ip.walk peer networks entries.reverse = peer ∨
      ∃ address, ip.AttributableHop networks entries address ∧
        ip.walk peer networks entries.reverse = String.ofList (ip.str address) := by
  induction entries using List.reverseRecOn with
  | nil => exact Or.inl rfl
  | append_singleton entries entry inductionHypothesis =>
      rw [List.reverse_append, List.reverse_singleton, List.singleton_append, walk]
      cases parsed : ip.ipAddress (Text.strip entry) with
      | none => exact Or.inl rfl
      | some candidate =>
          by_cases trusted : ip.isTrusted candidate networks = true
          · simp only [trusted, if_true]
            rcases inductionHypothesis with stays | ⟨address, hop, walks⟩
            · exact Or.inl stays
            · obtain ⟨before, found, after, rfl, reads, outside, pass⟩ := hop
              refine Or.inr ⟨address, ?_, walks⟩
              refine ⟨before, found, after ++ [entry], by simp, reads, outside, ?_⟩
              intro other present
              rcases List.mem_append.mp present with earlier | last
              · exact pass other earlier
              · rw [List.mem_singleton.mp last]
                exact ⟨candidate, parsed, trusted⟩
          · refine Or.inr ⟨candidate, ?_, by simp [trusted]⟩
            refine ⟨entries, entry, [], rfl, parsed, not_isTrusted_iff.mp trusted, ?_⟩
            intro other absent
            cases absent

/-- An attributable hop is the address of its own text. -/
theorem ipAddress_of_source
    {address : ip.Address}
    {source : String}
    (isText : source = String.ofList (ip.str address)) :
    ip.ipAddress source.toList = some address := by
  rw [isText, String.toList_ofList, ip.ipAddress_str]

/-! ## The resolved source -/

/-- The source of a peer that is no trusted proxy is that peer. -/
theorem resolveRateLimitSource_of_untrusted
    {peerAddress : ip.Address}
    (parsed : ip.ipAddress peer.toList = some peerAddress)
    (untrusted : ¬ ip.isTrusted peerAddress networks = true)
    (forwardedFor : Option String) :
    ip.resolveRateLimitSource peer forwardedFor networks = some peer := by
  unfold resolveRateLimitSource
  simp [parsed, untrusted]

/-- A resolved source is the peer, or the text of an attributable hop that a
trusted peer forwarded. -/
theorem resolveRateLimitSource_eq_some
    {forwardedFor : Option String}
    {source : String}
    (resolves : ip.resolveRateLimitSource peer forwardedFor networks = some source) :
    source = peer ∨
      ∃ header peerAddress address,
        forwardedFor = some header ∧
          ip.ipAddress peer.toList = some peerAddress ∧
          ip.isTrusted peerAddress networks = true ∧
          ip.AttributableHop networks (header.toList.splitOn ',') address ∧
          source = String.ofList (ip.str address) := by
  unfold resolveRateLimitSource at resolves
  split at resolves
  · exact Or.inl (Option.some.inj resolves).symm
  · split at resolves
    · cases resolves
    · next peerAddress parsed =>
        split_ifs at resolves with untrusted
        · exact Or.inl (Option.some.inj resolves).symm
        · split at resolves
          · exact Or.inl (Option.some.inj resolves).symm
          · next header =>
              split_ifs at resolves with long
              · exact Or.inl (Option.some.inj resolves).symm
              · rcases @walk_cases ip peer networks (header.toList.splitOn ',') with
                  stays | ⟨address, hop, walks⟩
                · exact Or.inl ((Option.some.inj resolves).symm.trans stays)
                · refine Or.inr ⟨header, peerAddress, address, rfl, parsed, ?_, hop, ?_⟩
                  · simpa using untrusted
                  · exact (Option.some.inj resolves).symm.trans walks

end AddressLibrary

/-! ## Addresses of version 4 -/

/-- Decimal text of an octet. -/
def octetText (octet : Fin 256) : List Char := (Nat.repr octet.val).toList

def parseOctet (text : List Char) : Option (Fin 256) :=
  (List.finRange 256).find? fun octet => octetText octet = text

theorem octetText_injective : Function.Injective octetText := by
  intro first second equal
  exact Fin.ext (Text.repr_injective (String.toList_inj.mp equal))

theorem parseOctet_octetText (octet : Fin 256) : parseOctet (octetText octet) = some octet := by
  cases found : parseOctet (octetText octet) with
  | none =>
      have absent := List.find?_eq_none.mp found octet (List.mem_finRange octet)
      simp at absent
  | some other =>
      have same := List.find?_some found
      rw [octetText_injective (of_decide_eq_true same)]

theorem dot_notMem_octetText (octet : Fin 256) : '.' ∉ octetText octet := by
  revert octet
  decide +kernel

structure Ipv4Address where
  octets : Fin 256 × Fin 256 × Fin 256 × Fin 256

namespace Ipv4Address

def value (address : Ipv4Address) : Nat :=
  let (a, b, c, d) := address.octets
  ((a.val * 256 + b.val) * 256 + c.val) * 256 + d.val

def text (address : Ipv4Address) : List Char :=
  let (a, b, c, d) := address.octets
  ['.'].intercalate [octetText a, octetText b, octetText c, octetText d]

def parse (text : List Char) : Option Ipv4Address :=
  match text.splitOn '.' with
  | [a, b, c, d] => do
      let a ← parseOctet a
      let b ← parseOctet b
      let c ← parseOctet c
      let d ← parseOctet d
      some ⟨(a, b, c, d)⟩
  | _ => none

theorem parse_text (address : Ipv4Address) : parse address.text = some address := by
  obtain ⟨a, b, c, d⟩ := address
  have parts : (text ⟨a, b, c, d⟩).splitOn '.' =
      [octetText a, octetText b, octetText c, octetText d] := by
    apply List.splitOn_intercalate
    · simp [dot_notMem_octetText]
    · exact List.cons_ne_nil _ _
  rw [parse, parts]
  simp [parseOctet_octetText]

end Ipv4Address

/-- Address of a network and the length of its prefix. -/
structure Ipv4Network where
  base : Ipv4Address
  prefixLength : Nat

/-- Dotted addresses of four octets. -/
def ipv4 : AddressLibrary where
  Address := Ipv4Address
  Network := Ipv4Network
  ipAddress := Ipv4Address.parse
  str := Ipv4Address.text
  contains network address :=
    address.value >>> (32 - network.prefixLength) =
      network.base.value >>> (32 - network.prefixLength)
  ipAddress_str := Ipv4Address.parse_text

/-! ## No forged hop steers the source -/

/-- Two headers that agree from their rightmost entry that is not a trusted proxy
give one source.  It is the peer or the canonical text of a hop outside every
trusted network with trusted proxies to its right, and the peer itself whenever
the peer is not a trusted proxy. -/
theorem AddressLibrary.forged_hops_do_not_steer
    (ip : AddressLibrary)
    (peer : String)
    (networks : List ip.Network) :
    (∀ first second : String,
      first.length ≤ maxXForwardedForLength →
      second.length ≤ maxXForwardedForLength →
      ip.AgreeFromStop networks (first.toList.splitOn ',') (second.toList.splitOn ',') →
      ip.resolveRateLimitSource peer (some first) networks =
        ip.resolveRateLimitSource peer (some second) networks) ∧
      (∀ forwardedFor source,
        ip.resolveRateLimitSource peer forwardedFor networks = some source →
        source = peer ∨
          ∃ header address,
            forwardedFor = some header ∧
              ip.AttributableHop networks (header.toList.splitOn ',') address ∧
              source = String.ofList (ip.str address) ∧
              ip.ipAddress source.toList = some address) ∧
      (∀ forwardedFor,
        (∀ address, ip.ipAddress peer.toList = some address →
          ∀ network ∈ networks, ip.contains network address = false) →
        (ip.ipAddress peer.toList).isSome ∨ networks = [] →
        ip.resolveRateLimitSource peer forwardedFor networks = some peer) ∧
      ∀ forwardedFor source,
        ip.resolveRateLimitSource peer forwardedFor networks = some source →
        (∀ address, ip.ipAddress peer.toList = some address →
          ∀ network ∈ networks, ip.contains network address = false) →
        source = peer := by
  refine ⟨?_, ?_, ?_, ?_⟩
  · intro first second firstShort secondShort agree
    rw [resolveRateLimitSource, resolveRateLimitSource]
    simp only [Nat.not_lt_of_le firstShort, Nat.not_lt_of_le secondShort, if_false,
      walk_eq_of_agreeFromStop agree]
  · intro forwardedFor source resolves
    rcases resolveRateLimitSource_eq_some resolves with
      stays | ⟨header, _, address, forwarded, -, -, hop, isText⟩
    · exact Or.inl stays
    · exact Or.inr ⟨header, address, forwarded, hop, isText, ipAddress_of_source isText⟩
  · intro forwardedFor outside readable
    rcases readable with parses | rfl
    · obtain ⟨address, parsed⟩ := Option.isSome_iff_exists.mp parses
      exact resolveRateLimitSource_of_untrusted parsed
        (not_isTrusted_iff.mpr (outside address parsed)) forwardedFor
    · rfl
  · intro forwardedFor source resolves outside
    rcases resolveRateLimitSource_eq_some resolves with
      stays | ⟨_, peerAddress, _, -, parsed, trusted, -⟩
    · exact stays
    · exact absurd trusted (not_isTrusted_iff.mpr (outside peerAddress parsed))

/-- Only the hop to the left of the client is forged. -/
theorem forged_hop_is_ignored :
    ipv4.resolveRateLimitSource "10.0.0.1"
        (some "6.6.6.6, 203.0.113.7, 10.0.0.2") [⟨⟨(10, 0, 0, 0)⟩, 8⟩] =
      ipv4.resolveRateLimitSource "10.0.0.1"
        (some "forged, 203.0.113.7, 10.0.0.2") [⟨⟨(10, 0, 0, 0)⟩, 8⟩] := by
  refine (AddressLibrary.forged_hops_do_not_steer ipv4 "10.0.0.1" [⟨⟨(10, 0, 0, 0)⟩, 8⟩]).1
    "6.6.6.6, 203.0.113.7, 10.0.0.2" "forged, 203.0.113.7, 10.0.0.2" (by decide) (by decide)
    (Or.inl ⟨["6.6.6.6".toList], ["forged".toList], " 203.0.113.7".toList,
      [" 10.0.0.2".toList], by decide, by decide, ?_, ?_⟩)
  · rintro ⟨address, parsed, trusted⟩
    have reads : ipv4.ipAddress (Text.strip " 203.0.113.7".toList) =
        some ⟨(203, 0, 113, 7)⟩ := by
      rfl
    rw [reads] at parsed
    cases parsed
    exact absurd trusted (by decide)
  · intro entry present
    rw [List.mem_singleton.mp present]
    exact ⟨⟨(10, 0, 0, 2)⟩, rfl, rfl⟩

end RateLimits
end Vinctor
