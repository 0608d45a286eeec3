import SslRosBridge.Core.MulticastReceiver
import SslRosBridge.Library.ByteOrder

/-!
# The addresses of the network interfaces

`GetIpAdresses` of `get_ip_addresses.cpp`.  The records of `getifaddrs` point to
socket addresses, of which the code reads single bytes.  It reads those of an
IPv6 address where an IPv4 address has its own.
-/

namespace SslRosBridge.Core

open Library.ByteOrder

/-! ## Socket addresses -/

/-- `AF_INET`. -/
def afInet : Nat := 2

/-- `AF_INET6`. -/
def afInet6 : Nat := 10

inductive SocketAddress where
  | ipv4 (port : UInt16) (address : Vector UInt8 4) (zero : Vector UInt8 8)
  | ipv6 (port : UInt16) (flowInfo : Vector UInt8 4) (address : Vector UInt8 16)
      (scopeId : UInt32)
  | other (family : UInt16) (data : List UInt8)
      (foreign : family.toNat ≠ afInet ∧ family.toNat ≠ afInet6)

namespace SocketAddress

/-- The memory of a `sockaddr_in`, of a `sockaddr_in6` or of another one. -/
def bytes : SocketAddress → List UInt8
  | .ipv4 port address zero =>
      littleEndianBytes 2 afInet ++
        (bigEndianBytes 2 port.toNat ++ (address.toList ++ zero.toList))
  | .ipv6 port flowInfo address scopeId =>
      littleEndianBytes 2 afInet6 ++
        (bigEndianBytes 2 port.toNat ++ (flowInfo.toList ++
          (address.toList ++ littleEndianBytes 4 scopeId.toNat)))
  | .other family data _ => littleEndianBytes 2 family.toNat ++ data

def saFamily (address : SocketAddress) : Nat :=
  littleEndianValue (address.bytes.take 2)

/-- Some bytes from where a `sockaddr_in` has its `sin_addr`. -/
def sinAddr (address : SocketAddress) (count : Nat) : List UInt8 :=
  (address.bytes.drop 4).take count

end SocketAddress

/-- What `getifaddrs` returns, a linked list. -/
inductive Ifaddrs where
  | null
  | record (ifaAddr : Option SocketAddress) (ifaNext : Ifaddrs)

/-- The addresses of the records that have one. -/
def Ifaddrs.addresses : Ifaddrs → List SocketAddress
  | .null => []
  | .record ifaAddr ifaNext => ifaAddr.toList ++ ifaNext.addresses

section Enumeration

-- `inet_ntop` is given as many bytes as the addresses of the family have
variable (inetNtop : Nat → List UInt8 → String) (includeIpv6 : Bool)

/-- The loop, with the strings found so far. -/
def enumerate : Ifaddrs → List String → List String
  | .null, addresses => addresses
  | .record none ifaNext, addresses => enumerate ifaNext addresses
  | .record (some ifaAddr) ifaNext, addresses =>
      if ifaAddr.saFamily = afInet then
        enumerate ifaNext (addresses ++ [inetNtop afInet (ifaAddr.sinAddr 4)])
      else if includeIpv6 && ifaAddr.saFamily = afInet6 then
        enumerate ifaNext (addresses ++ [inetNtop afInet6 (ifaAddr.sinAddr 16)])
      else enumerate ifaNext addresses

def getIpAdresses (ifaceInfo : Ifaddrs) : List String :=
  enumerate inetNtop includeIpv6 ifaceInfo []

/-- The text of a socket address, if it is of a family that is asked for. -/
def SocketAddress.text? : SocketAddress → Option String
  | .ipv4 _ address _ => some (inetNtop afInet address.toList)
  | .ipv6 _ _ address _ => if includeIpv6 then some (inetNtop afInet6 address.toList) else none
  | .other _ _ _ => none

/-- The text that the loop adds for a socket address. -/
def SocketAddress.shown? : SocketAddress → Option String
  | .ipv4 _ address _ => some (inetNtop afInet address.toList)
  | .ipv6 _ flowInfo address _ =>
      if includeIpv6 then
        some (inetNtop afInet6 (flowInfo.toList ++ address.toList.take 12))
      else none
  | .other _ _ _ => none

/-- `inet_ntop` writes different IPv6 addresses differently. -/
def TellsApart : Prop :=
  ∀ first second : List UInt8, first.length = 16 → second.length = 16 →
    inetNtop afInet6 first = inetNtop afInet6 second → first = second

/-- An IPv6 address is its flow information, four times over. -/
def SocketAddress.FlowRepeated : SocketAddress → Prop
  | .ipv6 _ flowInfo address _ =>
      address.toList =
        flowInfo.toList ++ (flowInfo.toList ++ (flowInfo.toList ++ flowInfo.toList))
  | .ipv4 _ _ _ | .other _ _ _ => True

/-! ## What the loop reads -/

namespace SocketAddress

theorem saFamily_eq (address : SocketAddress) (family : Nat) (small : family < 65536)
    {rest : List UInt8} (layout : address.bytes = littleEndianBytes 2 family ++ rest) :
    address.saFamily = family := by
  rw [saFamily, layout, List.take_left' (length_littleEndianBytes 2 family),
    littleEndianValue_littleEndianBytes]
  exact Nat.mod_eq_of_lt small

theorem sinAddr_eq (address : SocketAddress) {family port : Nat} {rest : List UInt8}
    (layout : address.bytes = littleEndianBytes 2 family ++ (bigEndianBytes 2 port ++ rest))
    (count : Nat) : address.sinAddr count = rest.take count := by
  have length : (littleEndianBytes 2 family ++ bigEndianBytes 2 port).length = 4 := by
    rw [List.length_append, length_littleEndianBytes, length_bigEndianBytes]
  rw [sinAddr, layout, ← List.append_assoc, List.drop_left' length]

end SocketAddress

variable {inetNtop includeIpv6}

theorem enumerate_some (ifaAddr : SocketAddress) (ifaNext : Ifaddrs) (addresses : List String) :
    enumerate inetNtop includeIpv6 (.record (some ifaAddr) ifaNext) addresses =
      enumerate inetNtop includeIpv6 ifaNext
        (addresses ++ (ifaAddr.shown? inetNtop includeIpv6).toList) := by
  rw [enumerate]
  cases ifaAddr with
  | ipv4 port address zero =>
      have family : (SocketAddress.ipv4 port address zero).saFamily = afInet :=
        SocketAddress.saFamily_eq _ _ (by decide) rfl
      have own : (SocketAddress.ipv4 port address zero).sinAddr 4 = address.toList := by
        rw [SocketAddress.sinAddr_eq _ rfl]
        exact List.take_left' Vector.length_toList
      rw [if_pos family, own]
      rfl
  | ipv6 port flowInfo address scopeId =>
      have family : (SocketAddress.ipv6 port flowInfo address scopeId).saFamily = afInet6 :=
        SocketAddress.saFamily_eq _ _ (by decide) rfl
      -- the flow information lies where an IPv4 address would begin
      have shifted : (SocketAddress.ipv6 port flowInfo address scopeId).sinAddr 16 =
          flowInfo.toList ++ address.toList.take 12 := by
        rw [SocketAddress.sinAddr_eq _ rfl, List.take_append, Vector.length_toList,
          List.take_append_of_le_length (by simp),
          List.take_of_length_le (by simp)]
      rw [family, shifted, if_neg (by decide)]
      cases includeIpv6 <;> simp [SocketAddress.shown?]
  | other family data foreign =>
      have own : (SocketAddress.other family data foreign).saFamily = family.toNat :=
        SocketAddress.saFamily_eq _ _ family.toNat_lt rfl
      rw [own, if_neg foreign.1, if_neg (by simp [foreign.2])]
      exact congrArg _ (List.append_nil _).symm

/-- What the loop adds for the rest of the list. -/
theorem enumerate_eq (ifaceInfo : Ifaddrs) (addresses : List String) :
    enumerate inetNtop includeIpv6 ifaceInfo addresses =
      addresses ++ ifaceInfo.addresses.filterMap
        (SocketAddress.shown? inetNtop includeIpv6) := by
  induction ifaceInfo generalizing addresses with
  | null => exact (List.append_nil _).symm
  | record ifaAddr ifaNext ih =>
      cases ifaAddr with
      | none => exact ih addresses
      | some ifaAddr =>
          rw [enumerate_some, ih, Ifaddrs.addresses, List.filterMap_append, List.append_assoc]
          cases shown : ifaAddr.shown? inetNtop includeIpv6 <;> simp [shown]

/-! ## When the texts are those of the addresses -/

/-- Sixteen bytes that are themselves, moved by the four in front of them. -/
theorem append_take_eq_iff {front bytes : List UInt8} (front_length : front.length = 4)
    (length : bytes.length = 16) :
    front ++ bytes.take 12 = bytes ↔ bytes = front ++ (front ++ (front ++ front)) := by
  constructor
  · intro moved
    have next (count : Nat) (few : count ≤ 12) :
        bytes.take (4 + count) = front ++ bytes.take count := by
      conv_lhs => rw [← moved]
      rw [List.take_append, List.take_of_length_le (by omega), front_length,
        Nat.add_sub_cancel_left, List.take_take, Nat.min_eq_left few]
    calc bytes = bytes.take 16 := (List.take_of_length_le (Nat.le_of_eq length)).symm
      _ = front ++ (front ++ (front ++ (front ++ bytes.take 0))) := by
        rw [next 12 (by omega), next 8 (by omega), next 4 (by omega), next 0 (by omega)]
      _ = front ++ (front ++ (front ++ front)) := by rw [List.take_zero, List.append_nil]
  · intro repeated
    have cut : bytes = front ++ (front ++ front) ++ front := by
      rw [repeated, List.append_assoc, List.append_assoc]
    have first : bytes.take 12 = front ++ (front ++ front) := by
      rw [cut]
      exact List.take_left' (by simp [front_length])
    rw [first, repeated]

theorem shown?_eq_text?_iff (tellsApart : TellsApart inetNtop) (address : SocketAddress) :
    address.shown? inetNtop includeIpv6 = address.text? inetNtop includeIpv6 ↔
      includeIpv6 = false ∨ address.FlowRepeated := by
  cases address with
  | ipv4 port address zero => exact iff_of_true rfl (Or.inr trivial)
  | other family data foreign => exact iff_of_true rfl (Or.inr trivial)
  | ipv6 port flowInfo address scopeId =>
      cases includeIpv6 with
      | false => exact iff_of_true rfl (Or.inl rfl)
      | true =>
          have length : address.toList.length = 16 := Vector.length_toList
          have moved_length : (flowInfo.toList ++ address.toList.take 12).length = 16 := by
            simp
          have flow_length : flowInfo.toList.length = 4 := Vector.length_toList
          have moved := append_take_eq_iff flow_length length
          constructor
          · intro same
            exact Or.inr (moved.mp
              (tellsApart _ _ moved_length length (Option.some.inj same)))
          · intro repeated
            exact congrArg (fun bytes => some (inetNtop afInet6 bytes))
              (moved.mpr (repeated.resolve_left nofun))

/-- Two selections that select the same elements agree exactly when they agree
on each. -/
theorem filterMap_eq_filterMap_iff {Element Value : Type} {first second : Element → Option Value}
    (same : ∀ element, (first element).isSome = (second element).isSome)
    (elements : List Element) :
    elements.filterMap first = elements.filterMap second ↔
      ∀ element ∈ elements, first element = second element := by
  induction elements with
  | nil => exact iff_of_true rfl nofun
  | cons element rest ih =>
      have here := same element
      rw [List.forall_mem_cons, ← ih, List.filterMap_cons, List.filterMap_cons]
      cases firstValue : first element <;> cases secondValue : second element <;>
        simp [firstValue, secondValue] at here ⊢

theorem isSome_shown? (address : SocketAddress) :
    (address.shown? inetNtop includeIpv6).isSome =
      (address.text? inetNtop includeIpv6).isSome := by
  cases address with
  | ipv4 => rfl
  | ipv6 => cases includeIpv6 <;> rfl
  | other => rfl

/--
The strings are those of the addresses asked for, in the order of the list,
exactly when no IPv6 address is asked for or each of the list is its own flow
information four times over.
-/
theorem getIpAdresses_exact_iff (tellsApart : TellsApart inetNtop) (includeIpv6 : Bool)
    (ifaceInfo : Ifaddrs) :
    getIpAdresses inetNtop includeIpv6 ifaceInfo =
        ifaceInfo.addresses.filterMap (SocketAddress.text? inetNtop includeIpv6) ↔
      includeIpv6 = false ∨ ∀ address ∈ ifaceInfo.addresses, address.FlowRepeated := by
  rw [getIpAdresses, enumerate_eq, List.nil_append, filterMap_eq_filterMap_iff isSome_shown?]
  simp only [shown?_eq_text?_iff tellsApart]
  cases includeIpv6 <;> simp

/-! ## The interfaces of the receiver -/

/-- The receiver asks for IPv4 addresses only. -/
def MulticastPlatform.onHost (platform : MulticastPlatform)
    (inetNtop : Nat → List UInt8 → String) (ifaceInfo : Ifaddrs) : MulticastPlatform :=
  { platform with ipAddresses := getIpAdresses inetNtop false ifaceInfo }

theorem getIpAdresses_false (ifaceInfo : Ifaddrs) :
    getIpAdresses inetNtop false ifaceInfo =
      ifaceInfo.addresses.filterMap (SocketAddress.text? inetNtop false) := by
  rw [getIpAdresses, enumerate_eq, List.nil_append]
  apply List.filterMap_congr
  intro address _
  cases address <;> rfl

/-- Without a configured interface, the receiver joins on the IPv4 addresses of
the host. -/
theorem MulticastReceiver.construct_onHost {Owner : Type} {platform : MulticastPlatform}
    {ifaceInfo : Ifaddrs} {multicastAddressString : String} {multicastPort : UInt16}
    {receiveCallback : Call → Owner → Owner} {owner : Owner} {memory : Buffer}
    {start : MulticastReceiver Owner}
    (constructed : construct (platform.onHost inetNtop ifaceInfo) multicastAddressString
      multicastPort receiveCallback owner memory "" = .ok start) :
    ∃ multicastAddress, platform.makeAddress multicastAddressString = .ok multicastAddress ∧
      start.warnings =
        (ifaceInfo.addresses.filterMap (SocketAddress.text? inetNtop false)).filterMap
          (joinAvailable platform multicastAddress) := by
  obtain ⟨multicastAddress, made, rfl⟩ := construct_start constructed
  rw [← getIpAdresses_false]
  exact ⟨multicastAddress, made, rfl⟩

end Enumeration

/-! ## The loopback interface -/

namespace LoopbackInterface

def unspecified : Vector UInt8 16 := #v[0, 0, 0, 0, 0, 0, 0, 0, 0, 0, 0, 0, 0, 0, 0, 0]

def loopback : Vector UInt8 16 := #v[0, 0, 0, 0, 0, 0, 0, 0, 0, 0, 0, 0, 0, 0, 0, 1]

/-- The texts of IPv4 addresses and of two IPv6 addresses.  Any others are only
told apart. -/
def inetNtop (family : Nat) (bytes : List UInt8) : String :=
  if family = afInet then ".".intercalate (bytes.map fun byte => toString byte.toNat)
  else if bytes = unspecified.toList then "::"
  else if bytes = loopback.toList then "::1"
  else String.ofList (bytes.map Char.ofUInt8)

/-- A record without an address, one with 127.0.0.1 and one with that address. -/
def interfaces (address : Vector UInt8 16) : Ifaddrs :=
  .record none
    (.record (some (.ipv4 0 #v[127, 0, 0, 1] #v[0, 0, 0, 0, 0, 0, 0, 0]))
      (.record (some (.ipv6 0 #v[0, 0, 0, 0] address 0)) .null))

theorem ofUInt8_injective : Function.Injective Char.ofUInt8 := by
  intro first second same
  have value : first.toUInt32 = second.toUInt32 := congrArg Char.val same
  have number := congrArg UInt32.toNat value
  rw [UInt8.toNat_toUInt32, UInt8.toNat_toUInt32] at number
  exact UInt8.toNat_inj.mp number

/-- A short text is not the one of an address that is written byte by byte. -/
theorem ne_ofList {text : String} (short : text.length < 16) {bytes : List UInt8}
    (length : bytes.length = 16) : text ≠ String.ofList (bytes.map Char.ofUInt8) := by
  rintro rfl
  rw [String.length_ofList, List.length_map, length] at short
  exact absurd short (Nat.lt_irrefl 16)

theorem text_cases (bytes : List UInt8) :
    bytes = unspecified.toList ∧ inetNtop afInet6 bytes = "::" ∨
      bytes = loopback.toList ∧ inetNtop afInet6 bytes = "::1" ∨
      inetNtop afInet6 bytes = String.ofList (bytes.map Char.ofUInt8) := by
  have other : afInet6 ≠ afInet := by decide
  simp only [inetNtop, if_neg other]
  split_ifs with zero one
  · exact Or.inl ⟨zero, rfl⟩
  · exact Or.inr (Or.inl ⟨one, rfl⟩)
  · exact Or.inr (Or.inr rfl)

theorem tellsApart : TellsApart inetNtop := by
  intro first second first_length second_length same
  rcases text_cases first with ⟨first_eq, text⟩ | ⟨first_eq, text⟩ | text <;> rw [text] at same <;>
    rcases text_cases second with ⟨second_eq, text'⟩ | ⟨second_eq, text'⟩ | text' <;>
    rw [text'] at same
  · exact first_eq.trans second_eq.symm
  · exact absurd same (by decide)
  · exact absurd same (ne_ofList (by decide) second_length)
  · exact absurd same (by decide)
  · exact first_eq.trans second_eq.symm
  · exact absurd same (ne_ofList (by decide) second_length)
  · exact absurd same.symm (ne_ofList (by decide) first_length)
  · exact absurd same.symm (ne_ofList (by decide) first_length)
  · exact (List.map_injective_iff.mpr ofUInt8_injective) (String.ofList_injective same)

end LoopbackInterface

/-- The unspecified address is the one that is shown right without flow
information. -/
theorem getIpAdresses_exact_iff_unspecified :
    getIpAdresses LoopbackInterface.inetNtop true
        (LoopbackInterface.interfaces LoopbackInterface.unspecified) = ["127.0.0.1", "::"] :=
  (getIpAdresses_exact_iff LoopbackInterface.tellsApart true _).mpr (Or.inr (by
    rintro address (_ | ⟨_, _ | ⟨_, ⟨⟩⟩⟩)
    · trivial
    · rfl))

/-- The address of the loopback interface is shown as the unspecified one. -/
theorem loopback_shown_as_unspecified :
    ¬ ∀ includeIpv6 ifaceInfo,
      getIpAdresses LoopbackInterface.inetNtop includeIpv6 ifaceInfo =
        ifaceInfo.addresses.filterMap
          (SocketAddress.text? LoopbackInterface.inetNtop includeIpv6) := by
  intro same
  exact absurd (same true (LoopbackInterface.interfaces LoopbackInterface.loopback)) (by decide)

end SslRosBridge.Core
