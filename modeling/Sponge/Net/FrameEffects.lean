import Sponge.Net.InterfaceRuns

/-! Which received frames may change a network interface. -/

namespace Sponge

namespace NetworkInterface

/-- The payload of the frame is a supported ARP message. -/
def HoldsArp (frame : EthernetFrame) : Prop := frame.message.isSome = true

/-- Only an ARP message for the interface changes it, and only an IPv4 frame yields a datagram. -/
def Contained (itf : NetworkInterface) (frame : EthernetFrame) : Prop :=
  (¬ (frame.AddressedTo itf.ethernetAddress ∧ frame.header.type = EthernetHeader.typeARP
      ∧ HoldsArp frame) → (itf.recvFrame frame).1 = itf) ∧
  ∀ dgram, (itf.recvFrame frame).2 = .ok (some dgram) →
    frame.header.type = EthernetHeader.typeIPv4

/-- A frame that is addressed to the interface and holds an ARP message has the type of ARP, or
that of IPv4. -/
def Undisguised (ethernetAddress : EthernetAddress) (frame : EthernetFrame) : Prop :=
  frame.AddressedTo ethernetAddress → HoldsArp frame →
    frame.header.type = EthernetHeader.typeARP ∨ frame.header.type = EthernetHeader.typeIPv4

variable {itf : NetworkInterface} {frame : EthernetFrame}

/-- A frame brings an ARP message exactly if it is for the interface, holds one, and does not have
the type of IPv4. -/
theorem taught_isSome_iff : (itf.taught frame).isSome = true ↔
    frame.AddressedTo itf.ethernetAddress ∧ HoldsArp frame ∧
      frame.header.type ≠ EthernetHeader.typeIPv4 := by
  rw [taught, HoldsArp]
  -- Apart from IPv4, the type is not looked at, only the payload.
  by_cases brings : frame.AddressedTo itf.ethernetAddress ∧
      frame.header.type ≠ EthernetHeader.typeIPv4
  · rw [if_pos brings]
    exact ⟨fun holds => ⟨brings.1, holds, brings.2⟩, fun arp => arp.2.1⟩
  · rw [if_neg brings]
    constructor
    · intro holds
      cases holds
    · intro arp
      exact absurd ⟨arp.1, arp.2.2⟩ brings

/-- A datagram is returned only from an IPv4 frame. -/
theorem type_of_returned {dgram : IPv4Datagram}
    (returned : (itf.recvFrame frame).2 = .ok (some dgram)) :
    frame.header.type = EthernetHeader.typeIPv4 := by
  -- In every other branch that returns, nothing is returned.
  by_contra other
  rw [recvFrame] at returned
  split at returned
  · simp at returned
  · split at returned
    · cases returned
    · dsimp only at returned
      split at returned
      · simp at returned
      · split at returned
        · cases returned
        · simp at returned

/-- A frame that brings no ARP message changes nothing. -/
theorem recvFrame_of_not_taught (nothing : ¬ (itf.taught frame).isSome = true) :
    (itf.recvFrame frame).1 = itf := by
  rw [recvFrame_fst, Option.not_isSome_iff_eq_none.mp nothing]

/-- An undisguised frame is contained in every state of the interface. -/
theorem contained_of_undisguised (undisguised : Undisguised itf.ethernetAddress frame) :
    itf.Contained frame := by
  refine ⟨fun other => recvFrame_of_not_taught fun teaches => ?_, fun _ => type_of_returned⟩
  obtain ⟨addressed, holds, notIPv4⟩ := taught_isSome_iff.mp teaches
  rcases undisguised addressed holds with arp | ipv4
  · -- The message comes as an ARP frame.
    exact other ⟨addressed, arp, holds⟩
  · -- The frame carries a datagram, which teaches nothing.
    exact notIPv4 ipv4

/-- An interface that has not heard of the sender of an ARP message learns from it. -/
theorem recvFrame_ne_of_taught {am : ARPMessage} (teaches : itf.taught frame = some am)
    (unknown : itf.cache.lookup am.senderIpAddress = none) : (itf.recvFrame frame).1 ≠ itf := by
  intro same
  have learned := (itf.handleArp_handled am).cache.1
  have after := recvFrame_fst itf frame
  rw [teaches, same] at after
  -- The mapping would be in the cache that it was not in.
  have found := congrArg (fun state : NetworkInterface => state.cache.lookup am.senderIpAddress)
    after
  simp only [learned, HashMap.lookup_insert, if_true, unknown] at found
  cases found

end NetworkInterface

namespace Ledger

open NetworkInterface

variable {ledger next : Ledger}

/-- No call changes the Ethernet address of the interface. -/
theorem step_ethernetAddress {call : InterfaceCall} (stepped : ledger.step call = .ok next) :
    next.interface.ethernetAddress = ledger.interface.ethernetAddress := by
  -- None of the ways to send, to learn or to age writes to the address.
  cases call with
  | sendDatagram dgram hop =>
    rw [step, Except.ok.injEq] at stepped
    have sending := ledger.interface.sendDatagram_sending dgram hop
    rw [← stepped]
    generalize (ledger.interface.sendDatagram dgram hop).1 = interface at sending ⊢
    generalize (ledger.interface.sendDatagram dgram hop).2 = result at sending
    cases sending <;> rfl
  | recvFrame frame =>
    rw [step, Except.ok.injEq] at stepped
    rw [← stepped]
    simp only [recvFrame_fst]
    cases ledger.interface.taught frame with
    | none => rfl
    | some am =>
      have handled := ledger.interface.handleArp_handled am
      change (ledger.interface.handleArp am).1.ethernetAddress = _
      generalize (ledger.interface.handleArp am).1 = interface at handled ⊢
      generalize (ledger.interface.handleArp am).2 = result at handled
      cases handled <;> rfl
  | tick ms =>
    rw [step] at stepped
    split at stepped
    · -- A tick that is undefined has no next state.
      cases stepped
    · rename_i interface ticked
      rw [Except.ok.injEq] at stepped
      obtain ⟨left, -, rest⟩ := bind_eq_ok.mp ticked
      rw [pure_eq_ok, Except.ok.injEq] at rest
      rw [← stepped, ← rest]
  | transmit =>
    rw [step, Except.ok.injEq] at stepped
    rw [← stepped]

/-- A frame is contained in every state that an interface can reach exactly if it is undisguised. -/
theorem contained_iff (ethernetAddress : EthernetAddress) (ipAddress : UInt32)
    (frame : EthernetFrame) :
    (∀ calls last, runCalls step (start ethernetAddress ipAddress) calls = .ok last →
      last.interface.Contained frame) ↔ Undisguised ethernetAddress frame := by
  constructor
  · -- The new interface knows no mapping, so it would learn from a disguised frame.
    intro contained addressed holds
    by_contra disguised
    rw [not_or] at disguised
    obtain ⟨unmoved, -⟩ := contained [] _ (runCalls_nil _ _)
    obtain ⟨am, teaches⟩ := Option.isSome_iff_exists.mp (taught_isSome_iff.mpr
      (show frame.AddressedTo (start ethernetAddress ipAddress).interface.ethernetAddress ∧ _ from
        ⟨addressed, holds, disguised.2⟩))
    exact recvFrame_ne_of_taught teaches rfl (unmoved fun arp => disguised.1 arp.2.1)
  · -- The address is the same in every state.
    intro undisguised calls last returned
    have kept : last.interface.ethernetAddress = ethernetAddress :=
      runCalls_invariant (fun ledger => ledger.interface.ethernetAddress = ethernetAddress)
        (fun _ _ _ held stepped => (step_ethernetAddress stepped).trans held) rfl returned
    exact contained_of_undisguised (kept.symm ▸ undisguised)

/-- A frame of the type of IPv6 whose payload is an ARP reply. -/
def disguised : EthernetFrame :=
  ⟨⟨.ofBytes 2 0 0 0 0 1, .ofBytes 2 0 0 0 0 2, 0x86dd⟩, .ofBuffer
    [0, 1, 8, 0, 6, 4, 0, 2, 2, 0, 0, 0, 0, 2, 10, 0, 0, 2, 2, 0, 0, 0, 0, 1, 10, 0, 0, 1]⟩

/-- A new interface learns a mapping from the disguised frame. -/
theorem disguised_learned :
    let itf := (start ⟨[2, 0, 0, 0, 0, 1], rfl⟩ 0x0a000001).interface
    ((itf.recvFrame disguised).1.cache.lookup 0x0a000002).isSome = true ∧
      ¬ itf.Contained disguised := by
  intro itf
  have learned : ((itf.recvFrame disguised).1.cache.lookup 0x0a000002).isSome = true := by
    decide +kernel
  refine ⟨learned, fun contained => ?_⟩
  -- The frame is not of the type of ARP, so it should leave the interface alone.
  have same := contained.1 fun arp => absurd arp.2.1 (by decide)
  rw [same] at learned
  cases learned

end Ledger

end Sponge
