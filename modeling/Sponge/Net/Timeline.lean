import Sponge.Lib.Stopwatch
import Sponge.Net.FrameEffects
import Sponge.Wire.EthernetLaws

/-! Runs of a network interface in time: when each frame arrived and when each was emitted. -/

namespace Sponge

/-- A supported message is what a frame with its bytes carries. -/
theorem EthernetFrame.arp_bytes {am : ARPMessage} (supported : am.supported = true)
    (dst src : EthernetAddress) :
    EthernetFrame.arp ⟨⟨dst, src, EthernetHeader.typeARP⟩, .ofBuffer am.bytes⟩ = some am := by
  -- What is serialized from a supported message is accepted, and parsed to the same message.
  obtain ⟨accepted, same⟩ := ARPMessage.parse_bytes am {} []
  rw [List.append_nil] at accepted same
  rw [if_pos supported] at accepted
  simp only [EthernetFrame.arp, EthernetFrame.message, if_true, BufferList.toBuffer_ofBuffer,
    accepted, same supported]

/-- A network interface in time. -/
structure Timeline where
  /-- The interface with its accounts. -/
  ledger : Ledger
  /-- The time that has passed, in milliseconds. -/
  now : Nat := 0
  /-- The frames received, with the time of their arrival, the latest first. -/
  received : List (Nat × EthernetFrame) := []
  /-- The frames emitted, with the time of their emission, those of the latest call first. -/
  emitted : List (Nat × EthernetFrame) := []

namespace Timeline

/-- The time that passes in a call. -/
def elapsed : InterfaceCall → Nat
  | .tick ms => ms
  | _ => 0

/-- The frame that arrives in a call. -/
def arriving : InterfaceCall → List EthernetFrame
  | .recvFrame frame => [frame]
  | _ => []

/-- Performs a call and notes when what happened. -/
def step (t : Timeline) (call : InterfaceCall) : Except Exception Timeline :=
  match t.ledger.step call with
  | .error undefined => .error undefined
  | .ok ledger => .ok
    { ledger
      now := t.now + elapsed call
      received := (arriving call).map (Prod.mk t.now) ++ t.received
      emitted := (Ledger.added t.ledger.interface ledger.interface).map (Prod.mk t.now)
        ++ t.emitted }

/-- A new interface, before any time has passed. -/
def start (ethernetAddress : EthernetAddress) (ipAddress : UInt32) : Timeline :=
  { ledger := .start ethernetAddress ipAddress }

/-- The interface itself. -/
def interface (t : Timeline) : NetworkInterface := t.ledger.interface

/-- The frames that a call adds to the outbound queue. -/
def adds (t next : Timeline) : List EthernetFrame := Ledger.added t.interface next.interface

/-- No sum of an age in a table and the time that passes exceeds 64 bits. -/
def Unwrapped (ages : HashMap UInt32 Nat) (ms : Nat) : Prop :=
  (ages.entries.all fun entry => entry.2 + ms < 2 ^ 64) = true

instance (ages : HashMap UInt32 Nat) (ms : Nat) : Decidable (Unwrapped ages ms) :=
  inferInstanceAs (Decidable (_ = true))

variable {t next : Timeline}

/-- What a call does to the accounts, and what is noted of it. -/
theorem step_ok {call : InterfaceCall} :
    t.step call = .ok next ↔ ∃ ledger, t.ledger.step call = .ok ledger ∧
      next = ⟨ledger, t.now + elapsed call, (arriving call).map (Prod.mk t.now) ++ t.received,
        (Ledger.added t.ledger.interface ledger.interface).map (Prod.mk t.now) ++ t.emitted⟩ := by
  rw [step]
  -- The accounts may be undefined after a tick, and then so is the timeline.
  cases t.ledger.step call with
  | error undefined => simp
  | ok ledger => simp [eq_comm]

/-- No call meets undefined behaviour. -/
theorem step_returns (paired : t.interface.Paired) (call : InterfaceCall) :
    ∃ next, t.step call = .ok next ∧ next.interface.Paired := by
  obtain ⟨ledger, stepped, kept⟩ := Ledger.step_returns paired call
  exact ⟨_, step_ok.mpr ⟨ledger, stepped, rfl⟩, kept⟩

section Step

variable {call : InterfaceCall}

/-- The accounts are kept as without the clock. -/
theorem step_ledger (stepped : t.step call = .ok next) : t.ledger.step call = .ok next.ledger := by
  obtain ⟨ledger, moved, rfl⟩ := step_ok.mp stepped
  exact moved

/-- The clock goes on by the time that passes. -/
theorem step_now (stepped : t.step call = .ok next) : next.now = t.now + elapsed call := by
  obtain ⟨ledger, -, rfl⟩ := step_ok.mp stepped
  rfl

/-- A frame that arrives is noted with the time of the call. -/
theorem step_received (stepped : t.step call = .ok next) :
    next.received = (arriving call).map (Prod.mk t.now) ++ t.received := by
  obtain ⟨ledger, -, rfl⟩ := step_ok.mp stepped
  rfl

/-- The frames added by a call are noted with the time of the call. -/
theorem step_emitted (stepped : t.step call = .ok next) :
    next.emitted = (t.adds next).map (Prod.mk t.now) ++ t.emitted := by
  obtain ⟨ledger, -, rfl⟩ := step_ok.mp stepped
  rfl

/-- The interface after a datagram is submitted. -/
theorem step_sendDatagram {dgram : IPv4Datagram} {hop : UInt32}
    (stepped : t.step (.sendDatagram dgram hop) = .ok next) :
    next.interface = (t.interface.sendDatagram dgram hop).1 := by
  -- The timeline does not change what the call does.
  have moved := step_ledger stepped
  rw [Ledger.step, Except.ok.injEq] at moved
  rw [interface, ← moved]
  rfl

/-- The interface after a frame arrives. -/
theorem step_recvFrame {frame : EthernetFrame} (stepped : t.step (.recvFrame frame) = .ok next) :
    next.interface = (t.interface.recvFrame frame).1 := by
  -- A frame is received as by the interface alone.
  have moved := step_ledger stepped
  rw [Ledger.step, Except.ok.injEq] at moved
  rw [interface, ← moved]
  rfl

/-- The interface after some time. -/
theorem step_tick {ms : Nat} (stepped : t.step (.tick ms) = .ok next) :
    t.interface.tick ms = .ok next.interface := by
  have moved := step_ledger stepped
  rw [Ledger.step] at moved
  rw [interface]
  -- A tick that throws has no next state.
  split at moved
  · cases moved
  · rename_i after ticked
    rw [Except.ok.injEq] at moved
    rw [ticked, interface, ← moved]

/-- The interface after a frame is taken from its outbound queue. -/
theorem step_transmit (stepped : t.step .transmit = .ok next) :
    next.interface = { t.interface with framesOut := t.interface.framesOut.tail } := by
  -- The owner takes the first frame, whatever became of it.
  have moved := step_ledger stepped
  rw [Ledger.step, Except.ok.injEq] at moved
  rw [interface, ← moved]
  rfl

end Step

/-- An age that grows without wrapping shows its new value, unless that reaches the limit. -/
theorem age_of_unwrapped {ages : HashMap UInt32 Nat} {ms : Nat} (unwrapped : Unwrapped ages ms)
    (limit : Nat) (ip : UInt32) (elapsed : Nat) (found : ages.lookup ip = some elapsed) :
    NetworkInterface.age limit ms elapsed =
      if limit ≤ elapsed + ms then none else some (elapsed + ms) := by
  -- The age is among those that were required not to wrap.
  have member := AList.mem_lookup_iff.mp (Option.mem_def.mpr found)
  have fits := List.all_eq_true.mp unwrapped _ member
  rw [decide_eq_true_eq] at fits
  rw [NetworkInterface.age, add64_of_lt fits]

end Timeline

end Sponge
