import Sponge.Lib.Runs
import Sponge.Net.InterfaceLaws

/-! Runs of a network interface, with an account of what was submitted and what was emitted. -/

namespace Sponge

/-- The calls on a network interface. -/
inductive InterfaceCall where
  /-- The owner submits a datagram for a next hop. -/
  | sendDatagram (dgram : IPv4Datagram) (nextHopIp : UInt32)
  /-- A frame arrives. -/
  | recvFrame (frame : EthernetFrame)
  /-- Time passes. -/
  | tick (ms : Nat)
  /-- The owner takes the frame at the front of the outbound queue. -/
  | transmit

/-- A network interface with the history of its run. -/
structure Ledger where
  /-- The interface. -/
  interface : NetworkInterface
  /-- The datagrams submitted so far, each with its next hop. -/
  submitted : List (UInt32 × IPv4Datagram) := []
  /-- The frames emitted so far, each with the address that the call was about. -/
  emitted : List (UInt32 × EthernetFrame) := []

namespace Ledger

/-- The frames that a call added to the outbound queue. -/
def added (before after : NetworkInterface) : List EthernetFrame :=
  after.framesOut.drop before.framesOut.length

/-- Performs a call; an exception is caught by the owner, who keeps the interface as it is left. -/
def step (ledger : Ledger) : InterfaceCall → Except Exception Ledger
  | .sendDatagram dgram nextHopIp =>
    let interface := (ledger.interface.sendDatagram dgram nextHopIp).1
    .ok { interface
          submitted := ledger.submitted ++ [(nextHopIp, dgram)]
          emitted := ledger.emitted
            ++ (added ledger.interface interface).map (Prod.mk nextHopIp) }
  | .recvFrame frame =>
    let interface := (ledger.interface.recvFrame frame).1
    let about : UInt32 := match ledger.interface.taught frame with
      | none => 0
      | some am => am.senderIpAddress
    .ok { ledger with
          interface
          emitted := ledger.emitted ++ (added ledger.interface interface).map (Prod.mk about) }
  | .tick ms =>
    match ledger.interface.tick ms with
    | .error undefined => .error undefined
    | .ok interface => .ok { ledger with interface }
  | .transmit =>
    .ok { ledger with
          interface := { ledger.interface with framesOut := ledger.interface.framesOut.tail } }

/-- The records of a history that concern one address, in order. -/
def recordsOf {α : Type} (ip : UInt32) (history : List (UInt32 × α)) : List α :=
  (history.filter fun record => record.1 = ip).map Prod.snd

/-- The IPv4 frames among some frames. -/
def ipv4Only (frames : List EthernetFrame) : List EthernetFrame :=
  frames.filter fun frame => frame.header.type = EthernetHeader.typeIPv4

/-- The datagrams submitted for a next hop, in order. -/
def submittedFor (ledger : Ledger) (ip : UInt32) : List IPv4Datagram :=
  recordsOf ip ledger.submitted

/-- The IPv4 frames emitted for a next hop, in order. -/
def framesFor (ledger : Ledger) (ip : UInt32) : List EthernetFrame :=
  ipv4Only (recordsOf ip ledger.emitted)

/-- The datagrams held for a next hop. -/
def waitingFor (ledger : Ledger) (ip : UInt32) : List IPv4Datagram := ledger.interface.waiting ip

/-- What a call can do to the account of one address: its frames, its waiting list, its history. -/
inductive Posted (ledger : Ledger) (ip : UInt32) :
    List EthernetFrame → List IPv4Datagram → List IPv4Datagram → InterfaceCall → Prop
  /-- The call does not concern the address. -/
  | idle {call} : Posted ledger ip (ledger.framesFor ip) (ledger.waitingFor ip)
      (ledger.submittedFor ip) call
  /-- A datagram is sent at once. -/
  | sent {frame dgram dst} (known : ledger.interface.cache.lookup ip = some dst)
      (carries : frame.Carries dgram) :
      Posted ledger ip (ledger.framesFor ip ++ [frame]) (ledger.waitingFor ip)
        (ledger.submittedFor ip ++ [dgram]) (.sendDatagram dgram ip)
  /-- A datagram that cannot be serialized is refused. -/
  | refused {dgram dst thrown} (known : ledger.interface.cache.lookup ip = some dst)
      (failed : dgram.serialize = .error thrown) :
      Posted ledger ip (ledger.framesFor ip) (ledger.waitingFor ip)
        (ledger.submittedFor ip ++ [dgram]) (.sendDatagram dgram ip)
  /-- A datagram is put in front of those that wait. -/
  | queued {dgram} (unknown : ledger.interface.cache.lookup ip = none)
      (due : ledger.interface.requestDue ip = true) :
      Posted ledger ip (ledger.framesFor ip) (dgram :: ledger.waitingFor ip)
        (ledger.submittedFor ip ++ [dgram]) (.sendDatagram dgram ip)
  /-- A datagram is forgotten. -/
  | dropped {dgram} (unknown : ledger.interface.cache.lookup ip = none)
      (recent : ledger.interface.requestDue ip = false) :
      Posted ledger ip (ledger.framesFor ip) (ledger.waitingFor ip)
        (ledger.submittedFor ip ++ [dgram]) (.sendDatagram dgram ip)
  /-- Everything that waits is sent. -/
  | flushed {frames call}
      (carried : List.Forall₂ EthernetFrame.Carries frames (ledger.waitingFor ip)) :
      Posted ledger ip (ledger.framesFor ip ++ frames) [] (ledger.submittedFor ip) call
  /-- Some of what waits is sent, up to a datagram that cannot be serialized; all keeps waiting. -/
  | stuck {frames done bad later thrown call}
      (split : ledger.waitingFor ip = done ++ bad :: later)
      (carried : List.Forall₂ EthernetFrame.Carries frames done)
      (failed : bad.serialize = .error thrown) :
      Posted ledger ip (ledger.framesFor ip ++ frames) (ledger.waitingFor ip)
        (ledger.submittedFor ip) call

/-- Records about one address are added to its account only. -/
theorem recordsOf_append {α : Type} (ip hop : UInt32) (history : List (UInt32 × α))
    (records : List α) :
    recordsOf ip (history ++ records.map (Prod.mk hop))
      = recordsOf ip history ++ if hop = ip then records else [] := by
  rw [recordsOf, recordsOf, List.filter_append, List.map_append, List.filter_map]
  -- A record is about one address only.
  by_cases same : hop = ip
  · simp [same, Function.comp_def]
  · simp [same, Function.comp_def]

/-- A record of a history is in the account of its address. -/
theorem mem_recordsOf {α : Type} {ip : UInt32} {history : List (UInt32 × α)} {record : α} :
    record ∈ recordsOf ip history ↔ (ip, record) ∈ history := by
  simp [recordsOf]

/-- What a call emits is added to the account of the address that the call is about. -/
theorem framesFor_append (ip hop : UInt32) (history : List (UInt32 × EthernetFrame))
    (frames : List EthernetFrame) :
    ipv4Only (recordsOf ip (history ++ frames.map (Prod.mk hop)))
      = ipv4Only (recordsOf ip history) ++ if hop = ip then ipv4Only frames else [] := by
  rw [recordsOf_append, ipv4Only, List.filter_append]
  split <;> rfl

/-- No frames, no IPv4 frames. -/
@[simp] theorem ipv4Only_nil : ipv4Only [] = [] := by
  simp only [ipv4Only, List.filter_nil]

/-- Frames that carry datagrams are IPv4 frames. -/
theorem ipv4Only_of_carried {frames : List EthernetFrame} {dgrams : List IPv4Datagram}
    (carried : List.Forall₂ EthernetFrame.Carries frames dgrams) : ipv4Only frames = frames := by
  -- Each frame that carries a datagram passes the filter.
  induction carried with
  | nil => rfl
  | cons carries _ ih =>
    rw [ipv4Only, List.filter_cons_of_pos (by simpa using carries.1)]
    exact congrArg _ ih

/-- ARP frames are not IPv4 frames. -/
theorem ipv4Only_of_arp {frames : List EthernetFrame}
    (arp : ∀ frame ∈ frames, NetworkInterface.IsArp frame) : ipv4Only frames = [] := by
  rw [ipv4Only, List.filter_eq_nil_iff]
  intro frame member
  rw [show frame.header.type = EthernetHeader.typeARP from arp frame member]
  decide

/-- What is added to a queue is what it was extended by. -/
theorem added_of_append {before after : NetworkInterface} {frames : List EthernetFrame}
    (extended : after.framesOut = before.framesOut ++ frames) : added before after = frames := by
  rw [added, extended, List.drop_left]

/-- Submitting a datagram is posted to the account of its next hop. -/
theorem sendDatagram_posted (ledger : Ledger) (dgram : IPv4Datagram) (hop ip : UInt32)
    {next : Ledger} (stepped : ledger.step (.sendDatagram dgram hop) = .ok next) :
    Posted ledger ip (next.framesFor ip) (next.waitingFor ip) (next.submittedFor ip)
      (.sendDatagram dgram hop) := by
  rw [step, Except.ok.injEq] at stepped
  have sending := NetworkInterface.sendDatagram_sending ledger.interface dgram hop
  generalize (ledger.interface.sendDatagram dgram hop).1 = interface at stepped sending
  generalize (ledger.interface.sendDatagram dgram hop).2 = result at sending
  subst stepped
  have history := recordsOf_append ip hop ledger.submitted [dgram]
  have frames := framesFor_append ip hop ledger.emitted (added ledger.interface interface)
  rw [List.map_singleton] at history
  simp only [framesFor, submittedFor, waitingFor]
  rw [history, frames]
  by_cases about : hop = ip
  · subst about
    rw [if_pos rfl, if_pos rfl]
    cases sending with
    | direct known written =>
      rw [added_of_append rfl]
      exact .sent known ⟨rfl, written⟩
    | refused known failed =>
      -- A datagram that throws leaves only its record.
      rw [added_of_append (List.append_nil _).symm, ipv4Only_nil, List.append_nil]
      exact .refused known failed
    | @queued request unknown due =>
      -- Only an ARP request goes out.
      have arp : ipv4Only [⟨⟨.broadcast, ledger.interface.ethernetAddress,
          EthernetHeader.typeARP⟩, request⟩] = [] :=
        ipv4Only_of_arp (List.forall_mem_singleton.mpr rfl)
      rw [added_of_append (ledger.interface.framesOut_asked dgram hop request), arp,
        List.append_nil, NetworkInterface.asked, NetworkInterface.waiting_enqueue, if_pos rfl]
      exact .queued unknown due
    | dropped unknown recent =>
      -- Nothing is sent or kept.
      rw [added_of_append (List.append_nil _).symm, ipv4Only_nil, List.append_nil]
      exact .dropped unknown recent
  · -- The account of another address is not touched.
    rw [if_neg about, if_neg about, List.append_nil, List.append_nil,
      sending.waiting_of_ne (Ne.symm about)]
    exact .idle

/-- A frame is posted to the account of the address whose mapping it teaches. -/
theorem recvFrame_posted (ledger : Ledger) (frame : EthernetFrame) (ip : UInt32)
    {next : Ledger} (stepped : ledger.step (.recvFrame frame) = .ok next) :
    Posted ledger ip (next.framesFor ip) (next.waitingFor ip) (next.submittedFor ip)
      (.recvFrame frame) := by
  rw [step, Except.ok.injEq] at stepped
  subst stepped
  simp only [framesFor, submittedFor, waitingFor, NetworkInterface.recvFrame_fst]
  cases learned : ledger.interface.taught frame with
  | none =>
    -- The frame teaches nothing.
    rw [added_of_append (List.append_nil _).symm, List.map_nil, List.append_nil]
    exact .idle
  | some am =>
    have handled := NetworkInterface.handleArp_handled ledger.interface am
    simp only [framesFor_append]
    generalize (ledger.interface.handleArp am).1 = interface at handled
    generalize (ledger.interface.handleArp am).2 = result at handled
    cases handled with
    | @sent frames reply carried replies =>
      rw [added_of_append (show _ = ledger.interface.framesOut ++ (frames ++ reply) from rfl)]
      have plain := carried.imp fun _ _ carries => carries.2.2
      have waiting := NetworkInterface.waiting_erase ledger.interface am.senderIpAddress ip
      -- The datagrams that waited come first, and the reply is not an IPv4 frame.
      have only : ipv4Only (frames ++ reply) = frames := by
        rw [ipv4Only, List.filter_append]
        exact (congrArg₂ (· ++ ·) (ipv4Only_of_carried plain) (ipv4Only_of_arp replies)).trans
          (List.append_nil frames)
      rw [only]
      change Posted ledger ip _
        ({ ledger.interface with
            datagrams := ledger.interface.datagrams.erase am.senderIpAddress }.waiting ip) _ _
      rw [waiting]
      by_cases about : am.senderIpAddress = ip
      · -- The account of the sender.
        subst about
        rw [if_pos rfl, if_pos rfl]
        exact .flushed plain
      · -- The account of another address.
        rw [if_neg about, if_neg (Ne.symm about), List.append_nil]
        exact .idle
    | @stuck frames done bad later thrown split carried failed =>
      rw [added_of_append (show _ = ledger.interface.framesOut ++ frames from rfl)]
      have plain := carried.imp fun _ _ carries => carries.2.2
      -- A datagram that cannot be written ends the release, and everything still waits.
      rw [ipv4Only_of_carried plain]
      by_cases about : am.senderIpAddress = ip
      · subst about
        rw [if_pos rfl]
        exact .stuck split plain failed
      · rw [if_neg about, List.append_nil]
        exact .idle

/-- Every call is posted to the account of each address. -/
theorem step_posted {ledger next : Ledger} {call : InterfaceCall}
    (stepped : ledger.step call = .ok next) (ip : UInt32) :
    Posted ledger ip (next.framesFor ip) (next.waitingFor ip) (next.submittedFor ip) call := by
  cases call with
  | sendDatagram dgram hop => exact sendDatagram_posted ledger dgram hop ip stepped
  | recvFrame frame => exact recvFrame_posted ledger frame ip stepped
  | tick ms =>
    rw [step] at stepped
    cases ticked : ledger.interface.tick ms with
    | error undefined => simp [ticked] at stepped
    | ok interface =>
      rw [ticked, Except.ok.injEq] at stepped
      -- Time touches only the cache and the ages.
      obtain ⟨left, -, rest⟩ := bind_eq_ok.mp ticked
      rw [pure_eq_ok, Except.ok.injEq] at rest
      subst rest stepped
      exact .idle
  | transmit =>
    -- A frame that leaves the queue was accounted for before.
    rw [step, Except.ok.injEq] at stepped
    subst stepped
    exact .idle

/-- Whatever waits for an address was submitted for it. -/
def Held (ledger : Ledger) : Prop :=
  ∀ ip, ∀ dgram ∈ ledger.waitingFor ip, dgram ∈ ledger.submittedFor ip

/-- What is emitted for an address are datagrams that were submitted for it, and so is what waits. -/
theorem Held.step {ledger next : Ledger} {call : InterfaceCall} (held : ledger.Held)
    (stepped : ledger.step call = .ok next) :
    next.Held ∧ ∀ ip, ∃ frames, next.framesFor ip = ledger.framesFor ip ++ frames ∧
      ∀ frame ∈ frames, ∃ dgram ∈ next.submittedFor ip, frame.Carries dgram := by
  have each : ∀ ip, (∀ dgram ∈ next.waitingFor ip, dgram ∈ next.submittedFor ip) ∧
      ∃ frames, next.framesFor ip = ledger.framesFor ip ++ frames ∧
        ∀ frame ∈ frames, ∃ dgram ∈ next.submittedFor ip, frame.Carries dgram := by
    intro ip
    have waits := held ip
    have posted := step_posted stepped ip
    generalize next.framesFor ip = frames at posted ⊢
    generalize next.waitingFor ip = waiting at posted ⊢
    generalize next.submittedFor ip = submitted at posted ⊢
    -- A datagram that is added to the history leaves the earlier ones there.
    have earlier : ∀ {dgram : IPv4Datagram}, ∀ other ∈ ledger.waitingFor ip,
        other ∈ ledger.submittedFor ip ++ [dgram] :=
      fun other member => List.mem_append_left _ (waits other member)
    cases posted with
    | idle => exact ⟨waits, [], by simp, by simp⟩
    | @sent frame dgram dst known carries =>
      exact ⟨earlier, [frame], rfl, List.forall_mem_singleton.mpr ⟨dgram, by simp, carries⟩⟩
    | refused known failed => exact ⟨earlier, [], by simp, by simp⟩
    | queued unknown due =>
      exact ⟨List.forall_mem_cons.mpr ⟨by simp, earlier⟩, [], by simp, by simp⟩
    | dropped unknown recent => exact ⟨earlier, [], by simp, by simp⟩
    | @flushed released call carried =>
      -- What waited was submitted.
      refine ⟨by simp, released, rfl, fun frame member => ?_⟩
      obtain ⟨dgram, waited, carries⟩ := NetworkInterface.exists_carried carried frame member
      exact ⟨dgram, waits dgram waited, carries⟩
    | @stuck released done bad later thrown call split carried failed =>
      -- So was what went out before the exception.
      refine ⟨waits, released, rfl, fun frame member => ?_⟩
      obtain ⟨dgram, waited, carries⟩ := NetworkInterface.exists_carried carried frame member
      exact ⟨dgram, waits dgram (by rw [split]; exact List.mem_append_left _ waited), carries⟩
  exact ⟨fun ip => (each ip).1, fun ip => (each ip).2⟩

/-- A new interface with an empty history. -/
def start (ethernetAddress : EthernetAddress) (ipAddress : UInt32) : Ledger :=
  { interface := { ethernetAddress, ipAddress } }

/-- A new interface has neither mappings nor ages. -/
theorem paired_start (ethernetAddress : EthernetAddress) (ipAddress : UInt32) :
    (start ethernetAddress ipAddress).interface.Paired :=
  fun _ => rfl

/-- No call meets undefined behaviour. -/
theorem step_returns {ledger : Ledger} (paired : ledger.interface.Paired)
    (call : InterfaceCall) :
    ∃ next, ledger.step call = .ok next ∧ next.interface.Paired := by
  cases call with
  | sendDatagram dgram hop =>
    -- Submitting a datagram leaves both maps.
    exact ⟨_, rfl, paired.of_eq (ledger.interface.sendDatagram_sending dgram hop).cache⟩
  | recvFrame frame =>
    -- A message is written to both maps.
    refine ⟨_, rfl, ?_⟩
    change ((ledger.interface.recvFrame frame).1).Paired
    rw [NetworkInterface.recvFrame_fst]
    cases ledger.interface.taught frame with
    | none => exact paired
    | some am => exact paired.handled (ledger.interface.handleArp_handled am)
  | tick ms =>
    -- A tick erases only keys that both maps have.
    obtain ⟨interface, ticked, kept⟩ := paired.tick ms
    exact ⟨{ ledger with interface }, by rw [step, ticked], kept⟩
  | transmit => exact ⟨_, rfl, paired⟩

end Ledger

end Sponge
