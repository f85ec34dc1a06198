import Sponge.Net.InterfaceRuns

/-! Whether a network interface loses, duplicates or reorders the datagrams submitted to it. -/

namespace Sponge

namespace Ledger

/-- Every datagram submitted for an address went out in one frame or waits for its mapping. -/
def Conserved (ledger : Ledger) : Prop :=
  ∀ ip, ∃ sent, List.Forall₂ EthernetFrame.Carries (ledger.framesFor ip) sent
    ∧ (sent ++ ledger.waitingFor ip).Perm (ledger.submittedFor ip)

/-- A datagram is submitted only if it can be serialized and no recent request is unanswered. -/
def Unhurried (ledger : Ledger) : InterfaceCall → Prop
  | .sendDatagram dgram ip =>
    dgram.serialize.isOk = true
      ∧ (ledger.interface.cache.lookup ip = none → ledger.interface.requestDue ip = true)
  | _ => True

instance (ledger : Ledger) : DecidablePred (Unhurried ledger)
  | .sendDatagram _ _ => inferInstanceAs (Decidable (_ ∧ (_ → _)))
  | .recvFrame _ => .isTrue trivial
  | .tick _ => .isTrue trivial
  | .transmit => .isTrue trivial

/-- What holds along a run in which no datagram is submitted in a hurry. -/
structure Settled (ledger : Ledger) : Prop where
  /-- No call meets undefined behaviour. -/
  paired : ledger.interface.Paired
  /-- Whatever waits can be serialized. -/
  sendable : ∀ ip, ∀ dgram ∈ ledger.waitingFor ip, dgram.serialize.isOk = true
  /-- Nothing was lost or duplicated. -/
  conserved : Conserved ledger

/-- Nothing has been submitted to a new interface. -/
theorem settled_start (ethernetAddress : EthernetAddress) (ipAddress : UInt32) :
    Settled (start ethernetAddress ipAddress) where
  paired := paired_start ethernetAddress ipAddress
  sendable _ _ member := nomatch member
  conserved _ := ⟨[], .nil, .nil⟩

/-- A datagram that cannot be serialized is not one that can. -/
theorem not_isOk_of_error {dgram : IPv4Datagram} {thrown : Exception}
    (failed : dgram.serialize = .error thrown) : ¬ dgram.serialize.isOk = true := by
  simp [failed, Except.isOk, Except.toBool]

/-- An unhurried call keeps the account of every address. -/
theorem Settled.step {ledger : Ledger} (settled : Settled ledger) {call : InterfaceCall}
    (unhurried : Unhurried ledger call) :
    ∃ next, ledger.step call = .ok next ∧ Settled next := by
  obtain ⟨next, stepped, paired⟩ := step_returns settled.paired call
  refine ⟨next, stepped, ?_⟩
  -- The account of each address is kept by each thing that a call can do to it.
  have kept : ∀ ip, (∀ dgram ∈ next.waitingFor ip, dgram.serialize.isOk = true)
      ∧ ∃ sent, List.Forall₂ EthernetFrame.Carries (next.framesFor ip) sent
        ∧ (sent ++ next.waitingFor ip).Perm (next.submittedFor ip) := by
    intro ip
    have sendable := settled.sendable ip
    obtain ⟨sent, carried, conserved⟩ := settled.conserved ip
    have posted := step_posted stepped ip
    generalize next.framesFor ip = frames at posted ⊢
    generalize next.waitingFor ip = waiting at posted ⊢
    generalize next.submittedFor ip = submitted at posted ⊢
    cases posted with
    | idle => exact ⟨sendable, sent, carried, conserved⟩
    | @sent frame dgram dst known carries =>
      refine ⟨sendable, sent ++ [dgram], List.rel_append carried (.cons carries .nil), ?_⟩
      -- The new datagram moves past those that wait.
      rw [List.append_assoc]
      exact (List.perm_append_comm.append_left sent).trans
        (by rw [← List.append_assoc]; exact conserved.append_right [dgram])
    | refused known failed => exact absurd unhurried.1 (not_isOk_of_error failed)
    | @queued dgram unknown due =>
      -- The datagram waits in front of the others.
      refine ⟨List.forall_mem_cons.mpr ⟨unhurried.1, sendable⟩, sent, carried, ?_⟩
      exact List.perm_middle.trans
        ((conserved.cons dgram).trans (List.perm_append_singleton dgram _).symm)
    | dropped unknown recent =>
      -- A hurried submission was excluded.
      exact absurd (recent.symm.trans (unhurried.2 unknown)) Bool.false_ne_true
    | flushed flushed =>
      -- All that waited is sent.
      refine ⟨by simp, sent ++ ledger.waitingFor ip, List.rel_append carried flushed, ?_⟩
      rwa [List.append_nil]
    | @stuck frames done bad later thrown call split flushed failed =>
      -- Everything that waits can be sent, so nothing gets stuck.
      exact absurd (sendable bad (by simp [split])) (not_isOk_of_error failed)
  exact ⟨paired, fun ip => (kept ip).1, fun ip => (kept ip).2⟩

/-- An ARP message empties the waiting list of its sender, if all that waits can be sent. -/
theorem waitingFor_taught {ledger next : Ledger} {frame : EthernetFrame} {am : ARPMessage}
    (teaches : ledger.interface.taught frame = some am)
    (sendable : ∀ dgram ∈ ledger.waitingFor am.senderIpAddress, dgram.serialize.isOk = true)
    (stepped : ledger.step (.recvFrame frame) = .ok next) :
    next.waitingFor am.senderIpAddress = [] := by
  rw [Ledger.step, Except.ok.injEq] at stepped
  subst stepped
  simp only [waitingFor, NetworkInterface.recvFrame_fst, teaches]
  have handled := NetworkInterface.handleArp_handled ledger.interface am
  -- Something would have to fail to serialize to keep the list.
  rcases handled.waiting am.senderIpAddress with ⟨-, released⟩ | ⟨-, bad, held, thrown, failed⟩
  · rw [released, if_pos rfl]
  · exact absurd (sendable bad held) (not_isOk_of_error failed)

/-- Without hurried submissions, nothing is lost or duplicated, and ARP releases what waits. -/
theorem conserved_of_unhurried (ethernetAddress : EthernetAddress) (ipAddress : UInt32)
    {calls : List InterfaceCall}
    (unhurried : Throughout step Unhurried (start ethernetAddress ipAddress) calls) :
    ∃ last, runCalls step (start ethernetAddress ipAddress) calls = .ok last
      ∧ Conserved last
      ∧ ∀ frame am, last.interface.taught frame = some am →
        ∃ next, last.step (.recvFrame frame) = .ok next ∧ Conserved next
          ∧ next.waitingFor am.senderIpAddress = [] := by
  -- The account is the invariant of the run, and a reply is one more call.
  obtain ⟨last, ran, settled⟩ := unhurried.returns Settled
    (fun ledger call settled unhurried => settled.step unhurried)
    (settled_start ethernetAddress ipAddress)
  refine ⟨last, ran, settled.conserved, fun frame am teaches => ?_⟩
  obtain ⟨next, stepped, later⟩ := settled.step (show Unhurried last (.recvFrame frame) from trivial)
  exact ⟨next, stepped, later.conserved,
    waitingFor_taught teaches (settled.sendable am.senderIpAddress) stepped⟩

namespace Scenario

/-- The Ethernet address of the interface in the scenarios. -/
def ours : EthernetAddress := ⟨[2, 0, 0, 0, 0, 1], rfl⟩

/-- The Ethernet address of its neighbour. -/
def theirs : EthernetAddress := ⟨[2, 0, 0, 0, 0, 2], rfl⟩

/-- A datagram with one byte of payload. -/
def dgram (byte : UInt8) : IPv4Datagram := ⟨{ len := 21 }, ⟨[[byte]]⟩⟩

/-- The neighbour's reply, which teaches the mapping of 10.0.0.2. -/
def reply : EthernetFrame :=
  ⟨⟨ours, theirs, EthernetHeader.typeARP⟩, .ofBuffer
    [0, 1, 8, 0, 6, 4, 0, 2, 2, 0, 0, 0, 0, 2, 10, 0, 0, 2, 2, 0, 0, 0, 0, 1, 10, 0, 0, 1]⟩

/-- The address of the neighbour. -/
def hop : UInt32 := 0x0a000002

/-- A datagram waits, is released by the reply, and the next one goes out directly. -/
def patient : List InterfaceCall :=
  [.sendDatagram (dgram 1) hop, .recvFrame reply, .transmit, .sendDatagram (dgram 2) hop]

/-- Two datagrams are submitted before the reply, the second while the request is recent. -/
def hurried : List InterfaceCall :=
  [.sendDatagram (dgram 1) hop, .sendDatagram (dgram 2) hop, .recvFrame reply]

/-- Two datagrams are submitted before the reply, the second with a request of its own. -/
def repeated : List InterfaceCall :=
  [.sendDatagram (dgram 1) hop, .tick 5000, .sendDatagram (dgram 2) hop, .recvFrame reply]

end Scenario

open Scenario

/-- Two datagrams of a patient sender are both sent. -/
theorem conserved_of_unhurried_patient :
    Throughout step Unhurried (start ours 0x0a000001) patient
      ∧ ∃ last, runCalls step (start ours 0x0a000001) patient = .ok last
        ∧ Conserved last
        ∧ ∀ frame am, last.interface.taught frame = some am →
          ∃ next, last.step (.recvFrame frame) = .ok next ∧ Conserved next
            ∧ next.waitingFor am.senderIpAddress = [] := by
  have unhurried : Throughout step Unhurried (start ours 0x0a000001) patient := by decide +kernel
  exact ⟨unhurried, conserved_of_unhurried ours 0x0a000001 unhurried⟩

/-- A datagram submitted shortly after an unanswered request is neither sent nor held. -/
theorem hurried_lost :
    ∃ last, runCalls step (start ours 0x0a000001) hurried = .ok last ∧ ¬ Conserved last := by
  have ran : ∃ last, runCalls step (start ours 0x0a000001) hurried = .ok last
      ∧ (last.submittedFor hop).length = 2 ∧ (last.framesFor hop).length = 1
      ∧ (last.waitingFor hop).length = 0 :=
    exists_runCalls (by decide +kernel)
  obtain ⟨last, returned, submitted, frames, waiting⟩ := ran
  refine ⟨last, returned, fun conserved => ?_⟩
  -- One frame and an empty waiting list cannot account for two datagrams.
  obtain ⟨sent, carried, perm⟩ := conserved hop
  have count := perm.length_eq
  rw [List.length_append, ← carried.length_eq] at count
  omega

/-- The IPv4 frames for an address carry its datagrams in the order of their submission. -/
def InOrder (ledger : Ledger) : Prop :=
  ∀ ip, ∃ carried, List.Forall₂ EthernetFrame.Carries (ledger.framesFor ip) carried
    ∧ carried.Sublist (ledger.submittedFor ip)

/-- No datagram is put before another that waits for the same address. -/
def Alone (ledger : Ledger) : InterfaceCall → Prop
  | .sendDatagram _ ip =>
    ledger.interface.cache.lookup ip = none → ledger.interface.requestDue ip = true →
      ledger.waitingFor ip = []
  | _ => True

instance (ledger : Ledger) : DecidablePred (Alone ledger)
  | .sendDatagram _ _ => inferInstanceAs (Decidable (_ → _ → _))
  | .recvFrame _ => .isTrue trivial
  | .tick _ => .isTrue trivial
  | .transmit => .isTrue trivial

/-- A mapping becomes known only when nothing that can be sent is left waiting for it. -/
theorem step_unknown {ledger next : Ledger} (paired : ledger.interface.Paired)
    {call : InterfaceCall} (stepped : ledger.step call = .ok next) {ip : UInt32}
    (unknown : ledger.interface.cache.lookup ip = none) :
    next.interface.cache.lookup ip = none ∨ next.waitingFor ip = []
      ∨ ∃ bad ∈ next.waitingFor ip, ∃ thrown, bad.serialize = .error thrown := by
  cases call with
  | sendDatagram dgram hop =>
    -- Submitting a datagram learns nothing.
    rw [Ledger.step, Except.ok.injEq] at stepped
    subst stepped
    have cache := (ledger.interface.sendDatagram_sending dgram hop).cache.1
    exact .inl (by simp only [cache, unknown])
  | recvFrame frame =>
    rw [Ledger.step, Except.ok.injEq] at stepped
    subst stepped
    simp only [waitingFor, NetworkInterface.recvFrame_fst]
    cases ledger.interface.taught frame with
    | none => exact .inl unknown
    | some am =>
      -- Only the mapping of the sender becomes known.
      have handled := ledger.interface.handleArp_handled am
      by_cases about : ip = am.senderIpAddress
      · subst about
        -- What waited is sent, or is stuck with a datagram that throws.
        rcases handled.waiting am.senderIpAddress with ⟨-, released⟩ | ⟨kept, bad⟩
        · exact .inr (.inl (by rw [released, if_pos rfl]))
        · exact .inr (.inr (kept.symm ▸ bad))
      · -- Another mapping is learned.
        refine .inl ?_
        rw [handled.cache.1, HashMap.lookup_insert, if_neg about]
        exact unknown
  | tick ms =>
    -- Time only forgets.
    obtain ⟨left, ticked, lookups⟩ := NetworkInterface.tick_spec paired ms
    rw [Ledger.step, ticked, Except.ok.injEq] at stepped
    subst stepped
    refine .inl ?_
    change left.lookup ip = none
    simp [lookups, unknown]
  | transmit =>
    rw [Ledger.step, Except.ok.injEq] at stepped
    subst stepped
    exact .inl unknown

/-- What may wait for an address when no datagram is put before another. -/
inductive Lone (ledger : Ledger) (ip : UInt32) (carried : List IPv4Datagram) : Prop
  /-- Nothing waits. -/
  | empty (none : ledger.waitingFor ip = [])
  /-- A datagram that cannot be serialized is stuck, and will never be sent. -/
  | stuck {bad thrown} (waits : ledger.waitingFor ip = [bad])
      (failed : bad.serialize = .error thrown)
  /-- The datagram submitted after all that were sent waits for its mapping. -/
  | next {dgram} (waits : ledger.waitingFor ip = [dgram])
      (unknown : ledger.interface.cache.lookup ip = none)
      (later : (carried ++ [dgram]).Sublist (ledger.submittedFor ip))

/-- At most one datagram waits. -/
theorem Lone.length_le {ledger : Ledger} {ip : UInt32} {carried : List IPv4Datagram}
    (lone : Lone ledger ip carried) : (ledger.waitingFor ip).length ≤ 1 := by
  -- In each case the list is known.
  cases lone with
  | empty none => simp [none]
  | stuck here failed => simp [here]
  | next here unknown later => simp [here]

/-- A waiting list that does not change keeps what it holds, if its one datagram goes on waiting. -/
theorem Lone.kept {ledger next : Ledger} {ip : UInt32} {carried after : List IPv4Datagram}
    (lone : Lone ledger ip carried) (same : next.waitingFor ip = ledger.waitingFor ip)
    (goesOn : ∀ {dgram}, ledger.interface.cache.lookup ip = none →
      ledger.waitingFor ip = [dgram] → (carried ++ [dgram]).Sublist (ledger.submittedFor ip) →
      Lone next ip after) :
    Lone next ip after := by
  -- Only a datagram that can be sent depends on the mapping.
  cases lone with
  | empty none => exact .empty (same.trans none)
  | stuck here failed => exact .stuck (same.trans here) failed
  | next here unknown later => exact goesOn unknown here later

/-- What holds along a run in which no datagram is put before another. -/
structure Sorted (ledger : Ledger) : Prop where
  /-- No call meets undefined behaviour. -/
  paired : ledger.interface.Paired
  /-- The frames are in order, and at most one datagram waits for each address. -/
  accounts : ∀ ip, ∃ carried, List.Forall₂ EthernetFrame.Carries (ledger.framesFor ip) carried
    ∧ carried.Sublist (ledger.submittedFor ip) ∧ Lone ledger ip carried

/-- A datagram that waits for an unknown mapping goes on waiting for it, or is stuck. -/
theorem lone_of_waits {ledger next : Ledger} (paired : ledger.interface.Paired)
    {call : InterfaceCall} (stepped : ledger.step call = .ok next) {ip : UInt32}
    (unknown : ledger.interface.cache.lookup ip = none) {dgram : IPv4Datagram}
    (waits : next.waitingFor ip = [dgram]) {carried : List IPv4Datagram}
    (later : (carried ++ [dgram]).Sublist (next.submittedFor ip)) : Lone next ip carried := by
  -- The mapping is still unknown, or was learned with this call.
  rcases step_unknown paired stepped unknown with still | none | ⟨bad, member, thrown, failed⟩
  · exact .next waits still later
  · exact .empty none
  · rw [waits, List.mem_singleton] at member
    exact .stuck waits (member ▸ failed)

/-- A call that puts no datagram before another keeps the order of every address. -/
theorem Sorted.step {ledger : Ledger} (sorted : Sorted ledger) {call : InterfaceCall}
    (alone : Alone ledger call) :
    ∃ next, ledger.step call = .ok next ∧ Sorted next := by
  obtain ⟨next, stepped, paired⟩ := step_returns sorted.paired call
  refine ⟨next, stepped, paired, fun ip => ?_⟩
  obtain ⟨carried, frames, ordered, lone⟩ := sorted.accounts ip
  have posted := step_posted stepped ip
  have waits : ∀ {dgram : IPv4Datagram} {carried : List IPv4Datagram},
      ledger.interface.cache.lookup ip = none → next.waitingFor ip = [dgram] →
      (carried ++ [dgram]).Sublist (next.submittedFor ip) → Lone next ip carried :=
    fun unknown here later => lone_of_waits sorted.paired stepped unknown here later
  generalize framesAfter : next.framesFor ip = newFrames at posted ⊢
  generalize waitingAfter : next.waitingFor ip = newWaiting at posted waits
  generalize submittedAfter : next.submittedFor ip = newSubmitted at posted waits ⊢
  cases posted with
  | idle => exact ⟨carried, frames, ordered, lone.kept waitingAfter waits⟩
  | @sent frame dgram dst known carries =>
    -- The mapping is known, so the new datagram overtakes none that can be sent.
    refine ⟨carried ++ [dgram], List.rel_append frames (.cons carries .nil),
      ordered.append_right [dgram], lone.kept waitingAfter fun unknown => ?_⟩
    simp [unknown] at known
  | @refused dgram dst thrown known failed =>
    -- The datagram is not sent.
    refine ⟨carried, frames, ordered.trans (List.sublist_append_left _ _),
      lone.kept waitingAfter fun unknown => ?_⟩
    simp [unknown] at known
  | @queued dgram unknown due =>
    refine ⟨carried, frames, ordered.trans (List.sublist_append_left _ _), ?_⟩
    -- Nothing waited, so the new datagram is the only one.
    have none : ledger.waitingFor ip = [] := alone unknown due
    exact waits unknown (by rw [none]) (ordered.append_right [dgram])
  | @dropped dgram unknown recent =>
    -- The datagram is in the history, but nothing else changes.
    exact ⟨carried, frames, ordered.trans (List.sublist_append_left _ _),
      lone.kept waitingAfter fun unknown here later =>
        waits unknown here (later.trans (List.sublist_append_left _ _))⟩
  | @flushed released call flushed =>
    -- What waited is sent now, after all that were carried.
    refine ⟨carried ++ ledger.waitingFor ip, List.rel_append frames flushed, ?_,
      .empty waitingAfter⟩
    cases lone with
    | empty none => rwa [none, List.append_nil]
    | stuck here failed =>
      rw [here] at flushed
      cases flushed with
      | cons carries _ => simp [carries.2] at failed
    | next here unknown later => rwa [here]
  | @stuck released done bad later thrown call split flushed failed =>
    -- With one datagram waiting, the flush stops before it sends anything.
    have single := lone.length_le
    rw [split, List.length_append, List.length_cons] at single
    obtain rfl := List.eq_nil_of_length_eq_zero (show done.length = 0 by omega)
    obtain rfl := List.eq_nil_of_length_eq_zero (show later.length = 0 by omega)
    have here : ledger.waitingFor ip = [bad] := split
    cases flushed with
    | nil =>
      rw [List.append_nil]
      exact ⟨carried, frames, ordered, .stuck (waitingAfter.trans here) failed⟩

/-- When no datagram is put before another, the frames for every address are in order. -/
theorem inOrder_of_alone (ethernetAddress : EthernetAddress) (ipAddress : UInt32)
    {calls : List InterfaceCall}
    (alone : Throughout step Alone (start ethernetAddress ipAddress) calls) :
    ∃ last, runCalls step (start ethernetAddress ipAddress) calls = .ok last ∧ InOrder last := by
  -- Nothing has been submitted yet.
  have initial : Sorted (start ethernetAddress ipAddress) :=
    ⟨paired_start ethernetAddress ipAddress, fun _ => ⟨[], .nil, .slnil, .empty rfl⟩⟩
  obtain ⟨last, ran, sorted⟩ :=
    alone.returns Sorted (fun _ _ sorted alone => sorted.step alone) initial
  refine ⟨last, ran, fun ip => ?_⟩
  obtain ⟨carried, frames, ordered, -⟩ := sorted.accounts ip
  exact ⟨carried, frames, ordered⟩

/-- A hurried sender loses a datagram, but keeps the order of the others. -/
theorem inOrder_of_alone_hurried :
    Throughout step Alone (start ours 0x0a000001) hurried
      ∧ ∃ last, runCalls step (start ours 0x0a000001) hurried = .ok last ∧ InOrder last := by
  have alone : Throughout step Alone (start ours 0x0a000001) hurried := by decide +kernel
  exact ⟨alone, inOrder_of_alone ours 0x0a000001 alone⟩

/-- Two datagrams that wait for the same reply are sent in the opposite order. -/
theorem repeated_reordered :
    ∃ last, runCalls step (start ours 0x0a000001) repeated = .ok last ∧ ¬ InOrder last := by
  -- The run is evaluated, and its first frame does not carry the first datagram.
  have ran : ∃ last, runCalls step (start ours 0x0a000001) repeated = .ok last
      ∧ last.submittedFor hop = [dgram 1, dgram 2] ∧ (last.framesFor hop).length = 2
      ∧ ∀ frame ∈ (last.framesFor hop).head?, (dgram 1).serialize ≠ .ok frame.payload :=
    exists_runCalls (by decide +kernel)
  obtain ⟨last, returned, submitted, count, first⟩ := ran
  refine ⟨last, returned, fun inOrder => ?_⟩
  obtain ⟨carried, frames, ordered⟩ := inOrder hop
  rw [submitted] at ordered
  -- Two frames in order carry both datagrams, so the first carries the one submitted first.
  have whole := ordered.eq_of_length (by rw [← frames.length_eq, count]; rfl)
  subst whole
  generalize last.framesFor hop = emitted at frames first
  cases frames with
  | cons carries _ => exact first _ rfl carries.2

end Ledger

end Sponge
