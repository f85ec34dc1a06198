import Sponge.Net.TcpOverIp

/-! A listening adapter binds to the peer of the first SYN, and to no other. -/

namespace Sponge

namespace TCPOverIPv4Adapter

/-- The valid TCP segment inside a datagram, if it holds one. -/
def segmentIn (dgram : IPv4Datagram) : Option TCPSegment :=
  if dgram.header.proto = IPv4Header.protoTcp then
    match dgram.payload.toBuffer with
    | .error _ => none
    | .ok buffer =>
      let (result, seg) := TCPSegment.parse {} buffer dgram.header.pseudoCksum
      if result = .noError then some seg else none
  else none

/-- The segment inside a datagram, if it opens a connection to a port: a SYN without RST. -/
def opening (port : UInt16) (dgram : IPv4Datagram) : Option TCPSegment :=
  (segmentIn dgram).filter fun seg =>
    seg.header.dport == port && seg.header.syn && !seg.header.rst

/-- The two ends of a connection. -/
structure Endpoints where
  /-- The address and the port of the sender. -/
  source : Address
  /-- The address and the port of the receiver. -/
  destination : Address
deriving DecidableEq, Repr

/-- Where a segment comes from and where it goes to. -/
def endpoints (dgram : IPv4Datagram) (seg : TCPSegment) : Endpoints :=
  ⟨⟨dgram.header.src, seg.header.sport⟩, ⟨dgram.header.dst, seg.header.dport⟩⟩

/-- The same connection, seen from the other end. -/
def mirrored (ends : Endpoints) : Endpoints := ⟨ends.destination, ends.source⟩

/-- The two ends that an adapter is configured for. -/
def ends (adapter : TCPOverIPv4Adapter) : Endpoints :=
  ⟨adapter.cfg.source, adapter.cfg.destination⟩

variable {adapter : TCPOverIPv4Adapter} {dgram : IPv4Datagram} {seg : TCPSegment}

/-- How a listening adapter ends a call on a datagram that does not open a connection. -/
inductive Ignored (adapter : TCPOverIPv4Adapter) :
    Except Exception (Option TCPSegment × TCPOverIPv4Adapter) → Prop
  /-- Nothing is returned, and nothing changes. -/
  | quiet : Ignored adapter (.ok (none, adapter))
  /-- The payload in several buffers is refused by an exception. -/
  | thrown (exception : Exception) : Ignored adapter (.error exception)

/-- A listening adapter takes the segment that opens a connection, and is then bound to its ends. -/
theorem unwrap_opening (listening : adapter.listen = true)
    (opens : opening adapter.cfg.source.port dgram = some seg) :
    ∃ bound : TCPOverIPv4Adapter, adapter.unwrapTcpInIp dgram = .ok (some seg, bound) ∧
      bound.listen = false ∧ bound.ends = mirrored (endpoints dgram seg) := by
  -- What opens a connection is a segment for the port, with SYN and without RST.
  obtain ⟨inside, flags⟩ := Option.filter_eq_some_iff.mp opens
  simp only [Bool.and_eq_true, beq_iff_eq, Bool.not_eq_true'] at flags
  obtain ⟨⟨port, syn⟩, rst⟩ := flags
  refine ⟨{ cfg := { adapter.cfg with
    source := ⟨dgram.header.dst, adapter.cfg.source.port⟩
    destination := ⟨dgram.header.src, seg.header.sport⟩ }, listen := false }, ?_, rfl, ?_⟩
  swap
  · rw [ends, mirrored, endpoints, port]
  rw [segmentIn] at inside
  split at inside
  · rename_i proto
    -- The addresses are not looked at while listening.
    rw [unwrapTcpInIp, if_neg (by simp [listening]), if_neg (by simp [listening]),
      if_neg (not_not.mpr proto)]
    cases whole : dgram.payload.toBuffer with
    -- There is no segment in a payload of several buffers.
    | error thrown => simp [whole] at inside
    | ok buffer =>
      simp only [whole] at inside
      split at inside
      · -- The parsed segment is the one that opens the connection.
        rename_i parsed
        obtain rfl := Option.some.inj inside
        simp [parsed, port, syn, rst, listening]
      · cases inside
  · cases inside

/-- A listening adapter ignores everything else. -/
theorem unwrap_not_opening (listening : adapter.listen = true)
    (other : opening adapter.cfg.source.port dgram = none) :
    Ignored adapter (adapter.unwrapTcpInIp dgram) := by
  -- The first two tests do not apply to a listening adapter.
  rw [unwrapTcpInIp, if_neg (by simp [listening]), if_neg (by simp [listening])]
  split
  · -- The datagram is not of TCP.
    exact .quiet
  · rename_i proto
    rw [opening, segmentIn, if_pos (not_not.mp proto)] at other
    cases whole : dgram.payload.toBuffer with
    -- The payload is not in one buffer.
    | error thrown => exact .thrown thrown
    | ok buffer =>
      simp only [whole, ok_bind] at other ⊢
      -- The segment is refused for its parse, its port or its flags.
      by_cases parsed : (TCPSegment.parse {} buffer dgram.header.pseudoCksum).1 = .noError
      · rw [if_pos parsed, Option.filter_some] at other
        rw [if_neg (not_not.mpr parsed)]
        by_cases port : (TCPSegment.parse {} buffer dgram.header.pseudoCksum).2.header.dport =
            adapter.cfg.source.port
        · -- The flags do not open a connection.
          rw [if_neg (not_not.mpr port), if_pos]
          · exact .quiet
          · simpa [port, listening, imp_iff_not_or] using other
        · -- The segment is for another port.
          rw [if_pos port]
          exact .quiet
      · -- The segment is malformed.
        rw [if_pos parsed]
        exact .quiet

/-- A bound adapter stays as it is, and returns only segments between its two ends. -/
theorem unwrap_bound (bound : adapter.listen = false) :
    Ignored adapter (adapter.unwrapTcpInIp dgram) ∨
      ∃ seg, adapter.unwrapTcpInIp dgram = .ok (some seg, adapter) ∧
        endpoints dgram seg = mirrored adapter.ends := by
  -- A bound adapter tests everything but the flags.
  rw [unwrapTcpInIp]
  simp only [bound, Bool.not_false, Bool.true_and, bne_iff_ne, Bool.false_and, if_false,
    Bool.false_eq_true]
  split
  · -- For another address.
    exact .inl .quiet
  · rename_i dst
    split
    · -- From another address.
      exact .inl .quiet
    · rename_i src
      split
      · -- Not of TCP.
        exact .inl .quiet
      · cases dgram.payload.toBuffer with
        -- The payload is not in one buffer.
        | error thrown => exact .inl (.thrown thrown)
        | ok buffer =>
          simp only [ok_bind]
          split
          · -- The segment is malformed.
            exact .inl .quiet
          · split
            · -- For another port.
              exact .inl .quiet
            · rename_i dport
              split
              · -- From another port.
                exact .inl .quiet
              · -- All four parts of the address have been compared.
                rename_i sport
                refine .inr ⟨_, rfl, ?_⟩
                rw [ne_eq, not_not] at dst src dport sport
                rw [endpoints, mirrored, ends, dst, src, dport, sport]

/-- What an adapter wraps goes from its source to its destination. -/
theorem wrap_endpoints {out : IPv4Datagram} (wrapped : (adapter.wrapTcpInIp seg).2 = .ok out) :
    endpoints out (adapter.wrapTcpInIp seg).1 = adapter.ends ∧
      (adapter.wrapTcpInIp seg).1.serialize out.header.pseudoCksum = .ok out.payload := by
  -- The ports are set before the segment is serialized.
  rw [wrapTcpInIp] at wrapped
  obtain ⟨payload, serialized, rfl⟩ := by
    simpa only [bind_eq_ok, pure_eq_ok, Except.ok.injEq] using wrapped
  exact ⟨rfl, serialized⟩

end TCPOverIPv4Adapter

/-- An adapter with the segments that it returned, each with its datagram. -/
structure AdapterRun where
  /-- The adapter. -/
  adapter : TCPOverIPv4Adapter
  /-- What was returned, first to last. -/
  returned : List (IPv4Datagram × TCPSegment) := []

namespace AdapterRun

open TCPOverIPv4Adapter

/-- Gives a datagram to the adapter; an exception leaves everything as it was. -/
def step (t : AdapterRun) (dgram : IPv4Datagram) : AdapterRun :=
  match t.adapter.unwrapTcpInIp dgram with
  | .ok (some seg, adapter) => ⟨adapter, t.returned ++ [(dgram, seg)]⟩
  | .ok (none, adapter) => { t with adapter }
  | .error _ => t

/-- Gives several datagrams to the adapter. -/
def run (t : AdapterRun) (dgrams : List IPv4Datagram) : AdapterRun := dgrams.foldl step t

variable {t : AdapterRun} {dgrams : List IPv4Datagram} {peers : Endpoints}

/-- A call that is ignored leaves everything as it was. -/
theorem step_ignored {dgram : IPv4Datagram}
    (ignored : Ignored t.adapter (t.adapter.unwrapTcpInIp dgram)) : t.step dgram = t := by
  rw [step]
  -- The step only looks at what the call has returned.
  generalize t.adapter.unwrapTcpInIp dgram = outcome at ignored
  cases ignored with
  | quiet => rfl
  | thrown exception => rfl

/-- A listening adapter ignores datagrams that do not open a connection, however many. -/
theorem run_not_opening (listening : t.adapter.listen = true)
    (others : ∀ dgram ∈ dgrams, opening t.adapter.cfg.source.port dgram = none) :
    t.run dgrams = t := by
  -- Induction on the datagrams, each of which leaves the adapter listening.
  induction dgrams with
  | nil => rfl
  | cons dgram dgrams ih =>
    obtain ⟨first, rest⟩ := List.forall_mem_cons.mp others
    rw [run, List.foldl_cons, step_ignored (unwrap_not_opening listening first)]
    exact ih rest

/-- The adapter is bound, and what it returned so far lies between its two ends. -/
structure Bound (peers : Endpoints) (t : AdapterRun) : Prop where
  /-- The adapter no longer listens. -/
  connected : t.adapter.listen = false
  /-- The configuration is that of the two ends. -/
  ends : t.adapter.ends = mirrored peers
  /-- Every segment returned has the same ends. -/
  returned : ∀ entry ∈ t.returned, endpoints entry.1 entry.2 = peers

/-- A bound adapter stays bound. -/
theorem Bound.step (bound : t.Bound peers) (dgram : IPv4Datagram) :
    (t.step dgram).Bound peers ∧ t.returned <+: (t.step dgram).returned := by
  -- A datagram of anyone else is ignored, and one of the peer is returned.
  rcases unwrap_bound bound.connected with ignored | ⟨seg, unwrapped, same⟩
  · rw [step_ignored ignored]
    exact ⟨bound, List.prefix_refl _⟩
  · rw [AdapterRun.step, unwrapped]
    refine ⟨⟨bound.connected, bound.ends, ?_⟩, List.prefix_append _ _⟩
    rw [List.forall_mem_append, List.forall_mem_singleton]
    refine ⟨bound.returned, same.trans ?_⟩
    rw [bound.ends]
    rfl

/-- A bound adapter stays bound, whatever it is given. -/
theorem Bound.run (bound : t.Bound peers) :
    (t.run dgrams).Bound peers ∧ t.returned <+: (t.run dgrams).returned := by
  -- Induction on the datagrams, from any state that is bound to these ends.
  induction dgrams generalizing t with
  | nil => exact ⟨bound, List.prefix_refl _⟩
  | cons dgram dgrams ih =>
    obtain ⟨still, first⟩ := bound.step dgram
    obtain ⟨last, rest⟩ := ih still
    exact ⟨last, first.trans rest⟩

/-- Until a datagram opens a connection, a listening adapter returns nothing and stays as it is.
From then on it is bound to the ends of that connection: everything it returns in the whole run has
the same ends, and everything it wraps goes from and to the mirrored ones. -/
theorem binds_to_first (adapter : TCPOverIPv4Adapter) (listening : adapter.listen = true)
    (before : List IPv4Datagram)
    (others : ∀ dgram ∈ before, opening adapter.cfg.source.port dgram = none) :
    run ⟨adapter, []⟩ before = ⟨adapter, []⟩ ∧
    ∀ first seg, opening adapter.cfg.source.port first = some seg →
      ∀ after, let last := run ⟨adapter, []⟩ (before ++ first :: after)
        [(first, seg)] <+: last.returned ∧
        (∀ entry ∈ last.returned, endpoints entry.1 entry.2 = endpoints first seg) ∧
        last.adapter.listen = false ∧
        -- Every segment with room for its header is wrapped, and goes back to that peer.
        (∀ wrapped : TCPSegment, 5 ≤ wrapped.header.doff.toNat →
          ∃ out, (last.adapter.wrapTcpInIp wrapped).2 = .ok out) ∧
        ∀ wrapped out, (last.adapter.wrapTcpInIp wrapped).2 = .ok out →
          endpoints out (last.adapter.wrapTcpInIp wrapped).1 = mirrored (endpoints first seg) ∧
          (last.adapter.wrapTcpInIp wrapped).1.serialize out.header.pseudoCksum =
            .ok out.payload := by
  have quiet : run ⟨adapter, []⟩ before = ⟨adapter, []⟩ := run_not_opening listening others
  refine ⟨quiet, fun first seg opens after => ?_⟩
  -- The run is quiet up to the first SYN, which binds the adapter for the rest of it.
  obtain ⟨opened, unwrapped, connected, towards⟩ := unwrap_opening listening opens
  have bind : step ⟨adapter, []⟩ first = ⟨opened, [(first, seg)]⟩ := by
    -- The opening segment is the first to be returned.
    rw [step, unwrapped]
    rfl
  have bound : Bound (endpoints first seg) ⟨opened, [(first, seg)]⟩ :=
    ⟨connected, towards, List.forall_mem_singleton.mpr rfl⟩
  have whole : run ⟨adapter, []⟩ (before ++ first :: after) =
      run ⟨opened, [(first, seg)]⟩ after := by
    rw [run, List.foldl_append, List.foldl_cons, show before.foldl step _ = _ from quiet, bind, run]
  rw [whole]
  obtain ⟨last, leads⟩ := Bound.run bound
  refine ⟨leads, last.returned, last.connected,
    fun wrapped room => ⟨_, TCPOverIPv4Adapter.wrapTcpInIp_ok room⟩, fun wrapped out made => ?_⟩
  -- What is wrapped has the ends of the bound adapter.
  have ends := wrap_endpoints made
  rwa [last.ends] at ends

/-- A SYN from 10.0.0.1, port 4000, to 10.0.0.2, port 80. -/
def synDgram : IPv4Datagram :=
  ⟨{ len := 40, src := 0x0a000001, dst := 0x0a000002 }, .ofBuffer
    [0x0f, 0xa0, 0, 80, 0, 0, 0, 0, 0, 0, 0, 0, 0x50, 2, 0, 0, 0x8b, 0xf0, 0, 0]⟩

/-- A datagram without payload. -/
def emptyDgram : IPv4Datagram := ⟨{ len := 20 }, {}⟩

/-- An adapter listening on port 80 ignores an empty payload, and is bound by the SYN after it. -/
theorem binds_to_first_syn :
    let adapter : TCPOverIPv4Adapter := ⟨{ source := ⟨0, 80⟩ }, true⟩
    ∃ seg, opening 80 synDgram = some seg ∧
      [(synDgram, seg)] <+:
        (run ⟨adapter, []⟩ ([emptyDgram] ++ synDgram :: [emptyDgram])).returned := by
  intro adapter
  have others : ∀ dgram ∈ [emptyDgram], opening 80 dgram = none :=
    -- The two datagrams are evaluated, and the run follows from the theorem.
    List.forall_mem_singleton.mpr (by decide +kernel)
  obtain ⟨seg, opens⟩ := Option.isSome_iff_exists.mp
    (show (opening 80 synDgram).isSome = true by decide +kernel)
  have bound := (binds_to_first adapter rfl [emptyDgram] others).2 synDgram seg opens [emptyDgram]
  exact ⟨seg, opens, bound.1⟩

end AdapterRun

end Sponge
