import Sponge.Tcp.EndToEnd
import Sponge.Tcp.Lifecycle

/-! A connection that is no longer active has failed, or both of its streams are complete for ever. -/

namespace Sponge

namespace Endpoint

variable {x x' : Endpoint} {arriving : List TCPSegment} {call : EndpointCall}

/-- A call on an endpoint is one on its connection, or touches only what waits to be sent. -/
theorem step_performs (stepped : x.step arriving call = .ok x') :
    (∃ out, x'.connection = { x.connection with segmentsOut := out }) ∨
      ∃ performed, x.connection.perform performed = .ok x'.connection ∧
        ∀ ms, performed = .tick ms → call = .tick ms := by
  cases call with
  | connect =>
    -- The calls of the owner are calls on the connection.
    obtain ⟨c, connected, done⟩ := bind_eq_ok.mp stepped
    cases Except.ok.inj done
    exact .inr ⟨.connect, connected, nofun⟩
  | write data =>
    obtain ⟨⟨c, count⟩, written, done⟩ := bind_eq_ok.mp stepped
    cases Except.ok.inj done
    refine .inr ⟨.write data, ?_, nofun⟩
    unfold TCPConnection.perform
    dsimp only
    rw [written]
    rfl
  | endInputStream =>
    obtain ⟨c, ended, done⟩ := bind_eq_ok.mp stepped
    cases Except.ok.inj done
    exact .inr ⟨.endInputStream, ended, nofun⟩
  | tick ms =>
    cases Except.ok.inj stepped
    refine .inr ⟨.tick ms, rfl, ?_⟩
    intro ms' same
    cases same
    rfl
  | reader call =>
    obtain ⟨⟨bytes, output⟩, served, done⟩ := bind_eq_ok.mp stepped
    cases Except.ok.inj done
    exact .inr ⟨.reader call, TCPConnection.perform_reader.mpr ⟨_, served, rfl⟩, nofun⟩
  | transmit =>
    -- The oldest waiting segment leaves the queue, if there is one.
    cases Except.ok.inj stepped
    unfold transmitted
    split
    · exact .inl ⟨_, rfl⟩
    · exact .inl ⟨_, rfl⟩
  | deliver position =>
    unfold Endpoint.step at stepped
    dsimp only at stepped
    split at stepped
    · -- There is nothing to deliver at this position.
      cases Except.ok.inj stepped
      exact .inl ⟨_, rfl⟩
    · -- The segment is received by the connection.
      rename_i seg found
      obtain ⟨c, received, done⟩ := bind_eq_ok.mp stepped
      cases Except.ok.inj done
      exact .inr ⟨.segment seg, received, nofun⟩

/-- No call on an endpoint takes anything back. -/
theorem step_ages (stepped : x.step arriving call = .ok x') :
    x.connection.Ages x'.connection := by
  -- The queue is no part of what ages.
  rcases step_performs stepped with ⟨out, same⟩ | ⟨performed, performs, -⟩
  · rw [same]
    exact ⟨.inr ⟨rfl, rfl⟩, id, id, id, id, id⟩
  · exact .perform performed performs

/-- A call that ends the life of a connection is a tick, or sets the error of its streams. -/
theorem step_closes (stepped : x.step arriving call = .ok x') (alive : x.connection.active = true)
    (dead : x'.connection.active = false) :
    x'.connection.inboundStream.error = true ∨ ∃ ms, call = .tick ms := by
  rcases step_performs stepped with ⟨out, same⟩ | ⟨performed, performs, ticks⟩
  · -- A transmission leaves the connection alive.
    rw [same] at dead
    cases dead.symm.trans alive
  · -- A call on the connection ends its life with an error, or is a tick.
    rcases TCPConnection.perform_closes performs alive dead with failed | ⟨ms, is⟩
    · exact .inl failed
    · exact .inr ⟨ms, ticks ms is⟩

end Endpoint

/-- A connection that is no longer active has failed, or both streams have ended. -/
structure Concluded (x y : Endpoint) : Prop where
  /-- The streams of the connection have failed together. -/
  together : x.connection.sender.stream.error = x.connection.inboundStream.error
  /-- Otherwise the life of the connection ends with both streams. -/
  dead : x.connection.active = false → x.connection.inboundStream.error = true ∨
    (x.connection.inboundStream.inputEnded = true ∧
      y.connection.inboundStream.inputEnded = true)

namespace Concluded

variable {x x' y : Endpoint} {sent received : List TCPSegment} {call : EndpointCall}

/-- A call on the endpoint keeps it concluded. -/
theorem step (concluded : Concluded x y) (coupled : Coupled x y sent received)
    (legal : x.Legal y call) (stepped : x.step y.sent call = .ok x') : Concluded x' y := by
  have ages := Endpoint.step_ages stepped
  have together : x'.connection.sender.stream.error = x'.connection.inboundStream.error := by
    -- The errors of both streams are set at once, or kept.
    rcases ages.error with ⟨out, inn, -⟩ | ⟨out, inn⟩
    · rw [out, inn]
    · rw [out, inn]
      exact concluded.together
  refine ⟨together, ?_⟩
  intro dead
  cases alive : x.connection.active with
  | false =>
    -- It was dead before, and what ended then has ended for ever.
    rcases concluded.dead alive with failed | ⟨here, there⟩
    · rcases ages.error with ⟨-, inn, -⟩ | ⟨-, inn⟩
      · exact .inl inn
      · exact .inl (inn.trans failed)
    · exact .inr ⟨ages.ended here, there⟩
  | true =>
    cases clean : x'.connection.inboundStream.error with
    -- It has failed just now.
    | true => exact .inl rfl
    | false =>
      -- Without an error only a tick can end it, which then finds both streams complete.
      rcases Endpoint.step_closes stepped alive dead with failed | ⟨ms, rfl⟩
      · cases clean.symm.trans failed
      · obtain ⟨next, emitted, again, coupled⟩ := coupled.step legal
        cases Except.ok.inj (stepped.symm.trans again)
        cases Except.ok.inj stepped
        obtain ⟨ended, eof, next, quiet⟩ :=
          TCPConnection.finished_of_tick alive dead (together.trans clean)
        exact .inr ⟨ended, (coupled.complete ended eof next quiet).outbound.1⟩

/-- A call on the other endpoint keeps this one concluded. -/
theorem other (concluded : Concluded x y) {y' : Endpoint} {arriving : List TCPSegment}
    (stepped : y.step arriving call = .ok y') : Concluded x y' := by
  refine ⟨concluded.together, ?_⟩
  intro dead
  -- The other endpoint's stream has ended, and it stays so.
  rcases concluded.dead dead with failed | ⟨here, there⟩
  · exact .inl failed
  · exact .inr ⟨here, (Endpoint.step_ages stepped).ended there⟩

/-- A connection that ended without an error has delivered everything, in both directions. -/
theorem complete (concluded : Concluded x y) (coupled : Coupled x y sent received)
    (dead : x.connection.active = false) (clean : x.connection.inboundStream.error = false) :
    (x.connection.inboundStream.inputEnded = true ∧ x.delivered = y.accepted ∧ y.closed = true) ∧
      y.connection.inboundStream.inputEnded = true ∧ y.delivered = x.accepted ∧
        x.closed = true := by
  rcases concluded.dead dead with failed | ⟨here, there⟩
  · cases clean.symm.trans failed
  · exact ⟨⟨here, coupled.symm.delivered.2 here⟩, there, coupled.delivered.2 there⟩

end Concluded

namespace System

variable {sys : System}

/-- The endpoints are coupled, and each is concluded. -/
structure Settled (sys : System) : Prop where
  /-- They are coupled. -/
  linked : sys.Linked
  /-- A connection that ended did so with both streams, or with an error. -/
  concluded : ∀ side, Concluded (sys.side side) (sys.side side.other)

/-- Two fresh endpoints are settled. -/
theorem settled_start {cfgA cfgB : TCPConfig} (isnA isnB : WrappingInt32)
    (roomA : cfgA.sendCapacity + cfgB.recvCapacity < 2 ^ 31 - 2)
    (roomB : cfgB.sendCapacity + cfgA.recvCapacity < 2 ^ 31 - 2) :
    (start cfgA cfgB isnA isnB).Settled := by
  refine ⟨⟨[], [], .new roomA roomB isnA isnB⟩, ?_⟩
  have fresh : ∀ cfg isn y, Concluded { connection := .new cfg isn } y := by
    -- A new connection is alive, and without errors.
    intro cfg isn y
    have outbound : (TCPConnection.new cfg isn).sender.stream.error = false := rfl
    have inbound : (TCPConnection.new cfg isn).inboundStream.error = false := rfl
    exact ⟨outbound.trans inbound.symm, nofun⟩
  intro side
  cases side with
  | a => exact fresh cfgA isnA _
  | b => exact fresh cfgB isnB _

/-- Every legal call returns and keeps the system settled. -/
theorem Settled.step (settled : sys.Settled) {call : Side × EndpointCall}
    (legal : sys.Legal call) : ∃ next, sys.step call = .ok next ∧ next.Settled := by
  obtain ⟨side, call⟩ := call
  -- The two endpoints are coupled, so the call returns.
  obtain ⟨sent, received, coupled⟩ := settled.linked.side side
  obtain ⟨x, emitted, stepped, after⟩ := coupled.step legal
  refine ⟨sys.put x side, ?_, linked_put after, ?_⟩
  · unfold System.step
    rw [stepped, ok_bind, pure_eq_ok]
  · -- The endpoint of the call is concluded by its step, and the other one by its peer's.
    have here := (settled.concluded side).step coupled legal stepped
    have there := settled.concluded side.other
    intro viewed
    cases side with
    | a =>
      cases viewed with
      | a => exact here
      | b => exact there.other stepped
    | b =>
      cases viewed with
      | a => exact there.other stepped
      | b => exact here

end System

end Sponge
