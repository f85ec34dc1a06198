import Sponge.Tcp.ConnectionRuns

/-! How long a connection lingers in TIME_WAIT, by the two clocks that it keeps. -/

namespace Sponge

namespace TCPConnection

variable {c c' : TCPConnection}

/-- The connection is in TIME_WAIT. -/
abbrev InTimeWait (c : TCPConnection) : Prop := c.state = .ofState .timeWait

/-- Time that passes for the sender does not change the state. -/
theorem ticked_state (c : TCPConnection) (ms : Nat) : (c.ticked ms).state = c.state := by
  obtain ⟨again, timePassed, rto, recount, ticks, _⟩ := c.sender.tick_eq ms
  rw [ticked, ticks]
  rfl

/-- The configuration and the two clocks of a connection. -/
def clocks (c : TCPConnection) : TCPConfig × Nat × Nat :=
  (c.cfg, c.timeSinceLastSegmentReceived, c.sinceTimeWait)

/-- Connecting leaves the clocks. -/
theorem connect_clocks (connected : c.connect = .ok c') : c'.clocks = c.clocks := by
  obtain ⟨s, _, rfl⟩ := connect_ok.mp connected
  rfl

/-- A received segment restarts one clock and leaves the other. -/
theorem segmentReceived_clocks {seg : TCPSegment} (received : c.segmentReceived seg = .ok c') :
    c'.clocks = (c.cfg, 0, c.sinceTimeWait) := by
  rcases segmentReceived_ok.mp received with ⟨_, _, rfl⟩ | ⟨_, _, rfl⟩ | ⟨_, _, handled⟩
  · -- The two segments that are not handled are noted as well.
    rfl
  · rfl
  · -- Handling a segment leaves the clocks.
    obtain ⟨r, acked, opened, parts⟩ := handle_ok.mp handled
    obtain ⟨queue, rfl⟩ := parts.frame
    rfl

/-- Time counts for one clock always, and for the other in TIME_WAIT. -/
theorem tick_clocks (c : TCPConnection) (ms : Nat) :
    (c.tick ms).clocks = (c.cfg, add64 c.timeSinceLastSegmentReceived ms,
      if c.InTimeWait then add64 c.sinceTimeWait ms else c.sinceTimeWait) := by
  rw [tick, ticked_state]
  split
  · -- The wait is counted, whether or not it ends now.
    rw [tickTimeWait]
    split <;> rfl
  · -- Giving up and going on count the same clock.
    split <;> rfl

/-- Only the end of the wait makes a connection in TIME_WAIT inactive. -/
theorem wait_of_tick_closes {ms : Nat} (waits : c.InTimeWait) (closes : (c.tick ms).active = false) :
    10 * c.cfg.rtTimeout.toNat ≤ (c.tick ms).sinceTimeWait := by
  have active : c.active = true := congrArg TCPState.active waits
  rw [tick, ticked_state, if_pos waits, tickTimeWait] at closes ⊢
  -- The wait has lasted long enough, or the connection is still active.
  split at closes
  · rename_i elapsed
    rw [if_pos elapsed]
    exact elapsed
  · exact absurd closes (by simp [ticked, active])

end TCPConnection

namespace ConnectionRun

variable {t next : ConnectionRun} {call : ConnectionCall}

/-- A call does not pull the two clocks apart: no segment comes once time was spent in TIME_WAIT,
and where the clock of segments wraps, the other one is at zero or wraps with it. -/
def KeepsClocks (t : ConnectionRun) : ConnectionCall → Prop
  | .segment _ => t.connection.sinceTimeWait = 0
  | .tick ms =>
    t.connection.timeSinceLastSegmentReceived + ms < 2 ^ 64 ∨
      t.connection.sinceTimeWait =
        if t.connection.InTimeWait then t.connection.timeSinceLastSegmentReceived else 0
  | _ => True

instance (t : ConnectionRun) : DecidablePred t.KeepsClocks
  | .segment _ => inferInstanceAs (Decidable (_ = _))
  | .tick _ => inferInstanceAs (Decidable (_ ∨ _))
  | .connect => .isTrue trivial
  | .write _ => .isTrue trivial
  | .endInputStream => .isTrue trivial
  | .reader _ => .isTrue trivial

/-- The time spent in TIME_WAIT is no longer than the time since the last segment. -/
structure Waiting (cfg : TCPConfig) (t : ConnectionRun) : Prop where
  /-- The configuration is the original one. -/
  configured : t.connection.cfg = cfg
  /-- One clock never runs ahead of the other. -/
  behind : t.connection.sinceTimeWait ≤ t.connection.timeSinceLastSegmentReceived

/-- Every call that does not pull the clocks apart keeps one behind the other. -/
theorem Waiting.step {cfg : TCPConfig} (waiting : Waiting cfg t) (keeps : t.KeepsClocks call)
    (steps : t.step call = .ok next) : Waiting cfg next := by
  obtain ⟨configured, behind⟩ := waiting
  obtain ⟨c, performed, rfl⟩ := step_ok.mp steps
  -- The owner's taking of the queue leaves the clocks of the connection.
  have of_clocks : c.clocks = t.connection.clocks → Waiting cfg (t.after call c) := by
    intro same
    simp only [TCPConnection.clocks, Prod.mk.injEq] at same
    obtain ⟨config, since, waited⟩ := same
    refine ⟨config.trans configured, ?_⟩
    show c.sinceTimeWait ≤ c.timeSinceLastSegmentReceived
    rw [waited, since]
    exact behind
  cases call with
  | connect => exact of_clocks (TCPConnection.connect_clocks performed)
  | write data =>
    have kept := TCPConnection.connect_clocks (TCPConnection.perform_write.mp performed)
    exact of_clocks kept
  | endInputStream =>
    rw [TCPConnection.perform, TCPConnection.endInputStream_eq] at performed
    have kept := TCPConnection.connect_clocks performed
    exact of_clocks kept
  | reader call =>
    obtain ⟨served, _, rfl⟩ := TCPConnection.perform_reader.mp performed
    exact of_clocks rfl
  | segment seg =>
    -- The segment restarts the clock, so the wait must not have begun.
    have clocks := TCPConnection.segmentReceived_clocks performed
    simp only [TCPConnection.clocks, Prod.mk.injEq] at clocks
    obtain ⟨config, since, waited⟩ := clocks
    refine ⟨config.trans configured, ?_⟩
    show c.sinceTimeWait ≤ c.timeSinceLastSegmentReceived
    rw [waited, since]
    exact Nat.le_of_eq keeps
  | tick ms =>
    -- Both clocks go on together, unless one of them wraps.
    rw [TCPConnection.perform, Except.ok.injEq] at performed
    have clocks := t.connection.tick_clocks ms
    rw [performed] at clocks
    simp only [TCPConnection.clocks, Prod.mk.injEq] at clocks
    obtain ⟨config, since, waited⟩ := clocks
    refine ⟨config.trans configured, ?_⟩
    show c.sinceTimeWait ≤ c.timeSinceLastSegmentReceived
    rw [waited, since]
    rcases keeps with fits | agree
    · -- The clock does not wrap, so neither does the smaller one.
      rw [add64_of_lt fits]
      split
      · rw [add64_of_lt (by omega)]
        omega
      · omega
    · -- The clocks agree, so they wrap together.
      rw [agree]
      split
      · exact Nat.le_refl _
      · exact Nat.zero_le _

/-- A tick that ends TIME_WAIT comes ten timeouts or more after the last segment, in every run that
does not pull the two clocks apart. -/
theorem lingers_since_last_segment (cfg : TCPConfig) (isn : WrappingInt32)
    (calls : List ConnectionCall) (ms : Nat) (t next : ConnectionRun)
    (keeps : Throughout step KeepsClocks (start cfg isn) (calls ++ [.tick ms]))
    (returned : runCalls step (start cfg isn) calls = .ok t)
    (ticks : t.step (.tick ms) = .ok next) (waits : t.connection.InTimeWait)
    (closes : next.connection.active = false) :
    10 * cfg.rtTimeout.toNat ≤ next.connection.timeSinceLastSegmentReceived := by
  have last : runCalls step (start cfg isn) (calls ++ [.tick ms]) = .ok next :=
    runCalls_append_ok.mpr ⟨t, returned, runCalls_cons_ok.mpr ⟨next, ticks, runCalls_nil step _⟩⟩
  -- The wait is never ahead of the clock since the last segment.
  have waiting := keeps.invariant (Waiting cfg) (fun _ _ _ held keeps steps => held.step keeps steps)
    ⟨rfl, Nat.le_refl _⟩ last
  obtain ⟨c, performed, rfl⟩ := step_ok.mp ticks
  rw [TCPConnection.perform, Except.ok.injEq] at performed
  subst performed
  -- The tick that closes has found the wait long enough.
  have elapsed := TCPConnection.wait_of_tick_closes waits closes
  have configured : t.connection.cfg = cfg := by
    have clocks := t.connection.tick_clocks ms
    simp only [TCPConnection.clocks, Prod.mk.injEq] at clocks
    rw [← clocks.1]
    exact waiting.configured
  rw [configured] at elapsed
  exact elapsed.trans waiting.behind

/-- An endpoint that closes first and has received the FIN of its peer. -/
def closedFirst : List ConnectionCall :=
  [.connect,
    .segment { header := { seqno := ⟨9⟩, syn := true, ack := true, ackno := ⟨1⟩, win := 100 } },
    .endInputStream,
    .segment { header := { seqno := ⟨10⟩, ack := true, ackno := ⟨2⟩, win := 100 } },
    .tick 5,
    .segment { header := { seqno := ⟨10⟩, fin := true, ack := true, ackno := ⟨2⟩, win := 100 } }]

/-- An undisturbed wait lasts ten timeouts from the FIN on. -/
theorem lingers_since_last_segment_undisturbed :
    ∃ t next, runCalls step (start {} ⟨0⟩) (closedFirst ++ [.tick 4000]) = .ok t ∧
      t.step (.tick 6000) = .ok next ∧ t.connection.InTimeWait ∧
      next.connection.active = false ∧
      10 * ({} : TCPConfig).rtTimeout.toNat ≤ next.connection.timeSinceLastSegmentReceived := by
  -- The run is evaluated up to the tick that closes.
  have ran : ∃ t, runCalls step (start {} ⟨0⟩) (closedFirst ++ [.tick 4000]) = .ok t ∧
      t.connection.InTimeWait ∧ (t.connection.tick 6000).active = false :=
    exists_runCalls (by decide +kernel)
  obtain ⟨t, returned, waits, closes⟩ := ran
  exact ⟨t, _, returned, rfl, waits, closes, lingers_since_last_segment {} ⟨0⟩ _ 6000 t _
    (by decide +kernel) returned rfl waits closes⟩

/-- A FIN that is received again in TIME_WAIT does not restart the wait. -/
theorem fin_in_time_wait_ignored :
    ∃ t, runCalls step (start {} ⟨0⟩) (closedFirst ++ [.tick 9990, .segment
        { header := { seqno := ⟨10⟩, fin := true, ack := true, ackno := ⟨2⟩, win := 100 } }]) =
        .ok t ∧
      t.connection.InTimeWait ∧ t.connection.timeSinceLastSegmentReceived = 0 ∧
      (t.connection.tick 10).active = false ∧
      (t.connection.tick 10).timeSinceLastSegmentReceived = 10 :=
  exists_runCalls (by decide +kernel)

end ConnectionRun

end Sponge
