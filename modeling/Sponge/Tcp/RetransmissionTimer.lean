import Sponge.Tcp.FillProgress

/-! The retransmission timer of a sender against a clock that is restarted when it should be. -/

namespace Sponge

/-- A run of a sender beside a clock. -/
structure ClockedRun where
  /-- The run. -/
  run : SenderRun
  /-- The milliseconds ticked since the timer was last started or restarted. -/
  elapsed : Nat := 0
deriving DecidableEq, Repr

namespace ClockedRun

/-- A fresh sender, with its clock at zero. -/
def start (capacity : Nat) (retxTimeout : UInt16) (isn : WrappingInt32) : ClockedRun :=
  { run := .start capacity retxTimeout isn }

/-- What the clock shows after a call that leaves the sender in a new state. -/
def elapsedAfter (t : ClockedRun) (sender : TCPSender) : SenderCall → Nat
  -- Sending restarts the clock when nothing was outstanding.
  | .fillWindow =>
    if t.run.sender.outstandings = [] ∧ sender.outstandings ≠ [] then 0 else t.elapsed
  -- So does an acknowledgment that removes a segment and leaves others.
  | .ack _ _ =>
    if sender.outstandings.length < t.run.sender.outstandings.length ∧ sender.outstandings ≠ []
    then 0 else t.elapsed
  -- So does a retransmission, and otherwise the time passes.
  | .tick ms =>
    if t.run.sender.segmentsOut.length < sender.segmentsOut.length then 0 else t.elapsed + ms
  | _ => t.elapsed

/-- Performs one call and keeps the clock. -/
def step (t : ClockedRun) (call : SenderCall) : Except Fault ClockedRun := do
  let run ← t.run.step call
  return ⟨run, t.elapsedAfter run.sender call⟩

/-- A tick sends the oldest outstanding segment again when the clock reaches the timeout, and
nothing otherwise. -/
def TicksRightly (t : ClockedRun) (ms : Nat) : Prop :=
  (t.run.sender.tick ms).segmentsOut = t.run.sender.segmentsOut ++
    match t.run.sender.outstandings with
    | [] => []
    | oldest :: _ => if t.run.sender.rto ≤ t.elapsed + ms then [oldest] else []

instance (t : ClockedRun) (ms : Nat) : Decidable (t.TicksRightly ms) :=
  inferInstanceAs (Decidable (_ = _))

/-- The timer starts from zero when a segment is sent while none is outstanding, and the time that
it adds up fits its type. -/
def Prompt (t : ClockedRun) : SenderCall → Prop
  | .fillWindow => t.run.sender.outstandings = [] →
    t.run.sender.Probes ∨ t.run.sender.windowFilled = false → t.run.sender.timePassed = 0
  | .tick ms => t.run.sender.outstandings ≠ [] → t.run.sender.timePassed + ms < 2 ^ 64
  | _ => True

instance (t : ClockedRun) : DecidablePred t.Prompt
  | .write _ => .isTrue trivial
  | .ack _ _ => .isTrue trivial
  | .endInput => .isTrue trivial
  | .fillWindow => inferInstanceAs (Decidable (_ → _ → _))
  | .tick _ => inferInstanceAs (Decidable (_ → _))
  | .collect => .isTrue trivial

/-- While something is outstanding, the timer shows what the clock shows. -/
def Clocked (t : ClockedRun) : Prop :=
  t.run.sender.outstandings ≠ [] → t.run.sender.timePassed = t.elapsed

end ClockedRun

namespace TCPSender

variable {s s' : TCPSender}

/-- What a tick does to the outbound queue and the timer while something is outstanding. -/
theorem tick_running {oldest : TCPSegment} {rest : List TCPSegment}
    (running : s.outstandings = oldest :: rest) (ms : Nat) :
    (s.tick ms).segmentsOut = s.segmentsOut ++
        (if s.rto ≤ add64 ms s.timePassed then [oldest] else []) ∧
      (s.tick ms).timePassed =
        (if s.rto ≤ add64 ms s.timePassed then 0 else add64 ms s.timePassed) := by
  by_cases due : s.rto ≤ add64 ms s.timePassed
  · -- The timeout is reached, so the oldest segment goes out and the timer starts again.
    rw [tick_due running due, if_pos due, if_pos due]
    exact ⟨rfl, rfl⟩
  · -- The time is only added.
    rw [tick_early (by simp [running]) (by omega), if_neg due, if_neg due, List.append_nil]
    exact ⟨rfl, rfl⟩

/-- Filling the window emits nothing when no probe is due and the window counts as filled. -/
theorem fillWindow_quiet (quiet : ¬ s.Probes) (filled : s.windowFilled = true) :
    s.fillWindow = .ok s := by
  rw [fillWindow_of_not_probes quiet, fillLoop, if_pos filled]

end TCPSender

namespace ClockedRun

variable {t next : ClockedRun} {call : SenderCall}

/-- Sending from an idle sender with a timer at zero keeps it on the clock. -/
theorem Clocked.fillWindow (clocked : t.Clocked) (prompt : t.Prompt .fillWindow)
    (steps : t.step .fillWindow = .ok next) : next.Clocked := by
  simp only [step, SenderRun.step, bind_eq_ok, pure_eq_ok, Except.ok.injEq] at steps
  obtain ⟨run, ⟨sender, filled, rfl⟩, rfl⟩ := steps
  have frame := TCPSender.Filled.of_fillWindow filled
  intro running
  dsimp only [elapsedAfter] at running ⊢
  rw [frame.timePassed]
  by_cases idle : t.run.sender.outstandings = []
  · rw [if_pos ⟨idle, running⟩]
    -- Something was sent, so a probe was due or the window was not filled.
    refine prompt idle ?_
    by_contra nothing
    obtain ⟨quiet, full⟩ := not_or.mp nothing
    rw [TCPSender.fillWindow_quiet quiet (by simpa using full), Except.ok.injEq] at filled
    exact running (filled ▸ idle)
  · -- The timer runs already.
    rw [if_neg fun both => idle both.1]
    exact clocked idle

/-- An acknowledgment sets the timer back exactly when it restarts the clock. -/
theorem Clocked.ack (clocked : t.Clocked) {ackno : WrappingInt32} {windowSize : UInt16}
    (steps : t.step (.ack ackno windowSize) = .ok next) : next.Clocked := by
  simp only [step, SenderRun.step, bind_eq_ok, pure_eq_ok, Except.ok.injEq] at steps
  obtain ⟨run, ⟨sender, received, ackabs, _, rfl⟩, rfl⟩ := steps
  obtain ⟨_, _, cases⟩ := TCPSender.ackReceived_cases received
  intro running
  rcases cases with ⟨_, rfl⟩ | ⟨_, kept, inFlights, suffix, rfl⟩
  · -- An ignored acknowledgment changes neither the queue nor the timer.
    dsimp only [elapsedAfter, SenderRun.noteAck] at running ⊢
    rw [if_neg fun both => Nat.lt_irrefl _ both.1]
    exact clocked running
  · have left : kept ≠ [] := running
    -- What is left was outstanding before.
    have before : t.run.sender.outstandings ≠ [] := by
      intro none
      rw [none, List.suffix_nil] at suffix
      exact left suffix
    have some := List.length_pos_iff.mpr left
    dsimp only [elapsedAfter, SenderRun.noteAck, TCPSender.afterDrop]
    -- The code restarts the timer exactly if something was removed and something is left.
    by_cases removed : kept.length < t.run.sender.outstandings.length
    · -- The timer and the clock start again.
      rw [if_pos (by simp [removed, some]), if_pos ⟨removed, left⟩]
    · -- Both go on.
      rw [if_neg (by simp [removed]), if_neg fun both => removed both.1]
      exact clocked before

/-- A tick that fits adds its time, or sets the timer back with the retransmission. -/
theorem Clocked.tick (clocked : t.Clocked) {ms : Nat} (prompt : t.Prompt (.tick ms))
    (steps : t.step (.tick ms) = .ok next) : next.Clocked := by
  simp only [step, SenderRun.step, ok_bind, pure_eq_ok, Except.ok.injEq] at steps
  subst steps
  intro running
  dsimp only [elapsedAfter] at running ⊢
  cases queue : t.run.sender.outstandings with
  | nil =>
    -- Nothing is outstanding, and a tick sends nothing new.
    rw [TCPSender.tick_idle queue] at running
    exact absurd queue running
  | cons oldest rest =>
    have before : t.run.sender.outstandings ≠ [] := by simp [queue]
    obtain ⟨out, timePassed⟩ := TCPSender.tick_running queue ms
    -- The sum does not wrap around, so the timer agrees with the clock.
    have fits := prompt before
    rw [out, timePassed, List.length_append, add64_of_lt (by omega), clocked before]
    split
    · -- The segment is sent again.
      simp
    · -- The timeout is not reached yet.
      simp [Nat.add_comm]

/-- Every prompt call keeps the timer on the clock. -/
theorem Clocked.step (clocked : t.Clocked) (prompt : t.Prompt call)
    (steps : t.step call = .ok next) : next.Clocked := by
  cases call with
  | fillWindow => exact clocked.fillWindow prompt steps
  | ack ackno windowSize => exact clocked.ack steps
  | tick ms => exact clocked.tick prompt steps
  -- The other calls touch neither the queue nor the timer.
  | write data =>
    simp only [ClockedRun.step, SenderRun.step, ok_bind, pure_eq_ok, Except.ok.injEq] at steps
    subst steps
    exact clocked
  | endInput =>
    simp only [ClockedRun.step, SenderRun.step, ok_bind, pure_eq_ok, Except.ok.injEq] at steps
    subst steps
    exact clocked
  | collect =>
    simp only [ClockedRun.step, SenderRun.step, ok_bind, pure_eq_ok, Except.ok.injEq] at steps
    subst steps
    exact clocked

/-- In every run of prompt calls, a tick sends the oldest outstanding segment again exactly when
the clock reaches the timeout. -/
theorem ticks_rightly (capacity : Nat) (retxTimeout : UInt16) (isn : WrappingInt32)
    (calls : List SenderCall) (t : ClockedRun) (ms : Nat)
    (prompt : Throughout step Prompt (start capacity retxTimeout isn) calls)
    (returned : runCalls step (start capacity retxTimeout isn) calls = .ok t)
    (fits : t.Prompt (.tick ms)) : t.TicksRightly ms := by
  have clocked : t.Clocked := prompt.invariant Clocked (fun _ _ _ held prompt => held.step prompt)
    (fun _ => rfl) returned
  rw [TicksRightly]
  -- The timer and the clock agree while something is outstanding.
  cases queue : t.run.sender.outstandings with
  | nil => rw [TCPSender.tick_idle queue, List.append_nil]
  | cons oldest rest =>
    have running : t.run.sender.outstandings ≠ [] := by simp [queue]
    have word := fits running
    rw [(TCPSender.tick_running queue ms).1, add64_of_lt (by omega), Nat.add_comm, clocked running]

/-- The SYN is sent again after its timeout, and so is it once more after twice that time. -/
theorem ticks_rightly_syn :
    ∃ t, runCalls step (start 10 100 ⟨0⟩) [.fillWindow, .tick 99, .tick 1, .tick 150] = .ok t ∧
      t.TicksRightly 50 := by
  -- The run is evaluated up to the tick in question.
  obtain ⟨t, returned, fits⟩ : ∃ t, runCalls step (start 10 100 ⟨0⟩)
      [.fillWindow, .tick 99, .tick 1, .tick 150] = .ok t ∧ t.Prompt (.tick 50) :=
    exists_runCalls (by decide +kernel)
  exact ⟨t, returned, ticks_rightly 10 100 ⟨0⟩ _ t 50 (by decide +kernel) returned fits⟩

/-- The time before an acknowledgment that empties the queue still counts for the next segment. -/
theorem idle_time_counted :
    ∃ t, runCalls step (start 10 100 ⟨0⟩)
        [.fillWindow, .tick 60, .ack ⟨1⟩ 10, .write [7], .fillWindow] = .ok t ∧
      t.run.sender.rto = 100 ∧ t.elapsed = 0 ∧ ¬ t.TicksRightly 40 :=
  exists_runCalls (by decide +kernel)

end ClockedRun

end Sponge
