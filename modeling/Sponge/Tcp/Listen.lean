import Sponge.Tcp.ConnectionRuns

/-! What a listening connection ignores, and what it reacts to without a SYN. -/

namespace Sponge

/-- A call that does not ask a listener for anything: time passes, or a segment without SYN comes. -/
def ConnectionCall.Unsolicited : ConnectionCall → Prop
  | .tick _ => True
  | .segment seg => seg.header.syn = false
  | _ => False

instance : DecidablePred ConnectionCall.Unsolicited
  | .tick _ => .isTrue trivial
  | .segment _ => inferInstanceAs (Decidable (_ = _))
  | .connect | .write _ | .endInputStream | .reader _ => .isFalse id

/-- A segment acknowledges something, or is empty and no reset. -/
def TCPSegment.Ignorable (seg : TCPSegment) : Prop :=
  seg.header.ack = true ∨ (seg.header.rst = false ∧ seg.lengthInSequenceSpace = 0)

instance (seg : TCPSegment) : Decidable seg.Ignorable := inferInstanceAs (Decidable (_ ∨ _))

/-- A call brings at most an ignorable segment. -/
def ConnectionCall.Ignorable : ConnectionCall → Prop
  | .segment seg => seg.Ignorable
  | _ => True

instance : DecidablePred ConnectionCall.Ignorable
  | .segment seg => inferInstanceAs (Decidable seg.Ignorable)
  | .connect | .write _ | .endInputStream | .tick _ | .reader _ => .isTrue trivial

namespace ConnectionRun

/-- A connection listens and has sent nothing. -/
structure Listening (t : ConnectionRun) : Prop where
  /-- It is in the official state. -/
  state : t.connection.state = .ofState .listen
  /-- It is active. -/
  active : t.connection.active = true
  /-- Neither of its streams has failed. -/
  clean : t.connection.sender.streamIn.error = false ∧ t.connection.inboundStream.error = false
  /-- It still lingers. -/
  lingers : t.connection.lingerAfterStreamsFinish = true
  /-- It has no acknowledgment number. -/
  unsynced : t.connection.receiver.ackno = none
  /-- It has put nothing into its queue. -/
  silent : t.emitted = []

/-- A connection that has only seen time pass. -/
def listener (cfg : TCPConfig) (isn : WrappingInt32) (ms : Nat) : ConnectionRun :=
  { connection := { TCPConnection.new cfg isn with timeSinceLastSegmentReceived := ms } }

variable {cfg : TCPConfig} {isn : WrappingInt32} {ms : Nat} {seg : TCPSegment}

/-- Such a connection listens. -/
theorem listening_listener (cfg : TCPConfig) (isn : WrappingInt32) (ms : Nat) :
    (listener cfg isn ms).Listening :=
  ⟨rfl, rfl, ⟨rfl, rfl⟩, rfl, rfl, rfl⟩

/-- Time only moves its clock. -/
theorem listener_tick (cfg : TCPConfig) (isn : WrappingInt32) (ms passed : Nat) :
    (listener cfg isn ms).step (.tick passed) = .ok (listener cfg isn (add64 ms passed)) := rfl

/-- An acknowledgment only resets its clock. -/
theorem listener_ack (ack : seg.header.ack = true) :
    (listener cfg isn ms).step (.segment seg) = .ok (listener cfg isn 0) := by
  refine step_ok.mpr ⟨(listener cfg isn 0).connection, ?_, rfl⟩
  exact TCPConnection.segmentReceived_ok.mpr (.inl ⟨rfl, ack, rfl⟩)

/-- A reset without an acknowledgment ends it. -/
theorem listener_rst (plain : seg.header.ack = false) (rst : seg.header.rst = true) :
    ∃ t, (listener cfg isn ms).step (.segment seg) = .ok t ∧ t.connection.active = false := by
  refine ⟨_, step_ok.mpr ⟨(listener cfg isn ms).connection.wasReset, ?_, rfl⟩, rfl⟩
  exact TCPConnection.segmentReceived_ok.mpr (.inr (.inl ⟨by simp [plain], rst, rfl⟩))

/-- Any other segment is answered if it occupies a position, and otherwise resets the clock. -/
theorem listener_other (syn : seg.header.syn = false) (plain : seg.header.ack = false)
    (rst : seg.header.rst = false) :
    ∃ t, (listener cfg isn ms).step (.segment seg) = .ok t ∧
      (seg.lengthInSequenceSpace = 0 → t = listener cfg isn 0) ∧
      (0 < seg.lengthInSequenceSpace → t.emitted ≠ []) := by
  let c := (listener cfg isn ms).connection.noted seg
  -- Neither the receiver nor the sender takes notice.
  have received : c.receiver.segmentReceived seg = .ok c.receiver := by
    rw [TCPReceiver.segmentReceived, syn]
    rfl
  have quiet : c.isKeepAlive seg = false := rfl
  have handled : c.handle seg = .ok (c.answer (decide (0 < seg.lengthInSequenceSpace))).seg2seg := by
    refine TCPConnection.handle_ok.mpr ⟨c.receiver, c.sender, c.sender, received, ?_, ?_, ?_⟩
    · -- There is no acknowledgment to hear.
      rw [if_neg (by simp [plain])]
    · -- The receiver has no number, so no SYN is due.
      rw [if_neg fun both => absurd both.2 Bool.false_ne_true]
    · rw [show { c with receiver := c.receiver, sender := c.sender } = c from rfl, quiet,
        Bool.or_false]
  refine ⟨_, step_ok.mpr ⟨_, TCPConnection.segmentReceived_ok.mpr
    (.inr (.inr ⟨by simp [plain], rst, handled⟩)), rfl⟩, fun empty => ?_, fun some none => ?_⟩
  · -- An empty segment carries no FIN, so only the clock changes.
    have fin : seg.header.fin = false := by
      by_contra carries
      rw [TCPSegment.lengthInSequenceSpace, if_pos (show seg.header.fin = true by
        simpa using carries)] at empty
      omega
    have same : c = (listener cfg isn 0).connection := by
      simp only [c, TCPConnection.noted, fin]
      rfl
    rw [empty, same]
    rfl
  · -- The answer is in the queue.
    rw [decide_eq_true some] at none
    exact List.cons_ne_nil _ _ none

/-- A segment without SYN leaves a listener listening exactly when it is ignorable. -/
theorem listener_segment (syn : seg.header.syn = false) :
    ∃ t, (listener cfg isn ms).step (.segment seg) = .ok t ∧
      ((t.Listening ∧ seg.Ignorable ∧ t = listener cfg isn 0) ∨
        (¬ t.Listening ∧ ¬ seg.Ignorable)) := by
  -- The guards of the function in turn: an acknowledgment, a reset, and anything else.
  cases ack : seg.header.ack with
  -- An acknowledgment is ignored before a SYN was sent.
  | true => exact ⟨_, listener_ack ack, .inl ⟨listening_listener _ _ _, .inl ack, rfl⟩⟩
  | false =>
    cases rst : seg.header.rst with
    | true =>
      -- A reset kills the connection.
      obtain ⟨t, steps, dead⟩ := listener_rst ack rst
      refine ⟨t, steps, .inr ⟨fun listens => ?_, ?_⟩⟩
      · exact absurd listens.active (by simp [dead])
      · simp [TCPSegment.Ignorable, ack, rst]
    | false =>
      obtain ⟨t, steps, ignored, answered⟩ := listener_other syn ack rst
      rcases Nat.eq_zero_or_pos seg.lengthInSequenceSpace with empty | some
      · -- The segment is empty.
        have same := ignored empty
        exact ⟨t, steps, .inl ⟨same ▸ listening_listener _ _ _, .inr ⟨rst, empty⟩, same⟩⟩
      · -- The segment is answered, so the listener is not silent.
        refine ⟨t, steps, .inr ⟨fun listens => answered some listens.silent, ?_⟩⟩
        rintro (carries | ⟨_, empty⟩)
        · exact absurd carries (by simp [ack])
        · omega

/-- All prefixes of calls lead from a run to a listening connection. -/
def KeepsListening (t : ConnectionRun) (calls : List ConnectionCall) : Prop :=
  ∀ before, before <+: calls → ∃ last, runCalls step t before = .ok last ∧ last.Listening

/-- A listener keeps listening after a first call exactly when it does from the state it leads to. -/
theorem keepsListening_cons {t next : ConnectionRun} {call : ConnectionCall}
    {rest : List ConnectionCall} (listens : t.Listening) (steps : t.step call = .ok next) :
    t.KeepsListening (call :: rest) ↔ next.KeepsListening rest := by
  -- Initial parts of the run are empty or begin with the first call.
  constructor
  · -- A part of the rest is a part of the run behind the first call.
    intro keeps before early
    obtain ⟨last, returned, listens⟩ := keeps (call :: before)
      (List.cons_prefix_cons.mpr ⟨rfl, early⟩)
    obtain ⟨next', first, later⟩ := runCalls_cons_ok.mp returned
    rw [steps, Except.ok.injEq] at first
    exact ⟨last, first ▸ later, listens⟩
  · -- A part of the run is empty, or the first call and a part of the rest.
    intro keeps before early
    cases before with
    | nil => exact ⟨t, runCalls_nil _ _, listens⟩
    | cons first others =>
      obtain ⟨rfl, shorter⟩ := List.cons_prefix_cons.mp early
      obtain ⟨last, returned, listens⟩ := keeps others shorter
      exact ⟨last, runCalls_cons_ok.mpr ⟨next, steps, returned⟩, listens⟩

/-- Without a SYN, a new connection keeps listening exactly when every segment is ignorable. -/
theorem listens_iff_ignorable (cfg : TCPConfig) (isn : WrappingInt32)
    (calls : List ConnectionCall) (unsolicited : ∀ call ∈ calls, call.Unsolicited) :
    (start cfg isn).KeepsListening calls ↔ ∀ call ∈ calls, call.Ignorable := by
  -- The induction follows the run, whose clock is anything.
  have general : ∀ ms, (listener cfg isn ms).KeepsListening calls ↔
      ∀ call ∈ calls, call.Ignorable := by
    induction calls with
    | nil =>
      -- A listener listens.
      intro ms
      refine iff_of_true (fun before early => ?_) (by simp)
      rw [List.prefix_nil.mp early]
      exact ⟨_, runCalls_nil _ _, listening_listener _ _ _⟩
    | cons call rest ih =>
      intro ms
      have later := ih fun other member => unsolicited other (List.mem_cons_of_mem _ member)
      have first := unsolicited call List.mem_cons_self
      cases call with
      -- The owner makes no call.
      | connect | write data | endInputStream | reader taken => exact absurd first id
      | tick passed =>
        -- A tick only moves the clock.
        rw [keepsListening_cons (listening_listener _ _ _) (listener_tick cfg isn ms passed),
          later, List.forall_mem_cons]
        exact (and_iff_right trivial).symm
      | segment seg =>
        obtain ⟨t, steps, ⟨_, ignorable, same⟩ | ⟨deaf, reacts⟩⟩ := listener_segment first
        · -- The segment is ignorable, and the listener goes on with its clock at zero.
          rw [keepsListening_cons (listening_listener _ _ _) steps, same, later]
          rw [List.forall_mem_cons]
          exact (and_iff_right ignorable).symm
        · -- The connection reacts, so it no longer listens.
          refine iff_of_false (fun keeps => ?_) fun all => reacts (all _ List.mem_cons_self)
          rw [keepsListening_cons (listening_listener _ _ _) steps] at keeps
          obtain ⟨last, returned, listens⟩ := keeps [] List.nil_prefix
          rw [runCalls_nil, Except.ok.injEq] at returned
          exact deaf (returned ▸ listens)
  exact general 0

/-- A listener ignores acknowledgments, resets among them, and empty segments. -/
theorem listens_iff_ignorable_stray :
    (start {} ⟨0⟩).KeepsListening
      [.segment { header := { ack := true, ackno := ⟨7⟩, fin := true }, payload := [1] },
        .tick 500, .segment { header := { ack := true, rst := true } },
        .segment { header := { seqno := ⟨3⟩ } }] :=
  (listens_iff_ignorable {} ⟨0⟩ _ (by decide)).mpr (by decide)

/-- A reset without an acknowledgment kills a listener. -/
theorem reset_kills_listener :
    ∃ t, runCalls step (start {} ⟨0⟩) [.segment { header := { seqno := ⟨5⟩, rst := true } }] =
        .ok t ∧
      t.connection.active = false ∧ t.connection.inboundStream.error = true :=
  exists_runCalls (by decide +kernel)

end ConnectionRun

end Sponge
