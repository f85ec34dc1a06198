import Sponge.Io.EventLoop
import Sponge.Lib.Settles

/-! What an event loop keeps when its rules keep it, and what it does with a rule over its life. -/

namespace Sponge

namespace EventLoop

variable {ι σ ω : Type} {table : ι → Rule σ ω}

/-- What is known of a rule in a state of the program. -/
structure Status (ι σ : Type) where
  /-- The loop still has the rule. -/
  live : ι → σ → Prop
  /-- The rule is polled for something. -/
  armed : ι → σ → Prop
  /-- The rule was cancelled. -/
  gone : ι → σ → Prop

/-- What is known of the rules outside a list stays known. -/
def Status.Outside (status : Status ι σ) (names : List ι) (s next : σ) : Prop :=
  ∀ other, other ∉ names → (status.live other s → status.live other next) ∧
    (status.armed other s → status.armed other next) ∧
    (status.gone other s → status.gone other next)

/-- Nothing becomes unknown while nothing happens. -/
theorem Status.Outside.refl (status : Status ι σ) (names : List ι) (s : σ) :
    status.Outside names s s := fun _ _ => ⟨id, id, id⟩

/-- One rule is touched after others. -/
theorem Status.Outside.trans {status : Status ι σ} {names more : List ι} {s mid next : σ}
    (first : status.Outside names s mid) (second : status.Outside more mid next) :
    status.Outside (names ++ more) s next := by
  -- A rule outside both lists was left alone twice.
  intro other outside
  rw [List.mem_append, not_or] at outside
  obtain ⟨live, armed, gone⟩ := first other outside.1
  obtain ⟨live', armed', gone'⟩ := second other outside.2
  exact ⟨live' ∘ live, armed' ∘ armed, gone' ∘ gone⟩

/-- Of some rules, those that are left are live and the others are gone. -/
structure Status.Left (status : Status ι σ) (rules left : List ι) (s : σ) : Prop where
  /-- The rules that are left keep their order. -/
  order : left.Sublist rules
  /-- They are live. -/
  live : ∀ name ∈ left, status.live name s
  /-- The others were cancelled. -/
  gone : ∀ name ∈ rules, name ∉ left → status.gone name s

/-- As long as all rules are live, all of them are left. -/
theorem Status.Left.refl {status : Status ι σ} {rules : List ι} {s : σ}
    (live : ∀ name ∈ rules, status.live name s) : status.Left rules rules s :=
  ⟨List.Sublist.refl _, live, fun _ member absent => absurd member absent⟩

/-- The first rule is gone, and the others are what is known of them. -/
theorem Status.Left.drop {status : Status ι σ} {name : ι} {rest left : List ι} {s : σ}
    (others : status.Left rest left s) (gone : status.gone name s) :
    status.Left (name :: rest) left s := by
  refine ⟨others.order.cons name, others.live, ?_⟩
  intro other member absent
  rcases List.mem_cons.mp member with rfl | behind
  · -- The first rule itself.
    exact gone
  · -- One of the others.
    exact others.gone other behind absent

/-- The first rule is kept, and the others are what is known of them. -/
theorem Status.Left.keep {status : Status ι σ} {name : ι} {rest left : List ι} {s : σ}
    (others : status.Left rest left s) (live : status.live name s) :
    status.Left (name :: rest) (name :: left) s := by
  refine ⟨others.order.cons_cons name, ?_, ?_⟩
  · -- The rules that are left are live.
    intro other member
    rcases List.mem_cons.mp member with rfl | behind
    · exact live
    · exact others.live other behind
  · -- A rule that is not left is one of the others.
    intro other member absent
    rw [List.mem_cons, not_or] at absent
    exact others.gone other ((List.mem_cons.mp member).resolve_left absent.1) absent.2

/-- Some of the rules that were left before are left. -/
theorem Status.Left.trans {status : Status ι σ} {rules some left : List ι} {s next : σ}
    (before : status.Left rules some s) (after : status.Left some left next)
    (outside : status.Outside some s next) : status.Left rules left next := by
  refine ⟨after.order.trans before.order, after.live, ?_⟩
  intro name member absent
  by_cases inside : name ∈ some
  · -- It was left before, and went now.
    exact after.gone name inside absent
  · -- It had gone before, and what has gone stays so.
    exact (outside name inside).2.2 (before.gone name member inside)

section Guarded

variable {expected : Failure → Prop} {inv : σ → Prop} {status : Status ι σ}
  {cond : ι → ω → σ → Prop}

/-- The rules of a loop keep an invariant and what is known of one another, and a rule is called
only while it is live and armed. -/
structure Guarded (table : ι → Rule σ ω) (expected : Failure → Prop) (inv : σ → Prop)
    (status : Status ι σ) (cond : ι → ω → σ → Prop) : Prop where
  /-- Interest arms a rule whose descriptor can still be used. -/
  arms : ∀ name s, inv s → status.live name s →
    ¬ (((table name).direction = .input ∧ ((table name).fd s).eof) ∨ ((table name).fd s).closed) →
    (table name).interest s = true → status.armed name s
  /-- Cancelling a rule keeps the invariant. -/
  cancels : ∀ name s, inv s → status.live name s →
    Settles expected (fun next => inv next ∧ status.gone name next ∧ status.Outside [name] s next)
      ((table name).cancel s)
  /-- So does calling an armed rule, which then has used its descriptor or lost its interest. -/
  calls : ∀ name answer s, inv s → status.live name s → status.armed name s → cond name answer s →
    Settles expected (fun next => inv next ∧ status.live name next ∧
      status.Outside [name] s next ∧
      ((table name).serviceCount s ≠ (table name).serviceCount next ∨
        (table name).interest next = false)) ((table name).callback answer s)
  /-- An error on a descriptor is to be expected. -/
  polled : expected (.runtime "EventLoop: error on polled file descriptor")

/-- The answers to the callbacks meet a condition in the states in which they are made. -/
def Along (table : ι → Rule σ ω) (cond : ι → ω → σ → Prop) :
    List (ι × Option Direction) → List (Revents × ω) → σ → Prop
  | (name, events) :: rest, (revents, answer) :: answers, s =>
    (revents.ready events = true → cond name answer s) ∧
      match serveOne (table name) events revents answer s with
      | .ok (_, next) => Along table cond rest answers next
      | .error _ => True
  | _, _, _ => True

/-- The answers to the callbacks of a wait meet a condition. -/
def Meets (table : ι → Rule σ ω) (cond : ι → ω → σ → Prop) (rules : List ι) (s : σ)
    (poll : PollResult ω) : Prop :=
  match poll with
  | .ready answers =>
    match setUp table rules s with
    | .ok (pollfds, next) => Along table cond pollfds answers next
    | .error _ => True
  | _ => True

/-- A condition that always holds is met by all answers. -/
theorem Along.of_forall (always : ∀ name answer s, cond name answer s) :
    ∀ (pollfds : List (ι × Option Direction)) (answers : List (Revents × ω)) (s : σ),
      Along table cond pollfds answers s := by
  intro pollfds
  -- Induction on the descriptors, for all answers.
  induction pollfds with
  | nil =>
    intro answers s
    trivial
  | cons pollfd rest ih =>
    intro answers s
    cases answers with
    | nil => trivial
    | cons report answers =>
      refine ⟨fun _ => always _ _ _, ?_⟩
      split
      · -- The rule was served, and the others are in the state it left.
        exact ih _ _
      · -- Serving it has thrown, so no other rule is served.
        trivial

/-- A condition that always holds is met during every wait. -/
theorem Meets.of_forall (always : ∀ name answer s, cond name answer s) (rules : List ι) (s : σ)
    (poll : PollResult ω) : Meets table cond rules s poll := by
  unfold Meets
  -- The condition is asked for only where a poll has answers to serve.
  split
  · split
    · exact .of_forall always _ _ _
    · trivial
  · trivial

/-- A decidable condition can be checked along the callbacks. -/
instance Along.decide [checks : ∀ name answer s, Decidable (cond name answer s)] :
    ∀ pollfds answers s, Decidable (Along table cond pollfds answers s)
  | [], _, _ => .isTrue trivial
  | _ :: _, [], _ => .isTrue trivial
  | (name, events) :: rest, (revents, answer) :: answers, s =>
    match found : serveOne (table name) events revents answer s with
    | .error _ =>
      decidable_of_iff (revents.ready events = true → cond name answer s)
        ⟨fun holds => ⟨holds, by rw [found]; trivial⟩, fun both => both.1⟩
    | .ok (_, next) =>
      have := Along.decide rest answers next
      decidable_of_iff ((revents.ready events = true → cond name answer s) ∧
          Along table cond rest answers next)
        ⟨fun both => ⟨both.1, by rw [found]; exact both.2⟩,
          fun both => ⟨both.1, by have later := both.2; rw [found] at later; exact later⟩⟩

instance Meets.decide [∀ name answer s, Decidable (cond name answer s)] (rules : List ι) (s : σ)
    (poll : PollResult ω) : Decidable (Meets table cond rules s poll) :=
  match poll with
  | .timeout => .isTrue trivial
  | .failed _ => .isTrue trivial
  | .ready answers =>
    match found : setUp table rules s with
    | .ok (pollfds, next) =>
      decidable_of_iff (Along table cond pollfds answers next)
        (by dsimp only [Meets]; rw [found])
    | .error _ => .isTrue (by dsimp only [Meets]; rw [found]; trivial)

/-- Setting up keeps the invariant, and the rules that are polled for something are armed. -/
theorem Guarded.setUp (guarded : Guarded table expected inv status cond) :
    ∀ (rules : List ι) (s : σ), rules.Nodup → inv s → (∀ name ∈ rules, status.live name s) →
      Settles expected (fun out => inv out.2 ∧ status.Outside rules s out.2 ∧
        status.Left rules (out.1.map Prod.fst) out.2 ∧
        ∀ pollfd ∈ out.1, pollfd.2.isSome = true → status.armed pollfd.1 out.2)
        (EventLoop.setUp table rules s) := by
  -- Induction on the rules: what is known of the first one stays so while the rest is set up.
  intro rules
  induction rules with
  | nil =>
    intro s _ holds _
    exact ⟨holds, .refl status [] s, .refl (by simp), by simp⟩
  | cons name rest ih =>
    intro s distinct holds present
    rw [List.nodup_cons] at distinct
    have here := present name List.mem_cons_self
    unfold EventLoop.setUp
    split
    · -- The descriptor is at its end or closed, so the rule goes.
      apply (guarded.cancels name s holds here).bind
      intro next _ cancelled
      obtain ⟨kept, gone, others⟩ := cancelled
      have still : ∀ other ∈ rest, status.live other next := by
        intro other member
        have different : other ∉ [name] := by
          rw [List.mem_singleton]
          intro same
          exact distinct.1 (same ▸ member)
        exact (others other different).1 (present other (List.mem_cons_of_mem _ member))
      apply (ih next distinct.2 kept still).mono
      intro out settled
      obtain ⟨last, outside, left, polls⟩ := settled
      exact ⟨last, others.trans outside, left.drop ((outside name distinct.1).2.2 gone), polls⟩
    · -- The rule stays, and is polled for something if it is interested.
      rename_i usable
      have still : ∀ other ∈ rest, status.live other s :=
        fun other member => present other (List.mem_cons_of_mem _ member)
      apply (ih s distinct.2 holds still).bind
      intro out _ settled
      obtain ⟨last, outside, left, polls⟩ := settled
      obtain ⟨live, armed, -⟩ := outside name distinct.1
      refine ⟨last, (Status.Outside.refl status [name] s).trans outside, left.keep (live here), ?_⟩
      intro pollfd member asked
      rcases List.mem_cons.mp member with rfl | later
      · -- The interest was seen before the rest was set up, which does not concern this rule.
        have interested : (table name).interest s = true := by
          by_contra lacks
          rw [if_neg lacks] at asked
          cases asked
        exact armed (guarded.arms name s holds here usable interested)
      · exact polls pollfd later asked

/-- Serving one rule keeps the invariant, and the rule is kept or gone. -/
theorem Guarded.serveOne (guarded : Guarded table expected inv status cond) {name : ι}
    {events : Option Direction} {revents : Revents} {answer : ω} {s : σ} (holds : inv s)
    (here : status.live name s) (ready : events.isSome = true → status.armed name s)
    (meets : revents.ready events = true → cond name answer s) :
    Settles expected (fun out => inv out.2 ∧ status.Outside [name] s out.2 ∧
      (if out.1 then status.live name out.2 else status.gone name out.2))
      (EventLoop.serveOne (table name) events revents answer s) := by
  unfold EventLoop.serveOne
  split
  · -- The descriptor has an error, at which the loop throws.
    exact guarded.polled
  · split
    · -- The descriptor is defunct, so the rule goes.
      apply (guarded.cancels name s holds here).bind
      intro next _ cancelled
      obtain ⟨kept, gone, others⟩ := cancelled
      exact ⟨kept, others, gone⟩
    · split
      · rename_i now
        -- Only a descriptor that was asked about can be ready.
        have asked : events.isSome = true := by
          cases events with
          | none => cases now
          | some direction => rfl
        apply (guarded.calls name answer s holds here (ready asked) (meets now)).bind
        intro next _ called
        obtain ⟨kept, still, others, served⟩ := called
        rw [if_neg]
        · -- The call is not one that changed nothing.
          exact ⟨kept, others, still⟩
        · intro waits
          rcases served with differs | lost
          · exact differs waits.1
          · cases lost.symm.trans waits.2
      · -- The descriptor is not ready, so the rule is not called.
        exact ⟨holds, .refl status [name] s, here⟩

/-- Going through the results of `poll` keeps the invariant, and every rule is kept or gone. -/
theorem Guarded.serve (guarded : Guarded table expected inv status cond) :
    ∀ (pollfds : List (ι × Option Direction)) (answers : List (Revents × ω)) (s : σ),
      (pollfds.map Prod.fst).Nodup → inv s →
      (∀ name ∈ pollfds.map Prod.fst, status.live name s) →
      (∀ pollfd ∈ pollfds, pollfd.2.isSome = true → status.armed pollfd.1 s) →
      Along table cond pollfds answers s →
      Settles expected (fun out => inv out.2 ∧ status.Outside (pollfds.map Prod.fst) s out.2 ∧
        status.Left (pollfds.map Prod.fst) out.1 out.2)
        (EventLoop.serve table pollfds answers s) := by
  -- Induction on the polled descriptors: serving the first one leaves the others as they are.
  intro pollfds
  induction pollfds with
  | nil =>
    intro answers s _ holds _ _ _
    exact ⟨holds, .refl status [] s, .refl (by simp)⟩
  | cons pollfd rest ih =>
    intro answers s distinct holds present ready along
    obtain ⟨name, events⟩ := pollfd
    cases answers with
    -- Without an answer the rules are left as they are.
    | nil => exact ⟨holds, .refl status _ s, .refl present⟩
    | cons report answers =>
      obtain ⟨revents, answer⟩ := report
      rw [List.map_cons, List.nodup_cons] at distinct
      obtain ⟨meets, later⟩ := along
      have here := present name List.mem_cons_self
      unfold EventLoop.serve
      apply (guarded.serveOne holds here (ready (name, events) List.mem_cons_self) meets).bind
      intro out served one
      obtain ⟨kept, others, after⟩ := one
      -- The rest of the answers is met in the state that this rule leaves.
      rw [served] at later
      have different : ∀ other ∈ rest.map Prod.fst, other ∉ [name] := by
        intro other member same
        rw [List.mem_singleton] at same
        exact distinct.1 (same ▸ member)
      have still : ∀ other ∈ rest.map Prod.fst, status.live other out.2 := by
        intro other member
        exact (others other (different other member)).1
          (present other (List.mem_cons_of_mem _ member))
      have waiting : ∀ pollfd ∈ rest, pollfd.2.isSome = true → status.armed pollfd.1 out.2 := by
        intro pollfd member asked
        exact (others pollfd.1 (different _ (List.mem_map_of_mem member))).2.1
          (ready pollfd (List.mem_cons_of_mem _ member) asked)
      apply (ih answers out.2 distinct.2 kept still waiting later).bind
      intro last _ all
      obtain ⟨holds, outside, left⟩ := all
      obtain ⟨live, -, gone⟩ := outside name distinct.1
      refine ⟨holds, others.trans outside, ?_⟩
      dsimp only
      -- The rule was kept or dropped, and the others do not change that.
      split at after
      · rename_i keeps
        rw [if_pos keeps]
        exact left.keep (live after)
      · rename_i drops
        rw [if_neg drops]
        exact left.drop (gone after)

/-- A wait keeps the invariant, and every rule is kept or gone. -/
theorem Guarded.waitNextEvent (guarded : Guarded table expected inv status cond) {rules : List ι}
    {s : σ} {poll : PollResult ω} (distinct : rules.Nodup) (holds : inv s)
    (present : ∀ name ∈ rules, status.live name s) (meets : Meets table cond rules s poll) :
    Settles expected (fun out => inv out.2.2 ∧ status.Outside rules s out.2.2 ∧
        status.Left rules out.2.1 out.2.2)
      (EventLoop.waitNextEvent table rules s poll) := by
  unfold EventLoop.waitNextEvent
  -- The rules are set up first, which may make some of them go.
  apply (guarded.setUp rules s distinct holds present).bind
  intro out settled all
  obtain ⟨kept, outside, left, ready⟩ := all
  dsimp only
  split
  · -- Nothing is polled for, so the loop is left.
    exact ⟨kept, outside, left⟩
  · cases poll with
    -- No descriptor was ready in time.
    | timeout => exact ⟨kept, outside, left⟩
    -- The call was interrupted, or failed.
    | failed errno => exact ⟨kept, outside, left⟩
    | ready answers =>
      -- Only the rules that were set up are served.
      dsimp only [Meets] at meets
      rw [settled] at meets
      apply (guarded.serve out.1 answers out.2 (distinct.sublist left.order) kept left.live ready
        meets).bind
      intro last _ served
      obtain ⟨holds, beyond, fewer⟩ := served
      refine ⟨holds, ?_, left.trans fewer beyond⟩
      -- Only rules that were there are served.
      intro other absent
      obtain ⟨live, armed, gone⟩ := outside other absent
      obtain ⟨live', armed', gone'⟩ :=
        beyond other (fun inside => absent (left.order.subset inside))
      exact ⟨live' ∘ live, armed' ∘ armed, gone' ∘ gone⟩

/-- A stronger condition on the answers serves as well. -/
theorem Guarded.strengthen (guarded : Guarded table expected inv status cond)
    {cond' : ι → ω → σ → Prop}
    (stronger : ∀ name answer s, cond' name answer s → cond name answer s) :
    Guarded table expected inv status cond' where
  arms := guarded.arms
  cancels := guarded.cancels
  calls name answer s holds live armed meets :=
    guarded.calls name answer s holds live armed (stronger name answer s meets)
  polled := guarded.polled

/-- A further invariant, which calls that return keep, perhaps under a further condition. -/
theorem Guarded.also (guarded : Guarded table expected inv status cond) {further : σ → Prop}
    {cond' : ι → ω → σ → Prop}
    (cancels : ∀ name s next, inv s → further s → (table name).cancel s = .ok next → further next)
    (calls : ∀ name answer s next, inv s → further s → status.armed name s → cond' name answer s →
      (table name).callback answer s = .ok next → further next) :
    Guarded table expected (fun s => inv s ∧ further s) status
      (fun name answer s => cond name answer s ∧ cond' name answer s) where
  arms name s both := guarded.arms name s both.1
  cancels := by
    intro name s both live
    -- The further invariant is a fact about what the call returned.
    apply ((guarded.cancels name s both.1 live).also ?_).mono
    · intro next all
      exact ⟨⟨all.1.1, all.2⟩, all.1.2⟩
    · intro next done _
      exact cancels name s next both.1 both.2 done
  calls := by
    intro name answer s both live armed meets
    -- Likewise, with the condition on the answer.
    apply ((guarded.calls name answer s both.1 live armed meets.1).also ?_).mono
    · intro next all
      exact ⟨⟨all.1.1, all.2⟩, all.1.2⟩
    · intro next done _
      exact calls name answer s next both.1 both.2 armed meets.2 done
  polled := guarded.polled

end Guarded

section Exit

/-- Setting up keeps what every cancellation keeps. -/
theorem setUp_keeps {β : Type} (view : σ → β) :
    ∀ (rules : List ι) (s : σ) {pollfds : List (ι × Option Direction)} {next : σ},
      (∀ name ∈ rules, ∀ s next, (table name).cancel s = .ok next → view next = view s) →
      EventLoop.setUp table rules s = .ok (pollfds, next) → view next = view s := by
  -- Induction on the rules: only a cancellation changes the state.
  intro rules
  induction rules with
  | nil =>
    intro s pollfds next _ done
    cases Except.ok.inj done
    rfl
  | cons name rest ih =>
    intro s pollfds next keeps done
    have later : ∀ name ∈ rest, ∀ s next, (table name).cancel s = .ok next →
        view next = view s := fun other member => keeps other (List.mem_cons_of_mem _ member)
    unfold EventLoop.setUp at done
    split at done
    · -- The rule goes, and the rest is set up behind its cancellation.
      obtain ⟨mid, cancelled, done⟩ := bind_eq_ok.mp done
      exact (ih mid later done).trans (keeps name List.mem_cons_self s mid cancelled)
    · -- The rule stays, and only the rest matters.
      obtain ⟨⟨others, last⟩, rest, done⟩ := bind_eq_ok.mp done
      cases Except.ok.inj done
      exact ih s later rest

/-- Where no cancellation concerns the interest of an earlier rule, a rule that is polled for
nothing is still without interest once everything is set up. -/
theorem setUp_uninterested :
    ∀ (rules : List ι) (s : σ) {pollfds : List (ι × Option Direction)} {next : σ},
      rules.Pairwise (fun name other => ∀ s next, (table other).cancel s = .ok next →
        (table name).interest next = (table name).interest s) →
      EventLoop.setUp table rules s = .ok (pollfds, next) →
      ∀ pollfd ∈ pollfds, pollfd.2 = none → (table pollfd.1).interest next = false := by
  -- Induction on the rules: those behind the first one leave its interest.
  intro rules
  induction rules with
  | nil =>
    intro s pollfds next _ done
    cases Except.ok.inj done
    simp
  | cons name rest ih =>
    intro s pollfds next apart done
    rw [List.pairwise_cons] at apart
    unfold EventLoop.setUp at done
    split at done
    · -- The rule goes, so it is not among those that are polled.
      obtain ⟨mid, -, done⟩ := bind_eq_ok.mp done
      exact ih mid apart.2 done
    · obtain ⟨⟨others, last⟩, set, done⟩ := bind_eq_ok.mp done
      cases Except.ok.inj done
      intro pollfd member unasked
      rcases List.mem_cons.mp member with rfl | later
      · -- The first rule was not asked about because it had no interest.
        have same := setUp_keeps (table name).interest rest s apart.1 set
        rw [same]
        cases interested : (table name).interest s with
        | false => rfl
        | true =>
          rw [interested] at unasked
          cases unasked
      · -- One of the others.
        exact ih s apart.2 set pollfd later unasked

/-- A wait says that there is nothing left to wait for when no rule is interested, or when it was
interrupted. -/
theorem waitNextEvent_exit {rules left : List ι} {s next : σ} {poll : PollResult ω}
    (done : EventLoop.waitNextEvent table rules s poll = .ok (.exit, left, next)) :
    poll = .failed eintr ∨ ∃ pollfds, EventLoop.setUp table rules s = .ok (pollfds, next) ∧
      (∀ pollfd ∈ pollfds, pollfd.2 = none) ∧ left = pollfds.map Prod.fst := by
  unfold EventLoop.waitNextEvent at done
  obtain ⟨⟨pollfds, last⟩, set, done⟩ := bind_eq_ok.mp done
  dsimp only at done
  split at done
  · -- Nothing is polled for, so the wait ends before the poll.
    rename_i unasked
    cases Except.ok.inj done
    refine .inr ⟨pollfds, set, ?_, rfl⟩
    intro pollfd member
    exact Option.isNone_iff_eq_none.mp (List.all_eq_true.mp unasked pollfd member)
  · cases poll with
    -- A timeout is reported as such.
    | timeout => cases Except.ok.inj done
    | failed errno =>
      -- A poll that failed is taken for an exit if a signal has interrupted it.
      simp only [pure_eq_ok, Except.ok.injEq, Prod.mk.injEq] at done
      have result := done.1
      split at result
      · rename_i interrupted
        exact .inl (by rw [interrupted])
      · cases result
    | ready answers =>
      -- Rules that were served are reported as a success.
      obtain ⟨served, -, done⟩ := bind_eq_ok.mp done
      cases Except.ok.inj done

end Exit

end EventLoop

end Sponge
