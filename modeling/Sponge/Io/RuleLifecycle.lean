import Sponge.Io.EventLoop

/-! The life of a rule: a loop calls it while it is there, cancels it at most once, and then never
calls it again. -/

namespace Sponge

namespace EventLoop

/-- What a loop does to a rule. -/
inductive Action (ι : Type) where
  /-- The rule is cancelled. -/
  | cancelled (name : ι)
  /-- The callback of the rule is called. -/
  | called (name : ι)
deriving DecidableEq, Repr

/-- The rule that something is done to. -/
def Action.name {ι : Type} : Action ι → ι
  | .cancelled name => name
  | .called name => name

variable {ι σ ω : Type}

/-- A rule that records what is done to it, and is otherwise the same. -/
def loggedRule (name : ι) (rule : Rule σ ω) : Rule (σ × List (Action ι)) ω where
  fd s := rule.fd s.1
  direction := rule.direction
  callback answer s := do
    let next ← rule.callback answer s.1
    return (next, s.2 ++ [.called name])
  interest s := rule.interest s.1
  cancel s := do
    let next ← rule.cancel s.1
    return (next, s.2 ++ [.cancelled name])

/-- The rules of a table, each recording what is done to it. -/
def logged (table : ι → Rule σ ω) (name : ι) : Rule (σ × List (Action ι)) ω :=
  loggedRule name (table name)

/-- What is done to a rule about which `poll` reports something. -/
def reaction (name : ι) (events : Option Direction) (revents : Revents) : Option (Action ι) :=
  if revents.defunct events then some (.cancelled name)
  else if revents.ready events then some (.called name)
  else none

/-- What is done to the polled rules: the reports are for them in their order. -/
def reactions : List (ι × Option Direction) → List (Revents × ω) → List (Action ι)
  | (name, events) :: rest, (revents, _) :: answers =>
    (reaction name events revents).toList ++ reactions rest answers
  | _, _ => []

/-- What is done to some rules, of which some are left. -/
structure Acted (rules : List ι) (actions : List (Action ι)) (left : List ι) : Prop where
  /-- Something is done only to rules that are there. -/
  known : ∀ action ∈ actions, action.name ∈ rules
  /-- No two things are done to one rule. -/
  once : (actions.map Action.name).Nodup
  /-- The rules that are left keep their order. -/
  order : left.Sublist rules
  /-- They are those that were not cancelled. -/
  gone : ∀ name ∈ rules, name ∈ left ↔ Action.cancelled name ∉ actions

/-- When nothing is done, all rules are left. -/
theorem Acted.nothing (rules : List ι) : Acted rules [] rules :=
  ⟨by simp, List.nodup_nil, List.Sublist.refl _, by simp⟩

/-- Cancelling a rule before others are acted on. -/
theorem Acted.cancel {name : ι} {rest left : List ι} {actions : List (Action ι)}
    (acted : Acted rest actions left) (fresh : name ∉ rest) :
    Acted (name :: rest) (.cancelled name :: actions) left := by
  have other : ∀ action ∈ actions, action.name ≠ name :=
    -- Whatever is done to the others is not done to this rule.
    fun action member same => fresh (same ▸ acted.known action member)
  refine ⟨?_, ?_, acted.order.cons name, ?_⟩
  · -- Each action is about one of the rules.
    intro action member
    cases List.mem_cons.mp member with
    | inl here => rw [here]; exact List.mem_cons_self
    | inr later => exact List.mem_cons_of_mem _ (acted.known action later)
  · -- No rule is acted on twice.
    rw [List.map_cons, List.nodup_cons]
    refine ⟨fun member => ?_, acted.once⟩
    obtain ⟨action, inside, same⟩ := List.mem_map.mp member
    exact other action inside same
  · -- A rule is left exactly if it was not cancelled.
    intro rule member
    by_cases same : rule = name
    · subst same
      -- The cancelled rule is not among the others, so it cannot be left.
      have absent : rule ∉ left := fun inside => fresh (acted.order.subset inside)
      simp [absent]
    · have inside : rule ∈ rest := (List.mem_cons.mp member).resolve_left same
      rw [acted.gone rule inside, List.mem_cons]
      simp [same]

/-- Keeping a rule, and perhaps calling it, before others are acted on. -/
theorem Acted.keep {name : ι} {rest left : List ι} {actions : List (Action ι)}
    (acted : Acted rest actions left) (fresh : name ∉ rest) (call : Bool) :
    Acted (name :: rest) ((if call then [.called name] else []) ++ actions) (name :: left) := by
  have other : ∀ action ∈ actions, action.name ≠ name :=
    -- Whatever is done to the others is not done to this rule.
    fun action member same => fresh (same ▸ acted.known action member)
  refine ⟨?_, ?_, acted.order.cons_cons name, ?_⟩
  · -- The action is the call, or one of those on the others.
    intro action member
    cases List.mem_append.mp member with
    | inl here =>
      cases call with
      | false => cases here
      | true => rw [List.mem_singleton.mp here]; exact List.mem_cons_self
    | inr later => exact List.mem_cons_of_mem _ (acted.known action later)
  · -- If the rule is called, it is called once.
    cases call with
    | false => exact acted.once
    | true =>
      refine List.nodup_cons.mpr ⟨fun member => ?_, acted.once⟩
      obtain ⟨action, inside, same⟩ := List.mem_map.mp member
      exact other action inside same
  · -- A call cancels nothing.
    intro rule member
    have fewer : Action.cancelled rule ∉ (if call then [.called name] else []) := by
      cases call <;> simp
    by_cases same : rule = name
    · -- This rule is left, and none of the actions cancels it.
      subst same
      have untouched : Action.cancelled rule ∉ actions := fun inside => other _ inside rfl
      simp [fewer, untouched]
    · -- For another rule the call does not matter.
      have inside : rule ∈ rest := (List.mem_cons.mp member).resolve_left same
      rw [List.mem_cons, or_iff_right same, acted.gone rule inside]
      simp [fewer]

/-- Setting up cancels some rules, and keeps the others for polling. -/
theorem setUp_logged {table : ι → Rule σ ω} :
    ∀ {rules : List ι} {s next : σ} {pollfds : List (ι × Option Direction)}
      (log : List (Action ι)), rules.Nodup → setUp table rules s = .ok (pollfds, next) →
      ∃ dropped : List ι,
        setUp (logged table) rules (s, log) =
            .ok (pollfds, next, log ++ dropped.map .cancelled) ∧
          Acted rules (dropped.map .cancelled) (pollfds.map Prod.fst) := by
  -- Induction on the rules: each one is cancelled, or kept without a record.
  intro rules
  induction rules with
  | nil =>
    intro s next pollfds log _ done
    simp only [setUp, Except.ok.injEq, Prod.mk.injEq] at done
    obtain ⟨rfl, rfl⟩ := done
    exact ⟨[], by simp [setUp], .nothing []⟩
  | cons name rest ih =>
    intro s next pollfds log distinct done
    rw [List.nodup_cons] at distinct
    unfold setUp at done ⊢
    by_cases ended : ((table name).direction = .input ∧ ((table name).fd s).eof) ∨
        ((table name).fd s).closed
    · -- The descriptor is at its end or closed.
      rw [if_pos ended] at done
      obtain ⟨cancelled, cancels, done⟩ := bind_eq_ok.mp done
      obtain ⟨dropped, found, acted⟩ := ih (log ++ [.cancelled name]) distinct.2 done
      refine ⟨name :: dropped, ?_, acted.cancel distinct.1⟩
      have logs : (logged table name).cancel (s, log) =
          .ok (cancelled, log ++ [.cancelled name]) := by
        simp [logged, loggedRule, cancels]
      -- The record has no say in whether the rule is dropped.
      have same : ((logged table name).direction = .input ∧
          ((logged table name).fd (s, log)).eof) ∨
          ((logged table name).fd (s, log)).closed := ended
      rw [if_pos same, logs, ok_bind, found]
      simp
    · -- The rule is polled for, of which there is no record.
      rw [if_neg ended] at done
      obtain ⟨⟨others, last⟩, settled, done⟩ := bind_eq_ok.mp done
      simp only [pure_eq_ok, Except.ok.injEq, Prod.mk.injEq] at done
      obtain ⟨rfl, rfl⟩ := done
      obtain ⟨dropped, found, acted⟩ := ih log distinct.2 settled
      refine ⟨dropped, ?_, acted.keep distinct.1 false⟩
      have same : ¬ (((logged table name).direction = .input ∧
          ((logged table name).fd (s, log)).eof) ∨
          ((logged table name).fd (s, log)).closed) := ended
      rw [if_neg same, found]
      rfl

/-- Serving one rule records the reaction to what is reported, and keeps it unless cancelled. -/
theorem serveOne_logged (name : ι) {rule : Rule σ ω} {events : Option Direction}
    {revents : Revents} {answer : ω} {s next : σ} {kept : Bool} (log : List (Action ι))
    (done : serveOne rule events revents answer s = .ok (kept, next)) :
    serveOne (loggedRule name rule) events revents answer (s, log) =
        .ok (kept, next, log ++ (reaction name events revents).toList) ∧
      kept = !revents.defunct events := by
  unfold serveOne at done ⊢
  -- An error was not reported, since the call returned.
  by_cases failed : revents.pollErr = true
  · rw [if_pos failed] at done
    cases done
  rw [if_neg failed] at done ⊢
  by_cases defunct : revents.defunct events = true
  · -- The rule is cancelled.
    rw [if_pos defunct] at done
    obtain ⟨cancelled, cancels, done⟩ := bind_eq_ok.mp done
    simp only [pure_eq_ok, Except.ok.injEq, Prod.mk.injEq] at done
    obtain ⟨rfl, rfl⟩ := done
    simp [reaction, defunct, loggedRule, cancels]
  · rw [if_neg defunct] at done ⊢
    by_cases ready : revents.ready events = true
    · -- The rule is called.
      rw [if_pos ready] at done
      obtain ⟨called, calls, done⟩ := bind_eq_ok.mp done
      -- The check for a busy wait does not look at the record.
      by_cases busy : rule.serviceCount s = rule.serviceCount called ∧ rule.interest called
      · -- A busy wait throws.
        rw [if_pos busy] at done
        cases done
      · rw [if_neg busy] at done
        simp only [pure_eq_ok, Except.ok.injEq, Prod.mk.injEq] at done
        obtain ⟨rfl, rfl⟩ := done
        have idle : ¬ ((loggedRule name rule).serviceCount (s, log) =
            (loggedRule name rule).serviceCount (called, log ++ [.called name]) ∧
            (loggedRule name rule).interest (called, log ++ [.called name])) := busy
        rw [if_pos ready]
        have logs : (loggedRule name rule).callback answer (s, log) =
            .ok (called, log ++ [.called name]) := by
          simp [loggedRule, calls]
        rw [logs, ok_bind, if_neg idle]
        simp [reaction, defunct, ready]
    · -- Nothing is done to the rule.
      rw [if_neg ready] at done ⊢
      simp only [pure_eq_ok, Except.ok.injEq, Prod.mk.injEq] at done
      obtain ⟨rfl, rfl⟩ := done
      simp [reaction, defunct, ready]

/-- Going through the reports does to each rule what its own report asks for. -/
theorem serve_logged {table : ι → Rule σ ω} :
    ∀ {pollfds : List (ι × Option Direction)} {answers : List (Revents × ω)} {s next : σ}
      {names : List ι} (log : List (Action ι)), (pollfds.map Prod.fst).Nodup →
      serve table pollfds answers s = .ok (names, next) →
      serve (logged table) pollfds answers (s, log) =
          .ok (names, next, log ++ reactions pollfds answers) ∧
        Acted (pollfds.map Prod.fst) (reactions pollfds answers) names := by
  -- Induction on the polled rules; the reports are used up in step with them.
  intro pollfds
  induction pollfds with
  | nil =>
    intro answers s next names log _ done
    simp only [serve, Except.ok.injEq, Prod.mk.injEq] at done
    obtain ⟨rfl, rfl⟩ := done
    simpa [serve, reactions] using Acted.nothing []
  | cons pollfd rest ih =>
    obtain ⟨name, events⟩ := pollfd
    intro answers s next names log distinct done
    cases answers with
    | nil =>
      -- Nothing is reported about the rest.
      simp only [serve, Except.ok.injEq, Prod.mk.injEq] at done
      obtain ⟨rfl, rfl⟩ := done
      simpa [serve, reactions] using Acted.nothing _
    | cons report answers =>
      obtain ⟨revents, answer⟩ := report
      rw [List.map_cons, List.nodup_cons] at distinct
      unfold serve at done ⊢
      obtain ⟨⟨kept, mid⟩, one, done⟩ := bind_eq_ok.mp done
      obtain ⟨⟨others, last⟩, served, done⟩ := bind_eq_ok.mp done
      simp only [pure_eq_ok, Except.ok.injEq, Prod.mk.injEq] at done
      obtain ⟨rfl, rfl⟩ := done
      -- The record of the first rule comes before those of the others.
      obtain ⟨logs, keeps⟩ := serveOne_logged name log one
      obtain ⟨found, acted⟩ := ih (log ++ (reaction name events revents).toList) distinct.2 served
      refine ⟨?_, ?_⟩
      · rw [logged, logs, ok_bind]
        dsimp only
        rw [found, ok_bind, reactions, List.append_assoc]
        rfl
      · rw [reactions, List.map_cons]
        -- The rule goes, or stays with or without a call.
        by_cases defunct : revents.defunct events = true
        · simpa [reaction, defunct, keeps] using acted.cancel distinct.1
        · have stays := acted.keep distinct.1 (revents.ready events)
          by_cases ready : revents.ready events = true
          · simpa [reaction, defunct, ready, keeps] using stays
          · simpa [reaction, defunct, ready, keeps] using stays

/-- First cancelling some rules and then acting on the others is acting on all of them. -/
theorem Acted.trans {rules mid left dropped : List ι} {actions : List (Action ι)}
    (first : Acted rules (dropped.map .cancelled) mid) (second : Acted mid actions left) :
    Acted rules (dropped.map .cancelled ++ actions) left := by
  have apart : ∀ action ∈ actions, action.name ∉ dropped := by
    -- A rule that was cancelled before is not one of those acted on afterwards.
    intro action member inside
    have alive := first.order.subset (second.known action member)
    exact (first.gone _ alive).mp (second.known action member) (List.mem_map_of_mem inside)
  refine ⟨?_, ?_, second.order.trans first.order, ?_⟩
  · -- The rules of the second part are some of those of the first.
    intro action member
    cases List.mem_append.mp member with
    | inl before => exact first.known action before
    | inr after => exact first.order.subset (second.known action after)
  · -- No rule is acted on in both parts.
    rw [List.map_append]
    refine first.once.append second.once ?_
    intro name before after
    obtain ⟨cancel, cancels, same⟩ := List.mem_map.mp before
    obtain ⟨rule, inside, rfl⟩ := List.mem_map.mp cancels
    obtain ⟨action, acts, rfl⟩ := List.mem_map.mp after
    exact apart action acts (same ▸ inside)
  · -- What is left at the end was left in between, and not cancelled since.
    intro name member
    rw [List.mem_append, not_or, ← first.gone name member]
    constructor
    · intro inside
      have middle := second.order.subset inside
      exact ⟨middle, (second.gone name middle).mp inside⟩
    · intro both
      exact (second.gone name both.1).mpr both.2

/-- A wait cancels some rules, and then does to the others what is reported about them. -/
theorem waitNextEvent_logged {table : ι → Rule σ ω} {rules left : List ι} {s next : σ}
    {poll : PollResult ω} {result : Result} (log : List (Action ι)) (distinct : rules.Nodup)
    (done : waitNextEvent table rules s poll = .ok (result, left, next)) :
    ∃ actions, waitNextEvent (logged table) rules (s, log) poll =
        .ok (result, left, next, log ++ actions) ∧ Acted rules actions left := by
  unfold waitNextEvent at done ⊢
  obtain ⟨⟨pollfds, mid⟩, settled, done⟩ := bind_eq_ok.mp done
  -- Setting up comes first, and its record too.
  obtain ⟨dropped, found, acted⟩ := setUp_logged log distinct settled
  rw [found, ok_bind]
  dsimp only at done ⊢
  by_cases idle : pollfds.all (fun pollfd => pollfd.2.isNone) = true
  · -- Nothing is polled for, so only the setting up has acted.
    rw [if_pos idle] at done ⊢
    simp only [pure_eq_ok, Except.ok.injEq, Prod.mk.injEq] at done
    obtain ⟨rfl, rfl, rfl⟩ := done
    exact ⟨_, rfl, acted⟩
  · rw [if_neg idle] at done ⊢
    cases poll with
    | timeout =>
      -- Nothing was reported in time.
      simp only [pure_eq_ok, Except.ok.injEq, Prod.mk.injEq] at done
      obtain ⟨rfl, rfl, rfl⟩ := done
      exact ⟨_, rfl, acted⟩
    | failed errno =>
      -- The poll has failed, so nothing was reported.
      simp only [pure_eq_ok, Except.ok.injEq, Prod.mk.injEq] at done
      obtain ⟨rfl, rfl, rfl⟩ := done
      exact ⟨_, rfl, acted⟩
    | ready answers =>
      -- The reports are gone through after the setting up.
      obtain ⟨⟨names, last⟩, served, done⟩ := bind_eq_ok.mp done
      simp only [pure_eq_ok, Except.ok.injEq, Prod.mk.injEq] at done
      obtain ⟨rfl, rfl, rfl⟩ := done
      obtain ⟨logs, reacted⟩ := serve_logged (log ++ dropped.map .cancelled)
        (distinct.sublist acted.order) served
      dsimp only
      rw [logs, ok_bind]
      exact ⟨_, by rw [List.append_assoc]; rfl, acted.trans reacted⟩

/-- One wait of a loop, which adds what it does to the record of the waits before it. -/
def recordedStep (table : ι → Rule σ ω) (loop : List ι × σ × List (List (Action ι)))
    (poll : PollResult ω) : Except Failure (List ι × σ × List (List (Action ι))) := do
  let (rules, s, actions) ← step (logged table) (loop.1, loop.2.1, []) poll
  return (rules, s, loop.2.2 ++ [actions])

/-- The record of a loop, wait by wait, and the rules that are left. -/
structure Lived (rules : List ι) (waits : List (List (Action ι))) (left : List ι) : Prop where
  /-- Only the rules that were added are acted on. -/
  known : ∀ action ∈ waits.flatten, action.name ∈ rules
  /-- The rules that are left keep their order. -/
  order : left.Sublist rules
  /-- They are those that were never cancelled. -/
  gone : ∀ name ∈ rules, name ∈ left ↔ Action.cancelled name ∉ waits.flatten
  /-- A cancelled rule is neither called nor cancelled again. -/
  final : waits.flatten.Pairwise fun earlier later =>
    ∀ name, earlier = .cancelled name → later.name ≠ name
  /-- In each wait a rule is called at most once, or else cancelled. -/
  once : ∀ actions ∈ waits, (actions.map Action.name).Nodup

/-- One more wait. -/
theorem Lived.wait {rules left last : List ι} {waits : List (List (Action ι))}
    {actions : List (Action ι)} (lived : Lived rules waits left)
    (acted : Acted left actions last) : Lived rules (waits ++ [actions]) last := by
  have flat : (waits ++ [actions]).flatten = waits.flatten ++ actions := by simp
  refine ⟨?_, acted.order.trans lived.order, ?_, ?_, ?_⟩
  · -- The action is from an earlier wait, or from this one.
    intro action member
    rw [flat] at member
    cases List.mem_append.mp member with
    | inl before => exact lived.known action before
    | inr now => exact lived.order.subset (acted.known action now)
  · -- A rule is left after this wait if it was left before, and is not cancelled now.
    intro name member
    rw [flat, List.mem_append, not_or, ← lived.gone name member]
    constructor
    · intro inside
      have alive := acted.order.subset inside
      exact ⟨alive, (acted.gone name alive).mp inside⟩
    · intro both
      exact (acted.gone name both.1).mpr both.2
  · rw [flat, List.pairwise_append]
    refine ⟨lived.final, ?_, ?_⟩
    · -- In one wait no two things are done to one rule.
      have distinct := acted.once
      rw [List.Nodup, List.pairwise_map] at distinct
      apply distinct.imp
      intro earlier later differ name same
      rw [same] at differ
      exact fun equal => differ equal.symm
    · -- What was cancelled before is not among the rules of this wait.
      intro earlier before later now name same equal
      subst same
      have alive := acted.known later now
      rw [equal] at alive
      exact (lived.gone name (lived.order.subset alive)).mp alive before
  · -- The waits are looked at one by one.
    intro some member
    cases List.mem_append.mp member with
    | inl before => exact lived.once some before
    | inr now =>
      rw [List.mem_singleton.mp now]
      exact acted.once

/-- Every rule is called at most once in a wait and cancelled at most once ever, and once it is
cancelled nothing more is done to it. -/
theorem rule_lifecycle (table : ι → Rule σ ω) (rules : List ι)
    (distinct : rules.Nodup) (start : σ) (polls : List (PollResult ω)) (left : List ι) (last : σ)
    (returned : runCalls (step table) (rules, start) polls = .ok (left, last)) :
    ∃ waits, runCalls (recordedStep table) (rules, start, []) polls = .ok (left, last, waits) ∧
      waits.length = polls.length ∧ Lived rules waits left := by
  -- From a loop that has already waited, the remaining waits extend its record.
  have general : ∀ (polls : List (PollResult ω)) (before : List ι) (s : σ)
      (waits : List (List (Action ι))), Lived rules waits before →
      runCalls (step table) (before, s) polls = .ok (left, last) →
      ∃ waits', runCalls (recordedStep table) (before, s, waits) polls = .ok (left, last, waits') ∧
        waits'.length = waits.length + polls.length ∧ Lived rules waits' left := by
    intro polls
    induction polls with
    | nil =>
      -- No wait is left.
      intro before s waits lived ran
      simp only [runCalls_nil, Except.ok.injEq, Prod.mk.injEq] at ran
      obtain ⟨rfl, rfl⟩ := ran
      exact ⟨waits, runCalls_nil _ _, rfl, lived⟩
    | cons poll polls ih =>
      -- One wait is recorded, and the others are added to it.
      intro before s waits lived ran
      obtain ⟨⟨mid, next⟩, stepped, ran⟩ := runCalls_cons_ok.mp ran
      unfold step at stepped
      obtain ⟨⟨result, names, state⟩, waited, done⟩ := bind_eq_ok.mp stepped
      simp only [pure_eq_ok, Except.ok.injEq, Prod.mk.injEq] at done
      obtain ⟨rfl, rfl⟩ := done
      obtain ⟨actions, logs, acted⟩ :=
        waitNextEvent_logged [] (distinct.sublist lived.order) waited
      obtain ⟨waits', logs', length, lived'⟩ := ih names state _ (lived.wait acted) ran
      refine ⟨waits', runCalls_cons_ok.mpr ⟨_, ?_, logs'⟩, ?_, lived'⟩
      · rw [recordedStep, step, logs]
        rfl
      · rw [length, List.length_append, List.length_singleton, List.length_cons]
        omega
  have fresh : Lived rules [] rules :=
    -- Before the first wait nothing was done to any rule.
    ⟨by simp, List.Sublist.refl _, by simp, List.Pairwise.nil, by simp⟩
  obtain ⟨waits, logs, length, lived⟩ := general polls rules start [] fresh returned
  exact ⟨waits, logs, by rw [length, List.length_nil, Nat.zero_add], lived⟩

/-- A reader that counts what it reads, and a writer that nobody listens to. -/
def readerAndWriter : Direction → Rule FileDescriptor Unit
  | .input => { fd := id, direction := .input, callback := fun _ fd => .ok fd.registerRead }
  | .output => { fd := id, direction := .output, callback := fun _ fd => .ok fd.registerWrite }

/-- The writer is cancelled when its reader hangs up, and the reader is still called. -/
theorem rule_lifecycle_hangup :
    ∃ waits, runCalls (recordedStep readerAndWriter) ([.input, .output], {}, [])
        [.ready [(⟨true, false, false, false⟩, ()), (⟨false, false, true, false⟩, ())],
          .ready [(⟨true, false, false, false⟩, ())]] =
        .ok ([.input], { readCount := 2 }, waits) ∧ waits.length = 2 ∧
      Lived [.input, .output] waits [.input] :=
  rule_lifecycle readerAndWriter [.input, .output] (by decide) {} _ _ _ rfl

end EventLoop

end Sponge
