import Sponge.Io.FileDescriptor
import Sponge.Lib.Runs

/-! An event loop: rules on file descriptors, which are called when `poll` finds them ready. -/

namespace Sponge

/-- What a rule wants to do with its file descriptor. -/
inductive Direction where
  /-- `Direction::In`: read it. -/
  | input
  /-- `Direction::Out`: write it. -/
  | output
deriving DecidableEq, Repr

/-- The conditions that `poll` reports about a file descriptor. -/
structure Revents where
  /-- `POLLIN`. -/
  pollIn : Bool := false
  /-- `POLLOUT`. -/
  pollOut : Bool := false
  /-- `POLLHUP`. -/
  pollHup : Bool := false
  /-- `POLLERR` or `POLLNVAL`. -/
  pollErr : Bool := false
deriving DecidableEq, Repr

/-- Whether an event is reported that was asked for. -/
def Revents.ready (revents : Revents) : Option Direction → Bool
  | none => false
  | some .input => revents.pollIn
  | some .output => revents.pollOut

/-- Whether a hangup is the only news about a descriptor that was asked about. -/
def Revents.defunct (revents : Revents) (events : Option Direction) : Bool :=
  revents.pollHup && events.isSome && !revents.ready events

/-- A rule over a program state. What the kernel answers during a callback is an argument of it. -/
structure Rule (σ ω : Type) where
  /-- The descriptor to monitor. -/
  fd : σ → FileDescriptor
  /-- What is to be done with it. -/
  direction : Direction
  /-- Called when the descriptor is ready. -/
  callback : ω → σ → Except Failure σ
  /-- Whether the descriptor should be polled. -/
  interest : σ → Bool := fun _ => true
  /-- Called when the rule is cancelled. -/
  cancel : σ → Except Failure σ := .ok

/-- How often the descriptor of a rule has been read or written, whichever the rule does. -/
def Rule.serviceCount {σ ω : Type} (rule : Rule σ ω) (s : σ) : UInt32 :=
  match rule.direction with
  | .input => (rule.fd s).readCount
  | .output => (rule.fd s).writeCount

/-- What `poll` returns. -/
inductive PollResult (ω : Type) where
  /-- No descriptor became ready in time. -/
  | timeout
  /-- The call failed. -/
  | failed (errno : Nat)
  /-- For each polled descriptor, what is reported, and what the kernel answers its callback. -/
  | ready (answers : List (Revents × ω))

namespace EventLoop

/-- What a wait returns. -/
inductive Result where
  /-- Some rule may have been triggered. -/
  | success
  /-- No rule was triggered in time. -/
  | timeout
  /-- There is nothing left to wait for. -/
  | exit
deriving DecidableEq, Repr

/-- The error code of a system call that was interrupted by a signal. -/
def eintr : Nat := 4

variable {ι σ ω : Type}

/-- Sets up the descriptors to poll, and cancels the rules that can never be ready again. -/
def setUp (table : ι → Rule σ ω) :
    List ι → σ → Except Failure (List (ι × Option Direction) × σ)
  | [], s => .ok ([], s)
  | name :: rest, s =>
    if ((table name).direction = .input ∧ ((table name).fd s).eof) ∨ ((table name).fd s).closed
    then do
      let s ← (table name).cancel s
      setUp table rest s
    else do
      -- A rule without interest is polled for nothing, but errors are still reported.
      let events := if (table name).interest s then some (table name).direction else none
      let (pollfds, s) ← setUp table rest s
      return ((name, events) :: pollfds, s)

/-- Handles what `poll` reports to one rule, and returns whether the rule is kept. -/
def serveOne (rule : Rule σ ω) (events : Option Direction) (revents : Revents) (answer : ω)
    (s : σ) : Except Failure (Bool × σ) :=
  if revents.pollErr then .error (.runtime "EventLoop: error on polled file descriptor")
  else if revents.defunct events then do
    let s ← rule.cancel s
    return (false, s)
  else if revents.ready events then do
    let next ← rule.callback answer s
    if rule.serviceCount s = rule.serviceCount next ∧ rule.interest next then
      .error (.runtime
        "EventLoop: busy wait detected: callback did not read/write fd and is still interested")
    else return (true, next)
  else return (true, s)

/-- Goes through the results of `poll`. -/
def serve (table : ι → Rule σ ω) :
    List (ι × Option Direction) → List (Revents × ω) → σ → Except Failure (List ι × σ)
  | [], _, s => .ok ([], s)
  -- Nothing is reported about the rest.
  | pollfd :: rest, [], s => .ok ((pollfd :: rest).map Prod.fst, s)
  | (name, events) :: rest, (revents, answer) :: answers, s => do
    let (kept, s) ← serveOne (table name) events revents answer s
    let (names, s) ← serve table rest answers s
    return (if kept then name :: names else names, s)

/-- Waits for the next event, and returns the rules that are left. -/
def waitNextEvent (table : ι → Rule σ ω) (rules : List ι) (s : σ) (poll : PollResult ω) :
    Except Failure (Result × List ι × σ) := do
  let (pollfds, s) ← setUp table rules s
  if pollfds.all fun pollfd => pollfd.2.isNone then return (.exit, pollfds.map Prod.fst, s)
  match poll with
  | .timeout => return (.timeout, pollfds.map Prod.fst, s)
  | .failed errno =>
    -- Every other error is caught as well, and then no event has been reported.
    return (if errno = eintr then .exit else .success, pollfds.map Prod.fst, s)
  | .ready answers => do
    let (names, s) ← serve table pollfds answers s
    return (.success, names, s)

/-- One wait of a loop that goes on waiting. -/
def step (table : ι → Rule σ ω) (loop : List ι × σ) (poll : PollResult ω) :
    Except Failure (List ι × σ) := do
  let (_, rules, s) ← waitNextEvent table loop.1 loop.2 poll
  return (rules, s)

end EventLoop

end Sponge
