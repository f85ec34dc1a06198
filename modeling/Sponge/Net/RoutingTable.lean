import Sponge.Lib.Runs
import Sponge.Net.Router

/-! Which route a router chooses, against the routes that were added to it. -/

namespace Sponge

namespace Route

/-- The high-order bits of an address that a prefix length counts. -/
def leading (length : UInt8) (addr : UInt32) : Nat := addr.toNat / 2 ^ (32 - length.toNat)

/-- A route applies to a destination when their leading bits agree. -/
def Matches (route : Route) (addr : UInt32) : Prop :=
  leading route.prefixLength addr = leading route.prefixLength route.routePrefix

instance (route : Route) (addr : UInt32) : Decidable (route.Matches addr) :=
  inferInstanceAs (Decidable (_ = _))

/-- The route that should be taken: of the longest matching ones, the one added last. -/
structure Best (routes : List Route) (addr : UInt32) (best : Route) : Prop where
  /-- The route applies. -/
  applies : best.Matches addr
  /-- No route added before it is longer, and every one added after it is shorter. -/
  longest : ∃ earlier later, routes = earlier ++ best :: later
    ∧ (∀ route ∈ earlier, route.Matches addr → route.prefixLength ≤ best.prefixLength)
    ∧ ∀ route ∈ later, route.Matches addr → route.prefixLength < best.prefixLength

/-- No route that applies is longer than the best. -/
theorem Best.le {routes : List Route} {addr : UInt32} {best route : Route}
    (isBest : Best routes addr best) (member : route ∈ routes) (applies : route.Matches addr) :
    route.prefixLength ≤ best.prefixLength := by
  obtain ⟨-, earlier, later, split, longer, shorter⟩ := isBest
  rw [split] at member
  -- The route was added before the best one, or is it, or was added after it.
  rcases List.mem_append.mp member with before | here
  · exact longer route before applies
  · rcases List.mem_cons.mp here with rfl | after
    · exact UInt8.le_refl _
    · exact UInt8.le_of_lt (shorter route after applies)

/-- The best route is one that was added. -/
theorem Best.mem {routes : List Route} {addr : UInt32} {best : Route}
    (isBest : Best routes addr best) : best ∈ routes := by
  obtain ⟨-, earlier, later, split, -, -⟩ := isBest
  rw [split]
  simp

/-- Some route is the best whenever one applies. -/
theorem exists_best {routes : List Route} {addr : UInt32}
    (routable : ∃ route ∈ routes, route.Matches addr) : ∃ best, Best routes addr best := by
  -- A route added last is the best unless the best so far is longer.
  induction routes using List.reverseRecOn with
  | nil => simp at routable
  | append_singleton routes route ih =>
    by_cases before : ∃ route ∈ routes, route.Matches addr
    · obtain ⟨best, isBest⟩ := ih before
      by_cases replaces : route.Matches addr ∧ best.prefixLength ≤ route.prefixLength
      · -- The new route is at least as long as all that apply.
        refine ⟨route, replaces.1, routes, [], rfl, fun other member matching => ?_, by simp⟩
        exact UInt8.le_trans (isBest.le member matching) replaces.2
      · -- The new route does not apply, or is shorter.
        obtain ⟨applies, earlier, later, split, longer, shorter⟩ := isBest
        refine ⟨best, applies, earlier, later ++ [route], by simp [split], longer, ?_⟩
        intro other member matching
        rcases List.mem_append.mp member with inside | inside
        · exact shorter other inside matching
        · obtain rfl := List.mem_singleton.mp inside
          exact UInt8.not_le.mp fun notShorter => replaces ⟨matching, notShorter⟩
    · -- Only the new route applies.
      obtain ⟨other, member, matching⟩ := routable
      rcases List.mem_append.mp member with inside | inside
      · exact absurd ⟨other, inside, matching⟩ before
      · obtain rfl := List.mem_singleton.mp inside
        exact ⟨other, matching, routes, [], rfl,
          fun route inside matching => absurd ⟨route, inside, matching⟩ before, by simp⟩

/-- Of two different places in the list, only one can hold the best route. -/
theorem Best.eq {routes : List Route} {addr : UInt32} {one other : Route}
    (first : Best routes addr one) (second : Best routes addr other) : one = other := by
  obtain ⟨applies, earlier, later, split, longer, shorter⟩ := first
  obtain ⟨applies', earlier', later', split', longer', shorter'⟩ := second
  rw [split] at split'
  -- The one that comes first is at least as long as the other, and shorter than it.
  rcases List.append_eq_append_iff.mp split' with ⟨between, front, back⟩ | ⟨between, front, back⟩
  · cases between with
    | nil => exact (List.cons.inj back).1
    | cons head between =>
      -- The first was added before the second.
      obtain ⟨rfl, rest⟩ := List.cons.inj back
      have below := shorter other (by simp [rest]) applies'
      have above := longer' one (by simp [front]) applies
      exact absurd above (UInt8.not_le.mpr below)
  · cases between with
    | nil => exact (List.cons.inj back).1.symm
    | cons head between =>
      -- The second was added before the first.
      obtain ⟨rfl, rest⟩ := List.cons.inj back
      have below := shorter' one (by simp [rest]) applies
      have above := longer other (by simp [front]) applies'
      exact absurd above (UInt8.not_le.mpr below)

/-- The last route added with a given prefix. -/
def latest (routes : List Route) (routePrefix : UInt32) : Option Route :=
  routes.reverse.find? fun route => route.routePrefix = routePrefix

/-- Adding a route makes it the last one of its prefix. -/
theorem latest_append (routes : List Route) (route : Route) (routePrefix : UInt32) :
    latest (routes ++ [route]) routePrefix
      = if route.routePrefix = routePrefix then some route else latest routes routePrefix := by
  -- The search starts at the route that was added last.
  rw [latest, List.reverse_append, List.reverse_singleton, List.singleton_append,
    List.find?_cons]
  by_cases same : route.routePrefix = routePrefix
  · simp [same]
  · simp [same, latest]

/-- After the last route of a prefix, no other of that prefix was added. -/
theorem latest_spec {routes : List Route} {routePrefix : UInt32} {route : Route}
    (found : latest routes routePrefix = some route) :
    route.routePrefix = routePrefix ∧ ∃ earlier later, routes = earlier ++ route :: later
      ∧ ∀ other ∈ later, other.routePrefix ≠ routePrefix := by
  -- The search runs backwards, so what it has passed was added later.
  obtain ⟨same, front, back, split, others⟩ := List.find?_eq_some_iff_append.mp found
  refine ⟨by simpa using same, back.reverse, front.reverse, ?_, ?_⟩
  · rw [← List.reverse_reverse routes, split]
    simp
  · intro other member
    simpa using others other (by simpa using member)

/-- The last route of a prefix is one that was added. -/
theorem mem_of_latest {routes : List Route} {routePrefix : UInt32} {route : Route}
    (found : latest routes routePrefix = some route) : route ∈ routes :=
  List.mem_reverse.mp (List.mem_of_find?_eq_some found)

/-- The last next hop that was added with a given prefix. -/
def gateway (routes : List Route) (routePrefix : UInt32) : Option UInt32 :=
  routes.reverse.findSome? fun route =>
    if route.routePrefix = routePrefix then route.nextHop else none

/-- A route without a next hop leaves the one that was added before. -/
theorem gateway_append (routes : List Route) (route : Route) (routePrefix : UInt32) :
    gateway (routes ++ [route]) routePrefix =
      ((if route.routePrefix = routePrefix then route.nextHop else none).or
        (gateway routes routePrefix)) := by
  rw [gateway, List.reverse_append, List.reverse_singleton, List.singleton_append,
    List.findSome?_cons]
  -- The search stops at the new route exactly if it has the prefix and a next hop.
  cases (if route.routePrefix = routePrefix then route.nextHop else none) with
  | none => rfl
  | some nextHop => rfl

/-- A route that no later one of its prefix has replaced applies, and no other such is longer. -/
structure Uppermost (routes : List Route) (addr : UInt32) (route : Route) : Prop where
  /-- The route was not replaced. -/
  current : latest routes route.routePrefix = some route
  /-- The route applies. -/
  applies : route.Matches addr
  /-- No other is longer. -/
  longest : ∀ other, latest routes other.routePrefix = some other → other.Matches addr →
    other.prefixLength ≤ route.prefixLength

/-- Every route that the tables may show for an address leads where the given one does. -/
structure Shown (routes : List Route) (addr : UInt32) (best : Route) : Prop where
  /-- The routes that were not replaced and are the longest to apply agree with it. -/
  agree : ∀ route, Uppermost routes addr route → route.interfaceNum = best.interfaceNum ∧
    (gateway routes route.routePrefix).getD addr = best.nextHop.getD addr
  /-- If there is none, the fallback of the code agrees with it. -/
  fallback : (∀ route, ¬ Uppermost routes addr route) →
    best.interfaceNum = 0 ∧ best.nextHop.getD addr = 2873314305

end Route

namespace Router

open Route

/-- The shifts of the code compare the leading bits. -/
theorem matches_iff {entry : LenEntry} (some : 1 ≤ entry.2.toNat) (word : entry.2.toNat ≤ 32)
    (addr : UInt32) :
    LenEntry.matches entry addr = true ↔ leading entry.2 addr = leading entry.2 entry.1 := by
  have shift : (UInt32.ofNat (32 - entry.2.toNat)).toNat % 32 = 32 - entry.2.toNat := by
    -- For these lengths the amount to shift by is below the size of a word.
    rw [UInt32.toNat_ofNat', Nat.mod_eq_of_lt (by omega), Nat.mod_eq_of_lt (by omega)]
  rw [LenEntry.matches]
  simp only [beq_iff_eq]
  rw [← UInt32.toNat_inj, UInt32.toNat_shiftRight, UInt32.toNat_shiftRight, shift,
    Nat.shiftRight_eq_div_pow, Nat.shiftRight_eq_div_pow, leading, leading]

/-- The scan ends with the longest match, or with what it started from if none is longer. -/
theorem foldl_consider (router : Router) (addr : UInt32) (entries : List LenEntry)
    (best : Choice) :
    entries.foldl (router.consider addr) best = best
        ∧ (∀ entry ∈ entries, LenEntry.matches entry addr = true →
          entry.2.toNat ≤ best.mLength.toNat)
      ∨ ∃ entry ∈ entries, LenEntry.matches entry addr = true
        ∧ best.mLength.toNat < entry.2.toNat
        ∧ entries.foldl (router.consider addr) best = router.chosen addr entry
        ∧ ∀ other ∈ entries, LenEntry.matches other addr = true →
          other.2.toNat ≤ entry.2.toNat := by
  -- The best so far only grows, so the start stays arbitrary.
  induction entries generalizing best with
  | nil => exact .inl ⟨rfl, by simp⟩
  | cons entry entries ih =>
    rw [List.foldl_cons]
    by_cases better : LenEntry.matches entry addr = true ∧ best.mLength < entry.2
    · -- The entry takes over, and something longer may follow it.
      have turn : router.consider addr best entry = router.chosen addr entry := if_pos better
      have longer := UInt8.lt_iff_toNat_lt.mp better.2
      rw [turn]
      rcases ih (router.chosen addr entry) with ⟨same, bound⟩ | ⟨later, member, applies, longest,
        result, bound⟩
      · refine .inr ⟨entry, by simp, better.1, longer, same, ?_⟩
        exact List.forall_mem_cons.mpr ⟨fun _ => le_rfl, bound⟩
      · have grown : entry.2.toNat < later.2.toNat := longest
        refine .inr ⟨later, by simp [member], applies, longer.trans grown, result, ?_⟩
        exact List.forall_mem_cons.mpr ⟨fun _ => grown.le, bound⟩
    · -- The entry is not better, so the best so far stays.
      have turn : router.consider addr best entry = best := if_neg better
      have here : LenEntry.matches entry addr = true → entry.2.toNat ≤ best.mLength.toNat := by
        intro applies
        by_contra longer
        exact better ⟨applies, UInt8.lt_iff_toNat_lt.mpr (Nat.not_le.mp longer)⟩
      rw [turn]
      rcases ih best with ⟨same, bound⟩ | ⟨later, member, applies, longest, result, bound⟩
      · exact .inl ⟨same, List.forall_mem_cons.mpr ⟨here, bound⟩⟩
      · refine .inr ⟨later, by simp [member], applies, longest, result, ?_⟩
        exact List.forall_mem_cons.mpr ⟨fun applied => (here applied).trans longest.le, bound⟩

end Router

/-- A router with the routes added to it so far. -/
structure RouterHistory where
  /-- The router. -/
  router : Router
  /-- The routes, first to last. -/
  added : List Route := []

namespace RouterHistory

open Route Router

/-- A router with some interfaces and no routes. -/
def start (interfaces : List AsyncNetworkInterface) : RouterHistory := ⟨{ interfaces }, []⟩

/-- Adds a route. -/
def step (history : RouterHistory) (route : Route) : Except Exception RouterHistory :=
  .ok ⟨history.router.addRoute route, history.added ++ [route]⟩

/-- The tables hold, for each prefix, the length and the interface of its last route, and the last
next hop. -/
structure Recorded (history : RouterHistory) : Prop where
  /-- The lengths. -/
  lens : ∀ routePrefix, history.router.lenMap.lookup routePrefix
    = (latest history.added routePrefix).map Route.prefixLength
  /-- The interfaces. -/
  itfs : ∀ routePrefix, history.router.itfMap.lookup routePrefix
    = (latest history.added routePrefix).map Route.interfaceNum
  /-- The gateways. -/
  hops : ∀ routePrefix, history.router.gwMap.lookup routePrefix
    = gateway history.added routePrefix

/-- An empty router has recorded nothing. -/
theorem recorded_start (interfaces : List AsyncNetworkInterface) :
    Recorded (start interfaces) :=
  ⟨fun _ => rfl, fun _ => rfl, fun _ => rfl⟩

/-- Adding a route records it. -/
theorem Recorded.addRoute {history : RouterHistory} (recorded : Recorded history)
    (route : Route) :
    Recorded ⟨history.router.addRoute route, history.added ++ [route]⟩ := by
  -- The tables are keyed by the prefix, and the new route is the latest for its own.
  refine ⟨fun routePrefix => ?_, fun routePrefix => ?_, fun routePrefix => ?_⟩
  · rw [latest_append, Router.addRoute, HashMap.lookup_insert, recorded.lens]
    by_cases same : routePrefix = route.routePrefix
    · simp [same]
    · simp [same, Ne.symm same]
  · rw [latest_append, Router.addRoute, HashMap.lookup_insert, recorded.itfs]
    by_cases same : routePrefix = route.routePrefix
    · simp [same]
    · simp [same, Ne.symm same]
  · rw [gateway_append, Router.addRoute]
    cases hop : route.nextHop with
    | none =>
      -- Without a next hop the table is not written.
      rw [ite_self, Option.none_or]
      exact recorded.hops routePrefix
    | some nextHop =>
      rw [HashMap.lookup_insert, recorded.hops]
      by_cases same : routePrefix = route.routePrefix
      · simp [same]
      · simp [same, Ne.symm same]

/-- Every entry of the table is that of the last route of its prefix. -/
theorem Recorded.exists_latest {history : RouterHistory} (recorded : Recorded history)
    {entry : LenEntry} (member : entry ∈ history.router.lenMap.entries) :
    ∃ route ∈ history.added, latest history.added route.routePrefix = some route ∧
      entry = ⟨route.routePrefix, route.prefixLength⟩ := by
  obtain ⟨routePrefix, length⟩ := entry
  -- An entry of the table is found under its key, which is the prefix.
  have found := AList.mem_lookup_iff.mpr member
  rw [Option.mem_def, recorded.lens] at found
  obtain ⟨route, last, rfl⟩ := Option.map_eq_some_iff.mp found
  obtain ⟨rfl, -⟩ := latest_spec last
  exact ⟨route, mem_of_latest last, last, rfl⟩

/-- The last route of a prefix has an entry, which leads to its interface and the last next hop. -/
theorem Recorded.chosen {history : RouterHistory} (recorded : Recorded history) {route : Route}
    (last : latest history.added route.routePrefix = some route) (addr : UInt32) :
    (⟨route.routePrefix, route.prefixLength⟩ : LenEntry) ∈ history.router.lenMap.entries ∧
      history.router.chosen addr ⟨route.routePrefix, route.prefixLength⟩ =
        ⟨route.prefixLength, route.interfaceNum,
          (gateway history.added route.routePrefix).getD addr⟩ := by
  constructor
  · -- The table of lengths has it.
    apply AList.mem_lookup_iff.mp
    rw [Option.mem_def, recorded.lens, last]
    rfl
  · -- The other two tables are asked with the same key.
    rw [Router.chosen, recorded.itfs, recorded.hops, last]
    rfl

section Scan

variable {history : RouterHistory} (recorded : Recorded history)
  (lengths : ∀ route ∈ history.added, 1 ≤ route.prefixLength.toNat
    ∧ route.prefixLength.toNat ≤ 32)

include lengths

/-- The entry of the last route of a prefix matches an address exactly if the route applies. -/
theorem matches_latest {route : Route}
    (last : latest history.added route.routePrefix = some route) (addr : UInt32) :
    LenEntry.matches ⟨route.routePrefix, route.prefixLength⟩ addr = true ↔ route.Matches addr :=
  Router.matches_iff (lengths route (mem_of_latest last)).1 (lengths route (mem_of_latest last)).2
    addr

include recorded

/-- The scan ends with one of the uppermost routes, and with the fallback if there is none. -/
theorem Recorded.choose_cases {order : List LenEntry}
    (scanned : order.Perm history.router.lenMap.entries) (addr : UInt32) :
    (∃ route, Uppermost history.added addr route ∧ history.router.choose order addr =
        ⟨route.prefixLength, route.interfaceNum,
          (gateway history.added route.routePrefix).getD addr⟩) ∨
      (∀ route, ¬ Uppermost history.added addr route) ∧ history.router.choose order addr = {} := by
  rcases foldl_consider history.router addr order {} with ⟨same, bound⟩ | ⟨entry, member, applies,
    -, result, bound⟩
  · -- An uppermost route would have an entry of positive length.
    refine .inr ⟨fun route uppermost => ?_, same⟩
    have inside := scanned.mem_iff.mpr (recorded.chosen uppermost.current addr).1
    have short := bound _ inside
      ((matches_latest lengths uppermost.current addr).mpr uppermost.applies)
    have positive := (lengths route (mem_of_latest uppermost.current)).1
    exact absurd positive (Nat.not_le.mpr (Nat.lt_succ_of_le short))
  · -- The entry that the scan ends with is that of an uppermost route.
    obtain ⟨route, -, last, rfl⟩ := recorded.exists_latest (scanned.mem_iff.mp member)
    refine .inl ⟨route, ⟨last, (matches_latest lengths last addr).mp applies, ?_⟩,
      result.trans (recorded.chosen last addr).2⟩
    intro other current matching
    exact UInt8.le_iff_toNat_le.mpr (bound _
      (scanned.mem_iff.mpr (recorded.chosen current addr).1)
      ((matches_latest lengths current addr).mpr matching))

/-- The scan ends with any given uppermost route if the table starts with it. -/
theorem Recorded.choose_first {addr : UInt32} {route : Route}
    (uppermost : Uppermost history.added addr route) :
    ∃ order, order.Perm history.router.lenMap.entries ∧ history.router.choose order addr =
      ⟨route.prefixLength, route.interfaceNum,
        (gateway history.added route.routePrefix).getD addr⟩ := by
  obtain ⟨member, chosen⟩ := recorded.chosen uppermost.current addr
  have applies := (matches_latest lengths uppermost.current addr).mpr uppermost.applies
  have positive := (lengths route (mem_of_latest uppermost.current)).1
  refine ⟨_, (List.perm_cons_erase member).symm, ?_⟩
  rw [Router.choose, List.foldl_cons, Router.consider,
    if_pos ⟨applies, UInt8.lt_iff_toNat_lt.mpr positive⟩]
  -- No entry behind it is longer.
  rcases foldl_consider history.router addr _ (history.router.chosen addr _) with ⟨same, -⟩ |
    ⟨entry, behind, matching, longer, -, -⟩
  · exact same.trans chosen
  · obtain ⟨other, -, last, rfl⟩ := recorded.exists_latest (List.mem_of_mem_erase behind)
    have bound := uppermost.longest other last ((matches_latest lengths last addr).mp matching)
    exact absurd (UInt8.le_iff_toNat_le.mp bound) (Nat.not_le.mpr longer)

/-- If the tables show no other route than the given one, every scan leads where it does. -/
theorem Recorded.choose_shown {order : List LenEntry}
    (scanned : order.Perm history.router.lenMap.entries) {addr : UInt32} {best : Route}
    (shown : Shown history.added addr best) :
    (history.router.choose order addr).itf = best.interfaceNum ∧
      (history.router.choose order addr).nextHop = best.nextHop.getD addr := by
  rcases recorded.choose_cases lengths scanned addr with ⟨route, uppermost, chosen⟩ |
    ⟨none, chosen⟩
  · -- The route that the scan ends with agrees with the given one.
    rw [chosen]
    exact shown.agree route uppermost
  · -- Nothing applies, and the fallback agrees with it.
    rw [chosen]
    exact ⟨(shown.fallback none).1.symm, (shown.fallback none).2.symm⟩

/-- If no route applies, every scan ends with the fallback. -/
theorem Recorded.choose_unmatched {order : List LenEntry}
    (scanned : order.Perm history.router.lenMap.entries) {addr : UInt32}
    (unmatched : ∀ route ∈ history.added, ¬ route.Matches addr) :
    history.router.choose order addr = {} := by
  rcases recorded.choose_cases lengths scanned addr with ⟨route, uppermost, -⟩ | ⟨-, chosen⟩
  · exact absurd uppermost.applies (unmatched route (mem_of_latest uppermost.current))
  · exact chosen

end Scan

/-- A route that no other with the same prefix or the same leading bits contradicts. -/
structure Distinct (history : RouterHistory) (route : Route) : Prop where
  /-- The prefix has no other length. -/
  length : ∀ length, history.router.lenMap.lookup route.routePrefix = some length →
    length = route.prefixLength
  /-- A route without a next hop does not replace one that has one. -/
  direct : route.nextHop = none → history.router.gwMap.lookup route.routePrefix = none
  /-- No other prefix of the same length has the same leading bits. -/
  bits : ∀ entry ∈ history.router.lenMap.entries, entry.2 = route.prefixLength →
    leading route.prefixLength entry.1 = leading route.prefixLength route.routePrefix →
    entry.1 = route.routePrefix

instance (history : RouterHistory) (route : Route) : Decidable (Distinct history route) :=
  decidable_of_iff
    ((history.router.lenMap.lookup route.routePrefix).all (· == route.prefixLength) = true
      ∧ (route.nextHop = none → history.router.gwMap.lookup route.routePrefix = none)
      ∧ history.router.lenMap.entries.all (fun entry => decide (entry.2 = route.prefixLength →
        leading route.prefixLength entry.1 = leading route.prefixLength route.routePrefix →
        entry.1 = route.routePrefix)) = true)
    ⟨fun ⟨length, direct, bits⟩ => ⟨fun other found => by simpa [found] using length, direct,
        fun entry member => of_decide_eq_true (List.all_eq_true.mp bits entry member)⟩,
      fun ⟨length, direct, bits⟩ => ⟨by simpa [Option.all_eq_true] using length, direct,
        List.all_eq_true.mpr fun entry member => decide_eq_true (bits entry member)⟩⟩

/-- The tables determine every route that was added. -/
structure Tabled (history : RouterHistory) : Prop extends Recorded history where
  /-- The gateways. -/
  gws : ∀ routePrefix, history.router.gwMap.lookup routePrefix
    = (latest history.added routePrefix).bind Route.nextHop
  /-- All routes of a prefix have its length. -/
  uniform : ∀ route ∈ history.added,
    history.router.lenMap.lookup route.routePrefix = some route.prefixLength
  /-- Prefixes of one length differ in their leading bits. -/
  separate : ∀ one other length, history.router.lenMap.lookup one = some length →
    history.router.lenMap.lookup other = some length →
    leading length one = leading length other → one = other

/-- Distinct routes keep the tables complete. -/
theorem Tabled.step {history : RouterHistory} (tabled : Tabled history) {route : Route}
    (distinct : Distinct history route) :
    ∃ next, history.step route = .ok next ∧ Tabled next := by
  refine ⟨_, rfl, tabled.toRecorded.addRoute route, ?_, ?_, ?_⟩
  · -- A route without a next hop leaves a table that had none for its prefix.
    intro routePrefix
    rw [latest_append, Router.addRoute]
    cases hop : route.nextHop with
    | none =>
      rw [tabled.gws]
      by_cases same : route.routePrefix = routePrefix
      · subst same
        -- The prefix had no gateway before, so the old table says so too.
        rw [if_pos rfl, ← tabled.gws, distinct.direct hop, Option.bind_some, hop]
      · rw [if_neg same]
    | some nextHop =>
      rw [HashMap.lookup_insert, tabled.gws]
      by_cases same : route.routePrefix = routePrefix
      · simp [same, hop]
      · simp [same, Ne.symm same]
  · -- A prefix that was added again has its old length.
    intro other member
    rw [Router.addRoute, HashMap.lookup_insert]
    rcases List.mem_append.mp member with old | new
    · have known := tabled.uniform other old
      by_cases same : other.routePrefix = route.routePrefix
      · rw [same] at known
        rw [if_pos same, distinct.length _ known]
      · rw [if_neg same, known]
    · rw [List.mem_singleton.mp new, if_pos rfl]
  · -- Only a pair with the new prefix needs the condition on the leading bits.
    intro one other length
    rw [Router.addRoute, HashMap.lookup_insert, HashMap.lookup_insert]
    by_cases first : one = route.routePrefix
    · by_cases second : other = route.routePrefix
      · exact fun _ _ _ => first.trans second.symm
      · rw [if_pos first, if_neg second]
        rintro ⟨rfl⟩ found bits
        have member := AList.mem_lookup_iff.mp (Option.mem_def.mpr found)
        rw [first] at bits ⊢
        exact (distinct.bits _ member rfl bits.symm).symm
    · by_cases second : other = route.routePrefix
      · rw [if_neg first, if_pos second]
        rintro found ⟨rfl⟩ bits
        have member := AList.mem_lookup_iff.mp (Option.mem_def.mpr found)
        rw [second] at bits ⊢
        exact distinct.bits _ member rfl bits
      · rw [if_neg first, if_neg second]
        exact tabled.separate one other length

/-- An empty router has nothing to hold. -/
theorem tabled_start (interfaces : List AsyncNetworkInterface) : Tabled (start interfaces) :=
  { recorded_start interfaces with
    gws := fun _ => rfl
    uniform := fun _ member => nomatch member
    separate := fun _ _ _ found => nomatch found }

/-- With complete tables, an uppermost route is the best of all that were added. -/
theorem Tabled.best {history : RouterHistory} (tabled : Tabled history) {addr : UInt32}
    {route : Route} (uppermost : Uppermost history.added addr route) :
    Best history.added addr route := by
  obtain ⟨-, earlier, later, split, others⟩ := latest_spec uppermost.current
  -- Every other route has the length of the last one of its prefix, which is not longer.
  have bound {other : Route} (member : other ∈ history.added) (matching : other.Matches addr) :
      other.prefixLength ≤ route.prefixLength := by
    have found := tabled.uniform other member
    rw [tabled.lens] at found
    obtain ⟨last, latest, length⟩ := Option.map_eq_some_iff.mp found
    obtain ⟨same, -⟩ := latest_spec latest
    rw [← length]
    refine uppermost.longest last (by rw [same]; exact latest) ?_
    rw [Matches, length, same]
    exact matching
  refine ⟨uppermost.applies, earlier, later, split, fun other before => ?_, fun other after => ?_⟩
  · -- A route added before is not longer.
    exact bound (by rw [split]; simp [before])
  · -- A route added after is shorter, or it would have the same prefix.
    intro matching
    have added : other ∈ history.added := by
      rw [split]
      simp [after]
    -- Equal length and equal leading bits would make the prefixes equal.
    refine UInt8.lt_of_le_of_ne (bound added matching) fun equal => ?_
    have known := tabled.uniform other added
    have leads : leading other.prefixLength addr
        = leading other.prefixLength other.routePrefix := matching
    rw [equal] at known leads
    have current := tabled.uniform route (mem_of_latest uppermost.current)
    exact others other after
      (tabled.separate _ _ _ known current (leads.symm.trans uppermost.applies))

/-- With complete tables, every route that the tables may show leads where the best one does. -/
theorem Tabled.shown {history : RouterHistory} (tabled : Tabled history) {addr : UInt32}
    {best : Route} (isBest : Best history.added addr best) : Shown history.added addr best := by
  refine ⟨fun route uppermost => ?_, fun none => ?_⟩
  · -- There is only one best route, and its gateway is the last of its prefix.
    obtain rfl := (tabled.best uppermost).eq isBest
    rw [← tabled.hops, tabled.gws, uppermost.current, Option.bind_some]
    exact ⟨rfl, rfl⟩
  · -- The last route with the prefix of the best one has its length, and so it is uppermost.
    have found := tabled.uniform best isBest.mem
    rw [tabled.lens] at found
    obtain ⟨last, latest, length⟩ := Option.map_eq_some_iff.mp found
    obtain ⟨same, -⟩ := latest_spec latest
    refine absurd ⟨by rw [same]; exact latest, ?_, fun other current matching => ?_⟩ (none last)
    · rw [Matches, length, same]
      exact isBest.applies
    · rw [length]
      exact isBest.le (mem_of_latest current) matching

/-- The router after some routes were added to one without routes. -/
def built (interfaces : List AsyncNetworkInterface) (routes : List Route) : Router :=
  routes.foldl Router.addRoute { interfaces }

/-- Adding routes never fails. -/
theorem runCalls_step (history : RouterHistory) (routes : List Route) :
    runCalls step history routes
      = .ok ⟨routes.foldl Router.addRoute history.router, history.added ++ routes⟩ := by
  -- Each addition returns at once.
  induction routes generalizing history with
  | nil => rw [runCalls_nil, List.append_nil]; rfl
  | cons route routes ih =>
    rw [runCalls_cons_ok]
    exact ⟨_, rfl, by rw [ih, List.append_assoc]; rfl⟩

/-- The tables of a router record the routes it was built from. -/
theorem recorded_built (interfaces : List AsyncNetworkInterface) (routes : List Route) :
    Recorded ⟨built interfaces routes, routes⟩ := by
  -- Building is a run of additions that never fails.
  have along : Throughout step (fun _ _ => True) (start interfaces) routes :=
    Throughout.of_forall routes (start interfaces) fun _ _ => trivial
  obtain ⟨last, ran, recorded⟩ := along.returns Recorded
    (fun history route recorded _ =>
      show ∃ next, history.step route = .ok next ∧ Recorded next from
        ⟨_, rfl, recorded.addRoute route⟩)
    (recorded_start interfaces)
  rw [runCalls_step, Except.ok.injEq] at ran
  subst ran
  exact recorded

/-- Adding routes leaves the interfaces. -/
theorem built_interfaces (interfaces : List AsyncNetworkInterface) (routes : List Route) :
    (built interfaces routes).interfaces = interfaces := by
  have kept : ∀ router : Router, (routes.foldl addRoute router).interfaces = router.interfaces := by
    intro router
    -- An addition changes the three tables only.
    induction routes generalizing router with
    | nil => rfl
    | cons route routes ih => exact ih (router.addRoute route)
  exact kept { interfaces }

/-- If no route contradicts another, the tables show the best one. -/
theorem shown_of_distinct {interfaces : List AsyncNetworkInterface} {routes : List Route}
    (distinct : Throughout step Distinct (start interfaces) routes) {addr : UInt32} {best : Route}
    (isBest : Best routes addr best) : Shown routes addr best := by
  -- The tables stay complete while the routes are added.
  obtain ⟨last, ran, tabled⟩ := distinct.returns Tabled
    (fun _ _ tabled distinct => tabled.step distinct) (tabled_start interfaces)
  rw [runCalls_step, Except.ok.injEq] at ran
  subst ran
  exact tabled.shown isBest

/-- Routing a datagram is one call of `send_datagram`, on the interface of the given route and with
its next hop, or the destination; of the datagram only the time to live changes. -/
structure HandedTo (router : Router) (order : List LenEntry) (dgram : IPv4Datagram)
    (route : Route) : Prop where
  /-- The call. -/
  called : router.sendCalls order dgram =
    [{ itf := route.interfaceNum
       dgram := { dgram with header := { dgram.header with ttl := dgram.header.ttl - 1 } }
       nextHop := route.nextHop.getD dgram.header.dst }]
  /-- What it does to the datagram, to the interface and to nothing else, and how it ends. -/
  done : ∀ call ∈ router.sendCalls order dgram, ∀ async ∈ router.interfaces[call.itf]?,
    router.routeOneDatagram order dgram =
      (call.dgram,
        { router with interfaces := router.interfaces.set call.itf { async with
            interface := (async.interface.sendDatagram call.dgram call.nextHop).1 } },
        (async.interface.sendDatagram call.dgram call.nextHop).2)

/-- A datagram with time left is handed to a route exactly if the scan ends with its interface and
its next hop. -/
theorem handedTo_iff {router : Router} {order : List LenEntry} {dgram : IPv4Datagram}
    (alive : 2 ≤ dgram.header.ttl.toNat) {route : Route}
    (inside : route.interfaceNum < router.interfaces.length) :
    HandedTo router order dgram route ↔
      (router.choose order dgram.header.dst).itf = route.interfaceNum ∧
        (router.choose order dgram.header.dst).nextHop = route.nextHop.getD dgram.header.dst := by
  constructor
  · -- The call names both.
    intro handed
    have called := handed.called
    rw [sendCalls_alive router order alive] at called
    split at called
    · simp only [List.cons.injEq, SendCall.mk.injEq] at called
      exact ⟨called.1.1, called.1.2.2⟩
    · -- Without the interface there is no call.
      cases called
  · -- The choice determines the call, and the call what happens.
    rintro ⟨itf, nextHop⟩
    have called := sendCalls_alive router order alive
    rw [itf, if_pos inside, nextHop] at called
    refine ⟨called, ?_⟩
    rw [called, routeOneDatagram_alive router order alive, itf, nextHop]
    intro call member async held
    obtain rfl := List.mem_singleton.mp member
    rw [forward_inside router held]

/-- Among distinct routes, every datagram takes the longest match, the last one added, whatever the
order of the table; and in general exactly if the tables show no other route for it. -/
theorem routes_longest_match (interfaces : List AsyncNetworkInterface) {routes : List Route}
    (lengths : ∀ route ∈ routes, 1 ≤ route.prefixLength.toNat ∧ route.prefixLength.toNat ≤ 32)
    (existing : ∀ route ∈ routes, route.interfaceNum < interfaces.length)
    {dgram : IPv4Datagram} (alive : 2 ≤ dgram.header.ttl.toNat)
    (routable : ∃ route ∈ routes, route.Matches dgram.header.dst) :
    ∃ best, Best routes dgram.header.dst best ∧
      (Throughout step Distinct (start interfaces) routes →
        ∀ order, order.Perm (built interfaces routes).lenMap.entries →
          HandedTo (built interfaces routes) order dgram best) ∧
      ((∀ order, order.Perm (built interfaces routes).lenMap.entries →
          HandedTo (built interfaces routes) order dgram best) ↔
        Shown routes dgram.header.dst best) := by
  obtain ⟨best, isBest⟩ := exists_best routable
  have recorded := recorded_built interfaces routes
  have inside : best.interfaceNum < (built interfaces routes).interfaces.length := by
    rw [built_interfaces]
    exact existing best isBest.mem
  -- What the scan may end with are the uppermost routes, each for some order, or the fallback.
  have exactly : (∀ order, order.Perm (built interfaces routes).lenMap.entries →
      HandedTo (built interfaces routes) order dgram best) ↔
        Shown routes dgram.header.dst best := by
    constructor
    · -- An order that begins with an uppermost route makes the scan end with it.
      intro handed
      refine ⟨fun route uppermost => ?_, fun none => ?_⟩
      · obtain ⟨order, scanned, chosen⟩ := recorded.choose_first lengths uppermost
        have same := (handedTo_iff alive inside).mp (handed order scanned)
        rwa [chosen] at same
      · -- Without an uppermost route every scan ends with the fallback.
        rcases recorded.choose_cases lengths (.refl _) dgram.header.dst with ⟨route, uppermost, -⟩ |
          ⟨-, chosen⟩
        · exact absurd uppermost (none route)
        · have same := (handedTo_iff alive inside).mp (handed _ (.refl _))
          rw [chosen] at same
          exact ⟨same.1.symm, same.2.symm⟩
    · -- Every scan ends with an uppermost route, all of which agree with the best.
      intro shown order scanned
      rw [handedTo_iff alive inside]
      exact recorded.choose_shown lengths scanned shown
  exact ⟨best, isBest, fun distinct => exactly.mpr (shown_of_distinct distinct isBest), exactly⟩

namespace Scenario

/-- An interface of the router in the scenarios. -/
def port (number : UInt8) : AsyncNetworkInterface :=
  ⟨{ ethernetAddress := ⟨[2, 0, 0, 0, 0, number], rfl⟩, ipAddress := 0xc0a80000 }, []⟩

/-- A datagram to 10.1.2.3. -/
def dgram : IPv4Datagram := ⟨{ len := 20, ttl := 64, dst := 0x0a010203 }, {}⟩

/-- A network, and a smaller one inside it behind a gateway. -/
def nested : List Route := [⟨0x0a000000, 8, none, 0⟩, ⟨0x0a010000, 16, some 0xc0a80101, 1⟩]

/-- A network, and a smaller one that starts at the same address. -/
def shadowed : List Route := [⟨0x0a000000, 8, none, 1⟩, ⟨0x0a000000, 16, none, 2⟩]

/-- The router of the scenarios. -/
def site (routes : List Route) : Router := built [port 1, port 2, port 3] routes

end Scenario

open Scenario

/-- A datagram for the smaller of two nested networks takes its route. -/
theorem routes_longest_match_nested :
    Throughout step Distinct (start [port 1, port 2, port 3]) nested
      ∧ ∃ best, Best nested dgram.header.dst best
        ∧ HandedTo (site nested) (site nested).lenMap.entries dgram best := by
  have distinct : Throughout step Distinct (start [port 1, port 2, port 3]) nested := by
    decide +kernel
  have lengths : ∀ route ∈ nested,
      1 ≤ route.prefixLength.toNat ∧ route.prefixLength.toNat ≤ 32 := by
    decide +kernel
  have alive : 2 ≤ dgram.header.ttl.toNat := by decide +kernel
  have routable : ∃ route ∈ nested, route.Matches dgram.header.dst := by decide +kernel
  obtain ⟨best, isBest, handed, -⟩ := routes_longest_match [port 1, port 2, port 3] lengths
    (by decide) alive routable
  exact ⟨distinct, best, isBest, handed distinct _ (.refl _)⟩

/-- A longer route replaces a shorter one of the same prefix, which then matches nothing. -/
theorem shadowed_unmatched :
    (∃ best, Best shadowed dgram.header.dst best ∧ best.interfaceNum = 1)
      ∧ ((site shadowed).routeOneDatagram (site shadowed).lenMap.entries dgram).2.1.interfaces.map
        (fun async => async.interface.framesOut.length) = [1, 0, 0] := by
  have applies : Route.Matches ⟨0x0a000000, 8, none, 1⟩ dgram.header.dst := by decide +kernel
  have other : ¬ Route.Matches ⟨0x0a000000, 16, none, 2⟩ dgram.header.dst := by decide +kernel
  refine ⟨⟨_, ⟨applies, [], [⟨0x0a000000, 16, none, 2⟩], rfl, by simp, ?_⟩, rfl⟩,
    by decide +kernel⟩
  exact List.forall_mem_singleton.mpr fun matching => absurd matching other

end RouterHistory

end Sponge
