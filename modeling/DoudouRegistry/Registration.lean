import DoudouRegistry.Membership

/-!
# Registering a service provider while the membership changes

`RegisterServiceProvider(sp)` takes the snapshot `mlist.Members()`, hands every
node of it to `sp` with `AddNode`, and only then appends `sp` to
`events.ServiceProviders`. Nothing holds the table meanwhile, so each of these
is a step of its own here, and membership events may run between any two of
them. An event reaches only the providers subscribed when it runs.

When no event runs while the call is under way, `sp` holds the live table once
every step has run, and goes on holding it whatever events follow
(`registration_uninterrupted_tracks_table`). An event that runs between the
snapshot and the append is lost for `sp`: a node joining then is never handed
over (`join_during_registration_is_lost`), whatever events about other nodes
follow (`join_in_window_lost`).
-/

namespace DoudouRegistry.Registration

open Membership

/-- How far the call `RegisterServiceProvider(sp)` has got. -/
inductive Progress
  | start
  | seeding (pending : List Node)
  | done
  deriving DecidableEq, Repr

/-- The registry's side of the cluster: the live table of `mlist`,
`events.ServiceProviders`, and what every provider holds. -/
structure Cluster where
  table : Table
  serviceProviders : List Nat
  holds : Nat → View

/-- The cluster together with the call under way. -/
structure State where
  cluster : Cluster
  progress : Progress

/-- A step of an interleaving: the call's next step, or a membership event. -/
inductive Step
  | register
  | event (e : MembershipEvent)

/-- `AddNode` for every node of a snapshot, in order, on what `sp` holds. -/
def handOver (nodes : List Node) (v : View) : View :=
  nodes.foldl (fun v node => v.receive .addNode node) v

/-- A membership event on the cluster: an edge of the table, passed on to the
subscribed providers. -/
def Cluster.apply (c : Cluster) (e : MembershipEvent) : Option Cluster :=
  (c.table.apply e).map fun t =>
    { c with table := t, holds := notify e c.serviceProviders c.holds }

/-- The next step of `RegisterServiceProvider(sp)`: the snapshot, one `AddNode`
per node of it, then the append; a finished call takes no step. -/
def advance (sp : Nat) (s : State) : Option State :=
  match s.progress with
  | .start => some { s with progress := .seeding s.cluster.table.nodes }
  | .seeding (node :: pending) =>
    some { cluster := { s.cluster with
              holds := Function.update s.cluster.holds sp
                ((s.cluster.holds sp).receive .addNode node) },
           progress := .seeding pending }
  | .seeding [] =>
    some { cluster := { s.cluster with serviceProviders := s.cluster.serviceProviders ++ [sp] },
           progress := .done }
  | .done => none

/-- One step of an interleaving. -/
def step (sp : Nat) (s : State) : Step → Option State
  | .register => advance sp s
  | .event e => (s.cluster.apply e).map fun c => { s with cluster := c }

/-- An interleaving, step after step; `none` once a step cannot be taken. -/
def run (sp : Nat) : State → List Step → Option State
  | s, [] => some s
  | s, x :: xs => (step sp s x).bind fun s' => run sp s' xs

/-- An empty interleaving leaves the state as it was. -/
@[simp] theorem run_nil (sp : Nat) (s : State) : run sp s [] = some s := rfl

/-- An interleaving runs its first step, then the rest from there. -/
theorem run_cons (sp : Nat) (s : State) (x : Step) (xs : List Step) :
    run sp s (x :: xs) = (step sp s x).bind fun s' => run sp s' xs := rfl

/-- The first step of the call takes the snapshot of the live table. -/
theorem advance_start (sp : Nat) (c : Cluster) :
    advance sp ⟨c, .start⟩ = some ⟨c, .seeding c.table.nodes⟩ := rfl

/-- A step of the loop hands the next node of the snapshot to `sp`. -/
theorem advance_seeding_cons (sp : Nat) (c : Cluster) (node : Node) (pending : List Node) :
    advance sp ⟨c, .seeding (node :: pending)⟩ =
      some ⟨{ c with holds := Function.update c.holds sp ((c.holds sp).receive .addNode node) },
        .seeding pending⟩ := rfl

/-- Once the snapshot is handed over, the call appends `sp` to the subscriptions. -/
theorem advance_seeding_nil (sp : Nat) (c : Cluster) :
    advance sp ⟨c, .seeding []⟩ =
      some ⟨{ c with serviceProviders := c.serviceProviders ++ [sp] }, .done⟩ := rfl

/-- Two interleavings one after the other run as their concatenation. -/
theorem run_append (sp : Nat) (s : State) (xs ys : List Step) :
    run sp s (xs ++ ys) = (run sp s xs).bind fun s' => run sp s' ys := by
  induction xs generalizing s with
  | nil => rfl
  | cons x xs ih =>
    simp only [List.cons_append, run]
    cases step sp s x with
    | none => rfl
    | some s' => exact ih s'

/-- A provider that is about to be registered: the call has not started, the
provider is not subscribed and holds nothing. -/
structure Fresh (sp : Nat) (s : State) : Prop where
  start : s.progress = .start
  unsubscribed : sp ∉ s.cluster.serviceProviders
  empty : s.cluster.holds sp = View.empty

/-! ## Events before the call and after it -/

/-- An event leaves the call where it was. -/
theorem step_event {sp : Nat} {s s' : State} {e : MembershipEvent}
    (stepped : step sp s (.event e) = some s') : s'.progress = s.progress ∧
      s'.cluster.serviceProviders = s.cluster.serviceProviders ∧
      ∃ t, s.cluster.table.apply e = some t ∧ s'.cluster.table = t ∧
        s'.cluster.holds = notify e s.cluster.serviceProviders s.cluster.holds := by
  simp only [step, Cluster.apply, Option.map_map] at stepped
  obtain ⟨t, applied, rfl⟩ := Option.map_eq_some'.mp stepped
  exact ⟨rfl, rfl, t, applied, rfl, rfl⟩

/-- Events leave the call where it was and the subscriptions as they were. -/
theorem run_events_progress {sp : Nat} {s s' : State} {events : List MembershipEvent}
    (ran : run sp s (events.map .event) = some s') :
    s'.progress = s.progress ∧ s'.cluster.serviceProviders = s.cluster.serviceProviders := by
  induction events generalizing s with
  | nil => cases ran; exact ⟨rfl, rfl⟩
  | cons e rest ih =>
    obtain ⟨s₁, stepped, ran⟩ := Option.bind_eq_some.mp ran
    obtain ⟨progress, providers, -⟩ := step_event stepped
    obtain ⟨progress', providers'⟩ := ih ran
    exact ⟨progress'.trans progress, providers'.trans providers⟩

/-- Events never reach a provider that is not subscribed. -/
theorem run_events_unsubscribed {sp : Nat} {s s' : State} {events : List MembershipEvent}
    (ran : run sp s (events.map .event) = some s') (unsubscribed : sp ∉ s.cluster.serviceProviders) :
    s'.cluster.holds sp = s.cluster.holds sp := by
  induction events generalizing s with
  | nil => cases ran; rfl
  | cons e rest ih =>
    obtain ⟨s₁, stepped, ran⟩ := Option.bind_eq_some.mp ran
    obtain ⟨-, providers, t, -, -, holds⟩ := step_event stepped
    rw [ih ran (providers ▸ unsubscribed), holds, notify_apply, if_neg unsubscribed]

/-- Once subscribed and holding the live table, a provider goes on holding it
along any events: none is lost and none is applied twice. -/
theorem run_events_subscribed {sp : Nat} {s s' : State} {events : List MembershipEvent}
    (ran : run sp s (events.map .event) = some s') (subscribed : sp ∈ s.cluster.serviceProviders)
    (tracking : s.cluster.holds sp = s.cluster.table.lookup) :
    s'.cluster.holds sp = s'.cluster.table.lookup := by
  induction events generalizing s with
  | nil => cases ran; exact tracking
  | cons e rest ih =>
    obtain ⟨s₁, stepped, ran⟩ := Option.bind_eq_some.mp ran
    obtain ⟨-, providers, t, applied, table, holds⟩ := step_event stepped
    apply ih ran (providers ▸ subscribed)
    rw [holds, notify_apply, if_pos subscribed, tracking, table, lookup_apply applied]

/-- Events that concern other names change neither what a provider holds for a
name nor the table's node of that name. -/
theorem run_events_untouched {sp : Nat} {s s' : State} {events : List MembershipEvent}
    {name : String} (ran : run sp s (events.map .event) = some s')
    (untouched : ∀ e ∈ events, e.node.name ≠ name) :
    s'.cluster.holds sp name = s.cluster.holds sp name ∧
      s'.cluster.table.lookup name = s.cluster.table.lookup name := by
  induction events generalizing s with
  | nil => cases ran; exact ⟨rfl, rfl⟩
  | cons e rest ih =>
    obtain ⟨s₁, stepped, ran⟩ := Option.bind_eq_some.mp ran
    obtain ⟨-, -, t, applied, table, holds⟩ := step_event stepped
    have other := untouched e (List.mem_cons_self e rest)
    obtain ⟨held, looked⟩ := ih ran fun e' later => untouched e' (List.mem_cons_of_mem e later)
    refine ⟨held.trans ?_, looked.trans ?_⟩
    · rw [holds, notify_apply]
      split_ifs <;> simp [other]
    · rw [table, lookup_apply applied, View.receive_other _ _ other]

/-! ## The call without interruption -/

/-- Handing over nodes of distinct names gives each of them, and leaves every
other name as it was. -/
theorem handOver_apply (nodes : List Node) (unique : (nodes.map Node.name).Nodup) (v : View)
    (name : String) : handOver nodes v name = (nodes.find? (·.name == name)).or (v name) := by
  induction nodes generalizing v with
  | nil => rfl
  | cons m rest ih =>
    rw [List.map_cons, List.nodup_cons] at unique
    simp only [handOver, List.foldl_cons] at ih ⊢
    rw [ih unique.2]
    by_cases same : m.name = name
    · subst same
      have absent : rest.find? (·.name == m.name) = none :=
        List.find?_eq_none.mpr fun x member named =>
          unique.1 (List.mem_map.mpr ⟨x, member, by simpa using named⟩)
      simp [View.receive, absent]
    · simp [View.receive, same, Function.update_noteq (Ne.symm same)]

/-- Handing over the nodes of a table, whose names are distinct, to a provider
that holds nothing leaves it holding that table. -/
theorem handOver_empty (t : Table) : handOver t.nodes View.empty = t.lookup := by
  funext name
  simp [handOver_apply t.nodes t.unique, View.empty, Table.lookup]

/-- The rest of the call from its loop, with no event in between: every pending
node handed over, then the append. -/
theorem run_seeding (sp : Nat) (c : Cluster) (pending : List Node) :
    run sp ⟨c, .seeding pending⟩ (List.replicate (pending.length + 1) .register) =
      some ⟨{ c with holds := Function.update c.holds sp (handOver pending (c.holds sp)),
                     serviceProviders := c.serviceProviders ++ [sp] }, .done⟩ := by
  induction pending generalizing c with
  | nil => simp [run_cons, step, advance_seeding_nil, handOver]
  | cons node rest ih =>
    rw [List.length_cons, List.replicate_succ, run_cons, step, advance_seeding_cons,
      Option.some_bind, ih]
    simp [handOver]

/-- `RegisterServiceProvider(sp)` run with no event in between: the snapshot
handed over, then the subscription. -/
theorem run_register (sp : Nat) (c : Cluster) :
    run sp ⟨c, .start⟩ (List.replicate (c.table.nodes.length + 2) .register) =
      some ⟨{ c with holds := Function.update c.holds sp (handOver c.table.nodes (c.holds sp)),
                     serviceProviders := c.serviceProviders ++ [sp] }, .done⟩ := by
  rw [List.replicate_succ, run_cons, step, advance_start, Option.some_bind, run_seeding]

/-- A run of the loop of the call that finishes took exactly its steps: every
pending node handed over, then the append. -/
theorem run_seeding_finished {sp : Nat} {c : Cluster} {pending : List Node} {k : Nat} {s : State}
    (ran : run sp ⟨c, .seeding pending⟩ (List.replicate k .register) = some s)
    (finished : s.progress = .done) :
    s = ⟨{ c with holds := Function.update c.holds sp (handOver pending (c.holds sp)),
                  serviceProviders := c.serviceProviders ++ [sp] }, .done⟩ := by
  induction pending generalizing c k with
  | nil =>
    rcases k with _ | _ | k
    · cases ran; cases finished
    · rw [List.replicate_one, run_cons, step, advance_seeding_nil, Option.some_bind, run_nil,
        Option.some.injEq] at ran
      simp [← ran, handOver]
    · simp [List.replicate_succ, run_cons, step, advance_seeding_nil, advance] at ran
  | cons node rest ih =>
    rcases k with _ | k
    · cases ran; cases finished
    · rw [List.replicate_succ, run_cons, step, advance_seeding_cons, Option.some_bind] at ran
      rw [ih ran]
      simp [handOver]

/-- Every interleaving in which no membership event runs while the call is under
way, that is between the snapshot and the append: once every step has run, `sp`
holds exactly the live table. -/
theorem registration_uninterrupted_tracks_table (sp : Nat) (s₀ s : State)
    (before after : List MembershipEvent) (k : Nat) (fresh : Fresh sp s₀)
    (ran : run sp s₀ (before.map .event ++ List.replicate k .register ++ after.map .event) = some s)
    (finished : s.progress = .done) :
    s.cluster.holds sp = s.cluster.table.lookup := by
  rw [run_append, run_append] at ran
  obtain ⟨s₂, call, ran⟩ := Option.bind_eq_some.mp ran
  obtain ⟨s₁, pre, call⟩ := Option.bind_eq_some.mp call
  obtain ⟨progress₁, providers₁⟩ := run_events_progress pre
  have held₁ := run_events_unsubscribed pre fresh.unsubscribed
  obtain ⟨progress₃, -⟩ := run_events_progress ran
  obtain ⟨c₁, _⟩ := s₁
  simp only [fresh.start] at progress₁
  subst progress₁
  rcases k with _ | k
  · cases call
    rw [finished] at progress₃
    cases progress₃
  · rw [List.replicate_succ, run_cons, step, advance_start, Option.some_bind] at call
    have seeded := run_seeding_finished call (progress₃.symm.trans finished)
    subst seeded
    apply run_events_subscribed ran (by simp)
    simp only [Function.update_same]
    rw [held₁, fresh.empty, handOver_empty]

/-- A node of the cluster in the interleavings below. -/
def nodeA : Node := ⟨"a", "10.0.0.1", 7946, [], .alive⟩

/-- A node that joins the cluster in the interleavings below. -/
def nodeX : Node := ⟨"x", "10.0.0.2", 7946, [], .alive⟩

/-- A cluster of `nodeA` with no provider subscribed, and the call not started. -/
def beforeRegistration : State := ⟨⟨⟨[nodeA], by decide⟩, [], fun _ => View.empty⟩, .start⟩

/-- `nodeX` joins after the call has finished: the provider holds it. -/
theorem join_after_registration_tracked :
    ∃ s, Fresh 0 beforeRegistration ∧
      run 0 beforeRegistration ([].map .event ++ List.replicate 3 .register ++ [.join nodeX].map .event) =
        some s ∧ s.progress = .done ∧ s.cluster.holds 0 = s.cluster.table.lookup :=
  have fresh : Fresh 0 beforeRegistration := ⟨rfl, by decide, rfl⟩
  ⟨_, fresh, rfl, rfl,
    registration_uninterrupted_tracks_table 0 beforeRegistration _ [] [.join nodeX] 3 fresh rfl rfl⟩

/-- `nodeX` joins right after the snapshot: the call finishes, and the provider
never holds `nodeX`, which is live. -/
theorem join_during_registration_is_lost :
    ∃ s, run 0 beforeRegistration [.register, .event (.join nodeX), .register, .register] = some s ∧
      s.progress = .done ∧ s.cluster.holds 0 "x" = none ∧ s.cluster.table.lookup "x" = some nodeX :=
  ⟨_, rfl, rfl, rfl, rfl⟩

/-- A node that joins right after the snapshot, while the call hands the
snapshot over, is lost for the provider: once the call has finished, and along
any later events about other nodes, the table has the node and the provider
holds for its name what it held before the call. -/
theorem join_in_window_lost (sp : Nat) (c : Cluster) (x : Node) (after : List MembershipEvent)
    (s : State) (unsubscribed : sp ∉ c.serviceProviders) (absent : ¬ c.table.Live x.name)
    (untouched : ∀ e ∈ after, e.node.name ≠ x.name)
    (ran : run sp ⟨c, .start⟩ (.register :: .event (.join x) ::
      List.replicate (c.table.nodes.length + 1) .register ++ after.map .event) = some s) :
    s.progress = .done ∧ s.cluster.table.lookup x.name = some x ∧
      s.cluster.holds sp x.name = c.holds sp x.name := by
  have unseen : c.table.nodes.find? (·.name == x.name) = none := by
    simpa [Table.lookup, ← Table.lookup_isSome_iff] using absent
  rw [List.cons_append, List.cons_append, run_cons, step, advance_start, Option.some_bind,
    run_cons] at ran
  simp only [step, Cluster.apply, Table.apply, dif_neg absent, Option.map_some',
    Option.some_bind, run_append, run_seeding] at ran
  obtain ⟨progress, -⟩ := run_events_progress ran
  obtain ⟨held, looked⟩ := run_events_untouched ran untouched
  refine ⟨progress, ?_, ?_⟩
  · rw [looked]
    simp [Table.lookup, List.find?_append, unseen]
  · rw [held]
    simp [handOver_apply c.table.nodes c.table.unique, unseen, notify_apply, unsubscribed]

/-- `nodeX` joins right after the snapshot of `beforeRegistration`, and `nodeA`
leaves once the call is over: the provider still holds nothing for `nodeX`. -/
theorem nodeX_joins_in_window :
    0 ∉ beforeRegistration.cluster.serviceProviders ∧
      ¬ beforeRegistration.cluster.table.Live nodeX.name ∧
      (∀ e ∈ [MembershipEvent.leave nodeA], e.node.name ≠ nodeX.name) ∧
      ∃ s, run 0 ⟨beforeRegistration.cluster, .start⟩ (.register :: .event (.join nodeX) ::
          List.replicate (beforeRegistration.cluster.table.nodes.length + 1) .register ++
          [MembershipEvent.leave nodeA].map .event) = some s ∧
        s.progress = .done ∧ s.cluster.table.lookup nodeX.name = some nodeX ∧
        s.cluster.holds 0 nodeX.name = beforeRegistration.cluster.holds 0 nodeX.name :=
  have unsubscribed : 0 ∉ beforeRegistration.cluster.serviceProviders := by decide
  have absent : ¬ beforeRegistration.cluster.table.Live nodeX.name := by decide
  have untouched : ∀ e ∈ [MembershipEvent.leave nodeA], e.node.name ≠ nodeX.name := by decide
  ⟨unsubscribed, absent, untouched, _, rfl,
    join_in_window_lost 0 _ nodeX [.leave nodeA] _ unsubscribed absent untouched rfl⟩

end DoudouRegistry.Registration
