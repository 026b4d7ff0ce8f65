import DoudouRegistry.Seeds
import DoudouRegistry.Registration

/-!
# The registry facade and the life of its node

The facade keeps its state in package variables: `mlist`, the memberlist of the
node, `BroadcastQueue`, the queue its delegate gossips from, and the
`ServiceProviders` of the shared `events` delegate. `NewNode` builds a
configuration and a delegate, creates a memberlist and joins the seeds;
`Shutdown` stops the memberlist and forgets it; `Leave`, `AllNodes`, `LocalNode`
and `RegisterServiceProvider` act on `mlist`. Creating a memberlist and joining
the seeds may succeed or fail; their outcomes come with the call.

Every memberlist and queue `NewNode` made stays in the state, so invariants can
speak of all of them, and `mlist` and `BroadcastQueue` are indices that always
point at one.
-/

namespace DoudouRegistry.Facade

open Strings NewConf Seeds Membership Registration

/-- `nodeMeta`: what a node advertises about its service. -/
structure NodeMeta where
  service : String
  routeRootPath : String
  port : Int
  registerAt : Option Int
  goVer : String
  gddVer : String
  buildUser : String
  buildTime : String
  weight : Int
  deriving DecidableEq, Repr

/-- `mergedMeta`: the framework's meta beside the user's data. -/
structure MergedMeta (Data : Type) where
  meta : NodeMeta
  data : Data

/-- The build's identity: the variables of `buildinfo`, `runtime.Version()`, and
the reformatting of the build time that `NewNode` applies (`time.Parse` with
`FORMAT15`, then `Format` with `FORMAT` in local time). -/
structure Build where
  gddVer : String
  buildUser : String
  buildTime : String
  goVersion : String
  formatBuildTime : String → Option String

/-- A `TransmitLimitedQueue`; its `NumNodes` reads whatever `mlist` is when called. -/
structure TransmitLimitedQueue where
  retransmitMult : Int
  deriving DecidableEq, Repr

/-- The `delegate` a memberlist is created with: the node's meta and the queue it
gossips from. -/
structure Delegate (Data : Type) where
  mmeta : MergedMeta Data
  queue : Nat

/-- A memberlist that `memberlist.Create` returned: its configuration and
delegate, its local node and live members, whether it still runs and whether it
has left the cluster. -/
structure Memberlist (Data : Type) where
  config : Config
  delegate : Delegate Data
  localNode : Node
  members : Table
  running : Bool
  hasLeft : Bool

/-- The facade's package variables beside every memberlist and queue `NewNode`
made; `mlist` and `BroadcastQueue` point at one of those or are nil. -/
structure Registry (Data : Type) where
  memberlists : List (Memberlist Data)
  queues : List TransmitLimitedQueue
  mlist : Option Nat
  broadcastQueue : Option Nat
  serviceProviders : List Nat
  holds : Nat → View
  mlist_lt : ∀ i ∈ mlist, i < memberlists.length
  broadcastQueue_lt : ∀ q ∈ broadcastQueue, q < queues.length

variable {Data : Type}

namespace Registry

/-- The process before `NewNode`: nothing made, nothing subscribed. -/
def init : Registry Data :=
  ⟨[], [], none, none, [], fun _ => View.empty, by simp, by simp⟩

/-- The memberlist behind `mlist`, when it is not nil. -/
def deref (s : Registry Data) : Option (Memberlist Data) :=
  match h : s.mlist with
  | none => none
  | some i => some (s.memberlists.get ⟨i, s.mlist_lt i h⟩)

/-- `mlist` names no memberlist exactly when it is nil. -/
theorem deref_eq_none_iff (s : Registry Data) : s.deref = none ↔ s.mlist = none := by
  unfold deref
  split <;> simp_all

/-- `mlist` names `m` exactly when it points at a slot that holds `m`. -/
theorem deref_eq_some_iff (s : Registry Data) (m : Memberlist Data) :
    s.deref = some m ↔ ∃ i, s.mlist = some i ∧ s.memberlists[i]? = some m := by
  unfold deref
  split
  · simp_all
  · rename_i i h
    simp only [Option.some.injEq, h, exists_eq_left', List.get_eq_getElem]
    rw [List.getElem?_eq_getElem (s.mlist_lt i h), Option.some.injEq]

/-- `BroadcastQueue = queue` for a queue just made. -/
def allocateQueue (s : Registry Data) (queue : TransmitLimitedQueue) : Registry Data :=
  { s with
    queues := s.queues ++ [queue]
    broadcastQueue := some s.queues.length
    broadcastQueue_lt := by simp }

/-- `mlist = m` for a memberlist `memberlist.Create` just returned. -/
def install (s : Registry Data) (m : Memberlist Data) : Registry Data :=
  { s with
    memberlists := s.memberlists ++ [m]
    mlist := some s.memberlists.length
    mlist_lt := by simp }

/-- `mlist = nil`. -/
def forget (s : Registry Data) : Registry Data :=
  { s with mlist := none, mlist_lt := by simp }

/-- A library call on the memberlist behind `mlist`, if any. -/
def modifyCurrent (s : Registry Data) (f : Memberlist Data → Memberlist Data) : Registry Data :=
  match s.mlist with
  | none => s
  | some i =>
    { s with
      memberlists := s.memberlists.modify f i
      mlist_lt := by simpa using s.mlist_lt }

/-- `mlist = nil` leaves nothing to read. -/
theorem deref_forget (s : Registry Data) : s.forget.deref = none :=
  (deref_eq_none_iff _).mpr rfl

/-- A memberlist just installed is the one `mlist` names. -/
theorem deref_install (s : Registry Data) (m : Memberlist Data) : (s.install m).deref = some m :=
  (deref_eq_some_iff _ m).mpr ⟨_, rfl, List.getElem?_concat_length _ _⟩

/-- A library call on the current memberlist changes what `mlist` names by that call. -/
theorem deref_modifyCurrent (s : Registry Data) (f : Memberlist Data → Memberlist Data) :
    (s.modifyCurrent f).deref = s.deref.map f := by
  cases current : s.deref with
  | none =>
    have unset := (deref_eq_none_iff s).mp current
    rw [Option.map_none', deref_eq_none_iff]
    unfold modifyCurrent
    simp [unset]
  | some m =>
    obtain ⟨i, set, found⟩ := (deref_eq_some_iff s m).mp current
    rw [Option.map_some', deref_eq_some_iff]
    unfold modifyCurrent
    simp [set, List.getElem?_modify_eq, found]

end Registry

/-- `mlist.Shutdown()`: the memberlist stops. -/
def Memberlist.shutdown (m : Memberlist Data) : Memberlist Data := { m with running := false }

/-- `mlist.Leave(timeout)`: the node says goodbye and stays up until `Shutdown`. -/
def Memberlist.leave (m : Memberlist Data) : Memberlist Data := { m with hasLeft := true }

/-- The service name: the configured one, else the default. -/
def serviceName (p : Packages) (env : Env) : String :=
  if isNotEmpty (env .gddServiceName) then env .gddServiceName else p.defaults.defaultGddServiceName

/-- `join`: nothing to do without seeds, otherwise `mlist.Join` with its outcome. -/
def join (p : Packages) (env : Env) (joined : Except String Nat) (s : Registry Data) :
    Except String Unit :=
  match s.mlist with
  | none => .error "mlist is nil"
  | some _ =>
    let seed := if isNotEmpty (env .gddMemSeed) then env .gddMemSeed else p.defaults.defaultGddMemSeed
    if seeds p seed = [] then .ok ()
    else
      match joined with
      | .error cause => .error ("Failed to join cluster: " ++ cause)
      | .ok _ => .ok ()

/-- How `NewNode` ends. -/
inductive NewNodeResult
  | ok
  | noService
  | createFailed (cause : String)
  | registerFailed (cause : String)
  deriving DecidableEq, Repr

/-- The error `NewNode` returns. -/
def NewNodeResult.error (p : Packages) : NewNodeResult → Option String
  | ok => none
  | noService => some ("NewNode() error: No env variable " ++ p.envName .gddServiceName ++ " found")
  | createFailed cause => some ("NewNode() error: Failed to create memberlist: " ++ cause)
  | registerFailed cause => some ("NewNode() error: Node register failed: " ++ cause)

section Calls

variable [EmptyCollection Data]

/-- The meta `NewNode` advertises, with the first of the user's data maps, if any. -/
def newMergedMeta (p : Packages) (b : Build) (env : Env) (now : Int) (data : List Data) :
    MergedMeta Data where
  meta :=
    { service := serviceName p env
      routeRootPath :=
        if isNotEmpty (env .gddRouteRootPath) then env .gddRouteRootPath
        else p.defaults.defaultGddRouteRootPath
      port := intOption p p.defaults.defaultGddPort (env .gddPort)
      registerAt := some now
      goVer := b.goVersion
      gddVer := b.gddVer
      buildUser := b.buildUser
      buildTime := if isNotEmpty b.buildTime then (b.formatBuildTime b.buildTime).getD "" else ""
      weight := weight p env }
  data := data.headD ∅

/-- The memberlist `memberlist.Create` returns to `NewNode`: running, with the
local node as its only member and a delegate holding the queue just made. -/
def createdMemberlist (p : Packages) (b : Build) (env : Env) (hostname : String) (now : Int)
    (data : List Data) (queue : Nat) (localNode : Node) : Memberlist Data :=
  ⟨newConf p env hostname, ⟨newMergedMeta p b env now data, queue⟩, localNode,
    Table.single localNode, true, false⟩

/-- `NewNode`: the configuration, the queue and delegate, `memberlist.Create`
with its outcome `created` (the local node it brings up, or its error), then
`join` with the outcome `joined` of `mlist.Join`. A failed join shuts the new
memberlist down. -/
def newNode (p : Packages) (b : Build) (env : Env) (hostname : String) (now : Int)
    (data : List Data) (created : Except String Node) (joined : Except String Nat)
    (s : Registry Data) : Registry Data × NewNodeResult :=
  let mconf := newConf p env hostname
  if isEmpty (serviceName p env) then (s, .noService) else
  let queue := s.queues.length
  let s := s.allocateQueue ⟨mconf.retransmitMult⟩
  match created with
  | .error cause => (s.forget, .createFailed cause)
  | .ok localNode =>
    let s := s.install (createdMemberlist p b env hostname now data queue localNode)
    match join p env joined s with
    | .error cause => (s.modifyCurrent Memberlist.shutdown, .registerFailed cause)
    | .ok () => (s, .ok)

end Calls

/-- `Shutdown`: stop the memberlist and forget it. -/
def shutdown (s : Registry Data) : Registry Data :=
  match s.mlist with
  | none => s
  | some _ => (s.modifyCurrent Memberlist.shutdown).forget

/-- `Leave`. -/
def leave (s : Registry Data) : Registry Data := s.modifyCurrent Memberlist.leave

/-- `AllNodes`: the live members, or an error when `mlist` is nil. -/
def allNodes (s : Registry Data) : Except String (List Node) :=
  match s.deref with
  | none => .error "mlist is nil"
  | some m => .ok m.members.nodes

/-- `LocalNode`: nil when `mlist` is. -/
def localNode (s : Registry Data) : Option Node := s.deref.map (·.localNode)

/-- `RegisterServiceProvider(sp)` as one step: `AddNode` for every member, then the
subscription. -/
def registerServiceProvider (sp : Nat) (s : Registry Data) : Registry Data :=
  match s.deref with
  | none => s
  | some m =>
    { s with
      serviceProviders := s.serviceProviders ++ [sp]
      holds := Function.update s.holds sp (handOver m.members.nodes (s.holds sp)) }

/-! ## Calls and the runs they make -/

/-- A call of the facade, with the outcomes of the library steps it takes. -/
inductive Call (Data : Type)
  | newNode (env : Env) (hostname : String) (now : Int) (data : List Data)
      (created : Except String Node) (joined : Except String Nat)
  | shutdown
  | leave (timeout : Time.Duration)
  | allNodes
  | localNode
  | registerServiceProvider (sp : Nat)

/-- The state a call leaves. -/
def perform [EmptyCollection Data] (p : Packages) (b : Build) : Call Data → Registry Data → Registry Data
  | .newNode env hostname now data created joined, s =>
    (newNode p b env hostname now data created joined s).1
  | .shutdown, s => shutdown s
  | .leave _, s => leave s
  | .allNodes, s => s
  | .localNode, s => s
  | .registerServiceProvider sp, s => registerServiceProvider sp s

/-- No memberlist `NewNode` made is still running. -/
def NoneRunning (s : Registry Data) : Prop := ∀ m ∈ s.memberlists, m.running = false

/-- `mlist` is nil exactly when no memberlist runs; otherwise it is the only one
that runs, and `BroadcastQueue` is the queue its delegate holds. -/
structure Consistent (s : Registry Data) : Prop where
  nil_iff : s.mlist = none ↔ NoneRunning s
  sole : ∀ i j m, s.mlist = some i → s.memberlists[j]? = some m → m.running = true → j = i
  current : ∀ i m, s.mlist = some i → s.memberlists[i]? = some m →
    m.running = true ∧ s.broadcastQueue = some m.delegate.queue

/-- Changing the element just appended changes only the last one. -/
theorem modify_concat {α : Type} (f : α → α) (l : List α) (a : α) :
    (l ++ [a]).modify f l.length = l ++ [f a] := by
  induction l with
  | nil => rfl
  | cons x xs ih => simp [ih]

/-- Everything `NewNode` can do: stop before the queue without a service name,
forget `mlist` when `memberlist.Create` fails, install a running memberlist
gossiping from the new queue, or install one and shut it down when the join
fails. -/
theorem newNode_cases [EmptyCollection Data] {p : Packages} {b : Build} {env : Env}
    {hostname : String} {now : Int} {data : List Data} {created : Except String Node}
    {joined : Except String Nat} {s s' : Registry Data} {r : NewNodeResult}
    (result : newNode p b env hostname now data created joined s = (s', r)) :
    (r = .noService ∧ s' = s) ∨
    (∃ cause, r = .createFailed cause ∧ s'.memberlists = s.memberlists ∧ s'.mlist = none) ∨
    (∃ m : Memberlist Data, s'.memberlists = s.memberlists ++ [m] ∧
      s'.mlist = some s.memberlists.length ∧
      ((r = .ok ∧ m.running = true ∧ s'.broadcastQueue = some m.delegate.queue) ∨
        (∃ cause, r = .registerFailed cause ∧ m.running = false))) := by
  unfold newNode at result
  split_ifs at result
  · simp_all
  · rcases created with cause | localNode
    · simp only [Prod.mk.injEq] at result
      obtain ⟨rfl, rfl⟩ := result
      exact .inr (.inl ⟨cause, rfl, rfl, rfl⟩)
    · simp only at result
      split at result <;> simp only [Prod.mk.injEq] at result <;> obtain ⟨rfl, rfl⟩ := result
      · refine .inr (.inr ⟨Memberlist.shutdown
          (createdMemberlist p b env hostname now data s.queues.length localNode), ?_, rfl,
          .inr ⟨_, rfl, rfl⟩⟩)
        simp [Registry.modifyCurrent, Registry.install, Registry.allocateQueue, modify_concat,
          Memberlist.shutdown]
      · exact .inr (.inr ⟨_, rfl, rfl, .inl ⟨rfl, rfl, rfl⟩⟩)

/-! ## The invariant along admissible calls -/

/-- Before any call, `mlist` is nil and no memberlist has been created. -/
theorem init_consistent : Consistent (Registry.init : Registry Data) :=
  ⟨by simp [Registry.init, NoneRunning], by simp [Registry.init], by simp [Registry.init]⟩

/-- The invariant reads only `mlist`, the memberlists and `BroadcastQueue`. -/
theorem Consistent.congr {s s' : Registry Data} (consistent : Consistent s)
    (mlist : s'.mlist = s.mlist) (memberlists : s'.memberlists = s.memberlists)
    (queue : s'.broadcastQueue = s.broadcastQueue) : Consistent s' := by
  obtain ⟨nil_iff, sole, current⟩ := consistent
  refine ⟨?_, ?_, ?_⟩ <;> simp only [NoneRunning, mlist, memberlists, queue] at * <;> assumption

/-- A library call on the current memberlist that keeps it running and keeps its
delegate keeps the invariant. -/
theorem modifyCurrent_consistent {s : Registry Data} (consistent : Consistent s)
    (f : Memberlist Data → Memberlist Data) (running : ∀ m, (f m).running = m.running)
    (delegate : ∀ m, (f m).delegate = m.delegate) : Consistent (s.modifyCurrent f) := by
  unfold Registry.modifyCurrent
  split
  · exact consistent
  · rename_i i installed
    obtain ⟨nil_iff, sole, current⟩ := consistent
    have here : (s.memberlists.modify f i)[i]? = f <$> s.memberlists[i]? :=
      List.getElem?_modify_eq f i _
    have elsewhere {j : Nat} (other : i ≠ j) : (s.memberlists.modify f i)[j]? = s.memberlists[j]? :=
      List.getElem?_modify_ne f _ other
    obtain ⟨m, found⟩ : ∃ m, s.memberlists[i]? = some m :=
      Option.isSome_iff_exists.mp (by simp [s.mlist_lt i installed])
    refine ⟨?_, ?_, ?_⟩
    · simp only [installed, reduceCtorEq, false_iff, NoneRunning, not_forall]
      refine ⟨f m, List.mem_iff_getElem?.mpr ⟨i, by simp [here, found]⟩, ?_⟩
      simp [running, (current i m installed found).1]
    · intro i' j m' same found' runs
      obtain rfl : i = i' := by simpa [installed] using same
      by_cases at_i : i = j
      · exact at_i.symm
      · exact sole i j m' installed (by simpa [elsewhere at_i] using found') runs
    · intro i' m' same found'
      obtain rfl : i = i' := by simpa [installed] using same
      simp only [here, found, Option.map_eq_map, Option.map_some', Option.some.injEq] at found'
      subst found'
      obtain ⟨runs, queue⟩ := current i m installed found
      exact ⟨by simp [running, runs], by simp [delegate, queue]⟩

/-- `NewNode` made with no memberlist installed keeps the invariant, unless its
join fails. -/
theorem newNode_consistent [EmptyCollection Data] {p : Packages} {b : Build} {env : Env}
    {hostname : String} {now : Int} {data : List Data} {created : Except String Node}
    {joined : Except String Nat} {s : Registry Data} (consistent : Consistent s)
    (idle : s.mlist = none)
    (joins : ∀ cause, (newNode p b env hostname now data created joined s).2 ≠ .registerFailed cause) :
    Consistent (newNode p b env hostname now data created joined s).1 := by
  have stopped : NoneRunning s := consistent.nil_iff.mp idle
  generalize result : newNode p b env hostname now data created joined s = outcome at joins ⊢
  obtain ⟨s', r⟩ := outcome
  dsimp only at joins ⊢
  rcases newNode_cases result with ⟨-, same⟩ | ⟨-, -, memberlists, forgotten⟩ |
    ⟨m, memberlists, installed, ⟨-, runs, queue⟩ | ⟨cause, failed, -⟩⟩
  · rw [same]
    exact consistent
  · refine ⟨by simpa [forgotten, NoneRunning, memberlists] using stopped, ?_, ?_⟩ <;>
      simp [forgotten]
  · have earlier : ∀ j (m' : Memberlist Data), s.memberlists[j]? = some m' →
        m'.running = false :=
      fun j m' found => stopped m' (List.mem_iff_getElem?.mpr ⟨j, found⟩)
    refine ⟨?_, ?_, ?_⟩
    · simp only [installed, reduceCtorEq, false_iff, NoneRunning, memberlists, not_forall]
      exact ⟨m, by simp, by simp [runs]⟩
    · intro i j m' same found running
      obtain rfl : s.memberlists.length = i := by simpa [installed] using same
      rw [memberlists] at found
      by_contra other
      rcases Nat.lt_or_gt_of_ne other with before | after
      · rw [List.getElem?_append_left before] at found
        simp [earlier j m' found] at running
      · simp [List.getElem?_eq_none (show (s.memberlists ++ [m]).length ≤ j by simp; omega)] at found
    · intro i m' same found
      obtain rfl : s.memberlists.length = i := by simpa [installed] using same
      rw [memberlists, List.getElem?_concat_length, Option.some.injEq] at found
      subst found
      exact ⟨runs, queue⟩
  · exact absurd failed (joins cause)

/-- `Shutdown` keeps the invariant: the memberlist it stops was the only one running. -/
theorem shutdown_consistent {s : Registry Data} (consistent : Consistent s) :
    Consistent (shutdown s) := by
  unfold shutdown
  split
  · exact consistent
  · rename_i i installed
    refine ⟨?_, by simp [Registry.forget], by simp [Registry.forget]⟩
    simp only [Registry.forget, Registry.modifyCurrent, installed, true_iff, NoneRunning]
    intro m member
    obtain ⟨j, found⟩ := List.mem_iff_getElem?.mp member
    by_cases at_i : i = j
    · subst at_i
      simp only [List.getElem?_modify_eq, Option.map_eq_map, Option.map_eq_some'] at found
      obtain ⟨m₀, -, rfl⟩ := found
      rfl
    · rw [List.getElem?_modify_ne _ _ at_i] at found
      by_contra runs
      exact at_i (consistent.sole i j m installed found (by simpa using runs)).symm

/-- Calls the invariant is kept by: `NewNode` only with no memberlist installed
and not ending in a failed join; every other call at any time. -/
def Admissible [EmptyCollection Data] (p : Packages) (b : Build) (s : Registry Data) :
    Call Data → Prop
  | .newNode env hostname now data created joined =>
    s.mlist = none ∧
      ∀ cause, (newNode p b env hostname now data created joined s).2 ≠ .registerFailed cause
  | _ => True

/-- The states admissible calls reach from the start of the process. -/
inductive Reachable [EmptyCollection Data] (p : Packages) (b : Build) : Registry Data → Prop
  | init : Reachable p b Registry.init
  | call {s : Registry Data} (c : Call Data) (reachable : Reachable p b s)
      (admissible : Admissible p b s c) : Reachable p b (perform p b c s)

/-- Every call the facade admits keeps the invariant: a step lemma for the run. -/
theorem perform_consistent [EmptyCollection Data] {p : Packages} {b : Build} {s : Registry Data}
    {c : Call Data} (consistent : Consistent s) (admissible : Admissible p b s c) :
    Consistent (perform p b c s) := by
  cases c with
  | newNode env hostname now data created joined =>
    exact newNode_consistent consistent admissible.1 admissible.2
  | shutdown => exact shutdown_consistent consistent
  | leave => exact modifyCurrent_consistent consistent _ (fun _ => rfl) (fun _ => rfl)
  | allNodes | localNode => exact consistent
  | registerServiceProvider sp =>
    show Consistent (registerServiceProvider sp s)
    unfold registerServiceProvider
    split
    · exact consistent
    · exact consistent.congr rfl rfl rfl

/-- Along admissible calls, `mlist` is nil exactly when no memberlist runs, and
otherwise it is the only one running and `BroadcastQueue` is its delegate's
queue. So `AllNodes` returns an error, and `LocalNode` nil, exactly when no
memberlist runs, also after a `NewNode` that returned an error. -/
theorem lifecycle_consistent [EmptyCollection Data] (p : Packages) (b : Build) (s : Registry Data)
    (reachable : Reachable p b s) :
    Consistent s ∧ ((∃ e, allNodes s = .error e) ↔ NoneRunning s) ∧
      (localNode s = none ↔ NoneRunning s) := by
  have consistent : Consistent s := by
    induction reachable with
    | init => exact init_consistent
    | call c _ admissible ih => exact perform_consistent ih admissible
  refine ⟨consistent, ?_, ?_⟩
  · rw [← consistent.nil_iff, ← Registry.deref_eq_none_iff]
    unfold allNodes
    split <;> simp_all
  · rw [← consistent.nil_iff, ← Registry.deref_eq_none_iff, localNode, Option.map_eq_none']

/-- A build with no build information. -/
def specBuild : Build := ⟨"", "", "", "go1.17", fun _ => none⟩

/-- The environment of a node of service `svc` with no seeds. -/
def serviceEnv : Env := Function.update (fun _ => "") .gddServiceName "svc"

/-- Two `NewNode` calls with no `Shutdown` between them. -/
def createdTwice : Registry (List (String × String)) :=
  perform specPackages specBuild (.newNode serviceEnv "host" 0 [] (.ok nodeX) (.ok 1))
    (perform specPackages specBuild (.newNode serviceEnv "host" 0 [] (.ok nodeA) (.ok 1))
      Registry.init)

/-- A second `NewNode` replaces `mlist` and leaves the first memberlist running. -/
theorem newNode_twice_leaves_two_running :
    createdTwice.mlist = some 1 ∧ createdTwice.memberlists.map (·.running) = [true, true] ∧
      ¬ Consistent createdTwice :=
  ⟨rfl, rfl, fun consistent => absurd (consistent.sole 1 0 _ rfl rfl rfl) (by decide)⟩

/-- One successful `NewNode`. -/
def createdOnce : Registry (List (String × String)) :=
  perform specPackages specBuild (.newNode serviceEnv "host" 0 [] (.ok nodeA) (.ok 1))
    Registry.init

/-- The state after one `NewNode` is reachable, and there `AllNodes` answers. -/
theorem created_once_consistent :
    Reachable specPackages specBuild createdOnce ∧ Consistent createdOnce ∧
      ((∃ e, allNodes createdOnce = .error e) ↔ NoneRunning createdOnce) ∧
      (localNode createdOnce = none ↔ NoneRunning createdOnce) :=
  have reachable : Reachable specPackages specBuild createdOnce :=
    .call _ .init ⟨rfl, fun _ failed => by cases failed⟩
  ⟨reachable, lifecycle_consistent specPackages specBuild createdOnce reachable⟩

/-! ## `Shutdown`, the join and `RegisterServiceProvider` -/

/-- `Shutdown` leaves `mlist` nil. -/
theorem shutdown_mlist (s : Registry Data) : (shutdown s).mlist = none := by
  unfold shutdown
  split <;> simp_all [Registry.forget]

/-- With `mlist` set, `join` succeeds whatever `mlist.Join` would answer exactly
when the seed string in effect is blank: only then is "No seed found" and the
join skipped; otherwise a failed `mlist.Join` fails it with its cause. -/
theorem join_skipped_iff_blank_seed (p : Packages) (env : Env) (s : Registry Data)
    (installed : s.mlist ≠ none) :
    ((∀ joined, join p env joined s = .ok ()) ↔
      isEmpty (if isNotEmpty (env .gddMemSeed) then env .gddMemSeed
        else p.defaults.defaultGddMemSeed) = true) ∧
    ∀ cause, isEmpty (if isNotEmpty (env .gddMemSeed) then env .gddMemSeed
        else p.defaults.defaultGddMemSeed) = false →
      join p env (.error cause) s = .error ("Failed to join cluster: " ++ cause) := by
  obtain ⟨i, current⟩ := Option.ne_none_iff_exists'.mp installed
  simp only [join, current, ← seeds_eq_nil_iff p]
  refine ⟨⟨fun skipped => ?_, fun empty _ => by simp [empty]⟩, fun cause found => ?_⟩
  · by_contra contacted
    have := skipped (.error "")
    simp [contacted] at this
  · rw [if_neg (by simpa [seeds_eq_nil_iff] using found)]

/-- After one `NewNode` with no seed configured and a blank default seed, the join
is skipped. -/
theorem join_skipped_without_seeds :
    createdOnce.mlist ≠ none ∧
    ((∀ joined, join specPackages serviceEnv joined createdOnce = .ok ()) ↔
      isEmpty (if isNotEmpty (serviceEnv .gddMemSeed) then serviceEnv .gddMemSeed
        else specPackages.defaults.defaultGddMemSeed) = true) ∧
    ∀ cause, isEmpty (if isNotEmpty (serviceEnv .gddMemSeed) then serviceEnv .gddMemSeed
        else specPackages.defaults.defaultGddMemSeed) = false →
      join specPackages serviceEnv (.error cause) createdOnce = .error ("Failed to join cluster: " ++ cause) :=
  have installed : createdOnce.mlist ≠ none := by simp [show createdOnce.mlist = some 0 from rfl]
  ⟨installed, join_skipped_iff_blank_seed specPackages serviceEnv createdOnce installed⟩

/-- The facade's `RegisterServiceProvider`, taken as one step, does what the
call's own steps do when no membership event runs between them: the
interleaving model refines it. -/
theorem registerServiceProvider_refines (sp : Nat) (s : Registry Data) (m : Memberlist Data)
    (current : s.deref = some m) :
    run sp ⟨⟨m.members, s.serviceProviders, s.holds⟩, .start⟩
        (List.replicate (m.members.nodes.length + 2) .register) =
      some ⟨⟨m.members, (registerServiceProvider sp s).serviceProviders,
        (registerServiceProvider sp s).holds⟩, .done⟩ := by
  rw [run_register, registerServiceProvider, current]

/-- The state after one `NewNode`, with the provider `0` registered. -/
theorem registered_after_created_once :
    createdOnce.deref = some ((createdOnce.memberlists.get ⟨0, by decide⟩)) ∧
      run 0 ⟨⟨(createdOnce.memberlists.get ⟨0, by decide⟩).members, createdOnce.serviceProviders,
          createdOnce.holds⟩, .start⟩
        (List.replicate ((createdOnce.memberlists.get ⟨0, by decide⟩).members.nodes.length + 2)
          .register) =
      some ⟨⟨(createdOnce.memberlists.get ⟨0, by decide⟩).members,
        (registerServiceProvider 0 createdOnce).serviceProviders,
        (registerServiceProvider 0 createdOnce).holds⟩, .done⟩ :=
  have current : createdOnce.deref = some (createdOnce.memberlists.get ⟨0, by decide⟩) := rfl
  ⟨current, registerServiceProvider_refines 0 createdOnce _ current⟩

/-! ## Every run of calls, admissible or not

Whatever the order of the calls, `NewNode` included while a memberlist runs, and
whatever create and join answer, `mlist` and `BroadcastQueue` move together: a
payload pushed into `BroadcastQueue` is gossiped by the delegate of the
memberlist `mlist` names.
-/

/-- The state a sequence of calls leaves, from the start of the process. -/
def runCalls [EmptyCollection Data] (p : Packages) (b : Build) (calls : List (Call Data)) :
    Registry Data :=
  calls.foldl (fun s c => perform p b c s) Registry.init

/-- `mlist`, when set, is the memberlist made last, and `BroadcastQueue` is the
queue its delegate gossips from. -/
structure Tracks (s : Registry Data) : Prop where
  latest : ∀ i, s.mlist = some i → i + 1 = s.memberlists.length
  queue : ∀ i m, s.mlist = some i → s.memberlists[i]? = some m →
    s.broadcastQueue = some m.delegate.queue

/-- What `NewNode` leaves of `mlist`: the state it was given, no memberlist, or a
memberlist appended last whose delegate holds the queue `BroadcastQueue` names. -/
theorem newNode_mlist_cases [EmptyCollection Data] (p : Packages) (b : Build) (env : Env)
    (hostname : String) (now : Int) (data : List Data) (created : Except String Node)
    (joined : Except String Nat) (s : Registry Data) :
    (newNode p b env hostname now data created joined s).1 = s ∨
      (newNode p b env hostname now data created joined s).1.mlist = none ∨
      ∃ m, (newNode p b env hostname now data created joined s).1.mlist =
          some s.memberlists.length ∧
        (newNode p b env hostname now data created joined s).1.memberlists = s.memberlists ++ [m] ∧
        (newNode p b env hostname now data created joined s).1.broadcastQueue =
          some m.delegate.queue := by
  unfold newNode
  split_ifs
  · exact .inl rfl
  · rcases created with cause | localNode
    · exact .inr (.inl rfl)
    · simp only
      split
      · refine .inr (.inr ⟨Memberlist.shutdown
          (createdMemberlist p b env hostname now data s.queues.length localNode), rfl, ?_, rfl⟩)
        simp [Registry.modifyCurrent, Registry.install, Registry.allocateQueue, modify_concat,
          Memberlist.shutdown]
      · exact .inr (.inr ⟨_, rfl, rfl, rfl⟩)

/-- With `mlist` nil there is nothing to track. -/
theorem Tracks.of_mlist_none {s : Registry Data} (unset : s.mlist = none) : Tracks s :=
  ⟨fun _ same => Option.noConfusion (unset.symm.trans same),
    fun _ _ same => Option.noConfusion (unset.symm.trans same)⟩

/-- A library call that keeps the delegate keeps `BroadcastQueue` on its queue. -/
theorem Tracks.modifyCurrent {s : Registry Data} (tracks : Tracks s)
    (f : Memberlist Data → Memberlist Data) (delegate : ∀ m, (f m).delegate = m.delegate) :
    Tracks (s.modifyCurrent f) := by
  unfold Registry.modifyCurrent
  split
  · exact tracks
  · rename_i i installed
    refine ⟨fun j same => by simpa using tracks.latest j same, fun j m same found => ?_⟩
    obtain rfl : i = j := by simpa [installed] using same
    simp only [List.getElem?_modify_eq, Option.map_eq_map, Option.map_eq_some'] at found
    obtain ⟨m₀, found₀, rfl⟩ := found
    rw [delegate]
    exact tracks.queue i m₀ installed found₀

/-- Every call keeps `mlist` and `BroadcastQueue` together. -/
theorem Tracks.perform [EmptyCollection Data] {s : Registry Data} (tracks : Tracks s)
    (p : Packages) (b : Build) (c : Call Data) : Tracks (perform p b c s) := by
  cases c with
  | newNode env hostname now data created joined =>
    show Tracks (newNode p b env hostname now data created joined s).1
    rcases newNode_mlist_cases p b env hostname now data created joined s with
      same | forgotten | ⟨m, installed, memberlists, queue⟩
    · exact (congrArg Tracks same).mpr tracks
    · exact .of_mlist_none forgotten
    · refine ⟨fun i same => ?_, fun i m' same found => ?_⟩ <;>
        obtain rfl : s.memberlists.length = i := Option.some.inj (installed.symm.trans same)
      · rw [memberlists, List.length_append, List.length_singleton]
      · rw [memberlists, List.getElem?_concat_length, Option.some.injEq] at found
        rw [queue, found]
  | shutdown => exact .of_mlist_none (shutdown_mlist s)
  | leave => exact tracks.modifyCurrent _ fun _ => rfl
  | allNodes | localNode => exact tracks
  | registerServiceProvider sp =>
    show Tracks (registerServiceProvider sp s)
    unfold registerServiceProvider
    split
    · exact tracks
    · exact ⟨tracks.latest, tracks.queue⟩

/-- A library call on the current memberlist leaves the subscriptions alone. -/
theorem Registry.modifyCurrent_serviceProviders (s : Registry Data)
    (f : Memberlist Data → Memberlist Data) : (s.modifyCurrent f).serviceProviders = s.serviceProviders := by
  unfold Registry.modifyCurrent
  split <;> rfl

/-- `NewNode`, whatever its outcome, leaves the subscriptions alone. -/
theorem newNode_serviceProviders [EmptyCollection Data] (p : Packages) (b : Build) (env : Env)
    (hostname : String) (now : Int) (data : List Data) (created : Except String Node)
    (joined : Except String Nat) (s : Registry Data) :
    (newNode p b env hostname now data created joined s).1.serviceProviders = s.serviceProviders := by
  unfold newNode
  split_ifs
  · rfl
  · cases created with
    | error => rfl
    | ok localNode =>
      simp only
      split
      · exact Registry.modifyCurrent_serviceProviders _ _
      · rfl

/-- `Shutdown` leaves the subscriptions alone. -/
theorem shutdown_serviceProviders (s : Registry Data) :
    (shutdown s).serviceProviders = s.serviceProviders := by
  unfold shutdown
  split
  · rfl
  · exact Registry.modifyCurrent_serviceProviders _ _

/-- One call subscribes `sp` exactly when it is `RegisterServiceProvider(sp)` made
while `mlist` is set. -/
theorem mem_serviceProviders_perform [EmptyCollection Data] (p : Packages) (b : Build)
    (c : Call Data) (s : Registry Data) (sp : Nat) :
    sp ∈ (perform p b c s).serviceProviders ↔
      sp ∈ s.serviceProviders ∨ (c = .registerServiceProvider sp ∧ s.mlist.isSome) := by
  cases c with
  | newNode env hostname now data created joined => simp [perform, newNode_serviceProviders]
  | shutdown => simp [perform, shutdown_serviceProviders]
  | leave => simp [perform, leave, Registry.modifyCurrent_serviceProviders]
  | allNodes | localNode => simp [perform]
  | registerServiceProvider sp' =>
    unfold perform registerServiceProvider
    cases current : s.deref with
    | none => simp [current, (Registry.deref_eq_none_iff s).mp current]
    | some m =>
      obtain ⟨i, set, -⟩ := (Registry.deref_eq_some_iff s m).mp current
      simp [current, set, eq_comm]

/-- An occurrence of `y` in `x :: xs` is `x` itself or an occurrence in `xs`. -/
theorem exists_cons_eq_append_cons {α : Type} {x y : α} {xs : List α} {Q : List α → Prop} :
    (∃ before after, x :: xs = before ++ y :: after ∧ Q before) ↔
      (x = y ∧ Q []) ∨ ∃ before after, xs = before ++ y :: after ∧ Q (x :: before) := by
  constructor
  · rintro ⟨_ | ⟨z, before⟩, after, split, q⟩
    · obtain ⟨rfl, -⟩ := List.cons.inj split
      exact .inl ⟨rfl, q⟩
    · obtain ⟨rfl, rfl⟩ := List.cons.inj split
      exact .inr ⟨before, after, rfl, q⟩
  · rintro (⟨rfl, q⟩ | ⟨before, after, rfl, q⟩)
    · exact ⟨[], xs, rfl, q⟩
    · exact ⟨x :: before, after, rfl, q⟩

/-- A provider is subscribed after a run exactly when it was before, or some
`RegisterServiceProvider` for it ran while a memberlist was live. -/
theorem mem_serviceProviders_foldl [EmptyCollection Data] (p : Packages) (b : Build)
    (calls : List (Call Data)) (s : Registry Data) (sp : Nat) :
    sp ∈ (calls.foldl (fun s c => perform p b c s) s).serviceProviders ↔
      sp ∈ s.serviceProviders ∨
        ∃ before after, calls = before ++ .registerServiceProvider sp :: after ∧
          (before.foldl (fun s c => perform p b c s) s).mlist.isSome := by
  induction calls generalizing s with
  | nil =>
    exact ⟨.inl, fun member => member.resolve_right fun ⟨_, _, split, _⟩ => by simp at split⟩
  | cons c calls ih =>
    rw [List.foldl_cons, ih, mem_serviceProviders_perform, or_assoc, exists_cons_eq_append_cons]
    rfl

/-- Along every sequence of calls from the start of the process, a provider is
subscribed exactly when some `RegisterServiceProvider` for it ran while `mlist` was
set: a call made before `NewNode`, after a failed `memberlist.Create` or after
`Shutdown` is lost, and a subscription outlives `Shutdown` and later `NewNode`s. -/
theorem subscribed_iff_registered_while_set [EmptyCollection Data] (p : Packages) (b : Build)
    (calls : List (Call Data)) (sp : Nat) :
    sp ∈ (runCalls p b calls).serviceProviders ↔
      ∃ before after, calls = before ++ .registerServiceProvider sp :: after ∧
        (runCalls p b before).mlist.isSome := by
  simpa [Registry.init] using mem_serviceProviders_foldl p b calls Registry.init sp

/-! ## A memberlist that no longer runs, along every run

A failed join shuts the new memberlist down but leaves `mlist` on it, and only
`Shutdown` or another `NewNode` moves `mlist` again.
-/

/-- `mlist` names a memberlist that no longer runs. -/
def ServesStopped (s : Registry Data) : Prop := ∃ m, s.deref = some m ∧ m.running = false

/-- Whether a call can move `mlist`: `Shutdown`, and `NewNode` with a service name. -/
def Call.touchesMlist (p : Packages) : Call Data → Bool
  | .newNode env .. => !isEmpty (serviceName p env)
  | .shutdown => true
  | _ => false

/-- A `NewNode` call that, made in state `s`, ends in "Node register failed". -/
def JoinFails [EmptyCollection Data] (p : Packages) (b : Build) (s : Registry Data) : Call Data → Prop
  | .newNode env hostname now data created joined =>
    ∃ cause, (newNode p b env hostname now data created joined s).2 = .registerFailed cause
  | _ => False

/-- What `NewNode` leaves behind `mlist` no longer runs exactly when its join
failed, or when it stopped before the queue and the state already was so. -/
theorem servesStopped_newNode [EmptyCollection Data] (p : Packages) (b : Build) (env : Env)
    (hostname : String) (now : Int) (data : List Data) (created : Except String Node)
    (joined : Except String Nat) (s : Registry Data) :
    ServesStopped (newNode p b env hostname now data created joined s).1 ↔
      (∃ cause, (newNode p b env hostname now data created joined s).2 = .registerFailed cause) ∨
        (isEmpty (serviceName p env) = true ∧ ServesStopped s) := by
  unfold newNode
  split_ifs with blank
  · simp [blank]
  · cases created with
    | error cause => simp [ServesStopped, Registry.deref_forget, blank]
    | ok localNode =>
      simp only
      split
      · simp [ServesStopped, Registry.deref_modifyCurrent, Registry.deref_install,
          Memberlist.shutdown, blank]
      · simp [ServesStopped, Registry.deref_install, createdMemberlist, blank]

/-- `RegisterServiceProvider` leaves `mlist` and the memberlists alone. -/
theorem deref_registerServiceProvider (sp : Nat) (s : Registry Data) :
    (registerServiceProvider sp s).deref = s.deref := by
  unfold registerServiceProvider
  split <;> rfl

/-- One call leaves `mlist` on a memberlist that no longer runs exactly when it is
a `NewNode` whose join failed, or when it cannot move `mlist` and the state
already was so. -/
theorem servesStopped_perform [EmptyCollection Data] (p : Packages) (b : Build) (c : Call Data)
    (s : Registry Data) :
    ServesStopped (perform p b c s) ↔
      JoinFails p b s c ∨ (ServesStopped s ∧ c.touchesMlist p = false) := by
  cases c with
  | newNode env hostname now data created joined =>
    simp [perform, JoinFails, Call.touchesMlist, servesStopped_newNode, and_comm]
  | shutdown =>
    simp [perform, JoinFails, Call.touchesMlist, ServesStopped,
      (Registry.deref_eq_none_iff _).mpr (shutdown_mlist s)]
  | leave =>
    simp [perform, JoinFails, Call.touchesMlist, ServesStopped, leave, Registry.deref_modifyCurrent,
      Memberlist.leave]
  | allNodes | localNode => simp [perform, JoinFails, Call.touchesMlist]
  | registerServiceProvider sp =>
    simp [perform, JoinFails, Call.touchesMlist, ServesStopped, deref_registerServiceProvider]

/-- A split of `x :: xs` around some element is the split at `x` or a split of `xs`. -/
theorem exists_split_cons {α : Type} {x : α} {xs : List α} {Q : List α → α → List α → Prop} :
    (∃ before y after, x :: xs = before ++ y :: after ∧ Q before y after) ↔
      Q [] x xs ∨ ∃ before y after, xs = before ++ y :: after ∧ Q (x :: before) y after := by
  constructor
  · rintro ⟨_ | ⟨z, before⟩, y, after, split, q⟩
    · obtain ⟨rfl, rfl⟩ := List.cons.inj split
      exact .inl q
    · obtain ⟨rfl, rfl⟩ := List.cons.inj split
      exact .inr ⟨before, y, after, rfl, q⟩
  · rintro (q | ⟨before, y, after, rfl, q⟩)
    · exact ⟨[], x, xs, rfl, q⟩
    · exact ⟨x :: before, y, after, rfl, q⟩

/-- From any state, a run leaves `mlist` on a memberlist that no longer runs exactly
when the state already was so and no call of the run can move `mlist`, or some
`NewNode` of the run failed its join and no later call can move `mlist`. -/
theorem servesStopped_foldl [EmptyCollection Data] (p : Packages) (b : Build)
    (calls : List (Call Data)) (s : Registry Data) :
    ServesStopped (calls.foldl (fun s c => perform p b c s) s) ↔
      (ServesStopped s ∧ ∀ c ∈ calls, c.touchesMlist p = false) ∨
        ∃ before c after, calls = before ++ c :: after ∧
          JoinFails p b (before.foldl (fun s c => perform p b c s) s) c ∧
          ∀ c' ∈ after, c'.touchesMlist p = false := by
  induction calls generalizing s with
  | nil =>
    exact ⟨fun stopped => .inl ⟨stopped, nofun⟩,
      fun served => served.elim And.left fun ⟨_, _, _, split, _⟩ => by simp at split⟩
  | cons c calls ih =>
    rw [List.foldl_cons, ih, servesStopped_perform, exists_split_cons]
    simp only [List.forall_mem_cons, List.foldl_nil, List.foldl_cons, or_and_right, and_assoc,
      or_assoc]
    exact or_left_comm

/-- Along every sequence of calls from the start of the process, whatever
`memberlist.Create` and the join answer, `mlist` names a memberlist that no
longer runs, so that `AllNodes` and `LocalNode` answer from a stopped node,
exactly when the last call that can move `mlist` (`Shutdown`, or `NewNode` with a
service name) was a `NewNode` whose join failed. -/
theorem serves_stopped_iff_last_join_failed [EmptyCollection Data] (p : Packages) (b : Build)
    (calls : List (Call Data)) :
    (∃ m, (runCalls p b calls).deref = some m ∧ m.running = false) ↔
      ∃ before c after, calls = before ++ c :: after ∧ JoinFails p b (runCalls p b before) c ∧
        ∀ c' ∈ after, c'.touchesMlist p = false := by
  have idle : ¬ ServesStopped (Registry.init : Registry Data) := fun ⟨_, current, _⟩ =>
    Option.noConfusion (((Registry.deref_eq_none_iff Registry.init).mpr rfl).symm.trans current)
  exact (servesStopped_foldl p b calls Registry.init).trans
    (or_iff_right fun ⟨stopped, _⟩ => idle stopped)

end DoudouRegistry.Facade
