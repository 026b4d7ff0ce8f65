import Mathlib

/-!
# The membership table and what service providers hold

A memberlist's live members form a table with at most one node per name. A
membership event is one edge of that table: a join brings in a name that is not
live, a leave takes out a live one, an update replaces a live node. The
registry's `eventDelegate` passes each event on to every provider in its
`ServiceProviders`, as `AddNode`, `RemoveNode`, and for an update `AddNode` when
the node's meta names a new service and `UpdateWeight` otherwise. How the meta
says so is outside the sources, so an update carries that answer and every
answer is covered.

What a provider holds is a view: the nodes added and not removed since, each as
the last hook handed it over. `lookup_apply` is the simulation the registration
proofs rest on: the hook of an event turns the table's view into the view of
the table the event leaves.
-/

namespace DoudouRegistry.Membership

/-- `memberlist.NodeStateType`. -/
inductive NodeStateType
  | alive
  | suspect
  | dead
  | left
  deriving DecidableEq, Repr

/-- A `memberlist.Node`, with the fields the registry reads. -/
structure Node where
  name : String
  addr : String
  port : UInt16
  meta : List UInt8
  state : NodeStateType
  deriving DecidableEq, Repr

/-- The live members of a memberlist: at most one node per name. -/
structure Table where
  nodes : List Node
  unique : (nodes.map Node.name).Nodup

/-- What a service provider holds: for each name, the node it was last handed. -/
def View := String → Option Node

/-- A provider that holds nothing. -/
def View.empty : View := fun _ => none

namespace Table

/-- The member of a given name. -/
def lookup (t : Table) : View := fun name => t.nodes.find? (·.name == name)

/-- A table of one node: a memberlist's own right after it is created. -/
def single (node : Node) : Table := ⟨[node], by simp⟩

/-- Whether a name is live. -/
def Live (t : Table) (name : String) : Prop := name ∈ t.nodes.map Node.name

/-- Whether a name is live can be decided. -/
instance (t : Table) (name : String) : Decidable (t.Live name) :=
  inferInstanceAs (Decidable (name ∈ t.nodes.map Node.name))

end Table

/-- A membership event, carrying the node the memberlist reports; an update also
carries whether the node's meta names a new service. -/
inductive MembershipEvent
  | join (node : Node)
  | leave (node : Node)
  | update (node : Node) (newService : Bool)
  deriving DecidableEq, Repr

/-- The hooks of `IServiceProvider`. -/
inductive Hook
  | addNode
  | removeNode
  | updateWeight
  deriving DecidableEq, Repr

namespace MembershipEvent

/-- The node an event reports. -/
def node : MembershipEvent → Node
  | join node | leave node | update node _ => node

/-- Modelled from the spec: the hook `eventDelegate` calls for an event, join to
`AddNode`, leave to `RemoveNode`, and an update to `AddNode` for a new service and
`UpdateWeight` otherwise. -/
def hook : MembershipEvent → Hook
  | join _ => .addNode
  | leave _ => .removeNode
  | update _ newService => if newService then .addNode else .updateWeight

end MembershipEvent

namespace Table

/-- A join of a name that is not live keeps one node per name. -/
theorem join_unique (t : Table) (node : Node) (absent : ¬ t.Live node.name) :
    ((t.nodes ++ [node]).map Node.name).Nodup := by
  rw [List.map_append, List.nodup_append]
  exact ⟨t.unique, List.nodup_singleton _, by simpa [List.disjoint_singleton, Live] using absent⟩

/-- A leave keeps one node per name. -/
theorem leave_unique (t : Table) (name : String) :
    ((t.nodes.filter (·.name != name)).map Node.name).Nodup :=
  t.unique.sublist ((List.filter_sublist _).map _)

/-- The member a live node replaces on an update. -/
def replace (node : Node) (m : Node) : Node := if m.name = node.name then node else m

/-- An update keeps every member's name. -/
@[simp] theorem name_replace (node m : Node) : (replace node m).name = m.name := by
  unfold replace
  split_ifs with same <;> simp [same]

/-- An update keeps one node per name. -/
theorem update_unique (t : Table) (node : Node) :
    ((t.nodes.map (replace node)).map Node.name).Nodup := by
  simpa [List.map_map, Function.comp_def] using t.unique

/-- The table after an event, when the event is one of its edges. -/
def apply (t : Table) : MembershipEvent → Option Table
  | .join node =>
    if live : t.Live node.name then none else some ⟨t.nodes ++ [node], t.join_unique node live⟩
  | .leave node =>
    if t.Live node.name then some ⟨t.nodes.filter (·.name != node.name), t.leave_unique node.name⟩
    else none
  | .update node _ =>
    if t.Live node.name then some ⟨t.nodes.map (replace node), t.update_unique node⟩ else none

end Table

namespace Table

/-- The member found under a name has that name. -/
theorem lookup_name {t : Table} {name : String} {m : Node} (found : t.lookup name = some m) :
    m.name = name := by
  simpa using List.find?_some found

/-- A name is found exactly when it is live. -/
theorem lookup_isSome_iff (t : Table) (name : String) : (t.lookup name).isSome ↔ t.Live name := by
  simp [lookup, Live]

end Table

/-- Modelled from the spec: the hooks `AddNode`, `RemoveNode` and `UpdateWeight`
of an `IServiceProvider` on what it holds. An update reaches only a node the
provider holds. -/
def View.receive (v : View) : Hook → Node → View
  | .addNode, node => Function.update v node.name (some node)
  | .removeNode, node => Function.update v node.name none
  | .updateWeight, node => if (v node.name).isSome then Function.update v node.name (some node) else v

/-- Handing the same hook over twice leaves what one hand-over leaves. -/
@[simp] theorem View.receive_receive (v : View) (hook : Hook) (node : Node) :
    ((v.receive hook node).receive hook node) = v.receive hook node := by
  cases hook <;> simp only [View.receive]
  · simp
  · simp
  · split_ifs with held <;> simp_all

/-- On a node the provider holds, the hook of an update does what `UpdateWeight`
does, whichever hook the meta picks. -/
theorem View.receive_update_of_held {v : View} {node : Node} (newService : Bool)
    (held : (v node.name).isSome) :
    v.receive (MembershipEvent.update node newService).hook node = v.receive .updateWeight node := by
  cases newService <;> simp [MembershipEvent.hook, View.receive, held]

/-- A hook leaves every other name as it was. -/
@[simp] theorem View.receive_other (v : View) (hook : Hook) {node : Node} {name : String}
    (other : node.name ≠ name) : v.receive hook node name = v name := by
  cases hook <;> simp only [View.receive]
  · exact Function.update_noteq (Ne.symm other) _ _
  · exact Function.update_noteq (Ne.symm other) _ _
  · split_ifs
    · exact Function.update_noteq (Ne.symm other) _ _
    · rfl

/-- The hook of an event carries the view of a table to the view of the table
the event leaves: what a subscribed provider holds follows the memberlist. -/
theorem lookup_apply {t t' : Table} {e : MembershipEvent} (applied : t.apply e = some t') :
    t'.lookup = t.lookup.receive e.hook e.node := by
  funext name
  cases e with
  | join node =>
    simp only [Table.apply] at applied
    split_ifs at applied with live
    cases applied
    have absent : t.lookup node.name = none := by
      simpa [← Table.lookup_isSome_iff] using live
    by_cases same : name = node.name
    · subst same
      simp only [Table.lookup] at absent
      simp [Table.lookup, View.receive, MembershipEvent.hook, MembershipEvent.node, absent]
    · simp [Table.lookup, View.receive, MembershipEvent.hook, MembershipEvent.node, same,
        Function.update_noteq same, Ne.symm same]
  | leave node =>
    simp only [Table.apply] at applied
    split_ifs at applied
    cases applied
    by_cases same : name = node.name
    · subst same
      simp [Table.lookup, View.receive, MembershipEvent.hook, MembershipEvent.node]
    · simp only [Table.lookup, View.receive, MembershipEvent.hook, MembershipEvent.node,
        Function.update_noteq same, List.find?_filter]
      congr 1
      funext m
      by_cases named : m.name = name <;> simp [named, same]
  | update node newService =>
    simp only [Table.apply] at applied
    split_ifs at applied with live
    cases applied
    have held := (Table.lookup_isSome_iff t node.name).mpr live
    simp only [MembershipEvent.node]
    rw [View.receive_update_of_held newService held]
    simp only [View.receive, held, if_true]
    obtain ⟨m, found⟩ := Option.isSome_iff_exists.mp held
    have lifted : ∀ x, (⟨t.nodes.map (Table.replace node), t.update_unique node⟩ : Table).lookup x =
        (t.lookup x).map (Table.replace node) := by
      intro x
      simp [Table.lookup, Function.comp_def]
    rw [lifted]
    by_cases same : name = node.name
    · subst same
      simp [found, Table.replace, Table.lookup_name found]
    · rw [Function.update_noteq same]
      cases other : t.lookup name with
      | none => rfl
      | some m' =>
        have named := Table.lookup_name other
        simp [Table.replace, named, same]

/-- Modelled from the spec: `eventDelegate`'s `NotifyJoin`, `NotifyLeave` and
`NotifyUpdate`, the event's hook on every provider in `ServiceProviders`, in
order. Providers are told apart by identity. -/
def notify (e : MembershipEvent) (providers : List Nat) (holds : Nat → View) : Nat → View :=
  providers.foldl (fun holds sp => Function.update holds sp ((holds sp).receive e.hook e.node)) holds

/-- A subscribed provider receives the event's hook once, however often it is
subscribed; any other provider is left as it was. -/
theorem notify_apply (e : MembershipEvent) (providers : List Nat) (holds : Nat → View) (sp : Nat) :
    notify e providers holds sp =
      if sp ∈ providers then (holds sp).receive e.hook e.node else holds sp := by
  induction providers generalizing holds with
  | nil => simp [notify]
  | cons q rest ih =>
    simp only [notify, List.foldl_cons] at ih ⊢
    rw [ih]
    by_cases same : sp = q
    · subst same
      by_cases later : sp ∈ rest <;> simp [later]
    · by_cases later : sp ∈ rest <;> simp [later, same, Function.update_noteq same]

end DoudouRegistry.Membership
