import Mathlib.Data.List.Chain
import Mathlib.Logic.Function.Basic
import DpuNetwork.Host.Scripted
import DpuNetwork.Proofs.Course.Leads
import DpuNetwork.Proofs.Kernel.Host

/-!
# Node bookkeeping

A pass begins with the cluster: it reads the node of its device and puts the node into the zone of
the host that a label of the node names. Here the nodes are kept by the host of the pass
(`NodeStore`): a read gives a node as it is kept, an application merges its labels into a node that
is there, and both may fail. Whoever else changes nodes does so between two passes, where nothing is
assumed of them.

A pass changes no node but its own and no label but the zone (`NodeStore.KeepsBooks`); over a whole
run this makes constant what nobody else touches. A pass that finds no host name does nothing at all
after its read.

## Main statements

* `NodeStore.node?_of_comesThrough`: what the nodes are in every state that a pass comes through;
* `NodeStore.keepsBooks_makePass`: the bookkeeping of one pass;
* `history_keepsNodes`: the bookkeeping of all runs.
-/

namespace DpuNetwork

open Pass

/-- Whether an exchange asks for labels to be put on a node. -/
def Exchange.setsLabels : Exchange → Bool
  | .applyLabels _ _ _ => true
  | _ => false

/-- A node that names no host: it is not there, or it has no label map, or the label is absent or
empty. -/
inductive IsMute : Option Node → Prop
  /-- There is no node. -/
  | missing : IsMute none
  /-- The node has no label map. -/
  | unlabelled {node : Node} (h : node.labels = none) : IsMute (some node)
  /-- The label is absent. -/
  | absent {node : Node} {labels : Labels} (h : node.labels = some labels)
      (hname : labels.get? Node.hostNameLabel = none) : IsMute (some node)
  /-- The label is empty. -/
  | empty {node : Node} {labels : Labels} (h : node.labels = some labels)
      (hname : labels.get? Node.hostNameLabel = some "") : IsMute (some node)

/-- A node is mute if no host name can be read from it. -/
theorem isMute_iff {node? : Option Node} : IsMute node? ↔ node?.bind Node.hostName? = none := by
  constructor
  · rintro (_ | h | ⟨h, hname⟩ | ⟨h, hname⟩)
    · rfl
    all_goals simp [Node.hostName?, Node.label?, *]
  · intro h
    rcases node? with _ | node
    · exact .missing
    · rcases hlabels : node.labels with _ | labels
      · exact .unlabelled hlabels
      · rcases hname : labels.get? Node.hostNameLabel with _ | hostName
        · exact .absent hlabels hname
        · obtain rfl : hostName = "" := by
            simpa [Node.hostName?, Node.label?, hlabels, hname] using h
          exact .empty hlabels hname

namespace Pass

variable {plan : Plan} {answer : Except ClusterFault (Option Node)}

/-- An answer gives a host name if it is a node that tells it. -/
theorem hostNameIn_eq_ok_iff {hostName : String} : hostNameIn plan answer = .ok hostName ↔
    ∃ node, answer = .ok (some node) ∧ node.hostName? = some hostName := by
  rcases answer with fault | - | node
  · simp [hostNameIn, Except.mapError, Except.bind]
  · simp [hostNameIn, Except.mapError, Except.bind, judgeNode]
  · rcases h : node.hostName? with _ | name <;>
      simp [hostNameIn, Except.mapError, Except.bind, judgeNode, h]

end Pass

variable {σ : Type} {H : Host σ}

/-! ### Nodes that a host keeps -/

/-- The nodes that a host keeps: what each request reads of them and makes of them. -/
structure NodeStore (H : Host σ) where
  /-- The node of a name. -/
  node? : σ → String → Option Node
  /-- A command leaves the nodes alone. -/
  node?_run (c : Command) (k : σ) : node? (H.run c k).2 = node? k
  /-- Starting a program leaves the nodes alone. -/
  node?_start (c : Command) (k : σ) : node? (H.start c k).2 = node? k
  /-- Asking for the state of a program leaves the nodes alone. -/
  node?_childState (k : σ) : node? (H.childState k).2 = node? k
  /-- Reading a device file leaves the nodes alone. -/
  node?_readDevice (path : String) (k : σ) : node? (H.readDevice path k).2 = node? k
  /-- Reading a node leaves the nodes alone. -/
  node?_getNode (name : String) (k : σ) : node? (H.getNode name k).2 = node? k
  /-- A read that does not fail gives the node as it is kept. -/
  eq_node?_of_getNode {name : String} {k : σ} {answer : Option Node}
    (h : (H.getNode name k).1 = .ok answer) : answer = node? k name
  /-- An application merges the labels into a node that is there, or it does nothing, which it does
  only if it fails or there is no such node. -/
  applyLabels (name : String) (labels : Labels) (k : σ) :
    (node? (H.applyLabels name labels k).2 = node? k ∧
      ((H.applyLabels name labels k).1 = .ok () → node? k name = none)) ∨
    ∃ node, node? k name = some node ∧ node? (H.applyLabels name labels k).2 =
      Function.update (node? k) name (some (node.withLabels labels))

namespace NodeStore

variable (N : NodeStore H)

/-- The value of a label of a node. -/
def label? (k : σ) (name label : String) : Option String :=
  (N.node? k name).bind fun node ↦ node.label? label

variable {N} {e : Exchange} {t u : List Exchange} {k k' : σ}

/-- Only labels change nodes. -/
theorem node?_of_happens (h : e.Happens H k k') (he : e.setsLabels = false) :
    N.node? k' = N.node? k := by
  cases e with
  | applyLabels name labels answer => cases he
  | run c answer => simpa only [show H.run c k = _ from h] using N.node?_run c k
  | start c answer => simpa only [show H.start c k = _ from h] using N.node?_start c k
  | childState answer => simpa only [show H.childState k = _ from h] using N.node?_childState k
  | getNode name answer =>
    simpa only [show H.getNode name k = _ from h] using N.node?_getNode name k
  | readDevice path answer =>
    simpa only [show H.readDevice path k = _ from h] using N.node?_readDevice path k

/-- Exchanges that put no labels lead to the same nodes. -/
theorem node?_of_leads (h : Leads H t k k') (ht : ∀ e ∈ t, e.setsLabels = false) :
    N.node? k' = N.node? k := by
  induction h with
  | nil k => rfl
  | cons he _ ih =>
    rw [ih fun e he ↦ ht e (List.mem_cons_of_mem _ he),
      node?_of_happens he (ht _ List.mem_cons_self)]

end NodeStore

/-! ### How a pass begins -/

section

variable {plan : Plan} {roots : Roots} {now : Nat} {x : Findings} {st : Stage}

/-- Only the stage that applies the zone sets labels. -/
theorem Stage.Makes.setsLabels_eq_false (hst : ∀ hostName, st ≠ .applyZone hostName) {e : Exchange}
    (h : st.Makes plan e) : e.setsLabels = false := by
  cases e with
  | applyLabels name labels answer =>
    obtain ⟨hostName, rfl⟩ := h.of_applyLabels
    exact absurd rfl (hst hostName)
  | _ => rfl

/-- The stages behind the bookkeeping. -/
def Plan.courseBehindZone (plan : Plan) (roots : Roots) (now : Nat) (x : Findings) : List Stage :=
  plan.bridgeCourse roots now x ++ plan.routingCourse x.pods x.outOfBand x.defaultGateway ++
    Plan.identityCourse (plan.endpoint x) x.hostName

/-- A course begins with the node and its zone. -/
theorem course_eq_cons : plan.course roots now x =
    .readNode x.hostName :: .applyZone x.hostName :: plan.courseBehindZone roots now x := by
  simp [Plan.course, Plan.courseBehindZone]

/-- The zone is applied once. -/
theorem ne_applyZone_of_mem (h : st ∈ plan.courseBehindZone roots now x) (hostName : String) :
    st ≠ .applyZone hostName := by
  rintro rfl
  simp only [Plan.courseBehindZone, Plan.bridgeCourse, Plan.routingCourse, Plan.identityCourse,
    List.mem_append, List.mem_cons, List.not_mem_nil, reduceCtorEq, or_false] at h
  split at h
  · simp only [InternalMode.course, InternalMode.approach, List.mem_append, List.mem_cons,
      List.not_mem_nil, reduceCtorEq, or_false, false_or] at h
    split at h <;> simp at h
  · simp [ExternalMode.course] at h

end

section

variable (H) (plan : Plan) (p : MadePass σ)

/-- The answer to reading the node of a plan, from where a pass begins. -/
def MadePass.nodeRead : Except ClusterFault (Option Node) :=
  (H.getNode plan.nodeName p.before.host).1

/-- **A pass that only reads** its node: it fails with what is wrong about the answer, and neither
the files nor what is remembered have changed. -/
structure MadePass.OnlyReads : Prop where
  /-- There is no exchange but the read. -/
  trace : p.after.trace = [.getNode plan.nodeName (p.nodeRead H plan)]
  /-- The answer has ended the pass. -/
  result : ∃ f, hostNameIn plan (p.nodeRead H plan) = .error f ∧ p.result = .error f
  /-- The files are as they were. -/
  files : p.after.files = p.before.files
  /-- What is remembered is as it was. -/
  memory : p.after.memory = p.before.memory

/-- How a pass begins: it reads its node and does nothing else, or the node tells a host name, and
the next and last exchange with the cluster puts the node into the zone of that host. -/
inductive MadePass.Opens : Prop
  /-- The read ends the pass. -/
  | stops (h : p.OnlyReads H plan)
  /-- The node is put into its zone. -/
  | goesOn {node : Node} {hostName : String} {applied : Except ClusterFault Unit}
      {u : List Exchange} (hread : p.nodeRead H plan = .ok (some node))
      (hname : node.hostName? = some hostName)
      (htrace : p.after.trace = .getNode plan.nodeName (.ok (some node)) ::
        .applyLabels plan.nodeName (.ofList [(Node.zoneLabel, hostName)]) applied :: u)
      (hu : ∀ e ∈ u, e.setsLabels = false) (hok : p.result = .ok () → applied = .ok ())

/-- A state that a pass comes through: some of its exchanges, from the first one on, lead there. -/
def MadePass.ComesThrough (k : σ) : Prop :=
  ∃ t u, p.after.trace = t ++ u ∧ Leads H t p.before.host k

end

/-- **Every pass begins with the bookkeeping.** -/
theorem makePass_opens (H : Host σ) (roots : Roots) (plan : Plan) (memory : Memory) (v : Visit σ) :
    (makePass H roots plan memory v).Opens H plan := by
  obtain ⟨x, hfollows⟩ := makePass_follows H roots plan memory v
  have hleads := makePass_leads H roots plan memory v
  rw [course_eq_cons] at hfollows
  obtain ⟨_, r₁, l₁, u, htrace, ⟨⟨answer, rfl, hjudge⟩, rfl⟩, hrest⟩ := follows_cons_iff.mp hfollows
  -- The read is the first exchange, so its answer is the one that the host gives at the beginning.
  obtain rfl : answer = (makePass H roots plan memory v).nodeRead H plan := by
    rw [htrace] at hleads
    obtain ⟨k, hk, -⟩ := leads_cons_iff.mp hleads
    exact (congrArg Prod.fst (show H.getNode _ _ = _ from hk)).symm
  rcases r₁ with f | ⟨⟩
  · obtain ⟨rfl, hresult, hstore⟩ := hrest
    exact .stops ⟨htrace, ⟨f, hjudge, hresult⟩, congrArg Store.files hstore,
      congrArg Store.memory hstore⟩
  · obtain ⟨_, r₂, l₂, u, rfl, ⟨⟨applied, rfl, happlied⟩, rfl⟩, hrest⟩ :=
      follows_cons_iff.mp (show Follows _ _ _ _ _ _ from hrest)
    obtain ⟨node, hread, hname⟩ := hostNameIn_eq_ok_iff.mp hjudge
    refine .goesOn hread hname (by rw [htrace, hread]; rfl) ?_ ?_
    · intro e he
      rcases r₂ with f | ⟨⟩
      · rw [hrest.1] at he
        cases he
      · obtain ⟨st, hst, hmakes⟩ := Follows.makes (show Follows _ _ _ _ _ _ from hrest) he
        exact hmakes.setsLabels_eq_false (ne_applyZone_of_mem hst)
    · intro hok
      rcases r₂ with f | ⟨⟩
      · cases hrest.2.1.symm.trans hok
      · rcases applied with fault | ⟨⟩
        · cases happlied
        · rfl

namespace NodeStore

variable {N : NodeStore H} {plan : Plan} {p : MadePass σ} {node : Node} {name hostName : String}
  {k k' : σ}

/-! ### One pass -/

/-- The read and the application lead to the same nodes, which they do only if the application
fails, or to a node in its zone. -/
theorem node?_of_registered {read : Except ClusterFault (Option Node)}
    {applied : Except ClusterFault Unit} {t : List Exchange}
    (h : Leads H (.getNode name read ::
      .applyLabels name (.ofList [(Node.zoneLabel, hostName)]) applied :: t) k k')
    (ht : ∀ e ∈ t, e.setsLabels = false) (hnode : N.node? k name = some node) :
    (N.node? k' = N.node? k ∧ applied ≠ .ok ()) ∨
    N.node? k' = Function.update (N.node? k) name
      (some (node.withLabels (.ofList [(Node.zoneLabel, hostName)]))) := by
  obtain ⟨k₁, hget, h⟩ := leads_cons_iff.mp h
  obtain ⟨k₂, happly, h⟩ := leads_cons_iff.mp h
  have hlaw := N.applyLabels name (.ofList [(Node.zoneLabel, hostName)]) k₁
  rw [show H.applyLabels _ _ k₁ = _ from happly, node?_of_happens hget rfl, hnode] at hlaw
  rw [node?_of_leads h ht]
  rcases hlaw with ⟨hsame, hok⟩ | ⟨node', hnode', hupdate⟩
  · exact .inl ⟨hsame, fun happlied ↦ nomatch hok happlied⟩
  · obtain rfl := Option.some.inj hnode'
    exact .inr hupdate

/-- **The nodes on the way of a pass**: in every state that it comes through they are as they were
when it began, or its own node, as it was then and as the pass has read it, is in the zone of the
host that it names. -/
theorem node?_of_comesThrough (hp : p.Opens H plan) (hk : p.ComesThrough H k) :
    N.node? k = N.node? p.before.host ∨
    ∃ node hostName, p.nodeRead H plan = .ok (some node) ∧
      N.node? p.before.host plan.nodeName = some node ∧ node.hostName? = some hostName ∧
      N.node? k = Function.update (N.node? p.before.host) plan.nodeName
        (some (node.withLabels (.ofList [(Node.zoneLabel, hostName)]))) := by
  obtain ⟨t, u, htrace, hleads⟩ := hk
  rcases hp with honly | @⟨node, hostName, applied, u', hread, hname, hopens, hu', -⟩
  · refine .inl (node?_of_leads hleads fun e he ↦ ?_)
    have hmem : e ∈ p.after.trace := htrace ▸ List.mem_append_left u he
    rw [honly.trace, List.mem_singleton] at hmem
    rw [hmem]
    rfl
  · have hkept : N.node? p.before.host plan.nodeName = some node :=
      (N.eq_node?_of_getNode hread).symm
    rw [hopens] at htrace
    -- The application has been made or not.
    rcases t with - | ⟨e₁, - | ⟨e₂, t⟩⟩
    · exact .inl (node?_of_leads hleads (by simp))
    · obtain ⟨rfl, -⟩ := List.cons.inj htrace
      exact .inl (node?_of_leads hleads (by simp [Exchange.setsLabels]))
    · simp only [List.cons_append, List.cons.injEq] at htrace
      obtain ⟨rfl, rfl, rfl⟩ := htrace
      exact (node?_of_registered hleads (fun e he ↦ hu' e (List.mem_append_left u he)) hkept).imp
        And.left fun h ↦ ⟨node, hostName, hread, hkept, hname, h⟩

variable (N plan p) in
/-- A pass is told a host name by its node as it was when the pass began, which it has read. -/
def Tells (hostName : String) : Prop :=
  ∃ node, p.nodeRead H plan = .ok (some node) ∧ N.node? p.before.host plan.nodeName = some node ∧
    node.label? Node.hostNameLabel = some hostName ∧ hostName ≠ ""

/-- A node that was read with a name tells that name. -/
theorem tells_of_read (hread : p.nodeRead H plan = .ok (some node))
    (hname : node.hostName? = some hostName) : N.Tells plan p hostName :=
  ⟨node, hread, (N.eq_node?_of_getNode hread).symm, Node.hostName?_eq_some_iff.mp hname⟩

variable (N plan p) in
/-- **The bookkeeping of a pass.** What is said of states holds in every state that the pass comes
through. -/
structure KeepsBooks : Prop where
  /-- A pass that cannot read its node, or whose node names no host, does nothing behind the
  read. -/
  stops (h : (∃ fault, p.nodeRead H plan = .error fault) ∨
    IsMute (N.node? p.before.host plan.nodeName)) : p.OnlyReads H plan
  /-- Labels are put on its own node only, right behind the read and never again, and they are the
  zone of the host that it was told. -/
  applies {name : String} {labels : Labels} {answer : Except ClusterFault Unit}
    (h : .applyLabels name labels answer ∈ p.after.trace) :
    name = plan.nodeName ∧ ∃ hostName, N.Tells plan p hostName ∧
      labels = .ofList [(Node.zoneLabel, hostName)] ∧
      ∃ u, p.after.trace = .getNode plan.nodeName (p.nodeRead H plan) ::
        .applyLabels name labels answer :: u ∧ ∀ e ∈ u, e.setsLabels = false
  /-- The pass comes through the state that it ends in. -/
  after : p.ComesThrough H p.after.host
  /-- No other node changes. -/
  others {k : σ} (hk : p.ComesThrough H k) {name : String} (hname : name ≠ plan.nodeName) :
    N.node? k name = N.node? p.before.host name
  /-- Its own node neither comes nor goes, and it keeps its name. -/
  name {k : σ} (hk : p.ComesThrough H k) : (N.node? k plan.nodeName).map Node.name =
    (N.node? p.before.host plan.nodeName).map Node.name
  /-- No label changes but the zone. -/
  labels {k : σ} (hk : p.ComesThrough H k) {label : String} (hlabel : label ≠ Node.zoneLabel) :
    N.label? k plan.nodeName label = N.label? p.before.host plan.nodeName label
  /-- The zone stays or becomes the host that the pass was told. -/
  zone {k : σ} (hk : p.ComesThrough H k) :
    N.label? k plan.nodeName Node.zoneLabel = N.label? p.before.host plan.nodeName Node.zoneLabel ∨
    ∃ hostName, N.Tells plan p hostName ∧
      N.label? k plan.nodeName Node.zoneLabel = some hostName
  /-- Behind a success the zone is the host that the pass was told. -/
  settles (h : p.result = .ok ()) : ∃ hostName, N.Tells plan p hostName ∧
    N.label? p.after.host plan.nodeName Node.zoneLabel = some hostName

theorem label?_eq_of_node?_eq (h : N.node? k = N.node? k') (label : String) :
    N.label? k name label = N.label? k' name label := by
  rw [label?, h, label?]

/-- Labelling with the zone changes the zone and no other label. -/
theorem label?_of_update (hnode : N.node? k name = some node)
    (h : N.node? k' = Function.update (N.node? k) name
      (some (node.withLabels (.ofList [(Node.zoneLabel, hostName)])))) (label : String) :
    N.label? k' name label =
      if Node.zoneLabel = label then some hostName else N.label? k name label := by
  simp only [label?, h, Function.update_self, Option.bind_some, Node.label?_withLabels, hnode]

/-- A pass that begins with the bookkeeping keeps the books. -/
theorem KeepsBooks.of_opens (hp : p.Opens H plan)
    (hleads : Leads H p.after.trace p.before.host p.after.host) : N.KeepsBooks plan p where
  stops := by
    intro h
    rcases hp with honly | ⟨hread, hname, -⟩
    · exact honly
    · rcases h with ⟨fault, hfault⟩ | hmute
      · cases hread.symm.trans hfault
      · rw [isMute_iff, ← N.eq_node?_of_getNode hread] at hmute
        cases hname.symm.trans hmute
  applies := by
    intro name labels answer hmem
    rcases hp with honly | @⟨node, hostName, applied, u, hread, hname, hopens, hu, -⟩
    · simp [honly.trace] at hmem
    · rw [hopens] at hmem
      -- Behind the zone no labels are set, so the exchange is the second one.
      obtain ⟨rfl, rfl, rfl⟩ : name = plan.nodeName ∧
          labels = .ofList [(Node.zoneLabel, hostName)] ∧ answer = applied := by
        rcases List.mem_cons.mp hmem with h | hmem
        · cases h
        · rcases List.mem_cons.mp hmem with h | hmem
          · simpa using h
          · cases hu _ hmem
      exact ⟨rfl, hostName, tells_of_read hread hname, rfl, u, by rw [hopens, hread], hu⟩
  after := ⟨p.after.trace, [], (List.append_nil _).symm, hleads⟩
  others := by
    intro k hk name hne
    rcases node?_of_comesThrough (N := N) hp hk with h | ⟨_, _, -, -, -, h⟩
    · rw [h]
    · rw [h, Function.update_of_ne hne]
  name := by
    intro k hk
    rcases node?_of_comesThrough (N := N) hp hk with h | ⟨_, _, -, hnode, -, h⟩
    · rw [h]
    · simp [h, hnode]
  labels := by
    intro k hk label hlabel
    rcases node?_of_comesThrough (N := N) hp hk with h | ⟨_, _, -, hnode, -, h⟩
    · exact label?_eq_of_node?_eq h label
    · rw [label?_of_update hnode h, if_neg hlabel.symm]
  zone := by
    intro k hk
    rcases node?_of_comesThrough (N := N) hp hk with h | ⟨_, hostName, hread, hnode, hname, h⟩
    · exact .inl (label?_eq_of_node?_eq h _)
    · exact .inr ⟨hostName, tells_of_read hread hname, by rw [label?_of_update hnode h, if_pos rfl]⟩
  settles := by
    intro hok
    rcases hp with honly | @⟨node, hostName, applied, u, hread, hname, hopens, hu, happlied⟩
    · obtain ⟨f, -, hf⟩ := honly.result
      cases hok.symm.trans hf
    · have hkept := (N.eq_node?_of_getNode hread).symm
      rw [hopens] at hleads
      rcases node?_of_registered hleads hu hkept with ⟨-, hfails⟩ | h
      · exact absurd (happlied hok) hfails
      · exact ⟨hostName, tells_of_read hread hname, by rw [label?_of_update hkept h, if_pos rfl]⟩

/-- **Every pass keeps the books.** -/
theorem keepsBooks_makePass (N : NodeStore H) (roots : Roots) (plan : Plan) (memory : Memory)
    (v : Visit σ) : N.KeepsBooks plan (makePass H roots plan memory v) :=
  .of_opens (makePass_opens H roots plan memory v) (makePass_leads H roots plan memory v)

end NodeStore

/-! ### Runs of passes -/

/-- What steps keep and what nothing changes between them is the same all the time. -/
theorem forall_eq_of_isChain {α β : Type} {f g : α → β} {l : List α} (hstep : ∀ a ∈ l, g a = f a)
    (h : l.IsChain fun a b ↦ f b = g a) {a b : α} (ha : a ∈ l) (hb : b ∈ l) : g a = f b := by
  have hchain : l.IsChain fun a b ↦ f a = f b :=
    h.imp_of_mem_imp fun a b ha _ hab ↦ (hstep a ha).symm.trans hab.symm
  have : IsTrans α fun a b ↦ f a = f b := ⟨fun _ _ _ ↦ Eq.trans⟩
  have : Std.Symm fun a b ↦ f a = f b := ⟨fun _ _ ↦ Eq.symm⟩
  rw [hstep a ha]
  exact List.Pairwise.forall_of_forall (R := fun a b ↦ f a = f b) (fun _ _ ↦ rfl)
    (List.isChain_iff_pairwise.mp hchain) ha hb

/-- **The bookkeeping of a run.** What nobody else changes between the passes stays the same over
the whole run, unless it is the zone, which then is that of a host that some pass was told. -/
structure KeepsNodes (N : NodeStore H) (plan : Plan) (run : List (MadePass σ)) : Prop where
  /-- Every pass keeps the books. -/
  passes : ∀ p ∈ run, N.KeepsBooks plan p
  /-- Another node that nobody else changes is always the same. -/
  others {name : String} (hname : name ≠ plan.nodeName)
    (h : run.IsChain fun p q ↦ N.node? q.before.host name = N.node? p.after.host name) :
    ∀ p ∈ run, ∀ q ∈ run, N.node? p.after.host name = N.node? q.before.host name
  /-- Another label that nobody else changes is always the same. -/
  labels {label : String} (hlabel : label ≠ Node.zoneLabel)
    (h : run.IsChain fun p q ↦ N.label? q.before.host plan.nodeName label =
      N.label? p.after.host plan.nodeName label) :
    ∀ p ∈ run, ∀ q ∈ run, N.label? p.after.host plan.nodeName label =
      N.label? q.before.host plan.nodeName label
  /-- A zone that nobody else changes is what it was before every pass so far, or the host that one
  of them was told. -/
  zone (h : run.IsChain fun p q ↦ N.label? q.before.host plan.nodeName Node.zoneLabel =
      N.label? p.after.host plan.nodeName Node.zoneLabel) {before after : List (MadePass σ)}
    {p : MadePass σ} (hrun : run = before ++ p :: after) :
    (∀ q ∈ before ++ [p], N.label? p.after.host plan.nodeName Node.zoneLabel =
      N.label? q.before.host plan.nodeName Node.zoneLabel) ∨
    ∃ q ∈ before ++ [p], ∃ hostName, N.Tells plan q hostName ∧
      N.label? p.after.host plan.nodeName Node.zoneLabel = some hostName

variable {N : NodeStore H} {plan : Plan} {run : List (MadePass σ)}

/-- Along passes that carry the zone over, it is what it was before all of them, or what one of them
was told. -/
theorem zone_of_isChain (hp : ∀ p ∈ run, N.KeepsBooks plan p)
    (h : run.IsChain fun p q ↦ N.label? q.before.host plan.nodeName Node.zoneLabel =
      N.label? p.after.host plan.nodeName Node.zoneLabel) {before after : List (MadePass σ)}
    {p : MadePass σ} (hrun : run = before ++ p :: after) :
    (∀ q ∈ before ++ [p], N.label? p.after.host plan.nodeName Node.zoneLabel =
      N.label? q.before.host plan.nodeName Node.zoneLabel) ∨
    ∃ q ∈ before ++ [p], ∃ hostName, N.Tells plan q hostName ∧
      N.label? p.after.host plan.nodeName Node.zoneLabel = some hostName := by
  -- From the end: the passes behind the first one, then the first one itself.
  induction before generalizing run with
  | nil =>
    have hbooks := hp p (by simp [hrun])
    simpa using hbooks.zone hbooks.after
  | cons b before ih =>
    subst hrun
    have hbooks := hp b List.mem_cons_self
    rcases ih (fun q hq ↦ hp q (List.mem_cons_of_mem _ hq)) h.tail rfl with hsame | ⟨q, hq, htold⟩
    · obtain ⟨c, rest, hc⟩ : ∃ c rest, before ++ [p] = c :: rest :=
        List.exists_cons_of_ne_nil (by simp)
      have hcarried : N.label? c.before.host plan.nodeName Node.zoneLabel =
          N.label? b.after.host plan.nodeName Node.zoneLabel := by
        rw [List.cons_append, List.append_cons before, hc] at h
        exact (List.isChain_cons_cons.mp h).1
      have hb := (hsame c (hc ▸ List.mem_cons_self)).trans hcarried
      rcases hbooks.zone hbooks.after with hstays | ⟨hostName, htold, hzone⟩
      · exact .inl (List.forall_mem_cons.mpr ⟨hb.trans hstays, hsame⟩)
      · exact .inr ⟨b, List.mem_cons_self, hostName, htold, hb.trans hzone⟩
    · exact .inr ⟨q, List.mem_cons_of_mem _ hq, htold⟩

/-- What every pass keeps, a run keeps. -/
theorem KeepsNodes.of_keepsBooks (hp : ∀ p ∈ run, N.KeepsBooks plan p) : KeepsNodes N plan run where
  passes := hp
  others := by
    intro name hname h p hmem q hq
    exact forall_eq_of_isChain (fun p hmem ↦ (hp p hmem).others (hp p hmem).after hname) h hmem hq
  labels := by
    intro label hlabel h p hmem q hq
    exact forall_eq_of_isChain (fun p hmem ↦ (hp p hmem).labels (hp p hmem).after hlabel) h hmem hq
  zone := zone_of_isChain hp

/-- **Every run of passes keeps the nodes**, whatever is planned and remembered, whatever is
answered, and whatever becomes of the nodes between the passes. -/
theorem history_keepsNodes (N : NodeStore H) (roots : Roots) (plan : Plan) (memory : Memory)
    (vs : List (Visit σ)) : KeepsNodes N plan (history H roots plan memory vs) := by
  refine .of_keepsBooks fun p hp ↦ ?_
  obtain ⟨memory', v, rfl⟩ := exists_eq_makePass_of_mem_history H roots plan hp
  exact N.keepsBooks_makePass roots plan memory' v

/-! ### A node that is relabelled -/

/-- In a scripted host, replies and faults leave the nodes alone, and labels change one node. -/
theorem node?_reply (line : String) (k : Script) : (k.reply line).2.node? = k.node? := by
  rw [Script.reply]
  split <;> rfl

theorem node?_clusterFault (k : Script) : k.clusterFault.2.node? = k.node? := by
  rw [Script.clusterFault]
  split <;> rfl

theorem node?_withLabels (name : String) (labels : Labels) (k : Script) :
    ((k.withLabels name labels).node? = k.node? ∧ k.node? name = none) ∨
    ∃ node, k.node? name = some node ∧
      (k.withLabels name labels).node? =
        Function.update k.node? name (some (node.withLabels labels)) := by
  rw [Script.withLabels]
  split
  · next h => exact .inl ⟨rfl, h⟩
  · next node h =>
    refine .inr ⟨node, h, funext fun other ↦ ?_⟩
    have hname : node.name = some name := by
      obtain ⟨_, -, rfl⟩ := Option.map_eq_some_iff.mp h
      rfl
    by_cases hother : name = other
    · subst hother
      simp [Script.node?, Node.withLabels, hname]
    · rw [Function.update_of_ne (Ne.symm hother), Script.node?, Script.node?,
        Assoc.get?_insert_of_ne _ hother]

/-- The nodes of a host that follows a script. -/
def scriptedNodes : NodeStore scriptedHost where
  node? := Script.node?
  node?_run c k := node?_reply c.text k
  node?_start c k := node?_reply _ k
  node?_childState _ := rfl
  node?_readDevice _ _ := rfl
  node?_getNode name k := by
    have hfault : k.countRead.clusterFault.2.node? = k.node? := node?_clusterFault k.countRead
    simp only [scriptedHost]
    split <;> next h => simpa [h] using hfault
  eq_node?_of_getNode {name k answer} h := by
    have hfault : k.countRead.clusterFault.2.node? = k.node? := node?_clusterFault k.countRead
    simp only [scriptedHost] at h
    split at h
    · cases h
    · next heq =>
      rw [heq] at hfault
      exact (Except.ok.inj h).symm.trans (congrFun hfault name)
  applyLabels name labels k := by
    have hfault := node?_clusterFault k
    simp only [scriptedHost]
    split
    · next h =>
      rw [h] at hfault
      exact .inl ⟨hfault, nofun⟩
    · next h =>
      rw [h] at hfault
      rw [← hfault]
      exact (node?_withLabels name labels _).imp (fun h ↦ ⟨h.1, fun _ ↦ h.2⟩) id

/-- A visit to a host that keeps the node of the plan, with some labels, and some other node; the
requests to the cluster meet some faults. -/
def nodeVisit (labels : Option Labels) (faults : List (Option ClusterFault)) : Visit Script where
  now := 0
  host := { nodes := ⟨[("dpu", labels), ("other", none)]⟩, clusterFaults := faults }
  files := {}

/-- The node has no label map, cannot be read, and is put into its zone; then it moves to another
host, with an application that fails and one that does not; then it names no host any more. -/
def relabelled : List (MadePass Script) :=
  history scriptedHost {} staticPlan staticPlan.memory
    [nodeVisit none [],
      nodeVisit (some (.ofList [(Node.hostNameLabel, "worker")])) [some .refused],
      nodeVisit (some (.ofList [(Node.hostNameLabel, "worker")])) [],
      nodeVisit (some (.ofList [(Node.hostNameLabel, "spare"), (Node.zoneLabel, "worker")]))
        [none, some .refused],
      nodeVisit (some (.ofList [(Node.hostNameLabel, "spare"), (Node.zoneLabel, "worker")])) [],
      nodeVisit (some (.ofList [(Node.hostNameLabel, ""), (Node.zoneLabel, "spare")])) []]

/-- The zone follows the host as far as reads and applications succeed, and a pass that is told no
host name has a single exchange. -/
theorem history_keepsNodes_relabelled :
    (relabelled.map fun p ↦ scriptedNodes.label? p.after.host "dpu" Node.zoneLabel) =
      [none, none, some "worker", some "worker", some "spare", some "spare"] ∧
    (relabelled.map fun p ↦ p.after.trace.length) = [1, 1, 3, 2, 3, 1] ∧
    (relabelled.IsChain fun p q ↦ scriptedNodes.label? q.before.host "dpu" Node.zoneLabel =
      scriptedNodes.label? p.after.host "dpu" Node.zoneLabel) ∧
    KeepsNodes scriptedNodes staticPlan relabelled :=
  ⟨by decide +kernel, by decide +kernel, by decide +kernel,
    history_keepsNodes scriptedNodes {} staticPlan staticPlan.memory _⟩

end DpuNetwork
