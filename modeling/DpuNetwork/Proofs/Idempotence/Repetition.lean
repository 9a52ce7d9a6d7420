import DpuNetwork.Proofs.Agreement
import DpuNetwork.Proofs.Idempotence.Listings

/-!
# Passes that can be repeated

On a host whose network tool lists what it was told to add (`Listings`), a pass that has succeeded
can be made again: it succeeds with the same value and does no harm (`Repeats.again`). The second
run may begin in any session that agrees with the end of the first (`Agrees`), at any time, and none
of its requests may be disturbed (`Exchange.Undisturbed`).

What a step of the first run has brought about must still be there at the end of that run, so the
steps that follow are held to leave it (`Lasting`). Passes that can be repeated are closed under
sequencing (`Repeats.bind`), and a step of one request is one if its answer is judged alike
(`Repeats.of_request`).
-/

namespace DpuNetwork

open Ipv4

/-! ### Hosts that list what was added -/

/-- A host whose network tool lists what it was told to add, and on which nothing else changes what
is listed. Its answers may be anything else: they may fail, and need not be listings. -/
structure Listings {σ : Type} (H : Host σ) where
  /-- The entries that a query is answered with, if the answer is a listing. -/
  entries : Command → σ → Option (List Json)
  /-- A query that does not fail is answered with these entries. -/
  shown : ∀ q, Network.IsQuery q → ∀ s text, (H.run q s).1 = .ok text →
    Network.entries? q text = entries q s
  /-- A successful addition puts one entry into its listing and changes no other. -/
  add : ∀ A s out, (H.run (Addition.command A) s).1 = .ok out →
    (∀ es, entries A.listing s = some es → ∃ before j after, es = before ++ after ∧ A.ShownBy j ∧
      entries A.listing (H.run A.command s).2 = some (before ++ j :: after)) ∧
    ∀ q, q ≠ A.listing → entries q (H.run A.command s).2 = entries q s
  /-- Any other command changes no listing. -/
  run : ∀ c s, (∀ A, c = Addition.command A → ∀ out, (H.run c s).1 ≠ .ok out) →
    ∀ q, entries q (H.run c s).2 = entries q s
  /-- Starting a program changes no listing. -/
  start : ∀ c s q, entries q (H.start c s).2 = entries q s
  /-- Asking for the program in the background changes no listing. -/
  childState : ∀ s q, entries q (H.childState s).2 = entries q s
  /-- Reading a node changes no listing. -/
  getNode : ∀ name s q, entries q (H.getNode name s).2 = entries q s
  /-- Putting labels on a node changes no listing. -/
  applyLabels : ∀ name l s q, entries q (H.applyLabels name l s).2 = entries q s
  /-- Reading a device file changes no listing. -/
  readDevice : ∀ path s q, entries q (H.readDevice path s).2 = entries q s

/-- The listing of an addition shows it. -/
def Listings.Shows {σ : Type} {H : Host σ} (L : Listings H) (s : σ) (A : Addition) : Prop :=
  (L.entries A.listing s).bind A.seen? = some true

/-! ### Exchanges of a second run -/

/-- Whether the request did not fail, and a program that was started in the background runs. -/
def Exchange.succeeds : Exchange → Bool
  | .run _ (.ok _) | .start _ true | .childState (.ok .running) | .getNode _ (.ok _)
  | .applyLabels _ _ (.ok _) | .readDevice _ (some _) => true
  | _ => false

/-- The label that names the host node, on a node that may be missing. -/
def hostNameLabel? (node : Option Node) : Option String :=
  node.bind (·.label? Node.hostNameLabel)

/-- Whether two answers to the same question are the same, if they are answers to one: the host name
on the label of a node, the text of a device file. -/
def Exchange.confirms : Exchange → Exchange → Bool
  | .getNode name (.ok node), .getNode name' (.ok node') =>
    name != name' || hostNameLabel? node == hostNameLabel? node'
  | .readDevice path (some text), .readDevice path' (some text') => path != path' || text == text'
  | _, _ => true

/-- The request was not made to fail, and its answer is still what was told in an earlier trace. -/
def Exchange.Undisturbed (earlier : List Exchange) (e : Exchange) : Prop :=
  e.succeeds = true ∧ ∀ x ∈ earlier, e.confirms x = true

instance (earlier : List Exchange) (e : Exchange) : Decidable (e.Undisturbed earlier) :=
  inferInstanceAs (Decidable (_ ∧ _))

namespace Exchange.Undisturbed

variable {t : List Exchange}

/-- An undisturbed command succeeded. -/
theorem run {c : Command} {answer : Except RunFault String}
    (h : (Exchange.run c answer).Undisturbed t) : ∃ out, answer = .ok out := by
  rcases answer with f | out
  · exact Bool.noConfusion h.1
  · exact ⟨out, rfl⟩

/-- An undisturbed server still runs. -/
theorem childState {answer : Except ChildFault ChildState}
    (h : (Exchange.childState answer).Undisturbed t) : answer = .ok .running := by
  rcases answer with f | ⟨⟩ | status
  · exact Bool.noConfusion h.1
  · rfl
  · exact Bool.noConfusion h.1

/-- An undisturbed cluster takes labels. -/
theorem applyLabels {name : String} {l : Labels} {answer : Except ClusterFault Unit}
    (h : (Exchange.applyLabels name l answer).Undisturbed t) : answer = .ok () := by
  rcases answer with f | u
  · exact Bool.noConfusion h.1
  · rfl

/-- An undisturbed node is told, with the host name it had in the earlier pass. -/
theorem getNode {name : String} {answer : Except ClusterFault (Option Node)}
    (h : (Exchange.getNode name answer).Undisturbed t) : ∃ node, answer = .ok node ∧
      ∀ node', .getNode name (.ok node') ∈ t →
        hostNameLabel? node = hostNameLabel? node' := by
  rcases answer with f | node
  · exact Bool.noConfusion h.1
  · exact ⟨node, rfl, fun node' hmem ↦ by simpa [confirms] using h.2 _ hmem⟩

/-- An undisturbed device file is read as it was before. -/
theorem readDevice {path : String} {answer : Option String}
    (h : (Exchange.readDevice path answer).Undisturbed t) : ∃ text, answer = some text ∧
      ∀ text', .readDevice path (some text') ∈ t → text = text' := by
  rcases answer with - | text
  · exact Bool.noConfusion h.1
  · exact ⟨text, rfl, fun text' hmem ↦ by simpa [confirms] using h.2 _ hmem⟩

end Exchange.Undisturbed

/-- The request does not disturb the host: it asks, or it says again what was said before. Only in
external mode it may be an application of the bridge definition. -/
def Exchange.IsHarmless (plan : Plan) : Exchange → Prop
  | .run c _ => Network.IsQuery c ∨ c = Network.setUp overlayBridge ∨
      (∃ key value, c = Network.setExternalId key value) ∨
      ((∃ m, plan.mode = .external m) ∧ c = applyBridgeDefinition)
  | .start _ _ => False
  | _ => True

namespace Pass

variable {σ α β : Type} {H : Host σ} (L : Listings H) (roots : Roots) (plan : Plan)

/-! ### What lasts -/

/-- What was brought about before is still there: what listings show, what is only observed, that
the DHCP server was started, and the bridge definition. -/
structure Lasting (s e : Session σ) : Prop where
  /-- The trace has gone on. -/
  trace : s.trace ⊆ e.trace
  /-- Additions that are listed stay listed. -/
  shows : ∀ A, L.Shows s.host A → L.Shows e.host A
  /-- What is only observed has not changed. -/
  observed : ∀ q, plan.Observes q → L.entries q e.host = L.entries q s.host
  /-- The DHCP server has stayed started. -/
  started : s.memory.dhcpStarted = true → e.memory.dhcpStarted = true
  /-- The bridge definition has stayed written. -/
  definition : s.files.read (Path.child roots.files bridgeDefinitionPath) =
      some bridgeDefinition.toUTF8 →
    e.files.read (Path.child roots.files bridgeDefinitionPath) = some bridgeDefinition.toUTF8

/-- What lasts, where no file is written any more. -/
structure LastingFiles (s e : Session σ) : Prop extends Lasting L roots plan s e where
  /-- The files have stayed the same. -/
  files : e.files = s.files

/-- A session agrees with the end of an earlier run: the host lists the same, and the files and the
memory of the DHCP server are the same. -/
structure Agrees (e s : Session σ) : Prop where
  /-- The host lists the same. -/
  entries : ∀ q, L.entries q s.host = L.entries q e.host
  /-- The files are the same. -/
  files : s.files = e.files
  /-- The DHCP server is remembered alike. -/
  started : s.memory.dhcpStarted = e.memory.dhcpStarted

variable {L roots plan}

theorem Lasting.refl (s : Session σ) : Lasting L roots plan s s :=
  ⟨List.Subset.refl _, fun _ ↦ id, fun _ _ ↦ rfl, id, id⟩

/-- What lasts through each of two parts lasts through both. -/
theorem Lasting.trans {s₁ s₂ s₃ : Session σ} (h : Lasting L roots plan s₁ s₂)
    (h' : Lasting L roots plan s₂ s₃) : Lasting L roots plan s₁ s₃ where
  trace := List.Subset.trans h.trace h'.trace
  shows A hA := h'.shows A (h.shows A hA)
  observed q hq := (h'.observed q hq).trans (h.observed q hq)
  started hs := h'.started (h.started hs)
  definition hs := h'.definition (h.definition hs)

/-- An exchange that changes no listing leaves what was brought about. -/
theorem Lasting.told {s : Session σ} {host : σ} (e : Exchange)
    (h : ∀ q, L.entries q host = L.entries q s.host) :
    Lasting L roots plan s (s.told host e) where
  trace := List.subset_append_left _ _
  shows A hA := by
    rw [Listings.Shows, Session.told_host, h]
    exact hA
  observed q _ := h q
  started := id
  definition := id

theorem LastingFiles.lasting {s e : Session σ} (h : LastingFiles L roots plan s e) :
    Lasting L roots plan s e := h.toLasting

/-- An exchange that adds nothing to a listing keeps the agreement. -/
theorem Agrees.told {e s : Session σ} (h : Agrees L e s) {host : σ} (x : Exchange)
    (hhost : ∀ q, L.entries q host = L.entries q s.host) : Agrees L e (s.told host x) :=
  ⟨fun q ↦ (hhost q).trans (h.entries q), h.files, h.started⟩

/-- What was shown at the end of the first pass is shown in the second. -/
theorem Agrees.shows {e s : Session σ} (h : Agrees L e s) {A : Addition}
    (hA : L.Shows e.host A) : L.Shows s.host A := by
  rw [Listings.Shows, h.entries]
  exact hA

/-! ### Parts of a trace -/

/-- The parts of a trace consist of what the whole does. -/
theorem Appends.split {P : Exchange → Prop} {s₁ s₂ s₃ : Session σ} (h : Appends P s₁ s₃)
    (h₁₂ : Appends (fun _ ↦ True) s₁ s₂) (h₂₃ : Appends (fun _ ↦ True) s₂ s₃) :
    Appends P s₁ s₂ ∧ Appends P s₂ s₃ := by
  obtain ⟨t, ht, hP⟩ := h
  obtain ⟨t₁, ht₁, -⟩ := h₁₂
  obtain ⟨t₂, ht₂, -⟩ := h₂₃
  obtain rfl : t₁ ++ t₂ = t := by
    rw [ht₂, ht₁, List.append_assoc] at ht
    exact List.append_cancel_left ht
  exact ⟨⟨t₁, ht₁, fun e he ↦ hP e (List.mem_append_left _ he)⟩,
    ⟨t₂, ht₂, fun e he ↦ hP e (List.mem_append_right _ he)⟩⟩

/-- A pass whose exchanges are all undisturbed has parts of which that is true. -/
theorem Appends.parts {P : Exchange → Prop} {p : Pass σ α} {f : α → Pass σ β}
    (hp : Respects (Appends fun _ ↦ True) p) (hf : ∀ a, Respects (Appends fun _ ↦ True) (f a))
    {s : Session σ} (h : Appends P s ((p >>= f).exec s).2) :
    Appends P s (p.exec s).2 ∧
      ∀ a s₁, p.exec s = (.ok a, s₁) → Appends P s₁ ((f a).exec s₁).2 := by
  have hs := hp s
  rw [exec_bind] at h
  rcases hexec : p.exec s with ⟨e | a, s₁⟩
  · rw [hexec] at h
    exact ⟨h, fun a s₁ h ↦ by cases h⟩
  · rw [hexec] at h hs
    have hsplit := h.split hs (hf a s₁)
    refine ⟨hsplit.1, fun a' s₁' h' ↦ ?_⟩
    cases h'
    exact hsplit.2

/-! ### Repetition -/

variable (L roots plan)

/-- A pass, made at any time, can be repeated as long as `K` holds between its end and the end of
the whole run that it is a part of. -/
structure Repeats (K : Session σ → Session σ → Prop) (p : Nat → Pass σ α) : Prop where
  /-- The trace goes on, whether the pass succeeds or fails. -/
  told : ∀ now, Respects (Appends fun _ ↦ True) (p now)
  /-- When it succeeds, what was brought about before lasts. -/
  lasts : ∀ now s a s', (p now).exec s = (.ok a, s') → Lasting L roots plan s s'
  /-- Undisturbed, it succeeds again with the same value and does no harm. -/
  again : ∀ now s a s', (p now).exec s = (.ok a, s') → ∀ e, K s' e → ∀ now' u, Agrees L e u →
    Appends (Exchange.Undisturbed e.trace) u ((p now').exec u).2 →
    ∃ u', (p now').exec u = (.ok a, u') ∧ Agrees L e u' ∧ Appends (Exchange.IsHarmless plan) u u'

variable {L roots plan} {K K' : Session σ → Session σ → Prop}

/-- The second part is repeated from where the repetition of the first one ends. What the first part
relies on has to be there from its own end on, so also along the second part. -/
theorem Repeats.bind {p : Nat → Pass σ α} {f : Nat → α → Pass σ β} (hp : Repeats L roots plan K p)
    (hf : ∀ a, Repeats L roots plan K' fun now ↦ f now a)
    (hK : ∀ a now s b s', (f now a).exec s = (.ok b, s') → ∀ e, K' s' e → K s e) :
    Repeats L roots plan K' fun now ↦ p now >>= f now where
  told now := (hp.told now).bind Appends.chains fun a ↦ (hf a).told now
  lasts now s b s' h := by
    obtain ⟨a, s₁, hexec, hrest⟩ := exec_bind_eq_ok_iff.mp h
    exact (hp.lasts now s a s₁ hexec).trans ((hf a).lasts now s₁ b s' hrest)
  again now s b s' h e he now' u hu hcalm := by
    obtain ⟨a, s₁, hexec, hrest⟩ := exec_bind_eq_ok_iff.mp h
    -- Both parts of the second run are undisturbed, since the whole is.
    obtain ⟨hcalm₁, hcalm₂⟩ := hcalm.parts (hp.told now') fun a ↦ (hf a).told now'
    obtain ⟨u₁, hexec', hu₁, hharmless⟩ :=
      hp.again now s a s₁ hexec e (hK a now s₁ b s' hrest e he) now' u hu hcalm₁
    obtain ⟨u', hrest', hu', hharmless'⟩ :=
      (hf a).again now s₁ b s' hrest e he now' u₁ hu₁ (hcalm₂ a u₁ hexec')
    refine ⟨u', ?_, hu', Appends.chains.trans hharmless hharmless'⟩
    rw [exec_bind_of_ok hexec', hrest']

/-- A first part that relies on what lasts is followed by anything that can be repeated. -/
theorem Repeats.followedBy {p : Nat → Pass σ α} {f : Nat → α → Pass σ β}
    (hp : Repeats L roots plan (Lasting L roots plan) p)
    (hf : ∀ a, Repeats L roots plan K fun now ↦ f now a)
    (hK : ∀ s e, K s e → Lasting L roots plan s e) :
    Repeats L roots plan K fun now ↦ p now >>= f now :=
  hp.bind hf fun a now s b s' h e he ↦ ((hf a).lasts now s b s' h).trans (hK s' e he)

/-- A first part that relies on its files is followed by what writes none. -/
theorem Repeats.followedByNoFile {p : Nat → Pass σ α} {f : Nat → α → Pass σ β}
    (hp : Repeats L roots plan (LastingFiles L roots plan) p)
    (hf : ∀ a, Repeats L roots plan (LastingFiles L roots plan) fun now ↦ f now a)
    (hfiles : ∀ a now, Respects SameFiles (f now a)) :
    Repeats L roots plan (LastingFiles L roots plan) fun now ↦ p now >>= f now := by
  refine hp.bind hf fun a now s b s' h e he ↦ ⟨((hf a).lasts now s b s' h).trans he.lasting, ?_⟩
  have hsame := hfiles a now s
  rw [h] at hsame
  exact he.files.trans hsame

/-- A result that is simply returned is returned again. -/
theorem Repeats.pure (a : α) : Repeats L roots plan K fun _ ↦ (pure a : Pass σ α) where
  told _ := .pure Appends.chains a
  lasts _ s _ s' h := by
    cases h
    exact .refl s
  again _ s _ s' h e _ _ u hu _ := by
    cases h
    exact ⟨u, rfl, hu, Appends.chains.refl u⟩

/-- A pass that fails does not succeed the first time, so nothing is to be repeated. -/
theorem Repeats.throw (f : Failure) : Repeats L roots plan K fun _ ↦ (throw f : Pass σ α) where
  told _ := .throw Appends.chains f
  lasts _ _ _ _ h := by cases h
  again _ _ _ _ h := by cases h

/-- A step of one request that changes no listing can be repeated if the answer to its repetition is
judged as the first one was. -/
theorem Repeats.of_request {p : Pass σ α} (ask : σ → β × σ) (record : β → Exchange)
    (judge : β → Except Failure α)
    (hexec : ∀ s, p.exec s =
      (judge (ask s.host).1, s.told (ask s.host).2 (record (ask s.host).1)))
    (hentries : ∀ s q, L.entries q (ask s).2 = L.entries q s)
    (hharmless : ∀ answer, Exchange.IsHarmless plan (record answer))
    (hjudge : ∀ (s e u : Session σ) a, judge (ask s.host).1 = .ok a →
      Lasting L roots plan (s.told (ask s.host).2 (record (ask s.host).1)) e → Agrees L e u →
      (record (ask u.host).1).Undisturbed e.trace → judge (ask u.host).1 = .ok a) :
    Repeats L roots plan (Lasting L roots plan) fun _ ↦ p where
  told _ s := by
    rw [hexec]
    exact .told trivial
  lasts _ s a s' h := by
    rw [hexec] at h
    obtain ⟨-, rfl⟩ := Prod.mk.inj h
    exact .told _ (hentries s.host)
  again _ s a s' h e he _ u hu hcalm := by
    rw [hexec] at h
    obtain ⟨ha, rfl⟩ := Prod.mk.inj h
    obtain ⟨t, ht, hundisturbed⟩ := hcalm
    rw [hexec, Session.told_trace] at ht
    obtain rfl := List.append_cancel_left ht
    have hresult := hjudge s e u a ha he hu (hundisturbed _ List.mem_cons_self)
    rw [hexec, hresult]
    exact ⟨_, rfl, hu.told _ (hentries u.host), .told (hharmless _)⟩

end Pass

end DpuNetwork
