import Mathlib.Tactic.Choose
import DpuNetwork.Proofs.FileTree.OwnedFiles
import DpuNetwork.Proofs.FileTree.Writable
import DpuNetwork.Proofs.Retry.World

/-!
# Passes that can be resumed

What a pass does in a world is a function of its `View`: the holdings of the host, the files, and
whether the DHCP server was started. `Resumes` compares a pass under failures with that function.
A run that was struck anywhere leaves a view from which the function still gives the same result and
the same final view (`Resumes.resumes`), because the part that was done is found done again
(`Resumes.lasts`) however far the run got (`World.Later`).

Passes that can be resumed are closed under sequencing (`ResumesTo.bind`). A step that either fails
without effect or does all it does is one (`Resumes.of_atomic`).
-/

namespace DpuNetwork

open Ipv4

/-- The files that a pass writes. -/
def Roots.ownedPaths (roots : Roots) : List String :=
  [Path.child roots.files gatewayOptionsPath, Path.child roots.files bridgeDefinitionPath]

/-! ### Views -/

/-- What the further course of passes depends on. -/
structure View where
  /-- What the host holds. -/
  holdings : Holdings
  /-- The files. -/
  files : FileTree
  /-- Whether the DHCP server was started. -/
  dhcpStarted : Bool

/-- What a pass relies on: its files can be written, and a DHCP server that was started runs. -/
structure View.Sound (roots : Roots) (v : View) : Prop where
  /-- The files of the pass can be written. -/
  writable : v.files.Writable roots.ownedPaths
  /-- A DHCP server that was started runs. -/
  served : v.dhcpStarted = true → 0 < v.holdings.servers

namespace World

variable {σ : Type} {H : Host σ} {plan : Plan} (W : World H plan) (roots : Roots)

/-- What there is to see of a session. -/
def view (s : Session (σ × List (Option Fault))) : View where
  holdings := W.holds s.host.1
  files := s.files
  dhcpStarted := s.memory.dhcpStarted

/-- What there is to see of the end of a pass. -/
def shows {α : Type} (r : Except Failure α × Session (σ × List (Option Fault))) :
    Except Failure α × View := (r.1, W.view r.2)

/-- The end of a step that is to show something: it was struck, and then nothing has happened, or it
shows that. -/
def StruckOr {α : Type} (s : Session (σ × List (Option Fault)))
    (r : Except Failure α × Session (σ × List (Option Fault))) (e : Except Failure α × View) :
    Prop :=
  ((∃ f, r.1 = .error f) ∧ W.view r.2 = W.view s ∧ s.host.2 ≠ []) ∨ W.shows r = e

/-- Faults that are yet to strike are no part of what is seen. -/
@[simp] theorem view_facing (s : Session (σ × List (Option Fault))) (faults : List (Option Fault)) :
    W.view (s.facing faults) = W.view s := rfl

/-- The host name on the label of the node. -/
def hostName? : Option String := W.label.join

/-- The addresses of an interface that a pass only observes. -/
def addressesOf (link : String) : Except Failure (List Cidr) := do
  Listing.addresses (← Listing.links (← (W.reply (Network.showAddresses link)).mapError
    (RunFault.toFailure (Network.showAddresses link))))

/-- The gateway to a network that a pass only observes. -/
def gatewayTo (destination : Cidr) : Except Failure Address := do
  Listing.firstGateway destination (← Listing.routes (←
    (W.reply (Network.lookUp destination)).mapError
      (RunFault.toFailure (Network.lookUp destination))))

/-- The bridge address with the gateway of the overlay, if both are known. -/
def endpoint? : Option (Cidr × Address) :=
  match plan.mode with
  | .internal m => some (m.endpoint, m.gateway)
  | .external m => match W.addressesOf overlayBridge, W.gatewayTo m.discovery with
    | .ok [a], .ok g => some (a, g)
    | _, _ => none

/-- The gateway options that are to be written. -/
def options? : Option String :=
  W.endpoint?.map fun (a, g) ↦ GatewayOptions.text ⟨g, a.network⟩

/-- The identifiers that the switch is to have. -/
def identifiers (key : String) : Option String :=
  if key = "ovn-encap-ip" then W.endpoint?.map fun (a, _) ↦ a.address.text else W.hostName?

/-- Some steps of passes lead from one view to another: what there was is still there, and whatever
has changed is what it is to be. -/
structure Later (v u : View) : Prop where
  /-- Addresses, routes and rules have come. -/
  objects : v.holdings.objects <+: u.holdings.objects
  /-- Interfaces have stayed in operation. -/
  up : ∀ link, v.holdings.up link = true → u.holdings.up link = true
  /-- Identifiers have stayed or are those that are to be. -/
  identifiers : ∀ key, u.holdings.identifiers key = v.holdings.identifiers key ∨
    u.holdings.identifiers key = W.identifiers key
  /-- The zone has stayed or is the one that is to be. -/
  zone : u.holdings.zone = v.holdings.zone ∨ u.holdings.zone = W.hostName?
  /-- The DHCP server has stayed started. -/
  started : v.dhcpStarted = true → u.dhcpStarted = true
  /-- The bridge definition has stayed written. -/
  definition : v.files.read (Path.child roots.files bridgeDefinitionPath) =
      some bridgeDefinition.toUTF8 →
    u.files.read (Path.child roots.files bridgeDefinitionPath) = some bridgeDefinition.toUTF8
  /-- The gateway options have stayed written. -/
  options : ∀ text, W.options? = some text →
    v.files.read (Path.child roots.files gatewayOptionsPath) = some text.toUTF8 →
    u.files.read (Path.child roots.files gatewayOptionsPath) = some text.toUTF8
  /-- What a pass relies on still holds. -/
  sound : v.Sound roots → u.Sound roots

variable {W roots}

theorem Later.refl (v : View) : W.Later roots v v :=
  ⟨List.prefix_rfl, fun _ h ↦ h, fun _ ↦ .inl rfl, .inl rfl, id, id, fun _ _ ↦ id, id⟩

/-- Attempts that only add follow each other, and the last is later than the first. -/
theorem Later.trans {v u w : View} (h : W.Later roots v u) (h' : W.Later roots u w) :
    W.Later roots v w where
  objects := h.objects.trans h'.objects
  up link hv := h'.up link (h.up link hv)
  identifiers key := by
    rcases h'.identifiers key with hk | hk
    · rw [hk]
      exact h.identifiers key
    · exact .inr hk
  zone := by
    rcases h'.zone with hz | hz
    · rw [hz]
      exact h.zone
    · exact .inr hz
  started hv := h'.started (h.started hv)
  definition hv := h'.definition (h.definition hv)
  options text ht hv := h'.options text ht (h.options text ht hv)
  sound hv := h'.sound (h.sound hv)

end World

/-! ### Resumption -/

namespace Pass

variable {σ α β : Type} {H : Host σ} {plan : Plan} (W : World H plan) (roots : Roots)

/-- A pass, made at any time, can be resumed: without failures it does what the function `c` says,
and under failures it gets to a view from which `c` says the same as before. Its results satisfy
`Q`. -/
structure Resumes (Q : α → Prop) (p : Nat → Pass (σ × List (Option Fault)) α)
    (c : View → Except Failure α × View) : Prop where
  /-- Without failures the pass does what `c` says. -/
  clean : ∀ now s, s.host.2 = [] → (W.view s).Sound roots →
    W.shows ((p now).exec s) = c (W.view s) ∧ ((p now).exec s).2.host.2 = []
  /-- Under failures, nothing that was done is undone. -/
  grows : ∀ now s, (W.view s).Sound roots →
    W.Later roots (W.view s) (W.view ((p now).exec s).2)
  /-- Under failures, a success is the one that `c` says. -/
  agrees : ∀ now s a s', (W.view s).Sound roots → (p now).exec s = (.ok a, s') →
    c (W.view s) = (.ok a, W.view s')
  /-- What `c` says undoes nothing. -/
  steps : ∀ v, v.Sound roots → W.Later roots v (c v).2
  /-- What was done with success is found done however far later steps got. -/
  lasts : ∀ v a u u', v.Sound roots → c v = (.ok a, u) → W.Later roots u u' → c u' = (.ok a, u')
  /-- From where a run got under failures, `c` says the same as from where it began. -/
  resumes : ∀ now s, (W.view s).Sound roots → c (W.view ((p now).exec s).2) = c (W.view s)
  /-- The results satisfy `Q`. -/
  gives : ∀ v a u, v.Sound roots → c v = (.ok a, u) → Q a

/-- A pass that can be resumed and gives results that satisfy `Q`. -/
def ResumesTo (Q : α → Prop) (p : Nat → Pass (σ × List (Option Fault)) α) : Prop :=
  ∃ c, Resumes W roots Q p c

variable {W roots}

/-- The function of two passes one after the other. -/
def sequence (c : View → Except Failure α × View) (d : α → View → Except Failure β × View)
    (v : View) : Except Failure β × View :=
  match c v with
  | (.ok a, u) => d a u
  | (.error e, u) => (.error e, u)

/-- A sequence succeeds only if both parts do, the second from where the first ended. -/
theorem sequence_eq_ok {c : View → Except Failure α × View}
    {d : α → View → Except Failure β × View} {v w : View} {b : β}
    (h : sequence c d v = (.ok b, w)) : ∃ a u, c v = (.ok a, u) ∧ d a u = (.ok b, w) := by
  rw [sequence] at h
  rcases hc : c v with ⟨e | a, u⟩
  · simp [hc] at h
  · exact ⟨a, u, rfl, by simpa [hc] using h⟩

variable {Q : α → Prop} {Q' : β → Prop} {p : Nat → Pass (σ × List (Option Fault)) α}
  {f : Nat → α → Pass (σ × List (Option Fault)) β} {c : View → Except Failure α × View}
  {d : α → View → Except Failure β × View}

/-- Two passes that can be resumed can be resumed one after the other. A run that got into the
second part resumes there, since the first part is found done. -/
theorem Resumes.sequence (hp : Resumes W roots Q p c)
    (hf : ∀ a, Q a → Resumes W roots Q' (fun now ↦ f now a) (d a)) :
    Resumes W roots Q' (fun now ↦ p now >>= f now) (sequence c d) where
  clean now s hs hv := by
    obtain ⟨hc, hnil⟩ := hp.clean now s hs hv
    have hu := (hp.grows now s hv).sound hv
    rw [Pass.sequence, ← hc, exec_bind]
    rcases hexec : (p now).exec s with ⟨e | a, s₁⟩
    · rw [hexec] at hnil
      exact ⟨rfl, hnil⟩
    · rw [hexec] at hnil hu
      exact (hf a (hp.gives _ _ _ hv (hp.agrees now s a s₁ hv hexec))).clean now s₁ hnil hu
  grows now s hv := by
    have hgrows := hp.grows now s hv
    rw [exec_bind]
    rcases hexec : (p now).exec s with ⟨e | a, s₁⟩
    · rwa [hexec] at hgrows
    · rw [hexec] at hgrows
      exact hgrows.trans ((hf a (hp.gives _ _ _ hv (hp.agrees now s a s₁ hv hexec))).grows now s₁
        (hgrows.sound hv))
  agrees now s b s' hv h := by
    obtain ⟨a, s₁, hexec, hrest⟩ := exec_bind_eq_ok_iff.mp h
    have hc := hp.agrees now s a s₁ hv hexec
    have hu : (W.view s₁).Sound roots := by simpa [hexec] using (hp.grows now s hv).sound hv
    rw [Pass.sequence, hc]
    exact (hf a (hp.gives _ _ _ hv hc)).agrees now s₁ b s' hu hrest
  steps v hv := by
    have hsteps := hp.steps v hv
    rw [Pass.sequence]
    rcases hc : c v with ⟨e | a, u⟩
    · rwa [hc] at hsteps
    · rw [hc] at hsteps
      exact hsteps.trans ((hf a (hp.gives _ _ _ hv hc)).steps u (hsteps.sound hv))
  lasts v b w w' hv h hlater := by
    obtain ⟨a, u, hc, hd⟩ := sequence_eq_ok h
    have hf := hf a (hp.gives _ _ _ hv hc)
    have hu : u.Sound roots := by simpa [hc] using (hp.steps v hv).sound hv
    -- What comes behind the whole also comes behind its first part.
    have huw : W.Later roots u w := by simpa [hd] using hf.steps u hu
    rw [Pass.sequence, hp.lasts v a u w' hv hc (huw.trans hlater)]
    exact hf.lasts u b w w' hu hd hlater
  resumes now s hv := by
    have hresumes := hp.resumes now s hv
    have hgrows := hp.grows now s hv
    rw [exec_bind]
    rcases hexec : (p now).exec s with ⟨e | a, s₁⟩
    · -- The run ended in the first part, and resumes there.
      rw [hexec] at hresumes
      rw [Pass.sequence, hresumes]
      rfl
    · rw [hexec] at hgrows
      have hc := hp.agrees now s a s₁ hv hexec
      have hf := hf a (hp.gives _ _ _ hv hc)
      have hu := hgrows.sound hv
      -- The second part got somewhere; from there the first part is found done.
      have hdone := hp.lasts _ a _ _ hv hc (hf.grows now s₁ hu)
      rw [Pass.sequence, Pass.sequence, hdone, hc]
      exact hf.resumes now s₁ hu
  gives v b w hv h := by
    obtain ⟨a, u, hc, hd⟩ := sequence_eq_ok h
    have hu : u.Sound roots := by simpa [hc] using (hp.steps v hv).sound hv
    exact (hf a (hp.gives _ _ _ hv hc)).gives u b w hu hd

/-- **Parts that resume make a whole that resumes.** An attempt that failed in the second part has
completed the first, and the next attempt repeats it to the same end (`Later`), whatever failed. -/
theorem ResumesTo.bind (hp : ResumesTo W roots Q p)
    (hf : ∀ a, Q a → ResumesTo W roots Q' fun now ↦ f now a) :
    ResumesTo W roots Q' fun now ↦ p now >>= f now := by
  obtain ⟨c, hc⟩ := hp
  have hd : ∀ a, ∃ d, Q a → Resumes W roots Q' (fun now ↦ f now a) d := by
    intro a
    by_cases ha : Q a
    · obtain ⟨d, hd⟩ := hf a ha
      exact ⟨d, fun _ ↦ hd⟩
    · exact ⟨fun v ↦ (.error .json, v), fun h ↦ absurd h ha⟩
  -- Only the results that satisfy `Q` matter; for the others any function will do.
  choose d hd using hd
  exact ⟨_, hc.sequence hd⟩

/-- What is known of the result may be forgotten. -/
theorem ResumesTo.imp {Q₁ : α → Prop} (hp : ResumesTo W roots Q p) (hQ : ∀ a, Q a → Q₁ a) :
    ResumesTo W roots Q₁ p := by
  obtain ⟨c, hc⟩ := hp
  exact ⟨c, { hc with gives := fun v a u hv h ↦ hQ a (hc.gives v a u hv h) }⟩

/-- A step that either fails without effect or does all it does can be resumed, if it is found done
once it is done, and if what refuses it changes nothing. -/
theorem Resumes.of_atomic
    (hrun : ∀ now s, (W.view s).Sound roots → W.StruckOr s ((p now).exec s) (c (W.view s)))
    (hrest : ∀ now s, s.host.2 = [] → ((p now).exec s).2.host.2 = [])
    (hsteps : ∀ v, v.Sound roots → W.Later roots v (c v).2)
    (hlasts : ∀ v a u u', v.Sound roots → c v = (.ok a, u) → W.Later roots u u' →
      c u' = (.ok a, u'))
    (herror : ∀ v e u, v.Sound roots → c v = (.error e, u) → u = v)
    (hgives : ∀ v a u, v.Sound roots → c v = (.ok a, u) → Q a) : Resumes W roots Q p c where
  clean now s hs hv := by
    rcases hrun now s hv with ⟨-, -, hne⟩ | hdone
    · exact absurd hs hne
    · exact ⟨hdone, hrest now s hs⟩
  grows now s hv := by
    rcases hrun now s hv with ⟨-, hsame, -⟩ | hdone
    · rw [hsame]
      exact .refl _
    · have hview : W.view ((p now).exec s).2 = (c (W.view s)).2 := congrArg Prod.snd hdone
      rw [hview]
      exact hsteps _ hv
  agrees now s a s' hv h := by
    rcases hrun now s hv with ⟨⟨e, he⟩, -, -⟩ | hdone
    · rw [h] at he
      cases he
    · rw [← hdone, h]
      rfl
  steps := hsteps
  lasts := hlasts
  resumes now s hv := by
    rcases hrun now s hv with ⟨-, hsame, -⟩ | hdone
    · rw [hsame]
    · -- What was done is found done, and what was refused has changed nothing.
      have hview : W.view ((p now).exec s).2 = (c (W.view s)).2 := congrArg Prod.snd hdone
      rw [hview]
      rcases hc : c (W.view s) with ⟨e | a, u⟩
      · rw [herror _ e u hv hc, hc, herror _ e u hv hc]
      · exact hlasts _ a u u hv hc (.refl u)
  gives := hgives

end Pass

end DpuNetwork
