import DpuNetwork.Config.Settings
import Mathlib.Tactic.Tauto

/-!
# What makes settings a plan

A mode has a list of requirements (`ModeKind.requirements`), in the order in which they are looked
at: that the settings of the other mode are not there, that its own are, and then those that both
modes share. Settings that meet them all are a plan with the same values; otherwise the first
requirement that is not met is the one that is told, by the name of its setting.

Each part of `Settings.plan` looks at some requirements and gives a value (`Settings.Checks`), and
parts one behind the other look at the requirements of both (`Settings.Checks.bind`).

## Main statements

* `Settings.verdict`: which settings are accepted, what they become, and what is told of the others.
-/

namespace DpuNetwork

open Ipv4

/-! ### Requirements -/

/-- What is asked of settings. -/
inductive Requirement where
  /-- A setting of the other mode is not there. -/
  | absent (x : Setting) (only : ModeKind)
  /-- A setting is there. -/
  | present (x : Setting)
  /-- The MTU is one of an IPv4 link and leaves room for the encapsulation. -/
  | mtu
  deriving DecidableEq

/-- Whether a record has a setting. One with a default is always there, and an empty node name is
none. -/
def Settings.has (s : Settings) : Setting → Bool
  | .endpoint => s.endpoint.isSome
  | .gateway => s.gateway.isSome
  | .client => s.client.isSome
  | .discovery => s.discovery.isSome
  | .endpoints => s.endpoints.isSome
  | .hosts => s.hosts.isSome
  | .nodeName => s.nodeName.any (· ≠ "")
  | .mode | .mtu | .cooldown | .interval | .files | .devices => true

namespace Requirement

/-- The setting that a requirement is about. -/
def setting : Requirement → Setting
  | absent x _ => x
  | present x => x
  | mtu => .mtu

/-- Whether a record meets a requirement. -/
def holds (s : Settings) : Requirement → Bool
  | absent x _ => !s.has x
  | present x => s.has x
  | mtu => 68 ≤ s.mtu && s.mtu ≤ 65475

/-- What is told of a record that does not meet a requirement. -/
def fault (s : Settings) : Requirement → ConfigFault
  | absent x only => .stray x.name only
  | present x => .required x.name
  | mtu => .mtuOutside s.mtu 68 65475

/-- What is told starts with the name of the setting. -/
theorem exists_message_fault (s : Settings) (r : Requirement) :
    ∃ rest, (r.fault s).message = r.setting.name ++ " " ++ rest := by
  cases r with
  | absent x only =>
    exact ⟨"is only valid in " ++ only.text ++ " IPAM mode",
      by simp only [fault, setting, ConfigFault.message, String.append_assoc]; rfl⟩
  | present x =>
    exact ⟨"is required",
      by simp only [fault, setting, ConfigFault.message, String.append_assoc]; rfl⟩
  | mtu =>
    exact ⟨toString s.mtu.toNat ++ " is outside " ++ toString 68 ++ "..=" ++ toString 65475,
      by simp only [fault, setting, ConfigFault.message, String.append_assoc]; rfl⟩

end Requirement

/-- The requirements that only a mode has, in order. -/
def ModeKind.ownRequirements : ModeKind → List Requirement
  | internal => [.absent .discovery external, .present .endpoint, .present .gateway,
      .present .client]
  | external => [.absent .endpoint internal, .absent .gateway internal, .absent .client internal,
      .present .discovery]

/-- The requirements of a mode, in order. -/
def ModeKind.requirements (mode : ModeKind) : List Requirement :=
  mode.ownRequirements ++
    [Requirement.present .nodeName, .mtu, .present .endpoints, .present .hosts]

namespace Settings

variable {α β : Type} {s : Settings}

/-- What is told of a record by the first of some requirements that it does not meet. -/
def firstFault? (s : Settings) (rs : List Requirement) : Option ConfigFault :=
  (rs.find? fun r ↦ !r.holds s).map (·.fault s)

theorem firstFault?_append (rs rs' : List Requirement) :
    s.firstFault? (rs ++ rs') = (s.firstFault? rs).or (s.firstFault? rs') := by
  simp only [firstFault?, List.find?_append]
  cases rs.find? fun r ↦ !r.holds s <;> rfl

theorem firstFault?_singleton (r : Requirement) :
    s.firstFault? [r] = if r.holds s then none else some (r.fault s) := by
  by_cases h : r.holds s <;> simp [firstFault?, h]

/-- What is told comes from a requirement that is not met. -/
theorem exists_of_firstFault?_eq_some {rs : List Requirement} {f : ConfigFault}
    (h : s.firstFault? rs = some f) : ∃ r ∈ rs, r.holds s = false ∧ f = r.fault s := by
  obtain ⟨r, hr, rfl⟩ := Option.map_eq_some_iff.mp h
  exact ⟨r, List.mem_of_find?_eq_some hr, by simpa using List.find?_some hr, rfl⟩

/-! ### The parts of a plan -/

/-- A part of a plan looks at some requirements: it fails with what the first that is not met tells,
and if all are met it is the one value of a kind. -/
structure Checks (s : Settings) (rs : List Requirement) (gives : α → Prop)
    (x : Except ConfigFault α) : Prop where
  ok_iff : ∀ a, x = .ok a ↔ s.firstFault? rs = none ∧ gives a
  error_iff : ∀ f, x = .error f ↔ s.firstFault? rs = some f

namespace Checks

theorem pure (s : Settings) (a : α) : s.Checks [] (· = a) (Pure.pure a) where
  ok_iff b := by simp [Pure.pure, Except.pure, firstFault?, eq_comm]
  error_iff f := by simp [Pure.pure, Except.pure, firstFault?]

variable {rs rs' : List Requirement} {gives : α → Prop} {gives' : α → β → Prop}
  {x : Except ConfigFault α} {f : α → Except ConfigFault β}

/-- **Parts one behind the other.** The second part is looked at only when the first is there. -/
theorem bind (hx : s.Checks rs gives x) (hf : ∀ a, gives a → s.Checks rs' (gives' a) (f a)) :
    s.Checks (rs ++ rs') (fun b ↦ ∃ a, gives a ∧ gives' a b) (x >>= f) := by
  cases h : x with
  | error e =>
    have he := (hx.error_iff e).mp h
    constructor <;> intro _ <;>
      simp [Bind.bind, Except.bind, firstFault?_append, he]
  | ok a =>
    obtain ⟨hnone, ha⟩ := (hx.ok_iff a).mp h
    have honly : ∀ a', gives a' → a' = a := fun a' ha' ↦
      Except.ok.inj (((hx.ok_iff a').mpr ⟨hnone, ha'⟩).symm.trans h)
    have hthere : ∀ b, (∃ a', gives a' ∧ gives' a' b) ↔ gives' a b := fun b ↦
      ⟨fun ⟨a', ha', hb⟩ ↦ honly a' ha' ▸ hb, fun hb ↦ ⟨a, ha, hb⟩⟩
    constructor
    · intro b
      rw [firstFault?_append, hnone, Option.none_or, hthere b]
      exact (hf a ha).ok_iff b
    · intro e
      rw [firstFault?_append, hnone, Option.none_or]
      exact (hf a ha).error_iff e

/-- A setting that has to be there. -/
theorem required (s : Settings) (x : Setting) {v : Option α} (hx : s.has x = v.isSome) :
    s.Checks [.present x] (v = some ·) (Settings.required x v) := by
  cases v <;> constructor <;>
    simp_all [Settings.required, firstFault?_singleton, Requirement.holds, Requirement.fault]

/-- A setting that only the other mode has. -/
theorem refused (s : Settings) (x : Setting) (only : ModeKind) {v : Option α}
    (hx : s.has x = v.isSome) :
    s.Checks [.absent x only] (fun _ ↦ v = none) (Settings.refused x only v) := by
  cases v <;> constructor <;>
    simp_all [Settings.refused, firstFault?_singleton, Requirement.holds, Requirement.fault]

/-- The MTU. -/
theorem mtuPlan (s : Settings) : s.Checks [.mtu] (· = s.mtu) s.mtuPlan := by
  have hplan : s.mtuPlan = if Requirement.mtu.holds s then .ok s.mtu else
      .error (Requirement.mtu.fault s) := by
    simp only [Requirement.holds, Bool.and_eq_true, decide_eq_true_eq]
    rfl
  by_cases h : Requirement.mtu.holds s <;> constructor <;>
    simp [hplan, firstFault?_singleton, h, eq_comm]

/-- What is told does not depend on how the values are described. -/
theorem congr {gives'' : α → Prop} (h : s.Checks rs gives x) (hgives : ∀ a, gives a ↔ gives'' a) :
    s.Checks rs gives'' x where
  ok_iff a := (h.ok_iff a).trans (and_congr_right' (hgives a))
  error_iff := h.error_iff

end Checks

/-- A mode has the settings of a record, which has none of the other mode. -/
def HasMode (s : Settings) : Mode → Prop
  | .internal m => s.mode = .internal ∧ s.endpoint = some m.endpoint ∧
      s.gateway = some m.gateway ∧ s.client = some m.client ∧ s.discovery = none
  | .external m => s.mode = .external ∧ s.discovery = some m.discovery ∧
      s.endpoint = none ∧ s.gateway = none ∧ s.client = none

/-- The mode is checked by the requirements that only it has. -/
theorem checks_modePlan (s : Settings) : s.Checks s.mode.ownRequirements s.HasMode s.modePlan := by
  cases hmode : s.mode with
  | internal =>
    have h := (Checks.refused s .discovery .external rfl).bind fun _ _ ↦
      (Checks.required s .endpoint rfl).bind fun e _ ↦
      (Checks.required s .gateway rfl).bind fun g _ ↦
      (Checks.required s .client rfl).bind fun c _ ↦
      Checks.pure s (Mode.internal ⟨e, g, c⟩)
    simp only [modePlan, hmode]
    refine h.congr fun m ↦ ⟨?_, ?_⟩
    · rintro ⟨-, hd, e, he, g, hg, c, hc, rfl⟩
      exact ⟨hmode, he, hg, hc, hd⟩
    · rcases m with m | m
      · rintro ⟨-, he, hg, hc, hd⟩
        exact ⟨(), hd, _, he, _, hg, _, hc, rfl⟩
      · rintro ⟨hother, -⟩
        exact absurd (hmode.symm.trans hother) (by decide)
  | external =>
    have h := (Checks.refused s .endpoint .internal rfl).bind fun _ _ ↦
      (Checks.refused s .gateway .internal rfl).bind fun _ _ ↦
      (Checks.refused s .client .internal rfl).bind fun _ _ ↦
      (Checks.required s .discovery rfl).bind fun d _ ↦
      Checks.pure s (Mode.external ⟨d⟩)
    simp only [modePlan, hmode]
    refine h.congr fun m ↦ ⟨?_, ?_⟩
    · rintro ⟨-, he, -, hg, -, hc, d, hd, rfl⟩
      exact ⟨hmode, hd, he, hg, hc⟩
    · rcases m with m | m
      · rintro ⟨hother, -⟩
        exact absurd (hmode.symm.trans hother) (by decide)
      · rintro ⟨-, hd, he, hg, hc⟩
        exact ⟨(), he, (), hg, (), hc, _, hd, rfl⟩

/-! ### Settings as plans -/

/-- A plan has the values of a record as they are. -/
structure Carries (s : Settings) (plan : Plan) : Prop where
  mode : s.HasMode plan.mode
  nodeName : s.nodeName = some plan.nodeName ∧ plan.nodeName ≠ ""
  mtu : plan.mtu = s.mtu
  endpoints : s.endpoints = some plan.endpoints
  hosts : s.hosts = some plan.hosts
  cooldown : plan.cooldown = s.cooldown * 1000

/-- A record has all settings of its mode and none of the other. -/
def IsOfOneMode (s : Settings) : Prop :=
  s.mode = .internal ∧ s.endpoint ≠ none ∧ s.gateway ≠ none ∧ s.client ≠ none ∧
      s.discovery = none ∨
    s.mode = .external ∧ s.discovery ≠ none ∧ s.endpoint = none ∧ s.gateway = none ∧
      s.client = none

/-- A record is complete for one mode and has nothing of the other. -/
structure IsComplete (s : Settings) : Prop where
  nodeName : ∃ name, s.nodeName = some name ∧ name ≠ ""
  mtu : 68 ≤ s.mtu ∧ s.mtu ≤ 65475
  endpoints : s.endpoints ≠ none
  hosts : s.hosts ≠ none
  mode : s.IsOfOneMode

theorem filter_nonempty_eq_some_iff {v : Option String} {name : String} :
    (v.filter fun n ↦ !n.isEmpty) = some name ↔ v = some name ∧ name ≠ "" := by
  simp [Option.filter_eq_some_iff]

theorem has_nodeName_eq_isSome (s : Settings) :
    s.has .nodeName = (s.nodeName.filter fun n ↦ !n.isEmpty).isSome := by
  cases h : s.nodeName with
  | none => simp [has, h]
  | some name => by_cases hname : name = "" <;> simp [has, h, Option.filter, hname]

/-- **The plan is checked by all requirements of the mode.** -/
theorem checks_plan (s : Settings) : s.Checks s.mode.requirements s.Carries s.plan := by
  have h := s.checks_modePlan.bind fun mode _ ↦
    (Checks.required s .nodeName s.has_nodeName_eq_isSome).bind fun name _ ↦
    (Checks.mtuPlan s).bind fun mtu _ ↦
    (Checks.required s .endpoints rfl).bind fun endpoints _ ↦
    (Checks.required s .hosts rfl).bind fun hosts _ ↦
    Checks.pure s (⟨mode, endpoints, hosts, name, mtu, s.cooldown * 1000⟩ : Plan)
  refine h.congr fun plan ↦ ⟨?_, fun h ↦ ?_⟩
  · rintro ⟨mode, hmode, name, hname, mtu, hmtu, endpoints, he, hosts, hh, rfl⟩
    exact ⟨hmode, filter_nonempty_eq_some_iff.mp hname, hmtu, he, hh, rfl⟩
  · obtain ⟨mode, endpoints, hosts, name, mtu, cooldown⟩ := plan
    obtain ⟨hmode, hname, hmtu, he, hh, rfl⟩ := h
    exact ⟨_, hmode, _, filter_nonempty_eq_some_iff.mpr hname, _, hmtu, _, he, _, hh, rfl⟩

theorem firstFault?_eq_none_iff {rs : List Requirement} :
    s.firstFault? rs = none ↔ ∀ r ∈ rs, r.holds s := by
  simp [firstFault?]

theorem firstFault?_ownRequirements_eq_none_iff :
    s.firstFault? s.mode.ownRequirements = none ↔ s.IsOfOneMode := by
  rw [IsOfOneMode]
  cases s.mode <;>
    simp [firstFault?_eq_none_iff, ModeKind.ownRequirements, Requirement.holds, has,
      Option.isSome_iff_ne_none] <;> tauto

/-- A record meets the requirements of its mode exactly when it is complete. -/
theorem firstFault?_requirements_eq_none_iff :
    s.firstFault? s.mode.requirements = none ↔ s.IsComplete := by
  have hname : s.has .nodeName ↔ ∃ name, s.nodeName = some name ∧ name ≠ "" := by
    simp [has, Option.any_eq_true]
  have hshared : s.firstFault? [.present .nodeName, .mtu, .present .endpoints, .present .hosts] =
      none ↔ (∃ name, s.nodeName = some name ∧ name ≠ "") ∧ (68 ≤ s.mtu ∧ s.mtu ≤ 65475) ∧
        s.endpoints ≠ none ∧ s.hosts ≠ none := by
    rw [← hname]
    simp [firstFault?_eq_none_iff, Requirement.holds, has, Option.isSome_iff_ne_none]
  rw [ModeKind.requirements, firstFault?_append, Option.or_eq_none_iff,
    firstFault?_ownRequirements_eq_none_iff, hshared]
  exact ⟨fun ⟨hm, hn, hmtu, he, hh⟩ ↦ ⟨hn, hmtu, he, hh, hm⟩,
    fun ⟨hn, hmtu, he, hh, hm⟩ ↦ ⟨hm, hn, hmtu, he, hh⟩⟩

/-- What becomes of settings. -/
structure Verdict (s : Settings) : Prop where
  /-- They are accepted exactly when they are complete for one mode. -/
  accepted_iff : (∃ plan, s.plan = .ok plan) ↔ s.IsComplete
  /-- The plan has their values. -/
  carries : ∀ plan, s.plan = .ok plan → s.Carries plan
  /-- What is told otherwise comes from the first requirement that is not met. -/
  refused_iff : ∀ f, s.plan = .error f ↔ s.firstFault? s.mode.requirements = some f
  /-- What is told starts with the name of a setting for which a requirement is not met. -/
  named : ∀ f, s.plan = .error f → ∃ r ∈ s.mode.requirements, r.holds s = false ∧
    ∃ rest, f.message = r.setting.name ++ " " ++ rest
  /-- The time between two passes and the roots do not matter. -/
  blind : ∀ interval roots, Settings.plan { s with interval, roots } = s.plan

/-- **Settings are accepted exactly when they are complete for one mode.** The plan has the same
values; otherwise the first requirement that is not met is told by the name of its setting. -/
theorem verdict (s : Settings) : s.Verdict where
  accepted_iff := by
    rw [← firstFault?_requirements_eq_none_iff]
    cases h : s.plan with
    | ok plan => exact iff_of_true ⟨plan, rfl⟩ ((s.checks_plan.ok_iff plan).mp h).1
    | error f =>
      have hf := (s.checks_plan.error_iff f).mp h
      simp [hf]
  carries plan h := ((s.checks_plan.ok_iff plan).mp h).2
  refused_iff := s.checks_plan.error_iff
  named f h := by
    obtain ⟨r, hr, hfalse, rfl⟩ :=
      exists_of_firstFault?_eq_some ((s.checks_plan.error_iff f).mp h)
    exact ⟨r, hr, hfalse, r.exists_message_fault s⟩
  blind _ _ := rfl

end Settings

end DpuNetwork
