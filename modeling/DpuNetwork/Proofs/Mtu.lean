import DpuNetwork.Proofs.Config.Validation
import DpuNetwork.Proofs.Course.Severity
import DpuNetwork.Proofs.DhcpServer

/-!
# The MTU of accepted settings

Settings are accepted with an overlay MTU between two bounds, and the upper one is what the DHCP
server can be told. So no pass for accepted settings fails for its MTU; and as no answer of a host
is a fault of the configuration, none fails for its configuration at all.

## Main statements

* `makePass_ne_config`: which passes do not fail for their configuration;
* `Settings.mtu_fits`: the MTU of accepted settings is announced and never refused.
-/

namespace DpuNetwork

open Ipv4 Pass

/-- The MTU of accepted settings is that of the plan and lies between two bounds. -/
theorem Settings.mtu_of_plan_eq_ok {s : Settings} {plan : Plan} (h : s.plan = .ok plan) :
    plan.mtu = s.mtu ∧ 68 ≤ s.mtu ∧ s.mtu ≤ maxOverlayMtu := by
  obtain ⟨hnone, hcarries⟩ := (s.checks_plan.ok_iff plan).mp h
  exact ⟨hcarries.mtu, (firstFault?_requirements_eq_none_iff.mp hnone).mtu⟩

/-- It leaves room for the encapsulation. -/
theorem Settings.mtu_le_of_plan_eq_ok {s : Settings} {plan : Plan} (h : s.plan = .ok plan) :
    plan.mtu ≤ maxOverlayMtu := by
  obtain ⟨hmtu, -, hle⟩ := Settings.mtu_of_plan_eq_ok h
  exact hmtu ▸ hle

theorem exists_args_eq_ok {plan : Plan} (hmtu : plan.mtu ≤ maxOverlayMtu) (m : InternalMode)
    (mac : Mac) : ∃ as, (dhcpServer plan m mac).args = .ok as :=
  DhcpServer.exists_args_eq_ok hmtu

/-- **No pass fails for its configuration** if the MTU leaves room for the encapsulation. -/
theorem makePass_ne_config {σ : Type} (H : Host σ) (roots : Roots) {plan : Plan}
    (hmtu : plan.mtu ≤ maxOverlayMtu) (memory : Memory) (v : Visit σ) (fault : ConfigFault) :
    (makePass H roots plan memory v).result ≠ .error (.config fault) := by
  intro hresult
  obtain ⟨x, hfollows⟩ := makePass_follows H roots plan memory v
  have hends := hfollows.ends fun _ hst ↦ mayOccur_of_mem_course hst
  rw [hresult] at hends
  exact Nat.not_lt.mpr hmtu hends.of_config.1

/-- What the MTU of accepted settings comes to. -/
structure Settings.FitsMtu (s : Settings) (plan : Plan) : Prop where
  /-- The MTU of the host lies between 128 and the largest length of an IPv4 packet. -/
  bounds : 128 ≤ s.mtu.toNat + 60 ∧ s.mtu.toNat + 60 ≤ 65535
  /-- As a sum of words it does not overflow. -/
  checked : ∃ n, DhcpServer.checkedSum? s.mtu encapsulationOverhead = some n ∧
    n.toNat = s.mtu.toNat + 60
  /-- In internal mode the server can be told what to do, and that MTU alone is announced. -/
  announced : ∀ m mac, plan.mode = .internal m → ∃ as, (dhcpServer plan m mac).args = .ok as ∧
    ∀ rest, DhcpServer.mtuOption ++ rest ∈ as ↔ rest = toString (s.mtu.toNat + 60)
  /-- No pass of an agent fails for its configuration, whatever the agent remembers at first and
  whatever happens. -/
  passes : ∀ {σ : Type} (H : Host σ) (roots : Roots) (memory : Memory) (vs : List (Visit σ)),
    ∀ p ∈ history H roots plan memory vs, ∀ fault, p.result ≠ .error (.config fault)

/-- **The MTU of accepted settings fits.** A server is refused its arguments exactly for an overlay
MTU that is too large, and settings are not accepted with one. -/
theorem Settings.mtu_fits :
    (∀ d : DhcpServer, d.TellsMtu) ∧
      ∀ (s : Settings) (plan : Plan), s.plan = .ok plan → s.FitsMtu plan := by
  refine ⟨DhcpServer.tellsMtu, fun s plan hplan ↦ ?_⟩
  obtain ⟨hmtu, hlow, hhigh⟩ := Settings.mtu_of_plan_eq_ok hplan
  have hfits := Settings.mtu_le_of_plan_eq_ok hplan
  obtain ⟨n, hsum, hhost, hn⟩ := DhcpServer.exists_hostMtu?_eq_some hhigh
  have hlow' : 68 ≤ s.mtu.toNat := BitVec.le_def.mp hlow
  have hhigh' : s.mtu.toNat ≤ 65475 := BitVec.le_def.mp hhigh
  refine ⟨by omega, ⟨n, hsum, hn⟩, fun m mac _ ↦ ?_, fun H roots memory vs p hp fault ↦ ?_⟩
  · obtain ⟨as, has⟩ := exists_args_eq_ok hfits m mac
    have hserver : DhcpServer.hostMtu? (dhcpServer plan m mac).mtu = some n := by
      rw [dhcpServer, hmtu, hhost]
    exact ⟨as, has, fun rest ↦
      hn ▸ DhcpServer.mtuOption_append_mem_args_iff hserver has rest⟩
  · obtain ⟨memory', v, rfl⟩ := exists_eq_makePass_of_mem_history H roots plan hp
    exact makePass_ne_config H roots hfits memory' v fault

/-- Settings with the largest MTU that is accepted. -/
def largestSettings : Settings where
  endpoint := some ⟨⟨0x0a000005⟩, 24, by decide⟩
  gateway := some ⟨0x0a000001⟩
  client := some ⟨⟨0x0a000006⟩, 24, by decide⟩
  endpoints := some ⟨⟨0x0a000000⟩, 16, by decide⟩
  hosts := some ⟨⟨0x0a010000⟩, 16, by decide⟩
  nodeName := some "dpu"
  mtu := 65475

/-- The mode of these settings. -/
def largestMode : InternalMode :=
  ⟨⟨⟨0x0a000005⟩, 24, by decide⟩, ⟨0x0a000001⟩, ⟨⟨0x0a000006⟩, 24, by decide⟩⟩

/-- The plan of these settings. -/
def largestPlan : Plan where
  mode := .internal largestMode
  endpoints := ⟨⟨0x0a000000⟩, 16, by decide⟩
  hosts := ⟨⟨0x0a010000⟩, 16, by decide⟩
  nodeName := "dpu"
  mtu := 65475
  cooldown := 120000

/-- With the largest MTU the host is told the largest length of a packet. One more is refused, and
so is the largest word, with which the sum overflows. -/
theorem Settings.mtu_fits_largest :
    largestSettings.plan = .ok largestPlan ∧ largestSettings.FitsMtu largestPlan ∧
      (∃ as, (dhcpServer largestPlan largestMode default).args = .ok as ∧
        "--dhcp-option=option:mtu,65535" ∈ as) ∧
      ∀ mtu ∈ [65476#32, 4294967295#32], ∃ f,
        { dhcpServer largestPlan largestMode default with mtu }.args = .error f := by
  have hplan : largestSettings.plan = .ok largestPlan := rfl
  have hfits := Settings.mtu_fits.2 largestSettings largestPlan hplan
  obtain ⟨as, has, hannounced⟩ := hfits.announced largestMode default rfl
  refine ⟨hplan, hfits, ⟨as, has, (hannounced "65535").mpr (by decide)⟩, fun mtu hmem ↦ ?_⟩
  have htells := Settings.mtu_fits.1 { dhcpServer largestPlan largestMode default with mtu }
  have hlarge : ∀ mtu ∈ [65476#32, 4294967295#32], 65475 < mtu.toNat := by simp
  exact htells.refused_iff.mpr (hlarge mtu hmem)

end DpuNetwork
