import DpuNetwork.DhcpServer

/-!
# What the DHCP server is told

Every argument of the server has a beginning that tells what it is about, and no beginning leads
into another one (`DhcpServer.eq_of_append_eq`). So the arguments are values under their beginnings
(`DhcpServer.options`), and what is told about one thing is read off that list.

The only thing that the server may be unable to be told is the MTU of the host: that of the overlay
and what the encapsulation adds. As a sum of words of 32 bits it could overflow, and it could be
more than the length of an IPv4 packet. The bound on the overlay MTU rules out both.

## Main statements

* `DhcpServer.append_mem_options_iff`: the arguments by their beginnings;
* `DhcpServer.hostMtu?_eq_some_iff`: the sum of words is the sum of numbers, within the bound;
* `DhcpServer.tellsMtu`: what becomes of every overlay MTU.
-/

namespace DpuNetwork

open Ipv4

namespace DhcpServer

/-! ### Arguments -/

/-- How the option begins that announces the MTU. -/
def mtuOption : String := "--dhcp-option=option:mtu,"

/-- How an option begins that announces a route. -/
def routeOption : String := "--dhcp-option=option:classless-static-route,"

/-- How the argument begins that fixes the lease of the client. -/
def hostOption : String := "--dhcp-host="

/-- How the arguments of the server begin. -/
def beginnings : List String :=
  ["--keep-in-foreground", "--port=0", "--log-facility=-", "--interface=",
    "--dhcp-option=option:router", mtuOption, "--dhcp-range=", "--dhcp-host=", routeOption]

/-- What the server is told with an MTU for the host, under the beginnings of the arguments. -/
def options (s : DhcpServer) (mtu : BitVec 32) : List (String × String) :=
  [("--keep-in-foreground", ""), ("--port=0", ""), ("--log-facility=-", ""),
    ("--interface=", s.interface), ("--dhcp-option=option:router", ""),
    (mtuOption, toString mtu.toNat),
    ("--dhcp-range=", s.endpoint.networkAddress.text ++ ",static"),
    ("--dhcp-host=",
      String.ofList s.clientMac.renderLower ++ "," ++ s.client.address.text)] ++
  if needsRoute s.endpoint s.endpoints then
    [(routeOption, s.endpoints.text ++ "," ++ s.gateway.text)]
  else []

/-- A value under a beginning, as an argument. -/
def argument (o : String × String) : String := o.1 ++ o.2

variable {s : DhcpServer} {as : List String} {f : Failure} {n : BitVec 32}

/-- With an MTU for the host the server can be told everything else. -/
theorem args_of_hostMtu (h : hostMtu? s.mtu = some n) :
    s.args = .ok ((s.options n).map argument) := by
  by_cases hneeds : needsRoute s.endpoint s.endpoints = true <;>
    simp [args, h, options, hneeds, argument, mtuOption, routeOption, String.append_assoc]

/-- The MTU alone decides whether the server can be told what to do. -/
theorem args_eq_ok_iff :
    s.args = .ok as ↔ ∃ n, hostMtu? s.mtu = some n ∧ as = (s.options n).map argument := by
  constructor
  · intro h
    rcases hmtu : hostMtu? s.mtu with - | n
    · rw [args, hmtu] at h
      cases h
    · rw [args_of_hostMtu hmtu] at h
      exact ⟨n, rfl, (Except.ok.inj h).symm⟩
  · rintro ⟨n, hmtu, rfl⟩
    exact args_of_hostMtu hmtu

theorem fst_mem_beginnings {o : String × String} (h : o ∈ s.options n) : o.1 ∈ beginnings := by
  rw [options, List.mem_append] at h
  rcases h with h | h
  · simp only [List.mem_cons, List.not_mem_nil, or_false] at h
    rcases h with rfl | rfl | rfl | rfl | rfl | rfl | rfl | rfl <;> simp [beginnings]
  · split at h
    · obtain rfl := List.mem_singleton.mp h
      simp [beginnings]
    · cases h

/-- **No beginning leads into another one.** -/
theorem eq_of_append_eq {b b' : String} (hb : b ∈ beginnings) (hb' : b' ∈ beginnings)
    {rest rest' : String} (h : b ++ rest = b' ++ rest') : b = b' ∧ rest = rest' := by
  have hfree : ∀ b ∈ beginnings, ∀ b' ∈ beginnings, b.toList <+: b'.toList → b = b' := by
    decide +kernel
  have hlist := congrArg String.toList h
  rw [String.toList_append, String.toList_append] at hlist
  have hprefix : b.toList <+: b'.toList ++ rest'.toList := hlist ▸ List.prefix_append _ _
  have heq : b = b' := by
    rcases List.prefix_or_prefix_of_prefix hprefix (List.prefix_append _ _) with h | h
    · exact hfree b hb b' hb' h
    · exact (hfree b' hb' b hb h).symm
  subst heq
  exact ⟨rfl, (String.append_right_inj _).mp h⟩

/-- **The arguments by their beginnings.** -/
theorem append_mem_options_iff {b : String} (hb : b ∈ beginnings) (rest : String) :
    b ++ rest ∈ (s.options n).map argument ↔ (b, rest) ∈ s.options n := by
  rw [List.mem_map]
  constructor
  · rintro ⟨o, ho, heq⟩
    obtain ⟨rfl, rfl⟩ := eq_of_append_eq (fst_mem_beginnings ho) hb heq
    exact ho
  · intro ho
    exact ⟨_, ho, rfl⟩

/-- **The announced route**: there is at most one, and it leads to all tunnel endpoints through the
gateway. -/
theorem routeOption_append_mem_args_iff (h : s.args = .ok as) (rest : String) :
    routeOption ++ rest ∈ as ↔
      needsRoute s.endpoint s.endpoints = true ∧
        rest = s.endpoints.text ++ "," ++ s.gateway.text := by
  obtain ⟨n, -, rfl⟩ := args_eq_ok_iff.mp h
  rw [append_mem_options_iff (by decide), options]
  by_cases hneeds : needsRoute s.endpoint s.endpoints = true <;>
    simp [hneeds, routeOption, mtuOption]

/-- **The announced MTU**: there is exactly one, that of the host. -/
theorem mtuOption_append_mem_args_iff (hmtu : hostMtu? s.mtu = some n) (h : s.args = .ok as)
    (rest : String) : mtuOption ++ rest ∈ as ↔ rest = toString n.toNat := by
  obtain rfl := Except.ok.inj ((args_of_hostMtu hmtu).symm.trans h)
  rw [append_mem_options_iff (by decide), options]
  by_cases hneeds : needsRoute s.endpoint s.endpoints = true <;>
    simp [hneeds, routeOption, mtuOption]

/-- **The reservation**: there is exactly one, of the leased address without its prefix for the
Ethernet address of the client in lower case. -/
theorem hostOption_append_mem_args_iff (h : s.args = .ok as) (rest : String) :
    hostOption ++ rest ∈ as ↔
      rest = String.ofList s.clientMac.renderLower ++ "," ++ s.client.address.text := by
  obtain ⟨n, -, rfl⟩ := args_eq_ok_iff.mp h
  rw [append_mem_options_iff (by decide), options]
  by_cases hneeds : needsRoute s.endpoint s.endpoints = true <;>
    simp [hneeds, hostOption, routeOption, mtuOption]

/-! ### The MTU in words -/

theorem checkedSum?_eq_some_iff {x y z : BitVec 32} :
    checkedSum? x y = some z ↔ x.toNat + y.toNat < 4294967296 ∧ z.toNat = x.toNat + y.toNat := by
  rw [checkedSum?]
  by_cases h : x.toNat + y.toNat < 4294967296
  · have hfits : x.uaddOverflow y = false := by simpa [BitVec.uaddOverflow] using h
    have hsum : (x + y).toNat = x.toNat + y.toNat := BitVec.toNat_add_of_lt h
    rw [hfits, if_neg Bool.false_ne_true, Option.some_inj, and_iff_right h, ← hsum,
      BitVec.toNat_inj, eq_comm]
  · have hover : x.uaddOverflow y = true := by simpa [BitVec.uaddOverflow] using h
    simp [hover, h]

/-- **The bound on the overlay MTU is the stricter one**: within it the sum does not overflow. -/
theorem hostMtu?_eq_some_iff {mtu : BitVec 32} :
    hostMtu? mtu = some n ↔ mtu ≤ maxOverlayMtu ∧ n.toNat = mtu.toNat + 60 := by
  have hoverhead : encapsulationOverhead.toNat = 60 := rfl
  rw [hostMtu?, Option.filter_eq_some_iff, checkedSum?_eq_some_iff, decide_eq_true_iff, hoverhead]
  constructor
  · rintro ⟨⟨-, hn⟩, hmtu⟩
    exact ⟨hmtu, hn⟩
  · rintro ⟨hmtu, hn⟩
    have hle : mtu.toNat ≤ 65475 := BitVec.le_def.mp hmtu
    exact ⟨⟨by omega, hn⟩, hmtu⟩

/-- A word within the bound has a host MTU. -/
theorem exists_hostMtu?_eq_some {mtu : BitVec 32} (h : mtu ≤ maxOverlayMtu) :
    ∃ n, checkedSum? mtu encapsulationOverhead = some n ∧ hostMtu? mtu = some n ∧
      n.toNat = mtu.toNat + 60 := by
  have hle : mtu.toNat ≤ 65475 := BitVec.le_def.mp h
  have hn : (BitVec.ofNat 32 (mtu.toNat + 60)).toNat = mtu.toNat + 60 := by
    rw [BitVec.toNat_ofNat]
    omega
  have hhost : hostMtu? mtu = some (BitVec.ofNat 32 (mtu.toNat + 60)) :=
    hostMtu?_eq_some_iff.mpr ⟨h, hn⟩
  exact ⟨_, (Option.filter_eq_some_iff.mp hhost).1, hhost, hn⟩

theorem hostMtu?_eq_none_iff {mtu : BitVec 32} : hostMtu? mtu = none ↔ maxOverlayMtu < mtu := by
  rw [← BitVec.not_le]
  constructor
  · intro h hle
    obtain ⟨n, -, hn, -⟩ := exists_hostMtu?_eq_some hle
    rw [h] at hn
    cases hn
  · intro h
    refine Option.eq_none_iff_forall_ne_some.mpr fun n hn ↦ ?_
    exact h (hostMtu?_eq_some_iff.mp hn).1

/-- A server is refused its arguments exactly for an overlay MTU that is too large. -/
theorem args_eq_error_iff : s.args = .error f ↔
    maxOverlayMtu < s.mtu ∧ f = .config (.mtuTooLarge s.mtu) := by
  rw [← hostMtu?_eq_none_iff]
  rcases hmtu : hostMtu? s.mtu with - | n
  · have hargs : s.args = .error (.config (.mtuTooLarge s.mtu)) := by rw [args, hmtu]
    rw [hargs, Except.error.injEq, eq_comm, and_iff_right rfl]
  · rw [args_of_hostMtu hmtu]
    exact iff_of_false nofun fun hand ↦ nomatch hand.1

theorem mtu_le_of_args_eq_ok (h : s.args = .ok as) : s.mtu ≤ maxOverlayMtu := by
  obtain ⟨n, hmtu, -⟩ := args_eq_ok_iff.mp h
  exact (hostMtu?_eq_some_iff.mp hmtu).1

theorem exists_args_eq_ok (h : s.mtu ≤ maxOverlayMtu) : ∃ as, s.args = .ok as := by
  obtain ⟨n, -, hmtu, -⟩ := exists_hostMtu?_eq_some h
  exact ⟨_, args_of_hostMtu hmtu⟩

/-- What becomes of the overlay MTU, whatever else the server is told. -/
structure TellsMtu (s : DhcpServer) : Prop where
  /-- The server cannot be told what to do exactly if the MTU is too large. -/
  refused_iff : (∃ f, s.args = .error f) ↔ 65475 < s.mtu.toNat
  /-- This is a fault of the configuration. -/
  refusal : ∀ f, s.args = .error f → f = .config (.mtuTooLarge s.mtu)
  /-- There is no MTU for the host in the same case. -/
  none_iff : hostMtu? s.mtu = none ↔ 65475 < s.mtu.toNat
  /-- Otherwise the sum does not overflow, it is the MTU of the host, and it alone is announced. -/
  announced : ∀ as, s.args = .ok as →
    ∃ n, checkedSum? s.mtu encapsulationOverhead = some n ∧ hostMtu? s.mtu = some n ∧
      n.toNat = s.mtu.toNat + 60 ∧ ∀ rest, mtuOption ++ rest ∈ as ↔ rest = toString n.toNat

/-- **Every overlay MTU** is announced as the checked sum, or refused if there is none. -/
theorem tellsMtu (s : DhcpServer) : s.TellsMtu where
  refused_iff := by
    simp only [args_eq_error_iff, exists_and_left, exists_eq, and_true]
    exact BitVec.lt_def
  refusal f hf := (args_eq_error_iff.mp hf).2
  none_iff := hostMtu?_eq_none_iff.trans BitVec.lt_def
  announced as has := by
    obtain ⟨n, hsum, hhost, hn⟩ := exists_hostMtu?_eq_some (mtu_le_of_args_eq_ok has)
    exact ⟨n, hsum, hhost, hn, mtuOption_append_mem_args_iff hhost has⟩

end DhcpServer

end DpuNetwork
