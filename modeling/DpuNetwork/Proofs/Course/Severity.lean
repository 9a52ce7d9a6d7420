import DpuNetwork.Proofs.Course.Refusal

/-!
# What a refused answer tells

Three failures tell more than that something went wrong. That the overlay bridge has no address yet
is transient, that the server has ended is fatal, and that no route has a gateway is a finding about
the host. A fault of the configuration is none of the host's at all. All other failures are plain.
An answer that is refused is refused with a plain failure unless it is one of three: a listing of
the overlay bridge without addresses, a server that has ended, a listing of routes without a
gateway.

## Main statements

* `Exchange.Refused.telling`: the three exceptions;
* `Ends.of_isTransient`, `Ends.of_noGateway`: how exchanges end that end with such a failure;
* `Ends.of_config`: no answer leads to a fault of the configuration.
-/

namespace DpuNetwork

open Ipv4 Pass

/-- A failure that is neither transient nor fatal, does not tell that a gateway is missing, and is
no fault of the configuration. -/
def Failure.IsPlain : Failure → Prop
  | noBridgeAddress _ | dhcpServerExited _ | noGateway _ | config _ => False
  | _ => True

/-- Only that the server has ended is fatal. -/
theorem Failure.exists_eq_of_isFatal {f : Failure} (hf : f.isFatal = true) :
    ∃ status, f = .dhcpServerExited status := by
  cases f with
  | dhcpServerExited status => exact ⟨status, rfl⟩
  | _ => cases hf

/-- A plain failure is none that passes. -/
theorem Failure.IsPlain.not_isTransient {f : Failure} (h : f.IsPlain) : f.isTransient = false := by
  cases f <;> first | rfl | exact h.elim

variable {plan : Plan} {f : Failure} {text : String} {l : Store} {t : List Exchange}

/-! ### Listings -/

/-- What cannot be read is a plain failure, on every level from the entries of a listing to the
answers of a stage. -/
theorem isPlain_of_entries {α : Type} {decode : Json → Option α}
    (h : Listing.entries decode text = .error f) : f.IsPlain := by
  rw [Listing.entries] at h
  split at h <;> cases h
  trivial

theorem isPlain_of_cidr {e : AddressEntry} (h : Listing.cidr e = .error f) : f.IsPlain := by
  rw [Listing.cidr] at h
  split at h
  · cases h
    trivial
  · split at h <;> cases h
    trivial

theorem isPlain_of_mapM {α β : Type} {g : α → Except Failure β}
    (hg : ∀ {a f}, g a = .error f → f.IsPlain) {as : List α} (h : as.mapM g = .error f) :
    f.IsPlain := by
  obtain ⟨_, a, _, -, -, ha⟩ := Addition.except_mapM_eq_error_iff.mp h
  exact hg ha

theorem isPlain_of_addressesIn (h : addressesIn text = .error f) : f.IsPlain := by
  rcases Addition.except_bind_eq_error_iff.mp h with h | ⟨links, -, h⟩
  · exact isPlain_of_entries h
  · exact isPlain_of_mapM isPlain_of_cidr h

theorem isPlain_of_recognise {A : Addition} (h : A.recognise text = .error f) : f.IsPlain := by
  cases A with
  | address link a =>
    simp only [Addition.recognise, Addition.except_bind_eq_error_iff,
      Addition.except_pure_ne_error, and_false, exists_false, or_false] at h
    rcases h with h | ⟨links, -, h⟩
    · exact isPlain_of_entries h
    · exact isPlain_of_mapM isPlain_of_cidr h
  | route destination gateway device metric table =>
    simp only [Addition.recognise, Addition.except_bind_eq_error_iff,
      Addition.except_pure_ne_error, and_false, exists_false, or_false] at h
    exact isPlain_of_entries h
  | rule source table priority =>
    simp only [Addition.recognise, Addition.except_bind_eq_error_iff,
      Addition.except_pure_ne_error, and_false, exists_false, or_false] at h
    exact isPlain_of_entries h

/-- A wrong number of addresses is plain where no lease is waited for. -/
theorem isPlain_of_onlyAddress {link : String} (h : onlyAddress link text = .error f) :
    f.IsPlain := by
  rcases Addition.except_bind_eq_error_iff.mp h with h | ⟨as, -, h⟩
  · exact isPlain_of_addressesIn h
  · split at h <;> cases h
    trivial

/-- Several addresses of the overlay bridge are as plain a failure as a listing that cannot be read;
only having none is not. -/
theorem leasedAddress_eq_error (h : leasedAddress text = .error f) :
    f.IsPlain ∨ f = .noBridgeAddress overlayBridge ∧ addressesIn text = .ok [] := by
  rcases Addition.except_bind_eq_error_iff.mp h with h | ⟨as, has, h⟩
  · exact .inl (isPlain_of_addressesIn h)
  · split at h <;> cases h
    · exact .inr ⟨rfl, has⟩
    · exact .inl trivial

/-- A gateway that cannot be read is a plain failure; only having none is not. -/
theorem gatewayIn_eq_error {destination : Cidr} (h : gatewayIn destination text = .error f) :
    f.IsPlain ∨ f = .noGateway destination ∧
      ∃ rs, Listing.routes text = .ok rs ∧ ∀ r ∈ rs, r.gateway = none := by
  rcases Addition.except_bind_eq_error_iff.mp h with h | ⟨rs, hrs, h⟩
  · exact .inl (isPlain_of_entries h)
  · rw [Listing.firstGateway] at h
    split at h
    · next hnone =>
      exact .inr ⟨(Except.error.inj h).symm, rs, hrs, List.findSome?_eq_none_iff.mp hnone⟩
    · split at h <;> cases h
      exact .inl trivial

/-! ### Other answers -/

/-- A command that does not succeed is a plain failure. -/
theorem isPlain_of_toFailure (c : Command) (fault : RunFault) : (fault.toFailure c).IsPlain := by
  cases fault <;> trivial

/-- So is a request that the cluster refuses. -/
theorem isPlain_of_clusterFault (fault : ClusterFault) : fault.toFailure.IsPlain := by
  cases fault <;> trivial

theorem isPlain_of_hostNameIn {answer : Except ClusterFault (Option Node)}
    (h : hostNameIn plan answer = .error f) : f.IsPlain := by
  rcases answer with fault | - | node
  · cases h
    exact isPlain_of_clusterFault fault
  · cases h
    trivial
  · have hname : judgeNode plan (some node.hostName?) = .error f := h
    rw [judgeNode.eq_def] at hname
    split at hname <;> cases hname <;> trivial

theorem isPlain_of_macIn {path : String} {answer : Option String}
    (h : macIn path answer = .error f) : f.IsPlain := by
  rcases answer with - | text
  · cases h
    trivial
  · have hmac : FunctionConfig.mac text = .error f := h
    rw [FunctionConfig.mac] at hmac
    split at hmac
    · cases hmac
      trivial
    · split at hmac <;> cases hmac
      trivial

/-! ### All answers -/

/-- **What a refused answer tells**: a plain failure, or that the server has ended, that the overlay
bridge of external mode has no address, or that no route to a network has a gateway. -/
theorem Exchange.Refused.telling {e : Exchange} (h : e.Refused plan f) :
    f.IsPlain ∨
    (∃ status, e = .childState (.ok (.exited status)) ∧ f = .dhcpServerExited status) ∨
    ((∃ m, plan.mode = .external m) ∧ f = .noBridgeAddress overlayBridge ∧
      ∃ text, e = .run (Network.showAddresses overlayBridge) (.ok text) ∧
        addressesIn text = .ok []) ∨
    ∃ destination, plan.LooksUp destination ∧ f = .noGateway destination ∧
      ∃ text rs, e = .run (Network.lookUp destination) (.ok text) ∧
        Listing.routes text = .ok rs ∧ ∀ r ∈ rs, r.gateway = none := by
  cases h with
  | run c fault => exact .inl (isPlain_of_toFailure c fault)
  | listing hA h => exact .inl (isPlain_of_recognise h)
  | address hlink h => exact .inl (isPlain_of_onlyAddress h)
  | @lease m text _ hmode h =>
    rcases leasedAddress_eq_error h with h | ⟨rfl, hnone⟩
    · exact .inl h
    · exact .inr (.inr (.inl ⟨⟨m, hmode⟩, rfl, text, rfl, hnone⟩))
  | @gateway destination text _ hd h =>
    rcases gatewayIn_eq_error h with h | ⟨rfl, rs, hrs, hnone⟩
    · exact .inl h
    · exact .inr (.inr (.inr ⟨destination, hd, rfl, text, rs, rfl, hrs, hnone⟩))
  | start c => exact .inl trivial
  | @childState answer _ h =>
    rcases answer with fault | - | status
    · cases h
      exact .inl trivial
    · cases h
    · cases h
      exact .inr (.inl ⟨status, rfl, rfl⟩)
  | getNode h => exact .inl (isPlain_of_hostNameIn h)
  | applyLabels fault => exact .inl (isPlain_of_clusterFault fault)
  | readDevice h => exact .inl (isPlain_of_macIn h)

/-- **Only a server that has ended is fatal.** -/
theorem Exchange.Refused.of_isFatal {e : Exchange} (h : e.Refused plan f) (hf : f.isFatal = true) :
    ∃ status, e = .childState (.ok (.exited status)) ∧ f = .dhcpServerExited status := by
  obtain ⟨status, rfl⟩ := Failure.exists_eq_of_isFatal hf
  rcases h.telling with hplain | hexited | ⟨-, hf, -⟩ | ⟨d, -, hf, -⟩
  · exact hplain.elim
  · exact hexited
  · cases hf
  · cases hf

/-- **Only an overlay bridge without address is transient**, and only in external mode: the
exchanges that end so end with its listing. -/
theorem Ends.of_isTransient (h : Ends plan t (.error f) l) (hf : f.isTransient = true) :
    (∃ m, plan.mode = .external m) ∧ f = .noBridgeAddress overlayBridge ∧
      ∃ pre text, t = pre ++ [Exchange.run (Network.showAddresses overlayBridge) (.ok text)] ∧
        addressesIn text = .ok [] := by
  cases h with
  | @refused _ pre e _ ht _ he =>
    rcases he.telling with hplain | ⟨status, -, rfl⟩ | ⟨hmode, hfailure, text, rfl, hnone⟩ |
      ⟨d, -, rfl, -⟩
    · rw [hplain.not_isTransient] at hf
      cases hf
    · cases hf
    · exact ⟨hmode, hfailure, pre, text, ht, hnone⟩
    · cases hf
  | unwritten _ _ => cases hf
  | unfit _ _ => cases hf

/-- **Only a listing of routes without a gateway tells that there is none**: the exchanges that end
so end with it. -/
theorem Ends.of_noGateway {d : Cidr} (h : Ends plan t (.error (.noGateway d)) l) :
    plan.LooksUp d ∧ ∃ pre text rs, t = pre ++ [Exchange.run (Network.lookUp d) (.ok text)] ∧
      Listing.routes text = .ok rs ∧ ∀ r ∈ rs, r.gateway = none := by
  cases h with
  | @refused _ pre e _ ht _ he =>
    rcases he.telling with hplain | ⟨status, -, hf⟩ | ⟨-, hf, -⟩ |
      ⟨d', hd, hf, text, rs, rfl, hrs, hnone⟩
    · exact hplain.elim
    · cases hf
    · cases hf
    · cases hf
      exact ⟨hd, pre, text, rs, ht, hrs, hnone⟩

/-- **No answer leads to a fault of the configuration**: a pass that ends with one could not tell
the DHCP server its MTU. -/
theorem Ends.of_config {fault : ConfigFault} (h : Ends plan t (.error (.config fault)) l) :
    maxOverlayMtu < plan.mtu ∧ fault = .mtuTooLarge plan.mtu := by
  cases h with
  | refused _ _ he =>
    rcases he.telling with hplain | ⟨status, -, hf⟩ | ⟨-, hf, -⟩ | ⟨d, -, hf, -⟩
    · exact hplain.elim
    · cases hf
    · cases hf
    · cases hf
  | unfit _ hmtu => exact ⟨hmtu, rfl⟩

end DpuNetwork
