import DpuNetwork.Proofs.Course.Server
import DpuNetwork.Proofs.DhcpServer
import DpuNetwork.Proofs.FunctionConfig

/-!
# The reservation for the host

In internal mode the DHCP server leases one address to one Ethernet address, which the device file
of the host's function shows. The file is read right before the server is started, and what the
server is told is what the file says, in the form that the server takes.

## Main statements

* `Follows.served_of_start`: where a pass starts the server, and what it tells it;
* `makePass_reserves`: the way of the address from the device file to the reservation.
-/

namespace DpuNetwork

open Ipv4 Pass

variable {plan : Plan} {m : InternalMode} {mac : Mac} {roots : Roots} {l l' : Store}
  {t : List Exchange} {r : Except Failure Unit} {w : List Stage} {x : Findings} {now : Nat}

/-- **Where the server is started**: in its stage and as the only exchange of it, told what the plan
and the address of the stage give. -/
theorem Follows.served_of_start {pre post : List Exchange} {c : Command} {started : Bool}
    (h : Follows plan w l (pre ++ Exchange.start c started :: post) r l') :
    ∃ before m mac after l₁, w = before ++ Stage.serve m mac :: after ∧
      Follows plan before l pre (.ok ()) l₁ ∧ (dhcpServer plan m mac).args = .ok c.args := by
  obtain ⟨before, st, after, p, q, v, u, l₁, r₁, l₂, rfl, rfl, -, hbefore, htakes, -⟩ := h.locate
  have hmakes := htakes.makes (List.mem_append_right _ List.mem_cons_self)
  obtain ⟨m, mac, rfl⟩ := hmakes.of_start
  by_cases hstarted : l₁.memory.dhcpStarted = true
  · -- A server that was started before is only asked for its state.
    obtain ⟨⟨answer, ht, -⟩, -⟩ := (Stage.takes_serve_of_started hstarted).mp htakes
    simp [List.append_eq_singleton_iff] at ht
  · rw [Stage.takes_serve_of_not_started hstarted] at htakes
    split at htakes
    · simp at htakes
    · next args hargs =>
      obtain ⟨b, ht, -⟩ := htakes
      obtain ⟨rfl, he, -⟩ := singleton_eq_append_cons.mp ht.symm
      obtain ⟨rfl, -⟩ := Exchange.start.inj he
      exact ⟨before, m, mac, after, l₁, rfl, by rwa [List.append_nil], hargs⟩

/-- A server that is started is told what the plan says. -/
theorem Follows.args_of_start (hw : ∀ st ∈ w, st.MayOccur roots plan) (h : Follows plan w l t r l')
    {c : Command} {started : Bool} (hmem : .start c started ∈ t) :
    ∃ m mac, plan.mode = .internal m ∧ (dhcpServer plan m mac).args = .ok c.args := by
  obtain ⟨pre, post, rfl⟩ := List.append_of_mem hmem
  obtain ⟨before, m, mac, after, l₁, rfl, -, hargs⟩ := h.served_of_start
  exact ⟨m, mac, hw (.serve m mac) (by simp), hargs⟩

/-- The device file of the host's function. -/
def Roots.functionFile (roots : Roots) : String :=
  Path.child roots.devices (FunctionConfig.path hostFunction)

/-- The server is made sure of right behind the read of the device file, for the address that was
read. -/
theorem isChain_course_serve : (plan.course roots now x).IsChain fun st st' ↦
    ∀ m mac, st' = .serve m mac → st = .readMac roots.functionFile mac := by
  rcases hmode : plan.mode with m | m
  · simp only [Plan.course, Plan.bridgeCourse, Plan.endpoint, hmode, InternalMode.course,
      InternalMode.approach, Roots.functionFile]
    split <;> simp [Plan.routingCourse, Plan.identityCourse]
  · simp [Plan.course, Plan.bridgeCourse, Plan.endpoint, hmode, ExternalMode.course,
      Plan.routingCourse, Plan.identityCourse]

/-- An address that was read is the one in the text of the file. -/
theorem Follows.readMac {path : String}
    (h : Follows plan (w ++ [Stage.readMac path mac]) l t (.ok ()) l') :
    ∃ t' text, t = t' ++ [Exchange.readDevice path (some text)] ∧
      FunctionConfig.mac text = .ok mac := by
  obtain ⟨t', l₁, _, rfl, -, ⟨answer, rfl, hmac⟩, -⟩ := h.ok_concat
  rcases answer with - | text
  · cases hmac
  · exact ⟨t', text, rfl, hmac⟩

/-- **The way of an address to its reservation**: what the texts of device files tell, what servers
are told, and that the exchanges of a pass join the two. -/
structure Reserves (roots : Roots) (plan : Plan) (t : List Exchange) : Prop where
  /-- Texts of device files are read as they are written. -/
  reads (text : String) : FunctionConfig.TellsMac text
  /-- A server can be told what to do if the overlay MTU fits, and it is told one reservation: of
  the leased address without its prefix, for the client in lower case. -/
  tells (s : DhcpServer) (hmtu : s.mtu ≤ maxOverlayMtu) : ∃ args, s.args = .ok args ∧
    ∀ rest, DhcpServer.hostOption ++ rest ∈ args ↔
      rest = String.ofList (s.clientMac.render.map Char.toLower) ++ "," ++ s.client.address.text
  /-- An address in lower case is read back as that address, so no reservation is for two
  clients. -/
  readBack (mac : Mac) : Mac.parse (mac.render.map Char.toLower) = .ok mac
  /-- A server that is started is started right behind the read of the device file, and its one
  reservation is for the address in the text that was read. -/
  started {pre post : List Exchange} {c : Command} {b : Bool}
    (h : t = pre ++ Exchange.start c b :: post) :
    ∃ m pre' text mac, plan.mode = .internal m ∧
      pre = pre' ++ [Exchange.readDevice roots.functionFile (some text)] ∧
      FunctionConfig.mac text = .ok mac ∧
      ∀ rest, DhcpServer.hostOption ++ rest ∈ c.args ↔
        rest = String.ofList (mac.render.map Char.toLower) ++ "," ++ m.client.address.text

/-- **From the device file to the reservation**, in every pass. -/
theorem makePass_reserves {σ : Type} (H : Host σ) (roots : Roots) (plan : Plan) (memory : Memory)
    (v : Visit σ) : Reserves roots plan (makePass H roots plan memory v).after.trace where
  reads := FunctionConfig.tellsMac
  tells := by
    intro s hmtu
    obtain ⟨args, hargs⟩ := DhcpServer.exists_args_eq_ok hmtu
    rw [← Mac.renderLower_eq]
    exact ⟨args, hargs, DhcpServer.hostOption_append_mem_args_iff hargs⟩
  readBack mac := mac.renderLower_eq ▸ mac.parse_renderLower
  started := by
    intro pre post c b htrace
    obtain ⟨x, hfollows⟩ := makePass_follows H roots plan memory v
    rw [htrace] at hfollows
    obtain ⟨before, m, mac, after, l₁, hcourse, hbefore, hargs⟩ := hfollows.served_of_start
    have hserve : .serve m mac ∈ plan.course roots v.now x := by simp [hcourse]
    have hmode : plan.mode = .internal m := mayOccur_of_mem_course hserve
    obtain ⟨before', st, rfl, hst⟩ :=
      plan.exists_stage_before _ _ _ isChain_course_serve hcourse nofun
    obtain rfl := hst m mac rfl
    obtain ⟨pre', text, rfl, hmac⟩ := hbefore.readMac
    refine ⟨m, pre', text, mac, hmode, rfl, hmac, fun rest ↦ ?_⟩
    rw [DhcpServer.hostOption_append_mem_args_iff hargs, Mac.renderLower_eq]
    rfl

/-- A device file with both kinds of line ends, a line without a colon and two addresses, the first
of which is spelled in both cases and with both separators. -/
def mixedConfig : String :=
  "State\n\tMAC : 0c-42:A1-d1-D0:6c \r\nMAC : 02:00:00:00:00:01\r\n"

/-- The first address. -/
def mixedMac : Mac := ⟨#v[⟨0x0c, by decide⟩, ⟨0x42, by decide⟩, ⟨0xa1, by decide⟩,
  ⟨0xd1, by decide⟩, ⟨0xd0, by decide⟩, ⟨0x6c, by decide⟩]⟩

/-- Its spelling. -/
def mixedSpelling : List Char :=
  ['0', 'c', '-', '4', '2', ':', 'A', '1', '-', 'd', '1', '-', 'D', '0', ':', '6', 'c']

theorem spells_mixedSpelling : mixedMac.Spells mixedSpelling :=
  .cons ⟨'0', 'c', rfl, .inl rfl, .inr rfl⟩ (.inr rfl) <|
  .cons ⟨'4', '2', rfl, .inl rfl, .inl rfl⟩ (.inl rfl) <|
  .cons ⟨'A', '1', rfl, .inl rfl, .inl rfl⟩ (.inr rfl) <|
  .cons ⟨'d', '1', rfl, .inr rfl, .inl rfl⟩ (.inr rfl) <|
  .cons ⟨'D', '0', rfl, .inl rfl, .inl rfl⟩ (.inl rfl) <|
  .single ⟨'6', 'c', rfl, .inl rfl, .inr rfl⟩

/-- The device files of a host with that file. -/
def mixedDevices : FileTree where
  entries := functionDevices.entries.insert
    ["sys", "class", "net", "p0", "smart_nic", "pf", "config"] (.file mixedConfig.toUTF8)

/-- A visit to that host, on which the server can be started. -/
def mixedVisit : Visit Script :=
  let v := serverVisit (.output "") (.ok .running)
  { v with host := { v.host with devices := mixedDevices } }

/-- The first address is read, and reserved in lower case and with colons. -/
theorem makePass_reserves_mixedConfig :
    FunctionConfig.mac mixedConfig = .ok mixedMac ∧
    ((makePass scriptedHost {} staticPlan staticPlan.memory mixedVisit).after.trace.any fun
      | .start c _ => c.args.contains "--dhcp-host=0c:42:a1:d1:d0:6c,10.0.0.6"
      | _ => false) = true ∧
    Reserves {} staticPlan
      (makePass scriptedHost {} staticPlan staticPlan.memory mixedVisit).after.trace := by
  have hreserves := makePass_reserves scriptedHost {} staticPlan staticPlan.memory mixedVisit
  have htext : Text.HasLines (["State".toList] ++ "\tMAC : 0c-42:A1-d1-D0:6c ".toList ::
      ["MAC : 02:00:00:00:00:01".toList]) mixedConfig.toList :=
    Text.lines_eq_iff.mp (by decide +kernel)
  have hstate : ¬ FunctionConfig.HasKey FunctionConfig.macKey "State".toList := by
    rintro ⟨k, v, h, -⟩
    have hcolon : ':' ∈ "State".toList := h ▸ by simp
    exact absurd hcolon (by decide +kernel)
  have hsetting : FunctionConfig.setting? "\tMAC : 0c-42:A1-d1-D0:6c ".toList =
      some (FunctionConfig.macKey, mixedSpelling) := by decide +kernel
  have hline := (FunctionConfig.setting?_eq_some_iff.mp hsetting).1
  refine ⟨?_, by decide +kernel, hreserves⟩
  exact (hreserves.reads mixedConfig).shown htext (List.forall_mem_singleton.mpr hstate) hline
    spells_mixedSpelling

end DpuNetwork
