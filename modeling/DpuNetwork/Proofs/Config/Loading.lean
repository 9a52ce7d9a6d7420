import DpuNetwork.Config.Load
import DpuNetwork.Proofs.Config.Layers

/-!
# What loading gives

Each setting has values that mean something for it (`Setting.Means`), and of the values that its
sources give for it one counts (`Settings.effective?`): that of the last variable, else that of the
file. Loading succeeds when the file is one of TOML and every value that counts means something, and
then gives what they mean and otherwise the defaults. No value that does not count has a part in it.

## Main statements

* `Settings.read?_eq_some_iff`: the settings that are read are what the given values mean;
* `Settings.load_effective`: what loading gives, and when it fails.
-/

namespace DpuNetwork

open Config (Value)
open Config.Environment (Variables given?)
open Ipv4

/-! ### What values mean -/

/-- What a setting is in a record. -/
def Setting.Content : Setting → Type
  | mode => ModeKind
  | endpoint | client | discovery | endpoints | hosts => Option Cidr
  | gateway => Option Address
  | nodeName => Option String
  | mtu => BitVec 32
  | cooldown | interval => Nat
  | files | devices => String

/-- What a record has for a setting. -/
def Settings.get (c : Settings) : (s : Setting) → s.Content
  | .mode => c.mode
  | .endpoint => c.endpoint
  | .gateway => c.gateway
  | .client => c.client
  | .discovery => c.discovery
  | .endpoints => c.endpoints
  | .hosts => c.hosts
  | .nodeName => c.nodeName
  | .mtu => c.mtu
  | .cooldown => c.cooldown
  | .interval => c.interval
  | .files => c.roots.files
  | .devices => c.roots.devices

section

variable {α : Type}

/-- A value is a text that reads as something. -/
def Config.Value.IsTextOf (ofText? : String → Option α) (v : Value) (a : α) : Prop :=
  ∃ t, v = .text t ∧ ofText? t = some a

/-- A value is a natural number up to a limit. -/
def Config.Value.IsNatural (limit : Nat) (v : Value) (n : Nat) : Prop := v = .int n ∧ n ≤ limit

/-- A value gives something that may be left open. -/
def Config.Value.Fills (means : Value → α → Prop) (v : Value) (x : Option α) : Prop :=
  ∃ a, means v a ∧ x = some a

/-- What is there when nothing or some value is given: the default or what the value means. -/
def Config.Becomes (default : α) (means : Value → α → Prop) : Option Value → α → Prop
  | none, x => x = default
  | some v, x => means v x

end

/-- A value means something for a setting; it has the type of the setting then. -/
def Setting.Means : (s : Setting) → Value → s.Content → Prop
  | mode => Value.IsTextOf ModeKind.ofText?
  | endpoint | client | discovery | endpoints | hosts => Value.Fills (Value.IsTextOf Cidr.ofText?)
  | gateway => Value.Fills (Value.IsTextOf Address.ofText?)
  | nodeName => Value.Fills (Value.IsTextOf some)
  | mtu => fun v n ↦ Value.IsNatural Settings.limit32 v n.toNat
  | cooldown | interval => Value.IsNatural Settings.limit64
  | files | devices => Value.IsTextOf some

/-- What a setting is when nothing or some value is given for it. -/
def Setting.Becomes (s : Setting) : Option Value → s.Content → Prop :=
  Config.Becomes (Settings.get {} s) s.Means

variable {s : Setting} {v v' : Value} {x x' : s.Content}

section

variable {α : Type} {ofText? : String → Option α} {means : Value → α → Prop} {a b : α}

/-- A value has one meaning at most, whichever of the three kinds it is read as. -/
theorem Config.Value.IsTextOf.unique (h : v.IsTextOf ofText? a) (h' : v.IsTextOf ofText? b) :
    a = b := by
  obtain ⟨t, rfl, ht⟩ := h
  obtain ⟨_, ⟨⟩, ht'⟩ := h'
  exact Option.some.inj (ht.symm.trans ht')

theorem Config.Value.IsNatural.unique {limit m n : Nat} (h : v.IsNatural limit m)
    (h' : v.IsNatural limit n) : m = n := by
  obtain ⟨rfl, -⟩ := h
  exact Int.ofNat.inj (Value.int.inj h'.1)

theorem Config.Value.Fills.unique {x y : Option α}
    (hmeans : ∀ {a b}, means v a → means v b → a = b) (h : v.Fills means x)
    (h' : v.Fills means y) : x = y := by
  obtain ⟨a, ha, rfl⟩ := h
  obtain ⟨b, hb, rfl⟩ := h'
  rw [hmeans ha hb]

end

/-- A value means one thing. -/
theorem Setting.Means.unique (h : s.Means v x) (h' : s.Means v x') : x = x' := by
  cases s with
  | mode | files | devices => exact Value.IsTextOf.unique h h'
  | mtu => exact BitVec.eq_of_toNat_eq (Value.IsNatural.unique h h')
  | cooldown | interval => exact Value.IsNatural.unique h h'
  | _ => exact Value.Fills.unique Value.IsTextOf.unique h h'

/-- So a setting becomes one content at most. -/
theorem Setting.Becomes.unique {given : Option Value} (h : s.Becomes given x)
    (h' : s.Becomes given x') : x = x' := by
  rcases given with - | v
  · exact Eq.trans h (Eq.symm h')
  · exact Setting.Means.unique h h'

/-- A table means nothing. -/
theorem Setting.not_means_table (entries : Config.Table) : ¬ s.Means (.table entries) x := by
  cases s with
  | mode | files | devices => exact nofun
  | mtu | cooldown | interval => exact nofun
  | _ =>
    rintro ⟨a, ⟨t, ht, -⟩, -⟩
    cases ht

/-- Values that are alike mean the same, so it makes no difference which of two equal layers gives
one. -/
theorem Setting.means_iff_of_alike (h : v.Alike v') : s.Means v x ↔ s.Means v' x := by
  cases h with
  | refl => rfl
  | tables a b => exact iff_of_false (not_means_table a) (not_means_table b)

/-- What a setting is does not depend on what tables hold. -/
theorem Setting.becomes_iff_of_alike {given given' : Option Value} (h : Config.Alike given given') :
    s.Becomes given x ↔ s.Becomes given' x := by
  cases h with
  | none => rfl
  | some h => exact means_iff_of_alike h

/-- Only a value that means nothing leaves a setting without content. -/
theorem Setting.forall_not_becomes_iff {given : Option Value} :
    (∀ x, ¬ s.Becomes given x) ↔ ∃ v, given = some v ∧ ∀ x, ¬ s.Means v x := by
  rcases given with - | v
  · exact iff_of_false (fun h ↦ h _ rfl) nofun
  · constructor
    · exact fun h ↦ ⟨v, rfl, h⟩
    · rintro ⟨_, ⟨⟩, h⟩
      exact h

namespace Settings

/-! ### Reading the settings -/

/-- There is a record with any content. -/
theorem exists_get_eq (f : (s : Setting) → s.Content) : ∃ c : Settings, ∀ s, c.get s = f s := by
  refine ⟨⟨f .mode, f .endpoint, f .gateway, f .client, f .discovery, f .endpoints, f .hosts,
    f .nodeName, f .mtu, f .cooldown, f .interval, ⟨f .files, f .devices⟩⟩, fun s ↦ ?_⟩
  cases s <;> rfl

section

variable {α : Type} {means : Value → α → Prop} {read : Value → Option α} {given : Option Value}

/-- Reading with a default follows what the values mean. -/
theorem withDefault?_eq_some_iff {default x : α} (h : ∀ v x, read v = some x ↔ means v x) :
    withDefault? default read given = some x ↔ Config.Becomes default means given x := by
  rcases given with - | v
  · exact Option.some_inj.trans eq_comm
  · exact h v x

/-- So does reading what may be missing. -/
theorem optional?_eq_some_iff {x : Option α} (h : ∀ v a, read v = some a ↔ means v a) :
    optional? valueReading read given = some x ↔
      Config.Becomes none (Value.Fills means) given x := by
  rcases given with - | v
  · exact Option.some_inj.trans eq_comm
  · change (read v).map some = some x ↔ _
    rw [Option.map_eq_some_iff]
    simp only [h, eq_comm]
    rfl

/-- The readers of single values, one by one, and what they mean. -/
theorem bind_text?_eq_some_iff {ofText? : String → Option α} (v : Value) (a : α) :
    (valueReading.text? v).bind ofText? = some a ↔ v.IsTextOf ofText? a := by
  cases v <;> simp [valueReading, Value.IsTextOf]

theorem text?_eq_some_iff (v : Value) (t : String) :
    valueReading.text? v = some t ↔ v.IsTextOf some t := by
  cases v <;> simp [valueReading, Value.IsTextOf]

theorem mode?_eq_some_iff (v : Value) (m : ModeKind) :
    valueReading.mode? v = some m ↔ v.IsTextOf ModeKind.ofText? m := by
  cases v <;> simp [valueReading, Value.IsTextOf]

theorem natural?_eq_some_iff (limit : Nat) (v : Value) (n : Nat) :
    valueReading.natural? limit v = some n ↔ v.IsNatural limit n := by
  cases v with
  | int m =>
    simp only [valueReading, Value.IsNatural, Option.ite_none_right_eq_some, Option.some_inj,
      Value.int.injEq]
    omega
  | _ => simp [valueReading, Value.IsNatural]

theorem word?_eq_some_iff (v : Value) (n : BitVec 32) :
    word? valueReading v = some n ↔ v.IsNatural limit32 n.toNat := by
  rw [← natural?_eq_some_iff, word?, Option.map_eq_some_iff]
  constructor
  · rintro ⟨m, hm, rfl⟩
    have hle : m ≤ limit32 := ((natural?_eq_some_iff _ _ _).mp hm).2
    have hword : m < 2 ^ 32 := Nat.lt_succ_of_le hle
    rwa [BitVec.toNat_ofNat, Nat.mod_eq_of_lt hword]
  · exact fun h ↦ ⟨_, h, by simp⟩

end

/-- How one setting is read. -/
def readOne? : (s : Setting) → Option Value → Option s.Content
  | .mode => withDefault? (get {} .mode) valueReading.mode?
  | .endpoint | .client | .discovery | .endpoints | .hosts =>
    optional? valueReading fun v ↦ (valueReading.text? v).bind Cidr.ofText?
  | .gateway => optional? valueReading fun v ↦ (valueReading.text? v).bind Address.ofText?
  | .nodeName => optional? valueReading valueReading.text?
  | .mtu => withDefault? (get {} .mtu) (word? valueReading)
  | .cooldown => withDefault? (get {} .cooldown) (valueReading.natural? limit64)
  | .interval => withDefault? (get {} .interval) (valueReading.natural? limit64)
  | .files => withDefault? (get {} .files) valueReading.text?
  | .devices => withDefault? (get {} .devices) valueReading.text?

/-- Each setting is read as what it becomes. -/
theorem readOne?_eq_some_iff {given : Option Value} :
    readOne? s given = some x ↔ s.Becomes given x := by
  cases s with
  | mode => exact withDefault?_eq_some_iff mode?_eq_some_iff
  | mtu => exact withDefault?_eq_some_iff word?_eq_some_iff
  | cooldown | interval => exact withDefault?_eq_some_iff (natural?_eq_some_iff _)
  | files | devices => exact withDefault?_eq_some_iff text?_eq_some_iff
  | nodeName => exact optional?_eq_some_iff text?_eq_some_iff
  | _ => exact optional?_eq_some_iff bind_text?_eq_some_iff

/-- The settings are read one by one. -/
theorem read?_eq_some_iff_forall_readOne? {given : Setting → Option Value} {c : Settings} :
    read? valueReading given = some c ↔ ∀ s, readOne? s (given s) = some (c.get s) := by
  constructor
  · intro h s
    obtain ⟨_, hmode, h⟩ := Option.bind_eq_some_iff.mp h
    obtain ⟨_, hendpoint, h⟩ := Option.bind_eq_some_iff.mp h
    obtain ⟨_, hgateway, h⟩ := Option.bind_eq_some_iff.mp h
    obtain ⟨_, hclient, h⟩ := Option.bind_eq_some_iff.mp h
    obtain ⟨_, hdiscovery, h⟩ := Option.bind_eq_some_iff.mp h
    obtain ⟨_, hendpoints, h⟩ := Option.bind_eq_some_iff.mp h
    obtain ⟨_, hhosts, h⟩ := Option.bind_eq_some_iff.mp h
    obtain ⟨_, hnodeName, h⟩ := Option.bind_eq_some_iff.mp h
    obtain ⟨_, hmtu, h⟩ := Option.bind_eq_some_iff.mp h
    obtain ⟨_, hcooldown, h⟩ := Option.bind_eq_some_iff.mp h
    obtain ⟨_, hinterval, h⟩ := Option.bind_eq_some_iff.mp h
    obtain ⟨_, hfiles, h⟩ := Option.bind_eq_some_iff.mp h
    obtain ⟨_, hdevices, h⟩ := Option.bind_eq_some_iff.mp h
    obtain rfl := Option.some.inj h
    cases s <;> assumption
  · -- The record is put together field by field, in the order in which it is read.
    intro h
    refine Option.bind_eq_some_iff.mpr ⟨_, h .mode, ?_⟩
    refine Option.bind_eq_some_iff.mpr ⟨_, h .endpoint, ?_⟩
    refine Option.bind_eq_some_iff.mpr ⟨_, h .gateway, ?_⟩
    refine Option.bind_eq_some_iff.mpr ⟨_, h .client, ?_⟩
    refine Option.bind_eq_some_iff.mpr ⟨_, h .discovery, ?_⟩
    refine Option.bind_eq_some_iff.mpr ⟨_, h .endpoints, ?_⟩
    refine Option.bind_eq_some_iff.mpr ⟨_, h .hosts, ?_⟩
    refine Option.bind_eq_some_iff.mpr ⟨_, h .nodeName, ?_⟩
    refine Option.bind_eq_some_iff.mpr ⟨_, h .mtu, ?_⟩
    refine Option.bind_eq_some_iff.mpr ⟨_, h .cooldown, ?_⟩
    refine Option.bind_eq_some_iff.mpr ⟨_, h .interval, ?_⟩
    refine Option.bind_eq_some_iff.mpr ⟨_, h .files, ?_⟩
    refine Option.bind_eq_some_iff.mpr ⟨_, h .devices, ?_⟩
    rfl

/-- **The settings that are read are what the given values mean.** -/
theorem read?_eq_some_iff {given : Setting → Option Value} {c : Settings} :
    read? valueReading given = some c ↔ ∀ s : Setting, s.Becomes (given s) (c.get s) :=
  read?_eq_some_iff_forall_readOne?.trans (forall_congr' fun _ ↦ readOne?_eq_some_iff)

/-! ### Loading -/

/-- The table of settings in a file; one that is not there holds nothing. -/
def sourceTable? (file : Option ByteArray) : Option Config.Table :=
  match file with
  | some contents => fileTable? contents
  | none => some []

/-- A file is there and is not one of TOML. -/
def IsBroken (file : Option ByteArray) : Prop :=
  ∃ contents, file = some contents ∧ fileTable? contents = none

/-- The value that counts for a setting: that of the last variable, else that of the file. -/
def effective? (file : Option ByteArray) (vars : Variables) (s : Setting) : Option Value :=
  (given? vars s.name).or ((sourceTable? file).bind (Assoc.lookup s.name))

variable {file file' : Option ByteArray} {vars vars' : Variables} {c : Settings} {f : ConfigFault}

/-- A broken file gives no table. -/
theorem isBroken_iff : IsBroken file ↔ sourceTable? file = none := by
  rcases file with - | contents
  · exact iff_of_false (fun ⟨_, h, _⟩ ↦ nomatch h) nofun
  · constructor
    · rintro ⟨_, ⟨⟩, h⟩
      exact h
    · exact fun h ↦ ⟨contents, rfl, h⟩

/-- The table of a file has distinct keys. -/
theorem distinct_of_sourceTable? {t : Config.Table} (h : sourceTable? file = some t) :
    Assoc.Distinct t := by
  rcases file with - | contents
  · obtain rfl := Option.some.inj h
    exact Assoc.distinct_nil
  · obtain ⟨text, -, hparse⟩ := Option.bind_eq_some_iff.mp h
    exact Toml.distinct_of_parse? hparse

/-- Loading is a merge of two tables and a reading of the result; it fails in one way. -/
theorem load_eq (file : Option ByteArray) (vars : Variables) : load file vars =
    match (sourceTable? file).bind fun t ↦
      ofTable? (Config.Table.layered [t, Config.Environment.table vars]) with
    | some c => .ok c
    | none => .error .unloadable :=
  rfl

/-- It succeeds if the file gives a table and the merged table is read. -/
theorem load_eq_ok_iff : load file vars = .ok c ↔ ∃ t, sourceTable? file = some t ∧
    ofTable? (Config.Table.layered [t, Config.Environment.table vars]) = some c := by
  rw [← Option.bind_eq_some_iff, load_eq]
  split
  · next h => rw [h, Except.ok.injEq, Option.some_inj]
  · next h => exact iff_of_false nofun (by rw [h]; nofun)

/-- It fails if it does not succeed. -/
theorem load_eq_error_iff :
    load file vars = .error f ↔ f = .unloadable ∧ ∀ c, load file vars ≠ .ok c := by
  rw [load_eq]
  rcases (sourceTable? file).bind _ with - | c
  · constructor
    · intro h
      refine ⟨(Except.error.inj h).symm, fun c hc ↦ ?_⟩
      cases hc
    · rintro ⟨rfl, -⟩
      rfl
  · exact iff_of_false nofun fun h ↦ h.2 c rfl

/-- In a table under the variables, what counts stands under the name of each setting. -/
theorem alike_lookup_layered {t : Config.Table} (ht : sourceTable? file = some t)
    (vars : Variables) (s : Setting) :
    Config.Alike
      (Assoc.lookup s.name (Config.Table.layered [t, Config.Environment.table vars]))
      (effective? file vars s) := by
  have hlayers : ∀ u ∈ [t, Config.Environment.table vars], Assoc.Distinct u :=
    List.forall_mem_cons.mpr ⟨distinct_of_sourceTable? ht,
      List.forall_mem_singleton.mpr (Config.Environment.distinct_table vars)⟩
  have hlast : ([t, Config.Environment.table vars].filterMap (Assoc.lookup s.name)).getLast? =
      (Assoc.lookup s.name (Config.Environment.table vars)).or (Assoc.lookup s.name t) := by
    rcases ht : Assoc.lookup s.name t with - | v <;>
      rcases hv : Assoc.lookup s.name (Config.Environment.table vars) with - | w <;>
      simp [ht, hv]
  refine (Config.Table.lookup_layered hlayers s.name).trans ?_
  rw [hlast, effective?, ht, Option.bind_some]
  exact (Config.Environment.lookup_table vars s.name).or (.refl _)

/-- Loading succeeds with what the values that count mean. -/
theorem load_eq_ok_iff_becomes : load file vars = .ok c ↔
    ¬ IsBroken file ∧ ∀ s : Setting, s.Becomes (effective? file vars s) (c.get s) := by
  rw [load_eq_ok_iff, isBroken_iff]
  rcases ht : sourceTable? file with - | t
  · exact iff_of_false (fun ⟨_, h, _⟩ ↦ nomatch h) fun h ↦ h.1 rfl
  · have hread : ofTable? (Config.Table.layered [t, Config.Environment.table vars]) = some c ↔
        ∀ s : Setting, s.Becomes (effective? file vars s) (c.get s) :=
      read?_eq_some_iff.trans (forall_congr' fun s ↦
        Setting.becomes_iff_of_alike (alike_lookup_layered ht vars s))
    rw [← hread]
    constructor
    · rintro ⟨_, ⟨⟩, h⟩
      exact ⟨nofun, h⟩
    · exact fun h ↦ ⟨t, rfl, h.2⟩

/-- Loading fails when the file is broken or a value that counts means nothing. -/
theorem load_eq_error_iff_means : load file vars = .error f ↔
    f = .unloadable ∧ (IsBroken file ∨
      ∃ s v, effective? file vars s = some v ∧ ∀ x, ¬ s.Means v x) := by
  rw [load_eq_error_iff]
  refine and_congr_right fun _ ↦ ?_
  simp only [← Setting.forall_not_becomes_iff, ne_eq, load_eq_ok_iff_becomes]
  constructor
  · intro h
    by_contra hnot
    obtain ⟨hfile, hall⟩ := not_or.mp hnot
    have hbecomes (s : Setting) : ∃ x, s.Becomes (effective? file vars s) x := by
      by_contra hnone
      exact hall ⟨s, not_exists.mp hnone⟩
    choose x hx using hbecomes
    obtain ⟨c, hc⟩ := exists_get_eq x
    exact h c ⟨hfile, fun s ↦ hc s ▸ hx s⟩
  · rintro (hfile | ⟨s, hs⟩) c ⟨hfine, hc⟩
    · exact hfine hfile
    · exact hs _ (hc s)

/-- **What loading gives.** Each setting is what the value that counts for it means, or its default,
and loading fails, always in one way, when the file is broken or a value that counts means nothing.
So a setting depends on no value that counts for another one, and nothing else in the sources
matters. -/
theorem load_effective (file : Option ByteArray) (vars : Variables) :
    (∀ c, load file vars = .ok c ↔
      ¬ IsBroken file ∧ ∀ s : Setting, s.Becomes (effective? file vars s) (c.get s)) ∧
    (∀ f, load file vars = .error f ↔ f = .unloadable ∧ (IsBroken file ∨
      ∃ s v, effective? file vars s = some v ∧ ∀ x, ¬ s.Means v x)) ∧
    ∀ file' vars',
      (∀ c c' s, load file vars = .ok c → load file' vars' = .ok c' →
        effective? file vars s = effective? file' vars' s → c.get s = c'.get s) ∧
      ((IsBroken file ↔ IsBroken file') →
        (∀ s, effective? file vars s = effective? file' vars' s) →
        load file vars = load file' vars') := by
  refine ⟨fun c ↦ load_eq_ok_iff_becomes, fun f ↦ load_eq_error_iff_means, fun file' vars' ↦
    ⟨fun c c' s h h' heq ↦ ?_, fun hfile heq ↦ ?_⟩⟩
  · have hc := (load_eq_ok_iff_becomes.mp h).2 s
    rw [heq] at hc
    exact hc.unique ((load_eq_ok_iff_becomes.mp h').2 s)
  · rcases h : load file' vars' with f | c
    · rw [load_eq_error_iff_means] at h ⊢
      simpa only [hfile, heq] using h
    · rw [load_eq_ok_iff_becomes] at h ⊢
      simpa only [hfile, heq] using h

/-- A value of another type does no harm under a later one. -/
example : (load (some "mtu = 'wide'\ngateway = '10.0.0.1'".toUTF8)
    ⟨[("DPU_CNI_PROVISIONER__MTU", "1400")]⟩).toOption.map Settings.mtu = some 1400 := by
  decide +kernel

/-- It does harm over an earlier one, and so does a table. -/
example : load (some "mtu = 1400".toUTF8) ⟨[("DPU_CNI_PROVISIONER__MTU__LOW", "68")]⟩ =
    .error .unloadable := by
  decide +kernel

end Settings

end DpuNetwork
