import DpuNetwork.Proofs.FileTree.Rewriting
import DpuNetwork.Proofs.FunctionConfig
import DpuNetwork.Proofs.Ipv4.CidrText

/-!
# The text of the gateway options

The options file is read back line by line: a section, and two lines with a key, an equals sign and
a value in its written form (`GatewayOptions.ofText?`). The reader gives the options that were
written, so different options have different texts, and leaving a file alone that holds the text
already never leaves other options in it.

## Main statements

* `ofText?_eq_some_iff`: which texts are read as some options;
* `text_inj`: options are equal exactly when their texts are;
* `hides_no_change`: the text keeps both options, and in every run of writes a write reports no
  change exactly when its options are those of the last one that succeeded.
-/

namespace DpuNetwork

open Ipv4 Text

namespace GatewayOptions

variable {o o' last : GatewayOptions}

/-! ### Reading -/

/-- A line with a key and a value. -/
def keyed (key : String) (value : List Char) : List Char := key.toList ++ '=' :: value

/-- The value in a line with a key. -/
def value? (key : String) (line : List Char) : Option (List Char) :=
  match cut '=' line with
  | [k, value] => if k = key.toList then some value else none
  | _ => none

/-- The lines of the options file. -/
def rows (o : GatewayOptions) : List (List Char) :=
  ["[Gateway]".toList, keyed "next-hop" o.nextHop.render,
    keyed "router-subnet" o.routerSubnet.render]

/-- Reads the options file. Both values have to be in their written forms. -/
def ofText? (s : String) : Option GatewayOptions :=
  match lines s.toList with
  | [header, hop, subnet] =>
    if header = "[Gateway]".toList then do
      let nextHop ← Address.parse? (← value? "next-hop" hop)
      let routerSubnet ← Cidr.ofWritten? (← value? "router-subnet" subnet)
      return ⟨nextHop, routerSubnet⟩
    else none
  | _ => none

/-- A line has a value for a key exactly if it is that key and the value, with one `=` between
them. -/
theorem value?_eq_some_iff {key : String} (hkey : '=' ∉ key.toList) {line value : List Char} :
    value? key line = some value ↔ line = keyed key value ∧ '=' ∉ value := by
  unfold value?
  constructor
  · intro h
    split at h
    · next k v hcut =>
      split at h
      · next hk =>
        obtain rfl := Option.some.inj h
        obtain ⟨rfl, hmem⟩ := (cut_eq_iff (by simp)).mp hcut
        exact ⟨by rw [hk]; rfl, hmem v (by simp)⟩
      · cases h
    · cases h
  · rintro ⟨rfl, hvalue⟩
    rw [keyed, cut_append hkey, cut_of_not_mem hvalue]
    exact if_pos rfl

/-- **Reading the options file**: its lines, with any ends, are those of the options. -/
theorem ofText?_eq_some_iff {s : String} : ofText? s = some o ↔ HasLines o.rows s.toList := by
  have hhop : '=' ∉ "next-hop".toList := by decide
  have hsubnet : '=' ∉ "router-subnet".toList := by decide
  constructor
  · intro h
    unfold ofText? at h
    split at h
    · next header hop subnet hlines =>
      split at h
      · next hheader =>
        obtain ⟨hop', hhop', h⟩ := Option.bind_eq_some_iff.mp h
        obtain ⟨g, hg, h⟩ := Option.bind_eq_some_iff.mp h
        obtain ⟨subnet', hsubnet', h⟩ := Option.bind_eq_some_iff.mp h
        obtain ⟨n, hn, h⟩ := Option.bind_eq_some_iff.mp h
        obtain rfl := Option.some.inj h
        obtain ⟨rfl, -⟩ := (value?_eq_some_iff hhop).mp hhop'
        obtain ⟨rfl, -⟩ := (value?_eq_some_iff hsubnet).mp hsubnet'
        obtain rfl := Address.render_of_parse? hg
        obtain rfl := Cidr.ofWritten?_eq_some_iff.mp hn
        rw [rows, ← hheader]
        exact lines_eq_iff.mp hlines
      · cases h
    · cases h
  · intro h
    have hg : value? "next-hop" (keyed "next-hop" o.nextHop.render) = some o.nextHop.render :=
      (value?_eq_some_iff hhop).mpr ⟨rfl, Address.not_mem_render (by decide) (by decide) _⟩
    have hn : value? "router-subnet" (keyed "router-subnet" o.routerSubnet.render) =
        some o.routerSubnet.render :=
      (value?_eq_some_iff hsubnet).mpr
        ⟨rfl, Cidr.not_mem_render (by decide) (by decide) (by decide) _⟩
    rw [ofText?, h.lines_eq, rows]
    simp [hg, hn, Cidr.ofWritten?_eq_some_iff.mpr rfl]

/-- A line with a key and a value holds no character that neither of them holds. -/
theorem not_mem_keyed {key : String} {value : List Char} {c : Char} (hkey : c ∉ key.toList)
    (hc : c ≠ '=') (hvalue : c ∉ value) : c ∉ keyed key value := by
  rw [keyed, List.mem_append, List.mem_cons, not_or, not_or]
  exact ⟨hkey, hc, hvalue⟩

/-- The lines hold no characters but digits, three marks and those of the header and the keys. -/
theorem not_mem_row {c : Char} (hdigit : c.isDigit = false) (hmark : c ∉ ['.', '/', '='])
    (hname : c ∉ "[Gateway]".toList ++ "next-hop".toList ++ "router-subnet".toList) :
    ∀ row ∈ o.rows, c ∉ row := by
  simp only [List.mem_append, not_or] at hname
  simp only [List.mem_cons, List.not_mem_nil, or_false, not_or] at hmark
  obtain ⟨⟨hheader, hhop⟩, hsubnet⟩ := hname
  obtain ⟨hdot, hslash, hequals⟩ := hmark
  simp only [rows, List.forall_mem_cons]
  exact ⟨hheader, not_mem_keyed hhop hequals (Address.not_mem_render hdigit hdot _),
    not_mem_keyed hsubnet hequals (Cidr.not_mem_render hdigit hdot hslash _),
    fun _ h ↦ absurd h List.not_mem_nil⟩

/-- The text is that of the lines with a line feed behind each. -/
theorem toList_text (o : GatewayOptions) : o.text.toList = o.rows.flatMap (· ++ ['\n']) := by
  have hhop : "[Gateway]\nnext-hop=".toList =
      "[Gateway]".toList ++ '\n' :: ("next-hop".toList ++ ['=']) := rfl
  have hsubnet : "\nrouter-subnet=".toList = '\n' :: ("router-subnet".toList ++ ['=']) := rfl
  have hend : "\n".toList = ['\n'] := rfl
  show ("[Gateway]\nnext-hop=" ++ o.nextHop.text ++ "\nrouter-subnet=" ++ o.routerSubnet.text ++
    "\n").toList = _
  simp only [String.toList_append, Address.text, Cidr.text, String.toList_ofList]
  rw [hhop, hsubnet, hend]
  simp [rows, keyed]

/-- The text has the lines of the options. -/
theorem hasLines_text (o : GatewayOptions) : HasLines o.rows o.text.toList := by
  rw [toList_text]
  exact hasLines_flatMap (not_mem_row (by decide) (by decide) (by decide))
    (not_mem_row (by decide) (by decide) (by decide))

/-- Reading gives back what was written. -/
@[simp] theorem ofText?_text (o : GatewayOptions) : ofText? o.text = some o :=
  ofText?_eq_some_iff.mpr o.hasLines_text

/-- **Options are equal exactly when their texts are.** -/
theorem text_inj : o.text = o'.text ↔ o = o' :=
  ⟨fun h ↦ by simpa using congrArg ofText? h, fun h ↦ h ▸ rfl⟩

theorem eq_iff : o = o' ↔ o.nextHop = o'.nextHop ∧ o.routerSubnet = o'.routerSubnet := by
  cases o
  cases o'
  simp

/-- What the text of options keeps of them. -/
structure LosesNothing (o : GatewayOptions) : Prop where
  /-- Options with the same text are the same in both parts. -/
  eq_of_text_eq : ∀ o' : GatewayOptions, o.text = o'.text →
    o.nextHop = o'.nextHop ∧ o.routerSubnet = o'.routerSubnet
  /-- Cut at the ends of its lines and at the equals signs, the text gives the section and two keys,
  each with its value. -/
  pieces : (lines o.text.toList).map (cut '=') = [["[Gateway]".toList],
    ["next-hop".toList, o.nextHop.render], ["router-subnet".toList, o.routerSubnet.render]]
  /-- The values are read as the two parts. -/
  values : Address.parse? o.nextHop.render = some o.nextHop ∧
    Cidr.parse o.routerSubnet.render = .ok o.routerSubnet
  /-- By a reader that takes values in their written forms only, the text is read as the options. -/
  read : ofText? o.text = some o
  /-- So is every text with its lines and no other text. -/
  read_iff : ∀ s, ofText? s = some o ↔ HasLines o.rows s.toList

/-- The lines of a written file, each cut at its `=`. -/
theorem pieces_rows (o : GatewayOptions) : o.rows.map (cut '=') = [["[Gateway]".toList],
    ["next-hop".toList, o.nextHop.render], ["router-subnet".toList, o.routerSubnet.render]] := by
  have hhop : '=' ∉ o.nextHop.render := Address.not_mem_render (by decide) (by decide) _
  have hsubnet : '=' ∉ o.routerSubnet.render :=
    Cidr.not_mem_render (by decide) (by decide) (by decide) _
  rw [rows, List.map_cons, List.map_cons, List.map_cons, List.map_nil, keyed, keyed,
    cut_append (by decide), cut_append (by decide), cut_of_not_mem hhop, cut_of_not_mem hsubnet,
    cut_of_not_mem (by decide)]

theorem losesNothing (o : GatewayOptions) : o.LosesNothing where
  eq_of_text_eq _ h := eq_iff.mp (text_inj.mp h)
  pieces := by rw [o.hasLines_text.lines_eq, pieces_rows]
  values := ⟨Address.parse?_render _, Cidr.parse_render _⟩
  read := ofText?_text o
  read_iff _ := ofText?_eq_some_iff

/-! ### Writing -/

/-- The options of the last write that succeeded. -/
def lastWritten? (log : List (GatewayOptions × Except (FileStep × String) Bool)) :
    Option GatewayOptions :=
  ((log.filter fun w ↦ w.2.isOk).getLast?).map Prod.fst

/-- The texts of the options that are written. -/
def texts (log : List (GatewayOptions × Except (FileStep × String) Bool)) :
    List (String × Except (FileStep × String) Bool) :=
  log.map fun w ↦ (w.1.text, w.2)

variable {log before : List (GatewayOptions × Except (FileStep × String) Bool)}

/-- The last options that were written are the last text that was written. -/
theorem lastReplaced?_texts (h : lastWritten? log = some last) :
    FileTree.lastReplaced? (texts log) = some last.text := by
  obtain ⟨w, hw, rfl⟩ := Option.map_eq_some_iff.mp h
  rw [FileTree.lastReplaced?, texts, List.filter_map, List.getLast?_map]
  exact Option.map_eq_some_iff.mpr ⟨_, Option.map_eq_some_iff.mpr ⟨w, hw, rfl⟩, rfl⟩

/-- Once a write has succeeded there is a last one that did. -/
theorem exists_lastWritten? (h : ∃ w ∈ log, w.2.isOk = true) :
    ∃ last, lastWritten? log = some last := by
  obtain ⟨w, hw, hok⟩ := h
  have hne : (log.filter fun w ↦ w.2.isOk) ≠ [] :=
    List.ne_nil_of_mem (List.mem_filter.mpr ⟨hw, hok⟩)
  rw [lastWritten?, List.getLast?_eq_some_getLast hne]
  exact ⟨_, rfl⟩

/-- What the outcomes of writes below a root tell, and what is left in the end. -/
structure TellsChanges (root : String)
    (log : List (GatewayOptions × Except (FileStep × String) Bool)) (t : FileTree) : Prop where
  /-- From the first success on, a write reports no change exactly when both options are those of
  the last success. -/
  unchanged_iff : ∀ before (o : GatewayOptions) (r : Except (FileStep × String) Bool) after,
    log = before ++ (o, r) :: after → (∃ w ∈ before, w.2.isOk = true) →
    ∃ last, lastWritten? before = some last ∧
      (r = .ok false ↔ o.nextHop = last.nextHop ∧ o.routerSubnet = last.routerSubnet)
  /-- In the end the file is read as the options of the last success. -/
  held : ∀ last, lastWritten? log = some last →
    (t.readText (Path.child root gatewayOptionsPath)).bind ofText? = some last

theorem tellsChanges {root : String} {t t' : FileTree}
    (h : FileTree.Rewrites (Path.child root gatewayOptionsPath) t (texts log) t') :
    TellsChanges root log t' where
  unchanged_iff before o r after hlog hsome := by
    obtain ⟨last, hlast⟩ := exists_lastWritten? hsome
    refine ⟨last, hlast, ?_⟩
    subst hlog
    rw [texts, List.map_append, List.map_cons] at h
    rw [h.unchanged_iff (lastName?_gatewayOptions_ne_temporary root) (lastReplaced?_texts hlast),
      text_inj, eq_iff]
  held last hlast := by
    have hread := h.read_eq (lastName?_gatewayOptions_ne_temporary root) (lastReplaced?_texts hlast)
    rw [FileTree.readText_of_read hread, Option.bind_some, ofText?_text]

/-- **No change is hidden.** The text of options keeps both of them, so in every run of writes that
nobody else interferes with, what reports no change is what has been written already. -/
theorem hides_no_change : (∀ o : GatewayOptions, o.LosesNothing) ∧
    ∀ (root : String) (t t' : FileTree)
      (log : List (GatewayOptions × Except (FileStep × String) Bool)),
      FileTree.Rewrites (Path.child root gatewayOptionsPath) t (texts log) t' →
        TellsChanges root log t' :=
  ⟨losesNothing, fun _ _ _ _ h ↦ tellsChanges h⟩

/-! ### A run with obstacles -/

/-- Options, host bits included. -/
def nearOptions : GatewayOptions := ⟨⟨0x0a000001⟩, ⟨⟨0x0a000005⟩, 23, by decide⟩⟩

/-- Options whose text is as long: the next hop has a digit more and the prefix length one less. -/
def farOptions : GatewayOptions := ⟨⟨0x0a00000a⟩, ⟨⟨0x0a000005⟩, 2, by decide⟩⟩

/-- The path of the options file of a host. -/
def hostPath : String := Path.child "/" gatewayOptionsPath

/-- A file stands where a directory has to be. -/
def blockedTree : FileTree := ({} : FileTree).put ["etc"] (.file "".toUTF8)

/-- The file is gone, and options have been written. -/
def writtenTree : FileTree := (({} : FileTree).replace hostPath nearOptions.text).2

/-- A directory stands where options are written first. -/
def stuckTree : FileTree :=
  writtenTree.put ["etc", "openvswitch", "ovn_k8s.conf.TMP"] .directory

/-- The directory is gone, and other options have been written. -/
def rewrittenTree : FileTree := (writtenTree.replace hostPath farOptions.text).2

/-- Writes of which two meet an obstacle. -/
def obstructedLog : List (GatewayOptions × Except (FileStep × String) Bool) :=
  [(nearOptions, .error (.createDirs, "/etc/openvswitch")), (nearOptions, .ok true),
    (farOptions, .error (.write, FileTree.temporary hostPath)), (nearOptions, .ok false),
    (farOptions, .ok true), (farOptions, .ok false)]

theorem rewrites_obstructedLog :
    FileTree.Rewrites hostPath blockedTree (texts obstructedLog) rewrittenTree := by
  obtain ⟨hblocked, hgone, hfree, hstuck, hover⟩ :
      (blockedTree.replace hostPath nearOptions.text).1 =
        .error (.createDirs, "/etc/openvswitch") ∧
      ({} : FileTree).read hostPath =
        (blockedTree.replace hostPath nearOptions.text).2.read hostPath ∧
      (({} : FileTree).replace hostPath nearOptions.text).1 = .ok true ∧
      (stuckTree.replace hostPath farOptions.text).1 =
        .error (.write, FileTree.temporary hostPath) ∧
      (writtenTree.replace hostPath farOptions.text).1 = .ok true := by decide +kernel
  have hwritten : ({} : FileTree).replace hostPath nearOptions.text = (.ok true, writtenTree) :=
    Prod.ext hfree rfl
  have hrewritten : writtenTree.replace hostPath farOptions.text = (.ok true, rewrittenTree) :=
    Prod.ext hover rfl
  -- What the file holds between the writes follows from their outcomes.
  have hread : writtenTree.read hostPath = some nearOptions.text.toUTF8 :=
    FileTree.read_replace hwritten
  have hreadStuck : stuckTree.read hostPath = some nearOptions.text.toUTF8 :=
    (FileTree.keptIn_put (by decide +kernel) _).read hread
  have hreadFailed : (stuckTree.replace hostPath farOptions.text).2.read hostPath =
      some nearOptions.text.toUTF8 :=
    FileTree.read_replace_of_error (Prod.ext hstuck rfl) hreadStuck
      (lastName?_gatewayOptions_ne_temporary "/")
  exact .replace rfl (Prod.ext hblocked rfl) <|
    .replace hgone hwritten <|
    .replace (hreadStuck.trans hread.symm) (Prod.ext hstuck rfl) <|
    .replace rfl (FileTree.replace_of_read hreadFailed) <|
    .replace (hread.trans hreadFailed.symm) hrewritten <|
    .replace rfl (FileTree.replace_of_read (FileTree.read_replace hrewritten)) <| .done rfl

/-- After a failure, too, a write is compared with the last success. -/
theorem hides_no_change_obstructedLog :
    FileTree.Rewrites hostPath blockedTree (texts obstructedLog) rewrittenTree ∧
      TellsChanges "/" obstructedLog rewrittenTree ∧
      nearOptions.LosesNothing ∧ nearOptions.text ≠ farOptions.text := by
  refine ⟨rewrites_obstructedLog, ?_, hides_no_change.1 nearOptions, fun htext ↦ ?_⟩
  · exact hides_no_change.2 "/" blockedTree rewrittenTree obstructedLog rewrites_obstructedLog
  · exact absurd (text_inj.mp htext) (by decide)

end GatewayOptions

end DpuNetwork
