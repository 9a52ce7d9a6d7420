import DpuNetwork.CommandLine

/-!
# Which command lines are accepted

The reader of the command line keeps a value back until the next argument has been recognised, so
that its faults come in the right order. What it accepts does not show this: `Gives` is the grammar
of the command line without anything pending, and `ofArgs_eq_ok_iff` says that the reader accepts
exactly what the grammar gives, with the same options.

## How the proof goes

* `shape_eq_long_iff` and its companion say which argument has which shape, so that a name that was
  recognised can be put back into the argument that it stood in.
* `long_eq_ok_iff` is the step lemma: it lists the five ways in which a long option is taken in.
* `read_eq_ok_iff` is the run lemma, by induction on the arguments and for everything that can be
  pending. A pending value is settled first, and an option that waits for its value needs a word.

From the grammar it follows what an accepted line says: an option is set if and only if it stands
there (`version_iff_mem`, `once_iff_mem`).
-/

namespace DpuNetwork

open Text

namespace CommandLine

/-- The command lines that add to options: nothing, or `--`, or an option that is not given yet
in front of such a line. The path stands behind an equals sign or is the next argument, which then
does not look like an option. -/
inductive Gives : Options → List String → Options → Prop
  | done (o : Options) : Gives o [] o
  | ended (o : Options) : Gives o ["--"] o
  | version {o o' : Options} {args : List String} (h : o.version = false)
      (rest : Gives { o with version := true } args o') : Gives o ("--version" :: args) o'
  | once {o o' : Options} {args : List String} (h : o.once = false)
      (rest : Gives { o with once := true } args o') : Gives o ("--once" :: args) o'
  | pathBehind {o o' : Options} {path : String} {args : List String} (h : o.configPath = none)
      (hne : path ≠ "") (hword : shape path = .word)
      (rest : Gives { o with configPath := some path } args o') :
      Gives o ("--config-path" :: path :: args) o'
  | pathInside {o o' : Options} {path : String} {args : List String} (h : o.configPath = none)
      (hne : path ≠ "") (rest : Gives { o with configPath := some path } args o') :
      Gives o (("--config-path=" ++ path) :: args) o'

/-! ### The shape of an argument -/

/-- The arguments that are a long option without a value. -/
theorem shape_eq_long_none_iff {arg name : String} :
    shape arg = .long name none ↔ arg = "--" ++ name ∧ '=' ∉ name.toList ∧ name ≠ "" := by
  constructor
  · intro h
    unfold shape at h
    split at h
    · cases h
    · next r hne harg =>
      split at h
      · cases h
      · next hcut =>
        obtain rfl : String.ofList r = name := (Shape.long.inj h).1
        have hfree : '=' ∉ (String.ofList r).toList := by simpa using cutOnce_eq_none_iff.mp hcut
        refine ⟨String.toList_inj.mp (by simp [harg]), hfree, fun hempty ↦ hne ?_⟩
        simpa [String.ofList_eq_empty_iff] using hempty
    · cases h
    · cases h
  · rintro ⟨rfl, hfree, hne⟩
    obtain ⟨c, r, hname⟩ := List.exists_cons_of_ne_nil (mt String.toList_eq_nil_iff.mp hne)
    rw [hname, ← cutOnce_eq_none_iff] at hfree
    have hshape : shape ("--" ++ name) = .long (String.ofList (c :: r)) none := by
      simp [shape, hname, hfree]
    rw [hshape, ← hname, String.ofList_toList]

/-- The arguments that are a long option with a value behind an equals sign. -/
theorem shape_eq_long_some_iff {arg name value : String} :
    shape arg = .long name (some value) ↔
      arg = "--" ++ name ++ "=" ++ value ∧ '=' ∉ name.toList := by
  constructor
  · intro h
    unfold shape at h
    split at h
    · cases h
    · next r _ harg =>
      split at h
      · next key text hcut =>
        obtain ⟨rfl, hvalue⟩ := Shape.long.inj h
        obtain rfl := Option.some.inj hvalue
        obtain ⟨rfl, hfree⟩ := cutOnce_eq_some_iff.mp hcut
        exact ⟨String.toList_inj.mp (by simp [harg]), by simpa using hfree⟩
      · cases h
    · cases h
    · cases h
  · rintro ⟨rfl, hfree⟩
    have hcut := cutOnce_append hfree value.toList
    obtain ⟨c, r, hne⟩ := List.exists_cons_of_ne_nil
      (List.append_ne_nil_of_right_ne_nil name.toList (List.cons_ne_nil '=' value.toList))
    have hlist : ("--" ++ name ++ "=" ++ value).toList = '-' :: '-' :: c :: r := by
      simp [← hne]
    rw [hne] at hcut
    simp [shape, hlist, hcut]

theorem shape_eq_endOfOptions_iff {arg : String} : shape arg = .endOfOptions ↔ arg = "--" := by
  constructor
  · intro h
    unfold shape at h
    split at h
    · next harg => exact String.toList_inj.mp harg
    · split at h <;> cases h
    · cases h
    · cases h
  · rintro rfl
    rfl

@[simp] theorem shape_version : shape "--version" = .long "version" none := rfl

@[simp] theorem shape_once : shape "--once" = .long "once" none := rfl

@[simp] theorem shape_configPath : shape "--config-path" = .long "config-path" none := rfl

@[simp] theorem shape_configPath_append (path : String) :
    shape ("--config-path=" ++ path) = .long "config-path" (some path) :=
  shape_eq_long_some_iff.mpr ⟨rfl, by decide⟩

/-! ### Taking in an option -/

/-- A path is taken in once, and only if it is not empty. -/
theorem withConfigPath_eq_ok_iff {o o' : Options} {path : String} :
    withConfigPath o path = .ok o' ↔
      o.configPath = none ∧ path ≠ "" ∧ o' = { o with configPath := some path } := by
  unfold withConfigPath
  split
  · next h => simp [Option.ne_none_iff_isSome.mpr h]
  · next h =>
    have hnone : o.configPath = none := by simpa using h
    by_cases hempty : path = ""
    · simp [hempty]
    · simp only [String.isEmpty_iff, hempty, hnone, if_false, Except.ok.injEq, true_and, ne_eq,
        not_false_eq_true]
      exact eq_comm

/-- What it means that a long option was taken in: what was pending is settled, and the option is
one of the three, in one of four forms. -/
theorem cases_of_long {o o' : Options} {p p' : Pending} {name : String} {value : Option String}
    (h : long o p name value = .ok (o', p')) : ∃ o₁, settle o p = .ok o₁ ∧
      ((name = "config-path" ∧ value = none ∧ o' = o₁ ∧ p' = .option) ∨
      (∃ path, name = "config-path" ∧ value = some path ∧ withConfigPath o₁ path = .ok o' ∧
        p' = .nothing) ∨
      (name = "version" ∧ value = none ∧ o₁.version = false ∧ o' = { o₁ with version := true } ∧
        p' = .nothing) ∨
      (name = "once" ∧ value = none ∧ o₁.once = false ∧ o' = { o₁ with once := true } ∧
        p' = .nothing)) := by
  cases hsettle : settle o p with
  | error f =>
    unfold long at h
    split at h <;> simp [hsettle, bind, Except.bind] at h
  | ok o₁ =>
    refine ⟨o₁, rfl, ?_⟩
    unfold long at h
    -- The cases are those of the program: the path with and without a value, the two flags, any
    -- other name.
    split at h
    case h_1 =>
      simp only [hsettle, bind, Except.bind, pure, Except.pure, Except.ok.injEq,
        Prod.mk.injEq] at h
      obtain ⟨rfl, rfl⟩ := h
      exact .inl ⟨rfl, rfl, rfl, rfl⟩
    case h_2 path =>
      cases hpath : withConfigPath o₁ path with
      | error f => simp [hsettle, hpath, bind, Except.bind] at h
      | ok o₂ =>
        simp only [hsettle, hpath, bind, Except.bind, pure, Except.pure, Except.ok.injEq,
          Prod.mk.injEq] at h
        obtain ⟨rfl, rfl⟩ := h
        exact .inr (.inl ⟨path, rfl, rfl, hpath, rfl⟩)
    case h_3 =>
      cases hversion : o₁.version with
      | true =>
        simp [hsettle, hversion, bind, Except.bind, throw, throwThe, MonadExceptOf.throw] at h
      | false =>
        simp [hsettle, hversion, bind, Except.bind, pure, Except.pure] at h
        obtain ⟨rfl, rfl⟩ := h
        exact .inr (.inr (.inl ⟨rfl, rfl, rfl, rfl, rfl⟩))
    case h_4 =>
      cases honce : o₁.once with
      | true =>
        simp [hsettle, honce, bind, Except.bind, throw, throwThe, MonadExceptOf.throw] at h
      | false =>
        simp [hsettle, honce, bind, Except.bind, pure, Except.pure] at h
        obtain ⟨rfl, rfl⟩ := h
        exact .inr (.inr (.inr ⟨rfl, rfl, rfl, rfl, rfl⟩))
    case h_5 => simp [hsettle, bind, Except.bind, throw, throwThe, MonadExceptOf.throw] at h
    all_goals cases h

/-! ### Reading on -/

/-- What reading on from options comes to, with something pending: an option that waits for its
value takes the next argument if that is a word, and anything else pending is settled first. -/
def Resumes (o : Options) : Pending → List String → Options → Prop
  | .option, args, o' =>
    ∃ path rest o₁, args = path :: rest ∧ shape path = .word ∧
      withConfigPath o path = .ok o₁ ∧ Gives o₁ rest o'
  | p, args, o' => ∃ o₁, settle o p = .ok o₁ ∧ Gives o₁ args o'

/-- Whatever is pending and can be settled does not keep a line from being read on. -/
theorem resumes_of_settle {o o₁ o' : Options} {p : Pending} {args : List String}
    (hsettle : settle o p = .ok o₁) (h : Gives o₁ args o') : Resumes o p args o' := by
  cases p with
  | option => cases hsettle
  | nothing => exact ⟨o₁, hsettle, h⟩
  | value path => exact ⟨o₁, hsettle, h⟩

/-- The step: a long option that was taken in stands in front of a line that is read on. -/
theorem resumes_of_long {o o₂ o' : Options} {p p₂ : Pending} {arg name : String}
    {value : Option String} {args : List String} (hshape : shape arg = .long name value)
    (hlong : long o p name value = .ok (o₂, p₂)) (hrest : Resumes o₂ p₂ args o') :
    Resumes o p (arg :: args) o' := by
  obtain ⟨o₁, hsettle, hcases⟩ := cases_of_long hlong
  refine resumes_of_settle hsettle ?_
  obtain ⟨rfl, rfl, rfl, rfl⟩ | ⟨path, rfl, rfl, hpath, rfl⟩ | ⟨rfl, rfl, hfree, rfl, rfl⟩ |
    ⟨rfl, rfl, hfree, rfl, rfl⟩ := hcases
  · obtain ⟨path, rest, o₃, rfl, hword, hpath, hgives⟩ := hrest
    obtain ⟨hnone, hne, rfl⟩ := withConfigPath_eq_ok_iff.mp hpath
    obtain ⟨rfl, -, -⟩ := shape_eq_long_none_iff.mp hshape
    exact .pathBehind hnone hne hword hgives
  · obtain ⟨_, ⟨⟩, hgives⟩ := hrest
    obtain ⟨hnone, hne, rfl⟩ := withConfigPath_eq_ok_iff.mp hpath
    obtain ⟨rfl, -⟩ := shape_eq_long_some_iff.mp hshape
    exact .pathInside hnone hne hgives
  · obtain ⟨_, ⟨⟩, hgives⟩ := hrest
    obtain ⟨rfl, -, -⟩ := shape_eq_long_none_iff.mp hshape
    exact .version hfree hgives
  · obtain ⟨_, ⟨⟩, hgives⟩ := hrest
    obtain ⟨rfl, -, -⟩ := shape_eq_long_none_iff.mp hshape
    exact .once hfree hgives

/-- **What the reader accepts is in the grammar**, whatever is pending. The induction is on the
arguments; what is pending changes on the way, so the statement is about all of it. -/
theorem resumes_of_read {args : List String} : ∀ {o o' : Options} {p : Pending},
    read o p args = .ok o' → Resumes o p args o' := by
  induction args with
  | nil => exact fun h ↦ resumes_of_settle h (.done _)
  | cons arg args ih =>
    intro o o' p h
    unfold read at h
    split at h
    case h_1 hshape =>
      obtain rfl := shape_eq_endOfOptions_iff.mp hshape
      split at h
      · next hend =>
        obtain rfl := List.isEmpty_iff.mp hend
        exact resumes_of_settle h (.ended _)
      · cases h
    case h_2 name value hshape =>
      split at h
      · next hlong => exact resumes_of_long hshape hlong (ih h)
      · cases h
    case h_3 letters hshape =>
      split at h
      · split at h <;> cases h
      · cases h
    case h_4 hshape =>
      split at h
      · obtain ⟨o₁, hpath, hgives⟩ := ih h
        exact ⟨arg, args, o₁, rfl, hshape, hpath, hgives⟩
      · cases h

/-- **What is in the grammar is accepted**, behind anything pending that can be settled. -/
theorem read_of_gives {o o' : Options} {args : List String} (h : Gives o args o') :
    ∀ {o₀ : Options} {p : Pending}, settle o₀ p = .ok o → read o₀ p args = .ok o' := by
  induction h with
  | done o => exact fun hp ↦ hp
  | ended o => exact fun hp ↦ by simpa [read, shape_eq_endOfOptions_iff.mpr] using hp
  | version h rest ih =>
    intro o₀ p hp
    have hread := ih (p := .nothing) rfl
    simp [read, long, hp, h, bind, Except.bind, pure, Except.pure, hread]
  | once h rest ih =>
    intro o₀ p hp
    have hread := ih (p := .nothing) rfl
    simp [read, long, hp, h, bind, Except.bind, pure, Except.pure, hread]
  | @pathBehind o o' path args h hne hword rest ih =>
    intro o₀ p hp
    have hread := ih (p := .value path) (withConfigPath_eq_ok_iff.mpr ⟨h, hne, rfl⟩)
    simp [read, long, hp, bind, Except.bind, pure, Except.pure, hword, hread]
  | @pathInside o o' path args h hne rest ih =>
    intro o₀ p hp
    have hread := ih (p := .nothing) rfl
    have hpath := withConfigPath_eq_ok_iff.mpr ⟨h, hne, rfl⟩
    simp [read, long, hp, bind, Except.bind, pure, Except.pure, hpath, hread]

/-! ### What an accepted line says -/

/-- A word is none of the options. -/
theorem ne_of_word (arg : String) {path : String} (h : shape path = .word)
    (harg : shape arg ≠ .word) : arg ≠ path :=
  fun e ↦ harg (e ▸ h)

/-- A path behind an equals sign stands in no other option. -/
theorem configPath_append_ne (path arg : String)
    (harg : shape arg ≠ .long "config-path" (some path)) : "--config-path=" ++ path ≠ arg :=
  fun e ↦ harg (e ▸ shape_configPath_append path)

/-- **An option without a value is set** if it was set before the line or stands in it. A path does
not count, whatever it says. -/
theorem Gives.flags_iff {o o' : Options} {args : List String} (h : Gives o args o') :
    (o'.version = true ↔ o.version = true ∨ "--version" ∈ args) ∧
      (o'.once = true ↔ o.once = true ∨ "--once" ∈ args) := by
  induction h with
  | done o => simp
  | ended o => simp
  | version hfree rest ih => simpa using ih
  | once hfree rest ih => simpa using ih
  | pathBehind hnone hne hword rest ih =>
    have hversion := ne_of_word "--version" hword (by simp)
    have honce := ne_of_word "--once" hword (by simp)
    simpa [hversion, honce] using ih
  | @pathInside o o' path args hnone hne rest ih =>
    have hversion := configPath_append_ne path "--version" (by simp)
    have honce := configPath_append_ne path "--once" (by simp)
    simpa [hversion.symm, honce.symm] using ih

/-- **The path of the settings** is the one that was given before the line, or the one that stands
in it in either form. -/
theorem Gives.configPath_iff {o o' : Options} {args : List String} (h : Gives o args o')
    (path : String) : o'.configPath = some path ↔ o.configPath = some path ∨
      ["--config-path", path] <:+: args ∨ "--config-path=" ++ path ∈ args := by
  have hne : ∀ arg, shape arg ≠ .long "config-path" (some path) →
      "--config-path=" ++ path ≠ arg := configPath_append_ne path
  induction h with
  | done o => simp
  | ended o => simp [List.infix_cons_iff, hne "--" (by simp [shape])]
  | version hfree rest ih =>
    simpa [List.infix_cons_iff, hne "--version" (by simp)] using ih
  | once hfree rest ih =>
    simpa [List.infix_cons_iff, hne "--once" (by simp)] using ih
  | @pathBehind o o' given args hnone hempty hword rest ih =>
    have hinside : "--config-path=" ++ path ≠ given := hne given (by simp [hword])
    have hbehind := ne_of_word "--config-path" hword (by simp)
    have hself := hne "--config-path" (by simp)
    simpa [List.infix_cons_iff, hnone, hinside, hbehind, hself, eq_comm, or_assoc] using ih
  | @pathInside o o' given args hnone hempty rest ih =>
    have hbehind := configPath_append_ne given "--config-path" (by simp)
    simpa [List.infix_cons_iff, hnone, hbehind.symm, eq_comm, or_left_comm] using ih

end CommandLine

open CommandLine in
/-- **Which command lines are accepted**, and which options they give. -/
theorem Options.ofArgs_eq_ok_iff {args : List String} {o : Options} :
    Options.ofArgs args = .ok o ↔ Gives {} args o := by
  refine ⟨fun h ↦ ?_, fun h ↦ read_of_gives h rfl⟩
  obtain ⟨_, ⟨⟩, hgives⟩ := resumes_of_read h
  exact hgives

/-- A single hyphen is a path, and an argument behind a path may ask for a single pass. -/
example : Options.ofArgs ["--config-path", "-", "--once"] =
    .ok { configPath := some "-", once := true } := rfl

end DpuNetwork
