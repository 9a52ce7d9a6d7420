import DpuNetwork.Program.Shell.Builtin
import DpuNetwork.Program.Shell.Reader

/-!
# Running scripts

A script is run by an `Act`: it works on a `State`, may leave the commands behind it with a
`Flow`, and gives nothing if it does not end. Scripts need not end, so every call has a bound on the
number of nested calls, and a call that uses it up gives nothing either. A larger bound gives
nothing else than a smaller one that was enough.

What runs on a state of its own (a substitution, a subshell, a part of a pipe, a turn of a loop) is
run by `Act.inner`, which tells how it ended without leaving anything itself.
-/

namespace DpuNetwork.Program.Shell

open Text

/-- Something that a shell does. -/
abbrev Act (α : Type) := ExceptT Flow (StateT State Option) α

namespace Act

variable {α : Type}

/-- What does not end. -/
def endless : Act α := fun _ ↦ none

/-- Does something in another state, and tells how that ends and in which state. -/
def inner (x : Act α) (st : State) : Act (Except Flow α × State) := fun st' ↦
  (x st).map fun r ↦ (.ok r, st')

/-- Goes on as something else has ended. -/
def resume (r : Except Flow α) : Act α := fun st ↦ some (r, st)

/-- Waits for a result. -/
def await (x : Option α) : Act α := fun st ↦ x.map fun a ↦ (.ok a, st)

/-- Leaves the script if the last command has failed in a strict shell, unless its failure is
`checked`. -/
def leaveIfFailed (checked : Bool) : Act Unit := do
  let st ← get
  if st.strict && !checked && st.status != 0 then throw .exit

end Act

open Act

/-- The text of bytes that a script has written, without the line ends at its end. -/
def substitutionText (reversed : List UInt8) : List Char :=
  (Utf8.decode (reversed.dropWhile (· == 10)).reverse).toList

/-- How a loop goes on behind a turn, unless with the next one. -/
def afterTurn : Except Flow Unit → Option (Except Flow Unit)
  | .ok () | .error (.again 0) | .error (.again 1) => none
  | .error (.leave k) => some (if k ≤ 1 then .ok () else .error (.leave (k - 1)))
  | .error (.again (k + 1)) => some (.error (.again k))
  | .error flow => some (.error flow)

/-- The script that the arguments of a shell name, with the state that it begins in. -/
def opening (st : State) : List (List Char) → List Char × State
  | ('-' :: option) :: r =>
    let st := { st with strict := option.contains 'e' }
    match option.contains 'c', r with
    | true, s :: name :: args => (s, { st with name, args })
    | true, [s] => (s, st)
    | true, [] => refused "-c requires an argument"
    | false, ['-', 'c'] :: s :: _ => (s, st)
    | false, _ => ([], st)
  | [] => ((Utf8.decode st.input).toList, { st with input := [] })
  | file :: _ => refused ("cannot open " ++ String.ofList file ++ ": No such file")
where
  /-- What a shell does that cannot begin. -/
  refused (text : String) : List Char × State :=
    ("exit 2".toList, { st with errors := (line ("sh: 0: " ++ text)).reverse })

/-- What a shell has come to. -/
def ended (r : Except Flow Unit × State) : Finished where
  output := r.2.output.reverse
  errors := r.2.errors.reverse
  ending := match r.1 with
    | .error (.killed k) => .killed k
    | _ => .exited r.2.status

/-- What is still to be done when a shell ends, if a signal has not ended it. -/
def lastAction? : Except Flow Unit × State → Option (List Char)
  | (.error (.killed _), _) => none
  | (_, st) => st.traps.get? 0

mutual

/-- Adds to fields what a piece of a word gives. -/
def piece : Nat → Streams → Fields → Piece → Act Fields
  | 0, _, _, _ => endless
  | n + 1, streams, f, p => do
    let st ← get
    match p with
    | .text s => return f.add s
    | .parameter name isQuoted => return f.addParameter st isQuoted name
    | .arithmetic e isQuoted =>
      match Arithmetic.evaluate st.number (st.substituted e.length e) with
      | some k =>
        return f.expand isQuoted ((if k < 0 then ['-'] else []) ++ numeral k.natAbs)
      | none =>
        set (st.report streams 2 "arithmetic expression: expecting primary")
        throw .exit
    | .substitution s isQuoted =>
      let (r, st') ← inner (source n { streams with output := .output } s) { st with output := [] }
      match r with
      | .error (.killed k) =>
        set { st' with output := st.output }
        throw (.killed k)
      | _ =>
        set { st with input := st'.input, errors := st'.errors, status := st'.status }
        return f.expand isQuoted (substitutionText st'.output)

/-- Adds to fields what the pieces of a word give. -/
def fields : Nat → Streams → Fields → Word → Act Fields
  | 0, _, _, _ => endless
  | _, _, f, [] => return f
  | n + 1, streams, f, p :: w => do
    let f ← piece n streams f p
    fields n streams f w

/-- The fields that words give, behind those that are there. -/
def allFields : Nat → Streams → List (List Char) → List Word → Act (List (List Char))
  | 0, _, _, _ => endless
  | _, _, acc, [] => return acc
  | n + 1, streams, acc, w :: ws => do
    let f ← fields n streams {} w
    allFields n streams (acc ++ f.toList) ws

/-- Sets variables one after the other. -/
def assign : Nat → Streams → List (List Char × Word) → Act Unit
  | 0, _, _ => endless
  | _, _, [] => return
  | n + 1, streams, (name, w) :: r => do
    let f ← fields n streams {} (w.map Piece.quoted)
    modify fun st ↦ { st with bindings := st.bindings.insert name (join ' ' f.toList) }
    assign n streams r

/-- Runs the text of a script. -/
def source : Nat → Streams → List Char → Act Unit
  | 0, _, _ => endless
  | n + 1, streams, s =>
    match parse s with
    | .ok script => run n streams false script
    | .error f => do
      modify (State.report streams 2 f.message)
      throw .exit

/-- Sends the shell a signal. -/
def receive : Nat → Streams → Nat → Act Unit
  | 0, _, _ => endless
  | n + 1, streams, k => do
    let st ← get
    if k = sigkill then throw (.killed k)
    else match st.traps.get? k with
      | some [] => return
      | some action =>
        source n streams action
        modify fun st' ↦ { st' with status := st.status }
      | none =>
        if isHarmless k then return
        else if holds k then endless
        else throw (.killed k)

/-- Runs a program outside the shell; a report that it cannot be run begins with its origin. -/
def external : Nat → Streams → String → String → List (List Char) → Act Unit
  | 0, _, _, _, _ => endless
  | n + 1, streams, origin, name, args => do
    let st ← get
    if isShell (programName name) then
      let f ← await (shell n
        { bindings := .ofList st.environment, exported := st.exported, input := st.input } args)
      let st := { (st.write streams.output f.output).write streams.errors f.errors with
        input := [] }
      match f.ending with
      | .exited k => set { st with status := k }
      | .killed k => set { st.write .errors (signalReport k) with status := 128 + k.toUInt8 }
    else match program? (programName name) st.input args with
      | some e =>
        let st := st.after streams e
        set (if programName name == "cat" then { st with input := [] } else st)
      | none =>
        if name.toList.contains '/' && knownPlace? name.toList != none then
          set (st.report streams 126 (origin ++ name ++ ": Permission denied"))
        else set (st.report streams 127 (origin ++ name ++ ": not found"))

/-- Runs a command by its name. -/
def call : Nat → Streams → String → List (List Char) → Act Unit
  | 0, _, _, _ => endless
  | n + 1, streams, name, args => do
    let st ← get
    match builtin? streams name args st with
    | some (r, st) =>
      set st
      resume r
    | none => match Runner.ofName? name with
      | some .eval =>
        set { st with status := 0 }
        source n streams (join ' ' args)
      | some .exec => match args with
        | [] => set { st with status := 0 }
        | name :: r =>
          external n streams "exec: " (String.ofList name) r
          throw .exit
      | some .kill => match killArgs? args with
        | some (k, receivers) =>
          if receivers.all (· == State.processNumber) then
            set { st with status := 0 }
            receive n streams k
          else set (st.report streams 1 "kill: No such process\n")
        | none =>
          let option := ((args.headD []).drop 1).take 1
          set (st.report streams 2 ("kill: Illegal option -" ++ String.ofList option))
      | none => external n streams "" name args

/-- Redirects streams one after the other, unless a file cannot be read. -/
def redirect : Nat → Streams → List Redirection → Act (Option Streams)
  | 0, _, _ => endless
  | _, streams, [] => return some streams
  | n + 1, streams, r :: rs =>
    match r.target with
    | .stream k => redirect n (((streams.sink k).map (streams.lead r.stream)).getD streams) rs
    | .write _ => redirect n (streams.lead r.stream .nowhere) rs
    | .read w => do
      let f ← fields n streams {} w
      let file := String.ofList (join ' ' f.toList)
      if file = "/dev/null" then
        modify fun st ↦ { st with input := [] }
        redirect n streams rs
      else
        modify (State.report streams 2 ("cannot open " ++ file ++ ": No such file"))
        return none

/-- Runs a script. A failure that is `checked` does not end a strict shell. -/
def run : Nat → Streams → Bool → Script → Act Unit
  | 0, _, _, _ => endless
  | n + 1, streams, checked, s =>
    match s with
    | .empty => return
    | .simple assignments words => do
      let fs ← allFields n streams [] words
      modify fun st ↦ if fs.isEmpty then { st with status := 0 } else st
      let before ← get
      assign n streams assignments
      match fs with
      | [] => leaveIfFailed checked
      | name :: args =>
        let names := assignments.map Prod.fst
        modify fun st ↦ { st with exported := st.exported ++ names }
        call n streams (String.ofList name) args
        modify fun st ↦ if names.isEmpty then st
          else { st with bindings := before.bindings, exported := before.exported }
        leaveIfFailed checked
    | .redirected s rs => do
      let before ← get
      match ← redirect n streams rs with
      | none => return
      | some streams =>
        let st ← get
        let (r, st') ← inner (run n streams checked s) st
        set (if st.input.length < before.input.length then { st' with input := before.input }
          else st')
        resume r
    | .sequence a b => do
      run n streams checked a
      run n streams checked b
    | .conjunction a b => do
      run n streams true a
      let st ← get
      if st.status = 0 then run n streams checked b
    | .disjunction a b => do
      run n streams true a
      let st ← get
      if st.status = 0 then return else run n streams checked b
    | .negation a => do
      run n streams true a
      modify fun st ↦ { st with status := if st.status = 0 then 1 else 0 }
    | .pipe a b => do
      let st ← get
      let (r, st') ← inner (run n { streams with output := .output } checked a)
        { st with output := [] }
      match r with
      | .error (.killed k) =>
        set { st' with output := st.output }
        throw (.killed k)
      | _ =>
        let (r, st'') ← inner (inside n streams checked b)
          { st with input := st'.output.reverse, errors := st'.errors }
        set { st'' with input := st'.input }
        resume r
    | .loop negated condition body => do
      run n streams true condition
      let st ← get
      if (st.status = 0) = negated then set { st with status := 0 }
      else
        let (r, st') ← inner (run n streams checked body) { st with loops := st.loops + 1 }
        set { st' with loops := st.loops }
        match afterTurn r with
        | none => run n streams checked s
        | some r => resume r
    | .branch condition yes no => do
      run n streams true condition
      let st ← get
      if st.status = 0 then run n streams checked yes
      else
        set { st with status := 0 }
        run n streams checked no
    | .each name items body => do
      let st ← get
      let fs ← match items with
        | some ws => allFields n streams [] ws
        | none => pure st.args
      modify fun st ↦ { st with status := 0 }
      turns n streams checked name fs body
    | .subshell a => inside n streams checked a

/-- Runs a body once for each item. -/
def turns : Nat → Streams → Bool → List Char → List (List Char) → Script → Act Unit
  | 0, _, _, _, _, _ => endless
  | _, _, _, _, [], _ => return
  | n + 1, streams, checked, name, item :: items, body => do
    let st ← get
    let (r, st') ← inner (run n streams checked body)
      { st with bindings := st.bindings.insert name item, loops := st.loops + 1 }
    set { st' with loops := st.loops }
    match afterTurn r with
    | none => turns n streams checked name items body
    | some r => resume r

/-- Runs a script so that only what it writes, its input and its exit code remain. -/
def inside : Nat → Streams → Bool → Script → Act Unit
  | 0, _, _, _ => endless
  | n + 1, streams, checked, s => do
    let st ← get
    let (r, st') ← inner (run n streams checked s) st
    set { st with
      status := st'.status, input := st'.input, output := st'.output, errors := st'.errors }
    match r with
    | .error (.killed k) => throw (.killed k)
    | _ => leaveIfFailed checked

/-- A shell with its arguments, from its first state. -/
def shell : Nat → State → List (List Char) → Option Finished
  | 0, _, _ => none
  | n + 1, st, args =>
    (source n {} (opening st args).1 (opening st args).2).bind fun r ↦
      match lastAction? r with
      | none => some (ended r)
      | some action => (source n {} action r.2).map fun r' ↦
        match r'.1 with
        | .error .exit => ended r'
        | _ => ended (r'.1, { r'.2 with status := r.2.status })

end

end DpuNetwork.Program.Shell
