import Ip2unix.SockAddr

/-!
# Ip2unix — the `ip2unix` command

`main` of `ip2unix.cc`: it reads its options, loads the rules from the one source it was
given, and runs the program with the library preloaded and the rules in the environment.

What `main` calls outside `ip2unix.cc` is an input: `getopt_long` as the list of options it
returns (`Cli.Opt`), and the rule parser of `rules.hh`, `readlink` of `/proc/self/exe`, the
environment and the outcome of `execvpe` as a `Cli.Host`. What `main` writes is a list of
`Cli.Output`s, and it ends in an exit status or in the program it `execvpe`s.

* **`getoptLoop_eq`**: the option loop in closed form. Up to the first `-h`, `--version` or
  unknown option, which ends `main` there, `-c`, `-p` and `-v` accumulate, every `-r`
  argument is kept in order, and the last `-f` and the last `-F` win.
* **`parseRuleArgs_eq_some`**: the `-r` arguments are parsed one by one, numbered from `1`,
  and the rules are all of theirs, in order.
* **`main_cases`**: how `main` ends when it does not fail, the one case analysis of `main`
  that the results below start from.
* **`main_exec`**: what the program `main` runs gets. It runs only when no option ended the
  loop, `-c` was not given, and exactly one rule source was; it gets the arguments after the
  options, and the environment `main` started with but for `LD_PRELOAD`, `__IP2UNIX_RULES`
  and, when `-v` was given, `__IP2UNIX_VERBOSITY`.
* **`main_runs`**: and it does run the program when all of these hold and `readlink` and
  `execvpe` succeed.
* **`main_exit_success`**: `main` ends with `EXIT_SUCCESS` only for `-h`, `--version`, or
  `-c` with rules that load; once it tries to run the program it ends with `EXIT_FAILURE`.
-/

namespace Ip2unix

/-- `RuleDir` of `rules.hh`. -/
inductive RuleDir
  | incoming
  | outgoing
  deriving DecidableEq, Repr

/-- `Rule` of `rules.hh`, built without socket activation. `main` only passes rules on. -/
structure Rule where
  direction : Option RuleDir := none
  type : Option SocketType := none
  address : Option String := none
  port : Option UInt16 := none
  socketPath : Option String := none
  reject : Bool := false
  rejectErrno : Option Int := none
  blackhole : Bool := false
  deriving DecidableEq, Repr

namespace Cli

/-- `EXIT_SUCCESS`. -/
def exitSuccess : Nat := 0

/-- `EXIT_FAILURE`. -/
def exitFailure : Nat := 1

/-- What `getopt_long` returns for the option string `"+hcpr:f:F:v"` and `lopts`: one of the
options, or `'?'` (`other`) for an unknown option or a missing argument. The `+` stops the
options at the first argument that is not one, so that the rest is the program's. -/
inductive Opt
  | help
  | version
  | check
  | print
  | rule (arg : String)
  | rulesFile (arg : String)
  | rulesData (arg : String)
  | verbose
  | other
  deriving DecidableEq, Repr

/-- `stdout` and `stderr`, for the `FILE *` and the `std::ostream` `main` writes to. -/
inductive Stream
  | stdout
  | stderr
  deriving DecidableEq, Repr

/-- What `main` writes: `print_usage(prog, fp)`, `print_version()`, a text by `fprintf` or
`fputc`, `print_rules(rules, fp)`, and `perror(what)`. -/
inductive Output
  | usage (prog : String) (fp : Stream)
  | version
  | text (fp : Stream) (msg : String)
  | rules (rules : List Rule) (fp : Stream)
  | perror (what : String)
  deriving DecidableEq, Repr

/-- The process environment, as `getenv` reads it. -/
abbrev Env := String → Option String

/-- What `main` gets from outside `ip2unix.cc`: `parse_rules` and `parse_rule_arg`, which
return `none` after reporting an error, `encode_rules`, what `readlink` reads from
`/proc/self/exe` (`none` when it fails), the environment, and whether `execvpe` fails. -/
structure Host where
  parseRules : String → Bool → Option (List Rule)
  parseRuleArg : Nat → String → Option Rule
  encodeRules : List Rule → String
  exe : Option String
  environ : Env
  execFails : Bool

/-- A program `execvpe` runs in place of `ip2unix`. -/
structure Exec where
  file : String
  argv : List String
  env : Env

/-- How `main` ends: with an exit status, or replaced by the program it runs. -/
inductive Result
  | exit (status : Nat)
  | exec (e : Exec)

/-- The variables `main`'s option loop sets. -/
structure Options where
  checkOnly : Bool
  showRules : Bool
  verbosity : Nat
  rulefile : Option String
  ruledata : Option String
  ruleArgs : List String
  deriving DecidableEq, Repr

/-- Their values before the loop. -/
def Options.init : Options := ⟨false, false, 0, none, none, []⟩

/-- The `getopt_long` loop of `main`: the variables it sets, or what `main` writes and
returns from inside it. -/
def getoptLoop (self : String) (o : Options) : List Opt → Except (List Output × Nat) Options
  | [] => .ok o
  | .help :: _ => .error ([.usage self .stdout], exitSuccess)
  | .version :: _ => .error ([.version], exitSuccess)
  | .check :: opts => getoptLoop self { o with checkOnly := true } opts
  | .print :: opts => getoptLoop self { o with showRules := true } opts
  | .rule arg :: opts => getoptLoop self { o with ruleArgs := o.ruleArgs ++ [arg] } opts
  | .rulesFile arg :: opts => getoptLoop self { o with rulefile := some arg } opts
  | .rulesData arg :: opts => getoptLoop self { o with ruledata := some arg } opts
  | .verbose :: opts => getoptLoop self { o with verbosity := o.verbosity + 1 } opts
  | .other :: _ => .error ([.text .stderr "\n", .usage self .stderr], exitFailure)

/-- The loop over `rule_args`: each argument parsed by `parse_rule_arg(++rulepos, arg)`,
`none` at the first that does not parse. -/
def parseRuleArgs (h : Host) (rulepos : Nat) : List String → Option (List Rule)
  | [] => some []
  | arg :: args =>
    match h.parseRuleArg (rulepos + 1) arg with
    | none => none
    | some rule => (parseRuleArgs h (rulepos + 1) args).map (rule :: ·)

/-- The rules, from the `-r` arguments, the file of `-f` or the data of `-F`, in this order
of preference; on failure, what `main` writes before it returns `EXIT_FAILURE`. -/
def loadRules (h : Host) (self : String) (o : Options) : Except (List Output) (List Rule) :=
  if !o.ruleArgs.isEmpty then
    match parseRuleArgs h 0 o.ruleArgs with
    | some rules => .ok rules
    | none => .error []
  else match o.rulefile with
  | some file =>
    match h.parseRules file true with
    | some rules => .ok rules
    | none => .error []
  | none =>
    match o.ruledata with
    | some data =>
      match h.parseRules data false with
      | some rules => .ok rules
      | none => .error []
    | none =>
      .error [.text .stderr (self ++ ": You need to either specify a rule file with \x27-f\x27" ++
        " or \x27-F\x27 (for inline content) or directly specify" ++
        " rules via \x27-r\x27.\n\n"), .usage self .stderr]

/-- `run_preload`: put this program in front of `LD_PRELOAD`, hand the rules over in
`__IP2UNIX_RULES` and `execvpe` the program; it returns (`none`) only when something failed. -/
def runPreload (h : Host) (env : Env) (rules : List Rule) (file : String)
    (argv : List String) : List Output × Option Exec :=
  match h.exe with
  | none => ([.perror "readlink(\"/proc/self/exe\")"], none)
  | some self =>
    let env := match env "LD_PRELOAD" with
      | some preload =>
        if preload ≠ "" then Function.update env "LD_PRELOAD" (some (self ++ ":" ++ preload))
        else Function.update env "LD_PRELOAD" (some self)
      | none => Function.update env "LD_PRELOAD" (some self)
    let env := Function.update env "__IP2UNIX_RULES" (some (h.encodeRules rules))
    if h.execFails then ([.perror ("execvpe(\"" ++ file ++ "\")")], none)
    else ([], some ⟨file, argv, env⟩)

/-- `main`, given the name it was called by, what `getopt_long` returns and the arguments
after the options. -/
def main (h : Host) (self : String) (opts : List Opt) (args : List String) :
    List Output × Result :=
  match getoptLoop self Options.init opts with
  | .error (out, status) => (out, .exit status)
  | .ok o =>
    if !o.ruleArgs.isEmpty && (o.rulefile.isSome || o.ruledata.isSome) then
      ([.text .stderr (self ++ ": Can\x27t specify both direct rules and a rule" ++
        " file.\n\n"), .usage self .stderr], .exit exitFailure)
    else if o.rulefile.isSome && o.ruledata.isSome then
      ([.text .stderr (self ++ ": Can\x27t use a rule file path and inline rules" ++
        " at the same time.\n\n"), .usage self .stderr], .exit exitFailure)
    else
    match loadRules h self o with
    | .error out => (out, .exit exitFailure)
    | .ok rules =>
      let shown := if o.showRules then [Output.rules rules
        (if o.checkOnly then .stdout else .stderr)] else []
      if o.checkOnly then (shown, .exit exitSuccess) else
      match args with
      | [] => (shown ++ [.text .stderr (self ++ ": No program to execute specified.\n"),
          .usage self .stderr], .exit exitFailure)
      | file :: rest =>
        let env := if o.verbosity > 0 then
            Function.update h.environ "__IP2UNIX_VERBOSITY" (some (toString o.verbosity))
          else h.environ
        match runPreload h env rules file (file :: rest) with
        | (out, some e) => (shown ++ out, .exec e)
        | (out, none) => (shown ++ out, .exit exitFailure)

/-! ## The option loop

The loop reads options until the first one that makes `main` return; before that, each
option sets one variable. -/

/-- The options that make `main` return from inside the loop: `-h`, `--version` and `'?'`. -/
def Opt.ends : Opt → Bool
  | .help | .version | .other => true
  | _ => false

/-- The argument of a `-r`. -/
def Opt.ruleArg : Opt → Option String
  | .rule arg => some arg
  | _ => none

/-- The argument of a `-f`. -/
def Opt.fileArg : Opt → Option String
  | .rulesFile arg => some arg
  | _ => none

/-- The argument of a `-F`. -/
def Opt.dataArg : Opt → Option String
  | .rulesData arg => some arg
  | _ => none

private theorem or_some_eq_getD (x : Option String) (a : String) :
    x.or (some a) = some (x.getD a) := by
  cases x <;> rfl

/-- The option loop over options none of which ends it, in closed form. -/
theorem getoptLoop_eq (self : String) (o : Options) (opts : List Opt)
    (hopts : ∀ op ∈ opts, op.ends = false) :
    getoptLoop self o opts = .ok
      { checkOnly := o.checkOnly || opts.contains .check
        showRules := o.showRules || opts.contains .print
        verbosity := o.verbosity + opts.count .verbose
        rulefile := (opts.filterMap Opt.fileArg).getLast?.or o.rulefile
        ruledata := (opts.filterMap Opt.dataArg).getLast?.or o.ruledata
        ruleArgs := o.ruleArgs ++ opts.filterMap Opt.ruleArg } := by
  induction opts generalizing o with
  | nil => simp [getoptLoop, Option.or_none]
  | cons op opts ih =>
    have hrest := fun o => ih o (fun op' h' => hopts op' (List.mem_cons_of_mem _ h'))
    have hop := hopts op (List.mem_cons_self _ _)
    cases op <;> cases hop
    all_goals
      simp only [getoptLoop, hrest, List.count_cons, List.filterMap_cons,
        Opt.fileArg, Opt.dataArg, Opt.ruleArg, List.getLast?_cons, or_some_eq_getD]
      simp [Bool.or_comm, Bool.or_left_comm, Nat.add_assoc, Nat.add_comm, Nat.add_left_comm]

/-- The options a command line sets, read without the loop: `-c` and `-p` once given stay
set, `-v` counts, every `-r` argument is kept in order, and the last `-f` and `-F` win. -/
def Options.ofList (opts : List Opt) : Options where
  checkOnly := opts.contains .check
  showRules := opts.contains .print
  verbosity := opts.count .verbose
  rulefile := (opts.filterMap Opt.fileArg).getLast?
  ruledata := (opts.filterMap Opt.dataArg).getLast?
  ruleArgs := opts.filterMap Opt.ruleArg

theorem getoptLoop_init (self : String) (opts : List Opt) (hopts : ∀ op ∈ opts, op.ends = false) :
    getoptLoop self Options.init opts = .ok (Options.ofList opts) := by
  rw [getoptLoop_eq self _ opts hopts]
  simp [Options.init, Options.ofList, Option.or_none]

/-- Of two `-f` the last wins, and `-v` counts. -/
example : getoptLoop "ip2unix" Options.init [.rulesFile "a", .verbose, .rulesFile "b", .verbose] =
    .ok ⟨false, false, 2, some "b", none, []⟩ := rfl

/-- The loop returns its variables only when no option ended it. -/
theorem ends_of_getoptLoop_ok {self : String} {o o' : Options} {opts : List Opt}
    (h : getoptLoop self o opts = .ok o') : ∀ op ∈ opts, op.ends = false := by
  induction opts generalizing o with
  | nil => simp
  | cons op opts ih =>
    cases op
    all_goals first
      | cases h
      | exact List.forall_mem_cons.2 ⟨rfl, ih h⟩

/-- When the loop makes `main` return, it is at the first option that ends it. -/
theorem getoptLoop_eq_error {self : String} {o : Options} {opts : List Opt}
    {r : List Output × Nat} (h : getoptLoop self o opts = .error r) :
    ∃ pre op rest, (∀ op ∈ pre, op.ends = false) ∧ op.ends = true ∧
      opts = pre ++ op :: rest ∧ getoptLoop self Options.init [op] = .error r := by
  induction opts generalizing o with
  | nil => cases h
  | cons op opts ih =>
    cases op
    case help | version | other => refine ⟨[], _, opts, by simp, ?_, rfl, h⟩; rfl
    all_goals
      obtain ⟨pre, op, rest, hpre, hop, rfl, hr⟩ := ih h
      refine ⟨_ :: pre, op, rest, List.forall_mem_cons.2 ⟨?_, hpre⟩, hop, rfl, hr⟩; rfl

/-! ## The rules

`main` takes its rules from exactly one source; with none, or with `-r` next to `-f` or
`-F`, or with both `-f` and `-F`, it returns `EXIT_FAILURE`. -/

/-- **The `-r` arguments.** They are parsed in order, numbered from `rulepos + 1`, and give
one rule each. -/
theorem parseRuleArgs_eq_some (h : Host) (rulepos : Nat) (args : List String)
    (rules : List Rule) :
    parseRuleArgs h rulepos args = some rules ↔ rules.length = args.length ∧
      ∀ i (hi : i < args.length), h.parseRuleArg (rulepos + i + 1) args[i] = rules[i]? := by
  induction args generalizing rulepos rules with
  | nil => cases rules <;> simp [parseRuleArgs]
  | cons arg args ih =>
    simp only [parseRuleArgs]
    split
    · -- the first argument does not parse
      rename_i hnone
      refine ⟨fun h => (nomatch h), fun ⟨_, hall⟩ => ?_⟩
      have h0 := hall 0 (by simp)
      cases rules <;> simp_all
    · rename_i rule hrule
      cases rules with
      | nil => simp
      | cons rule' rules =>
        have hshift : ∀ i, rulepos + (i + 1) + 1 = rulepos + 1 + i + 1 := fun i => by omega
        simp only [Option.map_eq_some', List.cons.injEq, List.length_cons, Nat.add_right_cancel_iff]
        constructor
        · rintro ⟨rules'', hrest, rfl, rfl⟩
          obtain ⟨hlen, hall⟩ := (ih (rulepos + 1) rules'').1 hrest
          refine ⟨hlen, fun i hi => ?_⟩
          cases i with
          | zero => simpa using hrule
          | succ i => simpa [hshift] using hall i (by simpa using hi)
        · rintro ⟨hlen, hall⟩
          have h0 := hall 0 (by simp)
          simp only [Nat.add_zero, List.getElem_cons_zero, List.getElem?_cons_zero, hrule,
            Option.some.injEq] at h0
          refine ⟨rules, (ih (rulepos + 1) rules).2 ⟨hlen, fun i hi => ?_⟩, h0, rfl⟩
          simpa [hshift] using hall (i + 1) (by simp [hi])

/-- The sources of rules `main` reads from, by its usage text. -/
inductive Source
  | args (args : List String)
  | file (path : String)
  | data (text : String)
  deriving DecidableEq, Repr

/-- The one source the options name, `none` when they name none or several. -/
def Options.source (o : Options) : Option Source :=
  match o.ruleArgs, o.rulefile, o.ruledata with
  | arg :: args, none, none => some (.args (arg :: args))
  | [], some path, none => some (.file path)
  | [], none, some text => some (.data text)
  | _, _, _ => none

/-- Options that name one source pass both checks of `main`. -/
theorem Options.checks_of_source {o : Options} {src : Source} (h : o.source = some src) :
    (!o.ruleArgs.isEmpty && (o.rulefile.isSome || o.ruledata.isSome)) = false ∧
      (o.rulefile.isSome && o.ruledata.isSome) = false := by
  obtain ⟨c, p, v, file, data, args⟩ := o
  cases args <;> cases file <;> cases data <;> cases h <;> exact ⟨rfl, rfl⟩

/-- The rules a source holds, by the rule parser: `-r` arguments are numbered from `1`,
`parse_rules` reads a file when its flag is `true` and inline data otherwise. -/
def Source.Loads (h : Host) : Source → List Rule → Prop
  | .args ruleArgs, rules => rules.length = ruleArgs.length ∧
      ∀ i (hi : i < ruleArgs.length), h.parseRuleArg (i + 1) ruleArgs[i] = rules[i]?
  | .file path, rules => h.parseRules path true = some rules
  | .data text, rules => h.parseRules text false = some rules

instance (h : Host) (src : Source) (rules : List Rule) : Decidable (src.Loads h rules) :=
  match src with
  | .args ruleArgs => inferInstanceAs (Decidable (rules.length = ruleArgs.length ∧
      ∀ i (hi : i < ruleArgs.length), h.parseRuleArg (i + 1) ruleArgs[i] = rules[i]?))
  | .file path => inferInstanceAs (Decidable (h.parseRules path true = some rules))
  | .data text => inferInstanceAs (Decidable (h.parseRules text false = some rules))

/-- Past the two checks of `main`, `load` finds rules exactly in the one source named. -/
theorem loadRules_eq_ok (h : Host) (self : String) (o : Options)
    (hmix : (!o.ruleArgs.isEmpty && (o.rulefile.isSome || o.ruledata.isSome)) = false)
    (hboth : (o.rulefile.isSome && o.ruledata.isSome) = false) (rules : List Rule) :
    loadRules h self o = .ok rules ↔ ∃ src, o.source = some src ∧ src.Loads h rules := by
  obtain ⟨c, p, v, file, data, args⟩ := o
  cases args <;> cases file <;> cases data <;> simp at hmix hboth <;>
    simp only [loadRules, Options.source, List.isEmpty_nil, List.isEmpty_cons, Bool.not_true,
      Bool.not_false, Bool.false_eq_true, if_false, if_true, Option.some.injEq,
      exists_eq_left', Source.Loads]
  · simp
  · split <;> simp_all
  · split <;> simp_all
  · rename_i arg args
    have hargs := parseRuleArgs_eq_some h 0 (arg :: args) rules
    simp only [Nat.zero_add] at hargs
    rw [← hargs]
    split <;> simp_all

/-! ## What `main` does -/

/-- A host for the runs below: its parser knows the one rule argument `in,port=80`, this
program is `/usr/bin/ip2unix`, and the environment is empty. -/
def oneRuleHost : Host where
  parseRules _ _ := none
  parseRuleArg pos arg := if pos = 1 ∧ arg = "in,port=80" then some { port := some 80 } else none
  encodeRules _ := "in,port=80"
  exe := some "/usr/bin/ip2unix"
  environ _ := none
  execFails := false

/-- `run_preload` returns a program to run only when `readlink` and `execvpe` succeed; the
program gets the environment with this program in front of `LD_PRELOAD` and the encoded
rules in `__IP2UNIX_RULES`. -/
theorem runPreload_eq_some {h : Host} {env : Env} {rules : List Rule} {file : String}
    {argv : List String} {e : Exec} (hrun : (runPreload h env rules file argv).2 = some e) :
    ∃ exe, h.exe = some exe ∧ h.execFails = false ∧ e.file = file ∧ e.argv = argv ∧
      e.env = Function.update (Function.update env "LD_PRELOAD"
        (some (if (env "LD_PRELOAD").getD "" = "" then exe
          else exe ++ ":" ++ (env "LD_PRELOAD").getD "")))
        "__IP2UNIX_RULES" (some (h.encodeRules rules)) := by
  unfold runPreload at hrun
  split at hrun
  · cases hrun
  rename_i exe hexe
  have hfails : h.execFails = false := by
    cases hf : h.execFails <;> simp_all
  simp only [hfails, Bool.false_eq_true, if_false, Option.some.injEq] at hrun
  subst hrun
  refine ⟨exe, hexe, hfails, rfl, rfl, ?_⟩
  split <;> rename_i heq <;> simp only [heq, Option.getD_some, Option.getD_none]
  · split <;> simp_all
  · simp

/-- **How `main` ends**, when it does not end with `EXIT_FAILURE`: at the option that ended
its loop; or past both checks, with the rules of the one source the options name, either
with `EXIT_SUCCESS` for `-c` or as `run_preload` goes with the program to run. -/
theorem main_cases {h : Host} {self : String} {opts : List Opt} {args : List String}
    (hr : (main h self opts args).2 ≠ .exit exitFailure) :
    (∃ out status, getoptLoop self Options.init opts = .error (out, status) ∧
      (main h self opts args).2 = .exit status) ∨
    ((∀ op ∈ opts, op.ends = false) ∧ ∃ src rules, (Options.ofList opts).source = some src ∧
      src.Loads h rules ∧
      ((opts.contains .check = true ∧ (main h self opts args).2 = .exit exitSuccess) ∨
       (opts.contains .check = false ∧ ∃ file rest, args = file :: rest ∧
        (main h self opts args).2 =
          match (runPreload h (if (Options.ofList opts).verbosity > 0 then
              Function.update h.environ "__IP2UNIX_VERBOSITY"
                (some (toString (Options.ofList opts).verbosity)) else h.environ)
              rules file (file :: rest)).2 with
          | some e => .exec e
          | none => .exit exitFailure))) := by
  rcases hloop : getoptLoop self Options.init opts with ⟨out, status⟩ | o
  · exact .inl ⟨out, status, rfl, by simp only [main, hloop]⟩
  have hends := ends_of_getoptLoop_ok hloop
  rw [getoptLoop_init self opts hends, Except.ok.injEq] at hloop
  subst hloop
  have hmain := main.eq_1 h self opts args
  rw [getoptLoop_init self opts hends] at hmain
  dsimp only at hmain
  rw [hmain] at hr ⊢
  by_cases hmix : (!(Options.ofList opts).ruleArgs.isEmpty &&
      ((Options.ofList opts).rulefile.isSome || (Options.ofList opts).ruledata.isSome)) = true
  · rw [if_pos hmix] at hr; exact absurd rfl hr
  by_cases hboth : ((Options.ofList opts).rulefile.isSome &&
      (Options.ofList opts).ruledata.isSome) = true
  · rw [if_neg hmix, if_pos hboth] at hr; exact absurd rfl hr
  rw [if_neg hmix, if_neg hboth] at hr ⊢
  cases hload : loadRules h self (Options.ofList opts)
  · rw [hload] at hr; exact absurd rfl hr
  rename_i rules
  obtain ⟨src, hsrc, hloads⟩ := (loadRules_eq_ok h self _ (by simpa using hmix)
    (by simpa using hboth) rules).1 hload
  refine .inr ⟨hends, src, rules, hsrc, hloads, ?_⟩
  rw [hload] at hr
  dsimp only at hr ⊢
  by_cases hcheck : (Options.ofList opts).checkOnly = true
  · exact .inl ⟨hcheck, by rw [if_pos hcheck]⟩
  rw [if_neg hcheck] at hr ⊢
  rcases args with _ | ⟨file, rest⟩
  · exact absurd rfl hr
  refine .inr ⟨Bool.eq_false_iff.2 hcheck, file, rest, rfl, ?_⟩
  dsimp only
  split <;> rename_i hrun <;> rw [hrun]

/-- **What the program `main` runs gets.** `main` runs a program only when no option ended
its loop, `-c` was not given and the options name exactly one source of rules, whose rules
load. The program gets the arguments after the options, and the environment `main` started
with but for three variables: `LD_PRELOAD` with this program in front, `__IP2UNIX_RULES`
holding the encoded rules, and `__IP2UNIX_VERBOSITY` holding the number of `-v` when there
was one, inherited otherwise. -/
theorem main_exec {h : Host} {self : String} {opts : List Opt} {args : List String}
    {e : Exec} (hexec : (main h self opts args).2 = .exec e) :
    (∀ op ∈ opts, op.ends = false) ∧ opts.contains .check = false ∧
    ∃ src rules exe, (Options.ofList opts).source = some src ∧ src.Loads h rules ∧
      h.exe = some exe ∧ e.argv = args ∧ args.head? = some e.file ∧
      e.env "LD_PRELOAD" = some (if (h.environ "LD_PRELOAD").getD "" = "" then exe
        else exe ++ ":" ++ (h.environ "LD_PRELOAD").getD "") ∧
      e.env "__IP2UNIX_RULES" = some (h.encodeRules rules) ∧
      e.env "__IP2UNIX_VERBOSITY" = (if 0 < opts.count .verbose
        then some (toString (opts.count .verbose)) else h.environ "__IP2UNIX_VERBOSITY") ∧
      ∀ var, var ≠ "LD_PRELOAD" → var ≠ "__IP2UNIX_RULES" → var ≠ "__IP2UNIX_VERBOSITY" →
        e.env var = h.environ var := by
  rcases main_cases (fun h' => Result.noConfusion (hexec.symm.trans h')) with
    ⟨_, _, -, he⟩ | ⟨hends, src, rules, hsrc, hloads, ⟨-, he⟩ | ⟨hcheck, file, rest, rfl, he⟩⟩ <;>
    rw [he] at hexec
  · cases hexec
  · cases hexec
  split at hexec
  · rename_i e' hrun
    cases hexec
    obtain ⟨exe, hexe, -, hfile, hargv, henv⟩ := runPreload_eq_some hrun
    refine ⟨hends, hcheck, src, rules, exe, hsrc, hloads, hexe, hargv, by simp [hfile], ?_⟩
    rw [henv]
    refine ⟨?_, by simp, ?_, fun var h1 h2 h3 => ?_⟩
    · split <;> simp [Options.ofList, Function.update_apply]
    · by_cases hv : 0 < opts.count .verbose <;> simp [Options.ofList, hv, Function.update_apply]
    · split <;> simp [Function.update_apply, h1, h2, h3]
  · cases hexec

/-- `ip2unix -v -r in,port=80 nc -l` runs `nc -l` with one rule and verbosity `1`. -/
theorem main_exec_nc :
    let opts := [Opt.verbose, Opt.rule "in,port=80"]
    let args := ["nc", "-l"]
    let e : Exec := ⟨"nc", ["nc", "-l"], Function.update (Function.update
      (Function.update (fun _ => none) "__IP2UNIX_VERBOSITY" (some "1")) "LD_PRELOAD"
        (some "/usr/bin/ip2unix")) "__IP2UNIX_RULES" (some "in,port=80")⟩
    (main oneRuleHost "ip2unix" opts args).2 = .exec e ∧
    ((∀ op ∈ opts, op.ends = false) ∧ opts.contains .check = false ∧
    ∃ src rules exe, (Options.ofList opts).source = some src ∧ src.Loads oneRuleHost rules ∧
      oneRuleHost.exe = some exe ∧ e.argv = args ∧ args.head? = some e.file ∧
      e.env "LD_PRELOAD" = some (if (oneRuleHost.environ "LD_PRELOAD").getD "" = "" then exe
        else exe ++ ":" ++ (oneRuleHost.environ "LD_PRELOAD").getD "") ∧
      e.env "__IP2UNIX_RULES" = some (oneRuleHost.encodeRules rules) ∧
      e.env "__IP2UNIX_VERBOSITY" = (if 0 < opts.count .verbose
        then some (toString (opts.count .verbose))
        else oneRuleHost.environ "__IP2UNIX_VERBOSITY") ∧
      ∀ var, var ≠ "LD_PRELOAD" → var ≠ "__IP2UNIX_RULES" → var ≠ "__IP2UNIX_VERBOSITY" →
        e.env var = oneRuleHost.environ var) :=
  ⟨rfl, @main_exec oneRuleHost "ip2unix" _ _ _ rfl⟩

/-- **When `main` runs the program.** With no option that ends the loop, no `-c`, one source
of rules whose rules load, a program to run, and `readlink` and `execvpe` succeeding, `main`
runs the program. -/
theorem main_runs {h : Host} {self : String} {opts : List Opt} {file : String}
    {rest : List String} {src : Source} {rules : List Rule}
    (hends : ∀ op ∈ opts, op.ends = false) (hcheck : opts.contains .check = false)
    (hsrc : (Options.ofList opts).source = some src) (hloads : src.Loads h rules)
    (hexe : h.exe.isSome) (hexec : h.execFails = false) :
    ∃ e, (main h self opts (file :: rest)).2 = .exec e := by
  obtain ⟨exe, hexe⟩ := Option.isSome_iff_exists.1 hexe
  obtain ⟨hmix, hboth⟩ := Options.checks_of_source hsrc
  have hload := (loadRules_eq_ok h self _ hmix hboth rules).2 ⟨src, hsrc, hloads⟩
  rw [main, getoptLoop_init self opts hends]
  simp only [hmix, hboth, hload, Bool.false_eq_true, if_false]
  rw [if_neg (by simpa [Options.ofList] using hcheck)]
  simp [runPreload, hexe, hexec]

/-- `ip2unix -v -r in,port=80 nc -l` meets every condition, and runs. -/
theorem main_runs_nc :
    let opts := [Opt.verbose, Opt.rule "in,port=80"]
    (∀ op ∈ opts, op.ends = false) ∧ opts.contains .check = false ∧
    (Options.ofList opts).source = some (.args ["in,port=80"]) ∧
    (Source.args ["in,port=80"]).Loads oneRuleHost [{ port := some 80 }] ∧
    oneRuleHost.exe.isSome ∧ oneRuleHost.execFails = false ∧
    ∃ e, (main oneRuleHost "ip2unix" opts ["nc", "-l"]).2 = .exec e := by
  refine ⟨?hends, ?hcheck, ?hsrc, ?hloads, rfl, rfl,
    main_runs ?hends ?hcheck ?hsrc ?hloads rfl rfl⟩ <;> decide

/-- **`main` succeeds only without running anything.** It ends with `EXIT_SUCCESS` only at
a `-h` or `--version` that comes before any unknown option, or with `-c` and the rules of
the one source named loaded. -/
theorem main_exit_success {h : Host} {self : String} {opts : List Opt} {args : List String}
    (hs : (main h self opts args).2 = .exit exitSuccess) :
    (∃ pre rest, (∀ op ∈ pre, op.ends = false) ∧
      (opts = pre ++ .help :: rest ∨ opts = pre ++ .version :: rest)) ∨
    ((∀ op ∈ opts, op.ends = false) ∧ opts.contains .check = true ∧
      ∃ src rules, (Options.ofList opts).source = some src ∧ src.Loads h rules) := by
  rcases main_cases (fun h' => absurd (hs.symm.trans h') (by simp [exitSuccess, exitFailure]))
    with ⟨out, status, hloop, he⟩ | ⟨hends, src, rules, hsrc, hloads, ⟨hcheck, -⟩ | ⟨-, file, rest, -, he⟩⟩
  · -- an option ended the loop
    rw [he] at hs
    cases hs
    obtain ⟨pre, op, rest, hpre, hop, rfl, hr⟩ := getoptLoop_eq_error hloop
    refine .inl ⟨pre, rest, hpre, ?_⟩
    cases op
    case help => exact .inl rfl
    case version => exact .inr rfl
    case other => simp [getoptLoop, exitFailure, exitSuccess] at hr
    all_goals cases hop
  · exact .inr ⟨hends, hcheck, src, rules, hsrc, hloads⟩
  · rw [he] at hs
    split at hs <;> cases hs

/-- `ip2unix -c -r in,port=80` checks the rule and ends with `EXIT_SUCCESS`. -/
theorem main_check_only :
    let opts := [Opt.check, Opt.rule "in,port=80"]
    (main oneRuleHost "ip2unix" opts []).2 = .exit exitSuccess ∧
    ((∃ pre rest, (∀ op ∈ pre, op.ends = false) ∧
      (opts = pre ++ .help :: rest ∨ opts = pre ++ .version :: rest)) ∨
    ((∀ op ∈ opts, op.ends = false) ∧ opts.contains .check = true ∧
      ∃ src rules, (Options.ofList opts).source = some src ∧ src.Loads oneRuleHost rules)) :=
  ⟨rfl, @main_exit_success oneRuleHost "ip2unix" _ [] rfl⟩

end Cli

end Ip2unix
