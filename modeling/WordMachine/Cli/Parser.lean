import WordMachine.Cli.Failure
import WordMachine.Text.Similarity
import WordMachine.Text.Integer

/-!
# Reading a command line

The words are read left to right against one command at a time. A word that names a
subcommand hands the rest of the words to it; `--` makes every later word a positional value;
`--name[=value]` and `-abc` name switches and options (the first option of a cluster takes the
rest of the cluster as its value); any other word is the value of the option before it, or the
next positional value. A value is only checked when its parameter is complete, that is, when
the next parameter starts or the words run out, so that mistakes are reported in the order a
reader meets them.

After its words, each command (innermost first) adds the defaults of what was not given and
checks the whole: something was given at all, a required subcommand is there, no two members of
a group were given, every required parameter was. `parse` answers with the commands on the path
and what was found for each, or with a `Halt`: a page to print or a refusal.
-/

namespace WordMachine.Cli

/-- Where a value came from. -/
inductive Origin where
  | byDefault
  | commandLine
  deriving DecidableEq, Repr

/-- What was found for one parameter or group. -/
structure Found where
  id : String
  values : List String
  origin : Origin
  deriving DecidableEq, Repr

/-- The values collected for a parameter whose occurrence is not complete yet. -/
structure Pending where
  id : String
  values : List String
  deriving DecidableEq, Repr

/-- What has been read of one command's words. -/
structure Matches where
  /-- Parameters and groups found, in the order they were first met. -/
  found : List Found := []
  pending : Option Pending := none
  /-- The option whose value the next word is. -/
  awaiting : Option String := none
  /-- The index of the next positional parameter. -/
  position : Nat := 0
  /-- A `--` was read: every later word is a positional value. -/
  escaped : Bool := false
  deriving DecidableEq, Repr

/-- Why reading stops short of an invocation. -/
inductive Halt where
  /-- A help page asked for, printed on the output stream. -/
  | help (page : String)
  /-- The version asked for, printed on the output stream. -/
  | version (text : String)
  /-- A help page shown because nothing was given, printed as an error. -/
  | helpAsError (page : String)
  /-- A refused command line. -/
  | refuse (r : Refusal)
  deriving DecidableEq, Repr

namespace Matches

/-- Whether something was found for an identifier. -/
def has (m : Matches) (id : String) : Bool := m.found.any (·.id == id)

/-- What was found for an identifier. -/
def lookup (m : Matches) (id : String) : Option Found := m.found.find? (·.id == id)

/-- Forgets an identifier. -/
def remove (m : Matches) (id : String) : Matches := { m with found := m.found.filter (·.id != id) }

/-- The identifiers given on the command line, in order. -/
def explicitIds (m : Matches) : List String :=
  (m.found.filter (·.origin == .commandLine)).map (·.id)

/-- Records an identifier, keeping its place if already found; the command line wins over a
default as the origin. -/
def touch (m : Matches) (id : String) (origin : Origin) : Matches :=
  if m.has id then
    { m with found := m.found.map fun f =>
        if f.id == id then
          { f with origin := if f.origin == .commandLine then .commandLine else origin }
        else f }
  else { m with found := m.found ++ [⟨id, [], origin⟩] }

/-- Records a parameter and its group. -/
def start (m : Matches) (p : Param) (origin : Origin) : Matches :=
  let m := m.touch p.id origin
  match p.group with
  | some g => m.touch g origin
  | none => m

/-- Adds a value to a parameter and to its group. -/
def addValue (m : Matches) (p : Param) (v : String) : Matches :=
  let ids := p.id :: p.group.toList
  { m with found := m.found.map fun f =>
      if ids.contains f.id then { f with values := f.values ++ [v] } else f }

end Matches

/-- A refusal by a command, with the command's way to ask for help. -/
def Command.refusal (c : Command) (f : Failure) (tips : List String) (usage : Option String) :
    Halt :=
  .refuse { failure := f, tips := tips, usage := usage, helpHint := c.helpHint }

/-- Whether a command has positional parameters. -/
def Command.hasPositionals (c : Command) : Bool := !c.positionals.isEmpty

/-- What is wrong with a value, if anything. -/
def Param.checkValue (p : Param) (v : String) : Option Failure :=
  match p.kind with
  | .text => none
  | .ranged lo hi =>
    match Text.readInt64 v with
    | .error e => some (.badValue p.render v e.message)
    | .ok n =>
      if lo ≤ n ∧ n ≤ hi then none
      else some (.badValue p.render v (toString n ++ " is not in " ++ toString lo ++ "..=" ++ toString hi))
  | .natural =>
    match Text.readUInt64 v with
    | .error e => some (.badValue p.render v e.message)
    | .ok _ => none
  | .choice names =>
    if names.contains v then none
    else some (.invalidValue p.render v names (Text.similarTo v names).getLast?)

/-- The possible values of a parameter with a fixed set of them. -/
def Param.possibleValues (p : Param) : List String :=
  match p.kind with
  | .choice names => names
  | _ => []

namespace Parse

/-- Adds values one by one, stopping at the first that does not check. -/
def pushValues (c : Command) (p : Param) : Matches → List String → Matches × Option Halt
  | m, [] => (m, none)
  | m, v :: vs =>
    match p.checkValue v with
    | some f => (m, some (c.refusal f [] none))
    | none => pushValues c p (m.addValue p v) vs

/-- One complete occurrence of a parameter with its values. On failure the matches are as far
as the occurrence got. -/
def occur (c : Command) (m : Matches) (p : Param) (origin : Origin) (values : List String) :
    Matches × Option Halt :=
  if p.action == .value && values.isEmpty then
    (m, some (c.refusal (.emptyValue p.render p.possibleValues) [] none))
  else match p.action with
    | .help => (m, some (.help c.helpPage))
    | .version => (m, some (.version c.versionText))
    | .flag =>
      if m.has p.id then (m.remove p.id, some (c.refusal (.repeated p.render) [] (some c.helpUsage)))
      else pushValues c p (m.start p origin) (if values.isEmpty then ["true"] else values)
    | .counter =>
      let previous := (((m.lookup p.id).bind fun f => f.values.head?).bind String.toNat?).getD 0
      let values := if values.isEmpty then [toString (min 255 (previous + 1))] else values
      pushValues c p ((m.remove p.id).start p origin) values
    | .value =>
      if m.has p.id then (m.remove p.id, some (c.refusal (.repeated p.render) [] (some c.helpUsage)))
      else pushValues c p (m.start p origin) values
    | .values => pushValues c p (m.start p origin) values

/-- Completes the pending occurrence, if any. -/
def resolvePending (c : Command) (m : Matches) : Matches × Option Halt :=
  match m.pending with
  | none => (m, none)
  | some pd =>
    let m := { m with pending := none }
    match c.find pd.id with
    | some p => occur c m p .commandLine pd.values
    | none => (m, none)

/-- An occurrence read from the command line, after completing the pending one. -/
def react (c : Command) (m : Matches) (p : Param) (values : List String) : Except Halt Matches :=
  match resolvePending c m with
  | (_, some h) => .error h
  | (m, none) =>
    match occur c m p .commandLine values with
    | (_, some h) => .error h
    | (m, none) => .ok { m with awaiting := none }

/-- Starts an option whose value is the next word. -/
def await (c : Command) (m : Matches) (p : Param) : Except Halt Matches :=
  match resolvePending c m with
  | (_, some h) => .error h
  | (m, none) => .ok { m with pending := some ⟨p.id, []⟩, awaiting := some p.id }

/-- The identifiers given on the command line, without the required parameters. -/
def givenIds (c : Command) (m : Matches) : List String :=
  m.explicitIds.filter fun i => match c.find i with
    | some p => !p.required
    | none => true

/-- The first index of a word in a list. -/
def indexOf? (w : String) : List String → Option Nat
  | [] => none
  | x :: xs => if x == w then some 0 else (indexOf? w xs).map (· + 1)

/-- The first element of least rank. -/
def firstLeast (xs : List (Nat × String)) : Option String :=
  (xs.foldl (fun best x => match best with
    | none => some x
    | some b => if x.1 < b.1 then some x else some b) none).map Prod.snd

/-- The refusal of an unknown `--name`: a similar long name of this command if there is one,
else a similar long name of a subcommand that appears later on the command line. The usage
line names the suggested parameter itself, not its group. -/
def unknownLong (c : Command) (m : Matches) (name : String) (rest : List String) : Halt :=
  let arg := "--" ++ name
  match (Text.similarTo name (c.params.filterMap Param.long)).getLast? with
  | some cand =>
    let m := match c.findLong cand with
      | some p => m.touch p.id .commandLine
      | none => m
    c.refusal (.unknownArgument arg (some ("--" ++ cand))) [] (some (c.usageFor (givenIds c m)))
  | none =>
    let elsewhere := firstLeast (c.subcommands.filterMap fun s =>
      match (Text.similarTo name (s.params.filterMap Param.long)).getLast?, indexOf? s.name rest with
      | some cand, some i => some (i, "'" ++ s.name ++ " --" ++ cand ++ "' exists")
      | _, _ => none)
    let tips := match elsewhere with
      | some t => [t]
      | none =>
        if !m.escaped && c.hasPositionals then ["to pass '" ++ arg ++ "' as a value, use '-- " ++ arg ++ "'"]
        else []
    c.refusal (.unknownArgument arg none) tips (some (c.usageFor (givenIds c m)))

/-- Splits `name=value` at the first `=`. -/
def splitValue (body : String) : String × Option String :=
  match body.toList.span (· != '=') with
  | (name, []) => (String.ofList name, none)
  | (name, _ :: value) => (String.ofList name, some (String.ofList value))

/-- A word `--name` or `--name=value`. -/
def longWord (c : Command) (m : Matches) (body : String) (rest : List String) :
    Except Halt Matches :=
  let (name, value) := splitValue body
  match c.findLong name with
  | some p =>
    if p.takesValue then
      match value with
      | some v => react c m p [v]
      | none => await c m p
    else match value with
      | some v =>
        .error (c.refusal (.unexpectedValue v p.render) [] (some (c.usageFor (givenIds c m ++ [p.id]))))
      | none => react c m p []
  | none => .error (unknownLong c (resolvePending c m).1 name rest)

/-- A cluster of short names `-abc`; an option in it takes the rest as its value. -/
def shortCluster (c : Command) : Matches → List Char → Except Halt Matches
  | m, [] => .ok { m with awaiting := none }
  | m, ch :: more =>
    match c.findShort ch with
    | some p =>
      if !p.takesValue then
        match react c m p [] with
        | .error h => .error h
        | .ok m => shortCluster c m more
      else match more with
        | [] => await c m p
        | '=' :: v => react c m p [String.ofList v]
        | v => react c m p [String.ofList v]
    | none =>
      let m := (resolvePending c m).1
      let arg := "-" ++ ch.toString
      let tips := if !m.escaped && c.hasPositionals then
          ["to pass '" ++ arg ++ "' as a value, use '-- " ++ arg ++ "'"]
        else []
      .error (c.refusal (.unknownArgument arg none) tips (some c.helpUsage))

/-- Whether a word is written like a long name. -/
def isLongWord (w : String) : Bool := w.startsWith "--" && w.length > 2

/-- Whether a word is written like a cluster of short names. -/
def isShortWord (w : String) : Bool := w.startsWith "-" && !w.startsWith "--" && w.length > 1

/-- The refusal of a word that has no place. -/
def unplaced (c : Command) (m : Matches) (w : String) : Halt :=
  if m.escaped && (c.findSub w).isSome then
    c.refusal (.unknownArgument w none)
      ["subcommand '" ++ w ++ "' exists; to use it, remove the '--' before it"] (some c.helpUsage)
  else
    let trailing := !m.escaped && c.hasPositionals && (isLongWord w || isShortWord w)
    let similar := Text.similarTo w (c.subcommands.map (·.name))
    if !similar.isEmpty then
      let tips := if trailing then
          ["to pass '" ++ w ++ "' as a value, use '" ++ c.binName ++ " -- " ++ w ++ "'"]
        else []
      c.refusal (.unknownSubcommand w similar) tips (some c.helpUsage)
    else if !c.subcommands.isEmpty && !c.hasPositionals then
      c.refusal (.unknownSubcommand w []) [] (some c.helpUsage)
    else
      let tips := if trailing then ["to pass '" ++ w ++ "' as a value, use '-- " ++ w ++ "'"] else []
      c.refusal (.unknownArgument w none) tips (some c.helpUsage)

/-- A positional value. -/
def positionalWord (c : Command) (m : Matches) (w : String) : Except Halt Matches :=
  match c.positionals[m.position]? with
  | some p =>
    match resolvePending c m with
    | (_, some h) => .error h
    | (m, none) =>
      .ok { m with
        pending := some ⟨p.id, [w]⟩
        position := if p.action == .values then m.position else m.position + 1
        awaiting := none }
  | none => .error (unplaced c (resolvePending c m).1 w)

/-- `help` followed by the names of nested subcommands: the help page of the last one. -/
def helpRequest (c : Command) : List String → Halt
  | [] => .help c.helpPage
  | w :: ws =>
    match c.findSub w with
    | some s => helpRequest s ws
    | none => c.refusal (.unknownSubcommand w []) [] (some c.helpUsage)

/-- How reading one command's words ends. -/
inductive Scan where
  /-- The words ran out. -/
  | done (m : Matches)
  /-- A subcommand takes the rest of the words. -/
  | enter (m : Matches) (sub : Command) (rest : List String)
  | halt (h : Halt)

/-- Reads one command's words. -/
def scanWords (c : Command) : Matches → List String → Scan
  | m, [] => .done m
  | m, w :: rest =>
    let next (r : Except Halt Matches) : Scan :=
      match r with
      | .error h => .halt h
      | .ok m => scanWords c m rest
    if m.escaped then next (positionalWord c m w)
    else match c.findSub w with
      | some sub =>
        if sub.name == "help" then .halt (helpRequest c rest) else .enter m sub rest
      | none =>
        if w == "--" then scanWords c { m with escaped := true } rest
        else if w.startsWith "--" then next (longWord c m (String.ofList (w.toList.drop 2)) rest)
        else if isShortWord w then next (shortCluster c m (w.toList.drop 1))
        else match m.awaiting with
          | some _ =>
            scanWords c { m with
              pending := m.pending.map fun pd => { pd with values := pd.values ++ [w] }
              awaiting := none } rest
          | none => next (positionalWord c m w)
termination_by _ ws => ws.length

/-- The defaults of the parameters not given. -/
def addDefaults (c : Command) (m : Matches) : Matches :=
  c.params.foldl (fun m p =>
    if m.has p.id then m
    else match p.implicitDefault with
      | some d => (m.start p .byDefault).addValue p d
      | none => m) m

/-- The members of the same group as a parameter. -/
def directConflicts (c : Command) (id : String) : List String :=
  match c.find id with
  | some p =>
    match p.group with
    | some g => ((c.groupMembers g).filter fun q => q.id != id).map Param.id
    | none => []
  | none => []

/-- The given identifiers that exclude a given parameter. -/
def conflictsOf (c : Command) (given : List String) (a : String) : List String :=
  given.flatMap fun o =>
    if o == a then []
    else (if (directConflicts c a).contains o then [o] else []) ++
      (if (directConflicts c o).contains a then [o] else [])

/-- The first parameter given with a parameter that excludes it, as a refusal. -/
def checkConflicts (c : Command) (given : List String) : List String → Option Halt
  | [] => none
  | a :: as =>
    match c.find a with
    | none => checkConflicts c given as
    | some p =>
      let others := conflictsOf c given a
      if others.isEmpty then checkConflicts c given as
      else
        let shown := dedup (others.filterMap fun o => (c.find o).map Param.render)
        let used := given.filter fun i => (c.find i).isSome && !others.contains i
        some (c.refusal (.conflict p.render shown) [] (some (c.usageFor used)))

/-- Checks a command's matches once its words are read. -/
def validate (c : Command) (m : Matches) (hasSub : Bool) : Option Halt :=
  let given := m.explicitIds
  if !hasSub && c.helpWhenEmpty && given.isEmpty then some (.helpAsError c.helpPage)
  else if !hasSub && c.subcommandRequired then
    some (c.refusal (.missingSubcommand c.binName (c.subcommands.map (·.name))) [] (some c.helpUsage))
  else match checkConflicts c given given with
    | some h => some h
    | none =>
      let missing := (c.params.filter Param.required).filter fun p => !given.contains p.id
      if missing.isEmpty then none
      else
        let shown := dedup ((missing.filter fun p => !p.isPositional).map fun p => p.renderAs true) ++
          (c.positionals.filter fun p => missing.any fun q => q.id == p.id).map fun p => p.renderAs true
        let used := (given.filter fun i => (c.find i).isSome) ++ missing.map Param.id
        some (c.refusal (.missingRequired shown) [] (some (c.usageFor used)))

/-- Completes a command's matches: the pending occurrence, the defaults, the checks. -/
def complete (c : Command) (m : Matches) (hasSub : Bool) : Except Halt Matches :=
  match resolvePending c m with
  | (_, some h) => .error h
  | (m, none) =>
    let m := addDefaults c m
    match validate c m hasSub with
    | some h => .error h
    | none => .ok m

/-- Reads the words against a command and the subcommands they select; `fuel` bounds the depth. -/
def levels : Nat → Command → List String → Except Halt (List (Command × Matches))
  | 0, _, _ => .ok []
  | fuel + 1, c, args =>
    match scanWords c {} args with
    | .halt h => .error h
    | .done m => (complete c m false).map fun m => [(c, m)]
    | .enter m sub rest =>
      match levels fuel sub rest with
      | .error h => .error h
      | .ok below => (complete c m true).map fun m => (c, m) :: below

end Parse

/-- The commands on the path selected by the words, root first, each with what was found. -/
def parse (c : Command) (args : List String) : Except Halt (List (Command × Matches)) :=
  Parse.levels (args.length + 1) c.prepare args

/-- The value of a global parameter: from the deepest command that has it from the command
line, else from the deepest one that has a default. -/
def globalValue (path : List (Command × Matches)) (id : String) : Option Found :=
  path.foldl (fun cur (_, m) =>
    match m.lookup id, cur with
    | some f, some g => if g.origin == .commandLine && f.origin == .byDefault then some g else some f
    | some f, none => some f
    | none, cur => cur) none

end WordMachine.Cli
