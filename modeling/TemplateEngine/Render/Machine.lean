import TemplateEngine.Render.Environment
import TemplateEngine.Render.Query
import TemplateEngine.Render.View

/-!
# Running programs

A machine runs a program instruction by instruction.  It holds the position of
the next instruction, the open iterations, the variables and the output so far.
What outlives a run, such as the cells of the host and the cache, is the world
around it.

A condition that does not hold goes on at the next branch of its construct, and
that branch is tested or entered only because it was reached in this way;
reached from the end of the branch before it, it leaves the construct.

An included template runs on a machine of its own, with the variables as they
are and the parameters of the inclusion, but without the open iterations.  Its
assignments do not come back, except those to cells.

Every run takes at most a number of steps; `none` says that they were not
enough.  A program that was compiled never needs more than it has, given enough
of them, but one written by hand may go back and forth without end.
-/

namespace TemplateEngine

/-- What outlives the run of a program. -/
structure World where
  heap : Heap
  store : Store
  /-- The paths of the templates that were included at most once. -/
  included : List PathKey := []

structure Machine where
  position : Nat := 0
  /-- Whether the position was reached because a condition did not hold. -/
  untaken : Bool := false
  /-- The open iterations, innermost first. -/
  frames : List Frame := []
  vars : Table Binding
  output : String := ""

/-- The outcome of a part of a run: none if the steps were not enough, and
otherwise a result or an error, and the world it leaves behind. -/
abbrev Outcome (α : Type) := Option (Except Error α × World)

/-- Runs a program with given variables. -/
abbrev Runner := Program → Table Binding → World → Outcome Machine

/-- What does not change while templates are rendered. -/
structure Scene where
  environment : Environment
  constants : Table Value
  blocks : Blocks

namespace Machine

/-- What expressions read at this point. -/
def view (scene : Scene) (machine : Machine) (world : World) : View where
  filters := scene.environment.filters
  constants := scene.constants
  blocks := scene.blocks
  vars := machine.vars
  heap := world.heap
  frames := machine.frames

def goto (machine : Machine) (position : Nat) : Machine :=
  { machine with position, untaken := false }

/-- Goes on at the next instruction. -/
def advance (machine : Machine) : Machine :=
  machine.goto (machine.position + 1)

/-- Goes on at the next branch of a condition. -/
def skipTo (machine : Machine) (position : Nat) : Machine :=
  { machine with position, untaken := true }

def write (machine : Machine) (text : String) : Machine :=
  { machine with output := machine.output ++ text }

/-- Moves an iteration that is innermost to its next row, and tells whether
there is one.  An iteration without a further row is closed. -/
def nextRow (machine : Machine) (id : Nat) : Machine × Bool :=
  match machine.frames with
  | [] => (machine, false)
  | frame :: frames =>
    if frame.id = id then
      match frame.following with
      | [] => ({ machine with frames }, false)
      | row :: following =>
        ({ machine with frames := ⟨id, row, following⟩ :: frames }, true)
    else (machine, false)

/-- Opens an iteration, unless there are no rows. -/
def openRows (machine : Machine) (id skip : Nat) : List Row → Machine
  | [] => machine.goto skip
  | row :: following =>
    { machine with frames := ⟨id, row, following⟩ :: machine.frames }.advance

end Machine

def Scene.test (scene : Scene) (view : View) (condition : Condition) :
    Except Error Bool :=
  match Piece.operands view condition.pieces with
  | .error error => .error error
  | .ok operands =>
    match scene.environment.conditions operands with
    | .ok answer => .ok answer
    | .error message =>
      .error (.condition (String.ofList condition.listing) message)

/-- The values of subscripts of a variable, and the variable changed with
them. -/
def Machine.assign (scene : Scene) (machine : Machine) (world : World)
    (name : String) (subscripts : List Argument) (pieces : List Piece) :
    Except Error (Machine × World) :=
  let view := machine.view scene world
  match Piece.assigned view pieces with
  | .error error => .error error
  | .ok value =>
    match Argument.evalAll view subscripts with
    | .error error => .error error
    | .ok keys =>
      let binding := (Table.get? machine.vars name).getD (.owned .null)
      let (binding, heap) := binding.assign keys value world.heap
      .ok ({ machine with vars := Table.insert machine.vars name binding },
        { world with heap })

/-- The parameters of an inclusion with a literal path. -/
def Piece.parameters (view : View) :
    List (String × Piece) → Except Error (List (String × Value))
  | [] => .ok []
  | (name, .text content) :: query =>
    (Piece.parameters view query).map
      ((Query.decode name.toList, .text (Query.decode content.toList)) :: ·)
  | (name, .expr inner) :: query =>
    match inner.eval view with
    | .error error => .error error
    | .ok value =>
      (Piece.parameters view query).map ((Query.decode name.toList, value) :: ·)

/-- The name and the parameters of the template that an inclusion renders. -/
def Target.resolve (view : View) :
    Target → Except Error (String × List (String × Value))
  | .path name query =>
    match Piece.parameters view query with
    | .error error => .error error
    | .ok parameters => .ok (name, parameters)
  | .dynamic expr =>
    match expr.eval view with
    | .error error => .error error
    | .ok value =>
      match Text.splitFirst? '?' value.print with
      | some (name, query) => .ok (String.ofList name, Query.parse query)
      | none => .ok (String.ofList value.print, [])

/-- Renders another template with some variables and the parameters of an
inclusion. -/
def Scene.renderNested (scene : Scene) (runner : Runner) (vars : Table Binding)
    (name : String) (parameters : List (String × Value)) (world : World) :
    Outcome String :=
  let (program, store) := scene.environment.program world.store name
  let world := { world with store }
  match program with
  | .error error => some (.error error, world)
  | .ok program =>
    let vars := Table.insertAll vars
      (parameters.map fun (name, value) => (name, Binding.owned value))
    match runner program vars world with
    | none => none
    | some (.error error, world) => some (.error error, world)
    | some (.ok machine, world) => some (.ok machine.output, world)

/-- What an inclusion prints in place of a template that is missing, if it may
go on. -/
def InclusionKind.recover (kind : InclusionKind) :
    Except Error String → Except Error String
  | .error (.missingTemplate name) =>
    match kind with
    | .optional => .ok (Error.missingTemplate name).message
    | .required => .error (.requiredTemplate name)
  | result => result

/-- Renders the template of an inclusion.  There is no runner where inclusions
are nested too deeply. -/
def Scene.include (scene : Scene) (runner : Option Runner) (machine : Machine)
    (world : World) (target : Target) (once : Bool) (kind : InclusionKind) :
    Outcome String :=
  match target.resolve (machine.view scene world) with
  | .error error => some (.error error, world)
  | .ok (name, parameters) =>
    match runner with
    | none => some (.error .inclusionDepth, world)
    | some runner =>
      let key := PathKey.ofPath (world.store.loader.locate name)
      if once && world.included.contains key then some (.ok "", world)
      else
        let world :=
          if once then { world with included := key :: world.included }
          else world
        (scene.renderNested runner machine.vars name parameters world).map
          fun (result, world) => (kind.recover result, world)

def Scene.step (scene : Scene) (runner : Option Runner)
    (instruction : Instruction) (machine : Machine) (world : World) :
    Outcome Machine :=
  let view := machine.view scene world
  let goOn (result : Except Error Machine) : Outcome Machine :=
    some (result, world)
  match instruction with
  | .text text => goOn (.ok (machine.write text).advance)
  | .print expr =>
    goOn
      ((expr.eval view).map fun value => (machine.write value.toText).advance)
  | .set name subscripts value =>
    match machine.assign scene world name subscripts value with
    | .error error => some (.error error, world)
    | .ok (machine, world) => some (.ok machine.advance, world)
  | .branch condition next =>
    goOn ((scene.test view condition).map fun holds =>
      if holds then machine.advance else machine.skipTo next)
  | .elseBranch condition next exit =>
    if machine.untaken then
      goOn ((scene.test view condition).map fun holds =>
        if holds then machine.advance else machine.skipTo next)
    else goOn (.ok (machine.goto exit))
  | .otherwise exit =>
    goOn (.ok (if machine.untaken then machine.advance else machine.goto exit))
  | .endBranch => goOn (.ok machine.advance)
  | .openBlock id _ source skip =>
    goOn ((source.rows view).map (machine.openRows id skip))
  | .elseBlock id body exit =>
    let (machine, again) := machine.nextRow id
    goOn (.ok (machine.goto (if again then body else exit)))
  | .closeBlock id body =>
    let (machine, again) := machine.nextRow id
    goOn (.ok (if again then machine.goto body else machine.advance))
  | .inclusion target once kind =>
    match scene.include runner machine world target once kind with
    | none => none
    | some (.error error, world) => some (.error error, world)
    | some (.ok text, world) => some (.ok (machine.write text).advance, world)

/-- Runs a program to its end, in at most a number of steps. -/
def Scene.run (scene : Scene) (runner : Option Runner) (program : Program) :
    (steps : Nat) → Machine → World → Outcome Machine
  | steps, machine, world =>
    match program.instructions[machine.position]? with
    | none => some (.ok machine, world)
    | some instruction =>
      match steps with
      | 0 => none
      | steps + 1 =>
        match scene.step runner instruction machine world with
        | none => none
        | some (.error error, world) => some (.error error, world)
        | some (.ok machine, world) =>
          Scene.run scene runner program steps machine world

/-- Runs programs that may nest inclusions to a number of levels. -/
def Scene.runner (scene : Scene) (steps : Nat) : (levels : Nat) → Runner
  | 0, program, vars, world => scene.run none program steps { vars } world
  | levels + 1, program, vars, world =>
    scene.run (some (scene.runner steps levels)) program steps { vars } world

namespace Environment

/-- Renders a program with a context. -/
def execute (environment : Environment) (steps : Nat) (program : Program)
    (context : Context) (world : World) : Outcome String :=
  match environment.visibleVars context with
  | .error error => some (.error error, world)
  | .ok vars =>
    let scene : Scene := ⟨environment, context.constants, context.blocks⟩
    match scene.runner steps maxInclusions program vars
      { world with included := [] } with
    | none => none
    | some (.error error, world) => some (.error error, world)
    | some (.ok machine, world) => some (.ok machine.output, world)

def render (environment : Environment) (steps : Nat) (name : String)
    (context : Context) (world : World) : Outcome String :=
  let (program, store) := environment.program world.store name
  let world := { world with store }
  match program with
  | .error error => some (.error error, world)
  | .ok program => environment.execute steps program context world

/-- Renders a source, of which nothing is kept. -/
def renderSource (environment : Environment) (steps : Nat) (source : String)
    (context : Context) (world : World) : Outcome String :=
  match environment.compile source with
  | .error error => some (.error error, world)
  | .ok compiled => environment.execute steps compiled.program context world

/-- Renders a program compiled ahead of time, on its own: there are no other
templates, and all else is as by default. -/
def renderPrecompiled (steps : Nat) (name artifact : String) (context : Context)
    (world : World) : Outcome String :=
  match ({} : Environment).preload name artifact with
  | .error error => some (.error error, world)
  | .ok environment =>
    let apart : World :=
      { world with store := ⟨.memory [], .memory [], world.store.now, 0⟩ }
    (environment.render steps name context apart).map fun (result, after) =>
      (result, { after with store := world.store })

end Environment
end TemplateEngine
