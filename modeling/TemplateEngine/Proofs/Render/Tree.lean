import TemplateEngine.Proofs.Render.Steps

/-!
# What a tree means

A tree is rendered node by node, without a program.  A condition tests its
branches in order and renders the first one that holds; the branches after it
are not tested.  An iteration takes its rows once, before the first of them is
rendered, and renders its body for one row after the other.

The templates that a tree includes are programs, so that a runner for them is
given.
-/

namespace TemplateEngine

/-- How far a template has been rendered: the variables and the text so far. -/
structure Rendering where
  vars : Table Binding
  output : String := ""

namespace Rendering

/-- Adds to the text. -/
def write (rendering : Rendering) (text : String) : Rendering :=
  { rendering with output := rendering.output ++ text }

/-- What evaluates and assigns within some open iterations, innermost first. -/
def within (rendering : Rendering) (frames : List Frame) : Machine :=
  { frames, vars := rendering.vars, output := rendering.output }

/-- What expressions read within some open iterations. -/
def view (scene : Scene) (rendering : Rendering) (frames : List Frame)
    (world : World) : View :=
  (rendering.within frames).view scene world

/-- What a machine has rendered. -/
def ofMachine (machine : Machine) : Rendering :=
  ⟨machine.vars, machine.output⟩

/-- What a run has rendered, without where it stands. -/
def ofOutcome (outcome : Outcome Machine) : Outcome Rendering :=
  outcome.andThen fun machine world => some (.ok (ofMachine machine), world)

/-- Renders the body of an iteration for its rows, one after the other, each
with the row active and the rows after it still to come. -/
def throughRows (body : List Frame → Rendering → World → Outcome Rendering)
    (id : Nat) (frames : List Frame) :
    List Row → Rendering → World → Outcome Rendering
  | [], rendering, world => some (.ok rendering, world)
  | row :: following, rendering, world =>
    (body (⟨id, row, following⟩ :: frames) rendering world).andThen
      (throughRows body id frames following)

end Rendering

mutual

/-- Renders a node within some open iterations. -/
def Node.render (scene : Scene) (runner : Option Runner) (frames : List Frame) :
    Node → Rendering → World → Outcome Rendering
  | .text text, rendering, world => some (.ok (rendering.write text), world)
  | .print expr, rendering, world =>
    some ((expr.eval (rendering.view scene frames world)).map
      fun value => rendering.write value.toText, world)
  | .set name subscripts value, rendering, world =>
    match (rendering.within frames).assign scene world name subscripts
      value with
    | .error error => some (.error error, world)
    | .ok (machine, world) => some (.ok (.ofMachine machine), world)
  | .inclusion target once kind, rendering, world =>
    (scene.include runner (rendering.within frames) world target once
      kind).andThen fun text world => some (.ok (rendering.write text), world)
  | .choose condition body rest, rendering, world =>
    match scene.test (rendering.view scene frames world) condition with
    | .error error => some (.error error, world)
    | .ok true => Node.renderAll scene runner frames body rendering world
    | .ok false => Alternative.render scene runner frames rest rendering world
  | .each id _ source body empty, rendering, world =>
    match source.rows (rendering.view scene frames world) with
    | .error error => some (.error error, world)
    | .ok [] =>
      match empty with
      | none => some (.ok rendering, world)
      | some nodes => Node.renderAll scene runner frames nodes rendering world
    | .ok rows =>
      Rendering.throughRows
        (fun frames => Node.renderAll scene runner frames body) id frames rows
        rendering world

/-- Renders nodes one after the other. -/
def Node.renderAll (scene : Scene) (runner : Option Runner)
    (frames : List Frame) : List Node → Rendering → World → Outcome Rendering
  | [], rendering, world => some (.ok rendering, world)
  | node :: nodes, rendering, world =>
    (Node.render scene runner frames node rendering world).andThen
      (Node.renderAll scene runner frames nodes)

/-- Renders what follows a branch whose condition does not hold. -/
def Alternative.render (scene : Scene) (runner : Option Runner)
    (frames : List Frame) : Alternative → Rendering → World → Outcome Rendering
  | .done, rendering, world => some (.ok rendering, world)
  | .otherwise body, rendering, world =>
    Node.renderAll scene runner frames body rendering world
  | .elseIf condition body rest, rendering, world =>
    match scene.test (rendering.view scene frames world) condition with
    | .error error => some (.error error, world)
    | .ok true => Node.renderAll scene runner frames body rendering world
    | .ok false => Alternative.render scene runner frames rest rendering world

end

end TemplateEngine
