import ServiceLifecycle.Ident
import ServiceLifecycle.Table

/-!
# Enabling branches

Before a service comes up, what it depends on has to be up. The branch of a
service lists its dependencies depth first, then the service. Branches do not
know of each other: a shared dependency stands in every branch that needs it.
Cycles end the walk silently. A service that refers to nothing but itself stands
twice, once as its own dependency; a self-reference next to others adds nothing.
-/

namespace ServiceLifecycle.Graph

/-- A vertex of the dependency graph, with whatever it stands for. -/
structure Vertex (τ : Type) where
  id : ServiceId
  /-- The services it depends on, in the order of its references. -/
  dependencies : List ServiceId
  item : τ
  deriving Repr

/-- Whether a vertex has dependencies and all of them are the vertex. -/
def Vertex.dependsOnlyOnItself {τ : Type} (v : Vertex τ) : Bool :=
  !v.dependencies.isEmpty && v.dependencies.all fun d => d = v.id

/-- A dependency at which the walk did not go on. -/
inductive Note where
  /-- It had been entered before. -/
  | again (dependency source : ServiceId)
  /-- It is not in the graph. -/
  | unknown (source dependency : ServiceId)
  deriving DecidableEq, Repr

/-- The wording of a note. -/
def Note.text : Note → String
  | .again d s => s!"Not descending into {d.text} again from {s.text}"
  | .unknown s d => s!"Skipping reference from {s.text} to unknown service {d.text}"

/-- What a walk has gathered so far. -/
structure Walk (τ : Type) where
  /-- The vertices left, the latest first. -/
  left : List (Vertex τ) := []
  /-- The names of the vertices entered. -/
  entered : List ServiceId := []
  /-- What there was to note, the latest first. -/
  notes : List Note := []

namespace Walk

variable {τ : Type}

/-- Notes something down. -/
def note (w : Walk τ) (n : Note) : Walk τ := { w with notes := n :: w.notes }

/-- Enters a vertex. -/
def enter (w : Walk τ) (v : Vertex τ) : Walk τ := { w with entered := v.id :: w.entered }

/-- Leaves a vertex: it joins the branch, as its own dependency too if it has no other. -/
def leave (w : Walk τ) (v : Vertex τ) : Walk τ :=
  { w with left := if v.dependsOnlyOnItself then v :: v :: w.left else v :: w.left }

/-- Enters `v`, walks on from each of its dependencies in turn, and leaves it. The
walk goes at most `depth` vertices deep. -/
def visit (find : ServiceId → Option (Vertex τ)) : Nat → Vertex τ → Walk τ → Walk τ
  | 0, _, w => w
  | depth + 1, v, w =>
      let through := v.dependencies.foldl
        (fun w d =>
          if d = v.id then w
          else if w.entered.contains d then w.note (.again d v.id)
          else match find d with
            | some u => visit find depth u w
            | none => w.note (.unknown v.id d))
        (w.enter v)
      through.leave v

/-- The vertices left, the earliest first. -/
def branch (w : Walk τ) : List (Vertex τ) := w.left.reverse

end Walk

variable {τ : Type}

/-- No walk through a graph of `n` vertices that ends goes deeper. Where every
vertex is stored under its own name `n + 1` would do, since each vertex on the way
is entered for the first time. Elsewhere a vertex may be entered again under another name, but
each at most once between two first entries. -/
def depthBound (n : Nat) : Nat := (n + 1) * (n + 1) + 1

/-- The walk from `target`. -/
def walkFrom (nodes : Table ServiceId (Vertex τ)) (target : Vertex τ) : Walk τ :=
  Walk.visit nodes.get? (depthBound nodes.size) target {}

/-- The enabling branch of `target`, which is its last element. Dependencies that
are not among the nodes are left out. -/
def enablingBranch (nodes : Table ServiceId (Vertex τ)) (target : Vertex τ) :
    List (Vertex τ) :=
  (walkFrom nodes target).branch

/-- The walks from all nodes, in their order. -/
def walks (nodes : Table ServiceId (Vertex τ)) : List (Walk τ) :=
  nodes.values.map (walkFrom nodes)

/-- One branch for each node, in the order of the nodes. -/
def enablingOrder (nodes : Table ServiceId (Vertex τ)) : List (List (Vertex τ)) :=
  (walks nodes).map Walk.branch

/-- The reverse of the enabling order, each node once: where its name first occurs
in the concatenated branches. -/
def disablingOrder (nodes : Table ServiceId (Vertex τ)) : List (Vertex τ) :=
  let firsts := (enablingOrder nodes).flatten.foldl
    (fun (t : Table ServiceId (Vertex τ)) v => if t.contains v.id then t else t.insert v.id v)
    .empty
  firsts.values.reverse

end ServiceLifecycle.Graph
