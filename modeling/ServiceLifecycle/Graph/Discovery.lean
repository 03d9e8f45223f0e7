import ServiceLifecycle.Table

/-!
# Breadth-first discovery

Everything that can be reached from given starting points, nearest first.
-/

namespace ServiceLifecycle.Graph

variable {κ : Type} [DecidableEq κ]

/-- The neighbours not found before, each once, in the order of their first mention. -/
def newcomers (found : OrderedSet κ) (neighbours : List κ) : List κ :=
  (OrderedSet.ofList neighbours).toList.filter fun k => !found.contains k

/-- Takes up to `turns` names from the queue and adds the newcomers among the
neighbours of each, at the end of the queue and of what is found. -/
def discover (neighbours : κ → List κ) : Nat → List κ → OrderedSet κ → OrderedSet κ
  | 0, _, found => found
  | _ + 1, [], found => found
  | turns + 1, k :: queue, found =>
      let fresh := newcomers found (neighbours k)
      discover neighbours turns (queue ++ fresh) (fresh.foldl OrderedSet.insert found)

end ServiceLifecycle.Graph
