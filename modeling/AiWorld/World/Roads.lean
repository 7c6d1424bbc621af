import AiWorld.Containers.OrderedMap
import Mathlib.Algebra.Order.Field.Basic

set_option autoImplicit false

namespace AiWorld.World

structure Vec2 (K : Type) where
  x : K
  z : K
deriving DecidableEq

structure Road (K : Type) where
  neighbor : String
  dist : K

structure RoadGraph (K : Type) where
  nodes : OrderedMap String (Vec2 K) := .empty
  edges : OrderedMap String (List (Road K)) := .empty

section Builder

variable {K : Type} (distance : Vec2 K → Vec2 K → K)

namespace RoadGraph

def node (graph : RoadGraph K) (id : String) (point : Vec2 K) : RoadGraph K := { graph with nodes := graph.nodes.set id point }

def pointAt (graph : RoadGraph K) (id : String) : Except String (Vec2 K) :=
  match graph.nodes.get id with
  | some point => .ok point
  | none => .error ("Unknown road node \"" ++ id ++ "\"")

def roadsFrom (graph : RoadGraph K) (id : String) : List (Road K) := (graph.edges.get id).getD []

def push (graph : RoadGraph K) (a b : String) (dist : K) : RoadGraph K :=
  { graph with edges := graph.edges.set a (graph.roadsFrom a ++ [⟨b, dist⟩]) }

def edge (graph : RoadGraph K) (a b : String) : Except String (RoadGraph K) := do
  let first ← graph.pointAt a
  let second ← graph.pointAt b
  let dist := distance first second
  return (graph.push a b dist).push b a dist

end RoadGraph

inductive Call (K : Type) where
  | node (id : String) (point : Vec2 K)
  | edge (a b : String)

def Call.ids {K : Type} : Call K → List String
  | .node id _ => [id]
  | .edge a b => [a, b]

def Call.apply (graph : RoadGraph K) : Call K → Except String (RoadGraph K)
  | .node id point => .ok (graph.node id point)
  | .edge a b => graph.edge distance a b

def build (calls : List (Call K)) : Except String (RoadGraph K) := calls.foldlM (Call.apply distance) {}

end Builder

section Search

variable {K : Type} [LinearOrder K] [Add K] (graph : RoadGraph K) (source target : String)

structure Search (K : Type) where
  dist : OrderedMap String K
  prev : OrderedMap String String := .empty
  visited : List String := []

-- One turn of the scan for the nearest id: `none` is `Infinity`.
def closer (visited : List String) (best : Option (String × K)) (entry : String × K) : Option (String × K) :=
  if entry.1 ∈ visited then best
  else
    match best with
    | none => some entry
    | some nearest => if entry.2 < nearest.2 then some entry else some nearest

def Search.nearest (search : Search K) : Option (String × K) := search.dist.entries.foldl (closer search.visited) none

-- `candidate < (known ?? Infinity)`.
def shorter (candidate : K) : Option K → Bool
  | none => true
  | some known => candidate < known

def relax (current : String) (best : K) (search : Search K) (road : Road K) : Search K :=
  let candidate := best + road.dist
  if shorter candidate (search.dist.get road.neighbor) then
    { search with dist := search.dist.set road.neighbor candidate, prev := search.prev.set road.neighbor current }
  else search

def visit (search : Search K) (current : String) (best : K) : Search K :=
  (graph.roadsFrom current).foldl (relax current best) { search with visited := current :: search.visited }

-- The search loop; `none` when the turns run out.
def explore : Nat → Search K → Option (Search K)
  | 0, _ => none
  | turns + 1, search =>
      match search.nearest with
      | none => some search
      | some (current, best) => if current = target then some search else explore turns (visit graph search current best)

-- The path so far is kept the right way round.
def retrace (prev : OrderedMap String String) : Nat → String → List String → Option (Option (List String))
  | 0, _, _ => none
  | turns + 1, cursor, path =>
      if cursor = source then some (some path)
      else
        match prev.get cursor with
        | none => some none
        | some before => if before = "" then some none else retrace prev turns before (before :: path)

-- `shortestPath` in a given number of turns of each loop: `none` when they do not do, `some none` for `null`.
def shortestPathIn [Zero K] (turns : Nat) : Option (Option (List (Vec2 K))) :=
  if !graph.nodes.has source || !graph.nodes.has target then some none
  else if source = target then some (some ([source].filterMap graph.nodes.get))
  else do
    let search ← explore graph target turns { dist := OrderedMap.empty.set source 0 }
    if !search.dist.has target then return none
    let path ← retrace source search.prev turns target [target]
    return path.map (fun ids => ids.filterMap graph.nodes.get)

-- Each turn visits another node, and a path has no node twice.
def RoadGraph.turns : Nat := graph.nodes.keys.length + 2

def shortestPath [Zero K] : Option (List (Vec2 K)) := (shortestPathIn graph source target graph.turns).getD none

end Search

end AiWorld.World
