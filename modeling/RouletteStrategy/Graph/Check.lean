import RouletteStrategy.Graph.Basic

/-! # Structural check: distinct node ids and connections between nodes -/

namespace RouletteStrategy.Graph

/-- The members of a list that occurred before, in order. -/
def repeats (seen : List String) : List String → List String
  | [] => []
  | x :: xs => (if x ∈ seen then [x] else []) ++ repeats (x :: seen) xs

/-- What is wrong with the ends of a connection, given the ids of the nodes. -/
def endIssues (ids : List String) (c : Connection) : List Issue :=
  (if c.source ∈ ids then [] else [.unknownSource c.id c.source]) ++
  (if c.target ∈ ids then [] else [.unknownTarget c.id c.target])

def issues (g : Graph) : List Issue :=
  (repeats [] g.nodeIds).map .duplicateId ++ g.connections.flatMap (endIssues g.nodeIds)

/-- Node ids are distinct, and connections join nodes of the graph. -/
structure Valid (g : Graph) : Prop where
  distinct : g.nodeIds.Nodup
  sources : ∀ c ∈ g.connections, c.source ∈ g.nodeIds
  targets : ∀ c ∈ g.connections, c.target ∈ g.nodeIds

def check (g : Graph) : Except Error Graph :=
  if g.issues.isEmpty then .ok g else .error (.invalidGraph g.issues)

end RouletteStrategy.Graph
