import ErDiagram.Connectivity.Pattern
import ErDiagram.Json.Basic

/-!
# Analysis of connectivity

All that is known about the shape of a diagram, together with the strategy that suits it.

The analysis reads the names of the entities and the ends of the relationships, and nothing else
of a diagram. Its parts are computed from the graph one by one and do not depend on each other,
except that the pattern is read off the coverage and the strategy off the pattern. The layout
strategies read the parts that they need from this record.
-/

namespace ErDiagram

/-- **The shape of a diagram.** The graph is a part of it, since layouts ask for neighbours and
degrees; the number of relationships is only reported. -/
structure Analysis where
  /-- Which entities are adjacent. -/
  graph : Graph
  /-- How many relationships the diagram has. -/
  relationships : Nat
  /-- The hubs. -/
  hubs : List Hub
  /-- The chains. -/
  chains : List Chain
  /-- The clusters. -/
  clusters : List Cluster
  /-- The entities without neighbours. -/
  isolated : List String
  /-- What hubs, chains and clusters cover. -/
  coverage : Coverage
  /-- The dominant shape. -/
  pattern : Pattern
  /-- The strategy that suits it. -/
  strategy : Strategy

/-- **Analyses a diagram.** -/
def Diagram.analyze (d : Diagram) : Analysis :=
  let graph := Graph.ofDiagram d
  let entities := graph.names.length
  let coverage := Coverage.of entities graph.hubs graph.chains graph.clusters
  { graph
    relationships := d.relationships.length
    hubs := graph.hubs
    chains := graph.chains
    clusters := graph.clusters
    isolated := graph.isolated
    coverage
    pattern := coverage.pattern
    strategy := .recommended coverage.pattern entities graph.edges.length }

/-- The density of a cluster: the share of its possible edges that it has. -/
def Cluster.density (c : Cluster) : Share := ⟨c.inner, c.possible⟩

/-- Writes a hub. -/
def Hub.toJson (h : Hub) : Json :=
  .obj [("entity", .str h.entity), ("degree", .ofNat h.degree),
    ("neighbors", .ofStrings h.neighbours)]

/-- Writes a chain. -/
def Chain.toJson (c : Chain) : Json :=
  .obj [("entities", .ofStrings c.entities), ("is_linear", .bool c.isLinear)]

/-- Writes a cluster. -/
def Cluster.toJson (c : Cluster) : Json :=
  .obj [("entities", .ofStrings c.entities), ("density", .float c.density.rounded)]

/-- The fields of an analysis, with shares rounded to four places. -/
def Analysis.fields (a : Analysis) : List (String × Json) :=
  [("entity_count", .ofNat a.graph.names.length),
    ("relationship_count", .ofNat a.relationships),
    ("hubs", .arr (a.hubs.map Hub.toJson)),
    ("chains", .arr (a.chains.map Chain.toJson)),
    ("clusters", .arr (a.clusters.map Cluster.toJson)),
    ("isolated", .ofStrings a.isolated),
    ("pattern", .str a.pattern.name),
    ("recommended_strategy", .str a.strategy.name),
    ("coverage", .obj [("hubs", .float a.coverage.hubs.rounded),
      ("chains", .float a.coverage.chains.rounded),
      ("clusters", .float a.coverage.clusters.rounded)])]

/-- **Writes an analysis.** -/
def Analysis.toJson (a : Analysis) : Json := .obj a.fields

end ErDiagram
