import SceneMarkup.Style.Layer

namespace SceneMarkup

/-!
# Overrides

A node inside an instance overrides the node at the same place in the component
that the instance places, which may lie inside an instance again.  Following
these links gives the override chain of a node.  Its rule then needs only what
differs from the styles along the chain, nearest first.
-/

namespace Style

/-- What is left of a style that is laid over another one.  A property that only
the other one sets becomes `unset` where the node's own style lacks it, a
changed property stays, and an equal one is dropped. -/
def difference (style own previous : Style) : Style :=
  let removed := previous.entries.filter fun entry =>
    style.get? entry.1 != some entry.2 && !own.contains entry.1
  let changed := style.entries.filter fun entry => previous.get? entry.1 != some entry.2
  OrderedMap.ofList (removed.map (fun entry => (entry.1, "unset")) ++ changed)

end Style

namespace Project

/-- The node that a node overrides, if it lies inside an instance.  An id that
names no instance of the same document is reported; an instance without a match
for the node is a fault. -/
def previousNode (project : Project) (key : NodeKey) : Reported (Option NodeKey) :=
  let scene := project.scene
  let node := scene.node key
  match InstanceId.qualifier? node.id with
  | none => return none
  | some qualifier =>
      match (scene.find? key.file qualifier).filter fun found => (scene.node found).isInstance with
      | none => do
          Reported.raise [.about node (.missingOverrideInstance qualifier)]
          return none
      | some instanceKey =>
          let mismatch : Fault := .structureMismatch node.id node.name qualifier
          match scene.path? key instanceKey with
          | none => .fail mismatch
          | some path => do
              let component ← Reported.ofExcept (project.resolveComponent instanceKey)
              match scene.follow? path component with
              | none => .fail mismatch
              | some previous => return some previous

/-- The number of nodes in all documents. -/
def nodeCount (project : Project) : Nat :=
  project.scene.imports.foldl (fun count indexed => count + indexed.named.document.size)
    (project.scene.document .main).size

/-- Follow overridden nodes until there is none or one comes up again.  Each step
but the last adds a new node to `seen`, so the number of nodes bounds them. -/
def overrideChainFrom (project : Project) : Nat -> List NodeKey -> NodeKey ->
    Reported (List NodeKey)
  | 0, _, _ => return []
  | steps + 1, seen, current => do
      let found ← project.previousNode current
      match found.filter fun previous => !seen.contains previous with
      | none => return []
      | some previous =>
          let rest ← overrideChainFrom project steps (previous :: seen) previous
          return previous :: rest

/-- Every node that a node overrides, nearest first. -/
def overrideChain (project : Project) (key : NodeKey) : Reported (List NodeKey) :=
  project.overrideChainFrom (project.nodeCount + 1) [key] key

/-- Lay the style of a node over the styles of the nodes in a chain. -/
def styleOver (project : Project) (key : NodeKey) (chain : List NodeKey) : Style :=
  let own := project.nodeStyle key
  chain.foldl (fun style previous => style.difference own (project.nodeStyle previous)) own

/-- The declarations that the rule of a node needs on top of everything that the
node overrides. -/
def overrideStyle (project : Project) (key : NodeKey) : Reported Style := do
  Reported.raise (project.nodeWarnings key)
  let chain ← project.overrideChain key
  Reported.raise (chain.flatMap project.nodeWarnings)
  return project.styleOver key chain

end Project
end SceneMarkup
