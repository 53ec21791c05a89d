import RequirePath.Yaml.Node

/-! Merging: the pairs of the mappings that a merge key names are taken into its mapping, before its own
pairs. The mappings that are named take in theirs first. A node that a merge key names can be the one it
stands in, so merge keys are removed before their mappings are looked at. -/

namespace RequirePath.Yaml.Merge

/-- The tag of a node. -/
def tagOf (nodes : Array Node) (id : Nat) : String :=
  (nodes[id]?.map Node.tag).getD ""

/-- The pairs of a mapping. -/
def pairsOf (nodes : Array Node) (id : Nat) : List (Nat × Nat) :=
  (nodes[id]?.map Node.pairs).getD []

/-- A node is a mapping. -/
def isMapping (nodes : Array Node) (id : Nat) : Bool :=
  match nodes[id]? with
  | some (.mapping _ _) => true
  | _ => false

/-- A pair whose key names mappings to take in. -/
def isMerge (nodes : Array Node) (pair : Nat × Nat) : Bool :=
  tagOf nodes pair.1 == commonTag "merge"

/-- Gives a mapping other pairs. -/
def setPairs (nodes : Array Node) (id : Nat) (pairs : List (Nat × Nat)) : Array Node :=
  nodes.setIfInBounds id (.mapping (tagOf nodes id) pairs)

/-- The key of a default value stands for its text as the key of a pair. -/
def keyAsText (nodes : Array Node) (id : Nat) : Array Node :=
  match nodes[id]? with
  | some (.scalar t s) =>
    if t = commonTag "value" then nodes.setIfInBounds id (.scalar (commonTag "str") s) else nodes
  | _ => nodes

/-- Takes in the pairs that the merge keys of a mapping name; `merged` are those of merge keys before. The
bound is above the number of merge keys. -/
def takeIn : Nat → Nat → List (Nat × Nat) → Array Node → Except Fault (Array Node)
  | 0, _, _, _ => .error .malformed
  | bound + 1, id, merged, nodes =>
    let pairs := pairsOf nodes id
    match pairs.find? (isMerge nodes) with
    | none =>
      let nodes := pairs.foldl (fun ns p => keyAsText ns p.1) nodes
      .ok (setPairs nodes id (merged ++ pairs))
    | some (_, value) => do
      let nodes := setPairs nodes id (pairs.eraseP (isMerge nodes))
      match nodes[value]? with
      | some (.mapping _ _) => do
        let nodes ← takeIn bound value [] nodes
        takeIn bound id (merged ++ pairsOf nodes value) nodes
      | some (.sequence _ items) => do
        let (nodes, found) ← items.foldlM (fun (ns, found) item =>
          if isMapping ns item then (takeIn bound item [] ns).map fun ns => (ns, pairsOf ns item ++ found)
          else .error .malformed) (nodes, [])
        takeIn bound id (merged ++ found) nodes
      | _ => .error .malformed

/-- The number of merge keys, counted once for each pair that one stands in. -/
def count (nodes : Array Node) : Nat :=
  nodes.foldl (fun n node => n + (node.pairs.filter (isMerge nodes)).length) 0

/-- The nodes after a mapping has taken in the pairs that its merge keys name. -/
def flatten (nodes : Array Node) (id : Nat) : Except Fault (Array Node) :=
  if (pairsOf nodes id).any (isMerge nodes) then takeIn (count nodes + 1) id [] nodes
  else takeIn 1 id [] nodes

end RequirePath.Yaml.Merge
