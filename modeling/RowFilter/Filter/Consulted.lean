import RowFilter.Filter.Compile

/-!
# Consulted schemas

Compiling a filter looks up the schemas of the relations that it joins. The nodes are taken in
order, and none is looked at behind one that cannot be compiled.
-/

namespace RowFilter.FilterContext

/-- The entities whose schemas are looked up for a node. -/
def consultedNode (c : FilterContext) (nested : FieldSchema → Path → List FilterNode → List String)
    (schema : FieldSchema) (root : Path) (n : FilterNode) : List String :=
  if n.isSupported then
    match n.type, schema.get? n.field with
    | .relation _ cardinality identity, some (.relation r) =>
      match n.condition with
      | .joined filter =>
        match c.children (c.target r) n.combinator filter with
        | .ok nodes => r.target :: nested (c.target r) (root.child n.field) nodes
        | .error _ => [r.target]
      | .equals .null => []
      | _ => if identity.isSome ∧ r.identity.isSome ∧ cardinality = .many then [r.target] else []
    | _, _ => []
  else
    []

/-- The entities whose schemas are looked up for nodes in order. -/
def consultedNodes (lookUp : FilterNode → List String) (compiles : FilterNode → Bool) :
    List FilterNode → List String
  | [] => []
  | n :: rest => lookUp n ++ if compiles n then consultedNodes lookUp compiles rest else []

/-- The entities whose schemas are looked up for the records at a path. The fuel is the one with
which the nodes are compiled. -/
def consultedLevel (c : FilterContext) : Nat → FieldSchema → Path → List FilterNode → List String
  | 0, _, _, _ => []
  | fuel + 1, schema, root, nodes =>
    consultedNodes (c.consultedNode (c.consultedLevel fuel) schema root)
      (fun n => (c.compileNode (c.compileLevel fuel) schema root n).isOk) nodes

/-- The entities whose schemas are looked up when nodes are compiled. -/
def consulted (c : FilterContext) (schema : FieldSchema) (nodes : List FilterNode) : List String :=
  c.consultedLevel (depth nodes + 1) schema .root nodes

end RowFilter.FilterContext
