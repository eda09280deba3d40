import RowFilter.Text.Basic

/-!
# Property paths

A path names a property: every step but the last is a relation that is followed, and the last is
the property that is read. The empty path stands for the record itself.
-/

namespace RowFilter

/-- The steps to a property. -/
structure Path where
  steps : List String
  deriving Repr, DecidableEq

namespace Path

/-- The path of the record itself. -/
def root : Path := ⟨[]⟩

/-- The path of one step. -/
def simple (name : String) : Path := ⟨[name]⟩

/-- The path that a dotted text names. Empty steps do not count. -/
def ofText (s : String) : Path := ⟨(Text.split '.' s).filter (· ≠ "")⟩

/-- Whether this is the path of the record itself. -/
def isRoot (p : Path) : Bool := p.steps.isEmpty

/-- Whether the path has one step. -/
def isSimple (p : Path) : Bool := p.steps.length == 1

/-- The first step; the path of the record itself has an empty one. -/
def first (p : Path) : String := p.steps.head?.getD ""

/-- The last step, the property that is read. -/
def property (p : Path) : String := p.steps.getLast?.getD ""

/-- The path of the record that has the property. -/
def parent (p : Path) : Path := ⟨p.steps.dropLast⟩

/-- The path with one more step. -/
def child (p : Path) (name : String) : Path := ⟨p.steps ++ [name]⟩

/-- The steps with dots between them. -/
def text (p : Path) : String := Text.join "." p.steps

@[simp] theorem parent_child (p : Path) (name : String) : (p.child name).parent = p := by
  simp [parent, child]

@[simp] theorem property_child (p : Path) (name : String) : (p.child name).property = name := by
  simp [property, child]

end Path

end RowFilter
