import InputBindings.Catalog
import InputBindings.TargetType

/-!
# The standard catalog

The native types that every binding knows: scalars and lists with their target types, and matrices
and vectors, whose target types follow from their elements. The catalog is frozen. Models are not in
it; a manifest declares them.
-/

namespace InputBindings.Catalog

/-- Scalars and lists, with their target types. -/
def standardPlain : List (String × String) :=
  [("bool", "Bool"), ("int", "Int"), ("size_t", "UInt"), ("float", "Float32"),
   ("double", "Float64"), ("std::string", "String"),
   ("std::vector<std::string>", "Vector\x7bString\x7d"), ("std::vector<int>", "Vector\x7bInt\x7d")]

/-- Containers: spelling, element type, whether it is a row, whether it is a column. -/
def standardContainers : List (String × String × Bool × Bool) :=
  [("arma::mat", "double", false, false), ("arma::Mat<size_t>", "size_t", false, false),
   ("arma::vec", "double", false, true), ("arma::rowvec", "double", true, false),
   ("arma::Col<size_t>", "size_t", false, true), ("arma::Row<size_t>", "size_t", true, false)]

/-- A container with the target type that follows from its elements. -/
def withTarget (name element : String) (isRow isColumn : Bool) : NativeType :=
  let type := NativeType.numeric name (some element) isRow isColumn .null
  { type with target := match type.arrayTarget? with
    | some spelling => .str spelling
    | none => .null }

def standardTypes : List NativeType :=
  standardPlain.map (fun (name, target) => NativeType.plain name (.str target)) ++
    standardContainers.map fun (name, element, isRow, isColumn) =>
      withTarget name element isRow isColumn

/-- The standard types under their spellings. -/
def standard : Catalog := ⟨standardTypes.map fun t => (t.name, t), true⟩

end InputBindings.Catalog
