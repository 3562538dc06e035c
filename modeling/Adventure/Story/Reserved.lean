import Adventure.Content

/-!
# Names that a set of flags keeps for itself

* `Holding`: what stands under such a name, as far as content can be compared with it;
* `Reserved.holding?`: the holding under a name;
* `Drawer`: the names whose contents are kept apart and may be replaced;
* `Reserved.guard?`: what refuses to be replaced;
* `Reserved.isFree`: a name under which anything may be kept.

These names are no flags, but a condition may ask for them: what stands there is mostly nothing that
content equals, so that the condition does not hold, instead of failing as it does for a name under
which nothing stands.
-/

namespace Adventure

/-- What stands under a name, as far as content can be compared with it. -/
inductive Holding where
  | content (c : Content)
  /-- Something that no content equals. -/
  | incomparable
deriving DecidableEq

/-- A holding compares equal to a content. -/
def Holding.same : Holding → Content → Bool
  | .content c, value => c.same value
  | .incomparable, _ => false

/-! ## 1. Drawers -/

/-- What is kept apart from all names. -/
inductive Drawer where
  /-- Where names are looked for that stand nowhere else. -/
  | extra
  /-- What nobody looks into. -/
  | closed
  /-- The names that were given. -/
  | given
deriving DecidableEq, Repr

namespace Drawer

/-- The name under which a drawer is filled and read. -/
def word : Drawer → String
  | .extra => "__pydantic_extra__"
  | .closed => "__pydantic_private__"
  | .given => "__pydantic_fields_set__"

/-- The names under which a drawer is only read. -/
def otherWords : Drawer → List String
  | .extra => ["model_extra"]
  | .closed => []
  | .given => ["model_fields_set", "__fields_set__"]

def all : List Drawer := [.extra, .closed, .given]

/-- The drawer that is filled under a name. -/
def ofWord? (name : String) : Option Drawer := all.find? (fun d => d.word == name)

/-- The drawer that is read under a name. -/
def readUnder? (name : String) : Option Drawer :=
  all.find? (fun d => d.word == name || d.otherWords.contains name)

/-- What is in a drawer that was never filled. -/
def untouched : Drawer → Holding
  | .extra => .content .null
  | .closed => .content .null
  | .given => .incomparable

end Drawer

/-! ## 2. Names -/

namespace Reserved

/-- Names under which a content stands, whatever the flags are. -/
def contents : List (String × Content) :=
  [("__doc__", .null), ("__hash__", .null), ("__module__", .text "lacosa.world_model"),
    ("__private_attributes__", .mapping []), ("__pydantic_complete__", .bool true),
    ("__pydantic_computed_fields__", .mapping []), ("__pydantic_custom_init__", .bool false),
    ("__pydantic_parent_namespace__", .null), ("__pydantic_post_init__", .null),
    ("__pydantic_root_model__", .bool false), ("model_computed_fields", .mapping []),
    ("model_config",
      .mapping [("extra", .text "forbid"), ("validate_assignment", .bool true)])]

/-- Names under which something stands that no content equals. -/
def others : List String :=
  ["construct", "copy", "dict", "from_orm", "json", "model_construct", "model_copy", "model_dump",
    "model_dump_json", "model_fields", "model_json_schema", "model_parametrized_name",
    "model_post_init", "model_rebuild", "model_validate", "model_validate_json",
    "model_validate_strings", "parse_file", "parse_obj", "parse_raw", "schema", "schema_json",
    "update_forward_refs", "validate",
    "_abc_impl", "_calculate_keys", "_copy_and_set_values", "_get_value", "_iter",
    "_setattr_handler",
    "__abstractmethods__", "__class_getitem__", "__class_vars__", "__copy__", "__deepcopy__",
    "__delattr__", "__dir__", "__eq__", "__format__", "__ge__", "__get_pydantic_core_schema__",
    "__get_pydantic_json_schema__", "__getattr__", "__getattribute__", "__getstate__", "__gt__",
    "__init__", "__init_subclass__", "__iter__", "__le__", "__lt__", "__ne__", "__new__",
    "__pretty__", "__pydantic_core_schema__", "__pydantic_decorators__", "__pydantic_fields__",
    "__pydantic_generic_metadata__", "__pydantic_init_subclass__", "__pydantic_on_complete__",
    "__pydantic_serializer__", "__pydantic_setattr_handlers__", "__pydantic_validator__",
    "__reduce__", "__reduce_ex__", "__replace__", "__repr__", "__repr_args__", "__repr_name__",
    "__repr_recursion__", "__repr_str__", "__rich_repr__", "__setattr__", "__setstate__",
    "__sizeof__", "__slots__", "__str__", "__subclasshook__"]

/-- The name under which all that is kept stands together. -/
def everything : String := "__dict__"

/-- Names that nothing kept under a name can hide. -/
def foremost : List (String × Holding) :=
  [("__class__", .incomparable), ("__fields__", .incomparable), ("__weakref__", .content .null)]

/-- The holding under a name under which nothing is kept. -/
def holding? (name : String) : Option Holding :=
  match contents.lookup name with
  | some c => some (.content c)
  | none => if others.contains name then some .incomparable else none

/-- A name under which anything may be kept: it begins with an underscore. -/
def isFree (name : String) : Bool := name.toList.head? == some '_'

/-- What refuses to be replaced. -/
inductive Guard where
  /-- It is replaced by nothing at all. -/
  | firm
  /-- It is replaced by no content. -/
  | ofOtherKind
deriving DecidableEq, Repr

/-- Names of what all sets of flags have in common. -/
def shared : List String :=
  ["__class_vars__", "__private_attributes__", "__signature__", "__pydantic_complete__",
    "__pydantic_computed_fields__", "__pydantic_core_schema__", "__pydantic_custom_init__",
    "__pydantic_decorators__", "__pydantic_fields__", "__pydantic_generic_metadata__",
    "__pydantic_parent_namespace__", "__pydantic_post_init__", "__pydantic_root_model__",
    "__pydantic_serializer__", "__pydantic_setattr_handlers__", "__pydantic_validator__"]

/-- Names under which something is only read. -/
def readOnly : List String :=
  ["__fields__", "__weakref__"] ++ (Drawer.all.map Drawer.otherWords).flatten

/-- Whether what stands under a name refuses to be replaced. -/
def guard? (name : String) : Option Guard :=
  if shared.contains name || readOnly.contains name then some .firm
  else if name = "__class__" then some .ofOtherKind
  else none

end Reserved

end Adventure
