import Versor.Json.Quantity
import Versor.Json.Reader
import Versor.Json.Writer
import Versor.Tensor.ElementType

/-!
# Configurations

A configuration bounds the program cache, gives the threshold of the motor
logarithm, names the floating point type of new storage and says whether
bindings are checked.  Settings are kept as they were given, and what they
amount to is read off them where they are used.  Members of a description
that are no settings are kept in `extra`, in their order; a description may
also bring such a table along, and the other members are added to it.
-/

namespace Versor

/-- Settings of engines and of new storage. -/
structure Config where
  /-- Number of compiled programs that an engine keeps. -/
  cacheSize : Quantity
  /-- Bound on the scalar part below which the logarithm changes its branch. -/
  logEpsilon : Quantity
  /-- Name of the floating point type of new storage. -/
  typeName : String
  /-- Whether the id ranges of bindings are checked before reducing, as it was given. -/
  validateBindings : Json
  extra : List (String × Json)

namespace Config

/-- The floating point type with a given name, some of which have two. -/
def typeNamed? (name : String) : Option ElementType :=
  match name with
  | "float16" | "half" => some .float16
  | "bfloat16" => some .bfloat16
  | "float32" | "float" => some .float32
  | "float64" | "double" => some .float64
  | _ => none

/-- The configuration that nothing has been said about. -/
def default : Config where
  cacheSize := .number (.integer 128)
  logEpsilon := .number (.real 1e-6)
  typeName := "float64"
  validateBindings := .boolean true
  extra := []

/-- The floating point type of new storage. -/
def elementType
    (config : Config) :
    ElementType :=
  (typeNamed? config.typeName).getD .float64

/-- Members of a description that are settings. -/
def settingNames : List String :=
  ["cache_size", "log_epsilon", "dtype", "validate_bindings", "extra"]

/-- The members of a description that are no settings. -/
def unknownMembers
    (members : List (String × Json)) :
    List (String × Json) :=
  members.filter fun member => !settingNames.contains member.1

/-- A table of extra members with others added to it. -/
def addMembers
    (extra members : List (String × Json)) :
    List (String × Json) :=
  members.foldl
    (fun table member => Json.setMember table member.1 member.2) extra

/-- A quantity among the members of a description. -/
def quantityAt
    (members : List (String × Json))
    (name : String)
    (otherwise : Quantity) :
    Except Error Quantity :=
  match members.lookup name with
  | none => .ok otherwise
  | some value =>
      match Quantity.ofJson? value with
      | some quantity => .ok quantity
      | none => .error .notNumeric

/-- The table of extra members that a description brings along. -/
def givenExtra
    (members : List (String × Json)) :
    Except Error (List (String × Json)) :=
  match members.lookup "extra" with
  | none => .ok []
  | some (.object extra) => .ok extra
  | some _ => .error .missingMember

/--
The configuration that a description stands for.  The size of the cache, the
threshold and the name of the type are checked in this order.
-/
def ofMembers
    (members : List (String × Json)) :
    Except Error Config := do
  let cacheSize ← quantityAt members "cache_size" default.cacheSize
  if cacheSize.isNegative then
    throw (.negativeCacheSize cacheSize.toLiteral)
  let logEpsilon ← quantityAt members "log_epsilon" default.logEpsilon
  if logEpsilon.isNegative then
    throw (.negativeLogEpsilon logEpsilon.toLiteral)
  let typeName ←
    match members.lookup "dtype" with
    | none => pure default.typeName
    | some (.text name) => pure name
    | some _ => throw .notNumeric
  if (typeNamed? typeName).isNone then
    throw (.unknownFormat typeName)
  let extra ← givenExtra members
  .ok
    { cacheSize := cacheSize
      logEpsilon := logEpsilon
      typeName := typeName
      validateBindings :=
        (members.lookup "validate_bindings").getD default.validateBindings
      extra := addMembers extra (unknownMembers members) }

/-- The full description of a configuration, in the order of its settings. -/
def toMembers
    (config : Config) :
    List (String × Json) :=
  [("cache_size", config.cacheSize.toJson),
    ("log_epsilon", config.logEpsilon.toJson),
    ("dtype", .text config.typeName),
    ("validate_bindings", config.validateBindings),
    ("extra", .object config.extra)]

/-- The name that the updated configuration itself goes by, so no new member can have it. -/
def ownName : String := "self"

/-- The configuration with some members of its description replaced. -/
def update
    (config : Config)
    (members : List (String × Json)) :
    Except Error Config :=
  if (members.lookup ownName).isSome then .error .argumentCount
  else ofMembers (addMembers config.toMembers members)

/--
What a description looks like once a configuration has been made of it: a
table of extra members in it is the configuration's own and has grown.
-/
def describedAfter
    (members : List (String × Json)) :
    Except Error (List (String × Json)) := do
  let config ← ofMembers members
  .ok (members.map fun member =>
    if member.1 = "extra" then (member.1, .object config.extra) else member)

/-- How deep the extra members of a configuration may nest for it to be shown. -/
def maxShownDepth : Nat := 496

/-- A value as it is shown, unless it nests too deeply. -/
def shown
    (value : Json) :
    Except Error Json :=
  if value.nestsWithin maxShownDepth then .ok value else .error .nestedTooDeeply

/-- Whether two configurations have equal settings and extra members. -/
def same
    (left right : Config) :
    Bool :=
  (Json.object left.toMembers).same (.object right.toMembers)

/-- The text that a configuration is saved as. -/
def save
    (config : Config) :
    String :=
  (Json.object config.toMembers).renderIndented

/-- The configuration that a text stands for, which has to be one that a file can hold. -/
def load
    (text : String) :
    Except Error Config :=
  if CodePoint.hasHalf text then .error .unencodableText
  else
    match Json.read text with
    | .ok (.object members) => ofMembers members
    | .ok _ => .error .missingMember
    | .error error => .error error

/-- The threshold of the logarithm as a literal. -/
def threshold
    (config : Config) :
    Literal :=
  config.logEpsilon.toLiteral

/-- Whether the id ranges of bindings are checked before reducing. -/
def checksBindings
    (config : Config) :
    Bool :=
  config.validateBindings.truth

/-- Whether programs are kept at all. -/
def keepsPrograms
    (config : Config) :
    Bool :=
  config.cacheSize.isPositive

/-- The number of programs that may be kept, unless there is no bound. -/
def programBound?
    (config : Config) :
    Option Nat :=
  config.cacheSize.capacity?

end Config

end Versor
