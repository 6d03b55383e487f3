import Versor.Literal
import Versor.Metric

/-!
# Errors

Every way in which an operation of the library can refuse its arguments is a
cause, and the message is a function of the cause.  Causes without a message
are failures of array arithmetic, of number conversion or of reading text,
whose wording is nobody's business.
-/

namespace Versor

/-- The written form of the algebra of a metric. -/
def Metric.renderAlgebra
    (metric : Metric) :
    String :=
  "Algebra(" ++ metric.render ++ ")"

/-- The broad kinds of errors, for callers which only want to know the kind. -/
inductive ErrorKind
  | shape
  | algebraMismatch
  | bindingOverlap
  | expression
  | value
  | argument
  | zeroDivision
  | array
  | unsupported
  | index
  | overflow
  | memory
  | encoding
  | malformedText
  | nesting
  | missingFile
  | missingSlot
  | missingMember
  | unresolvedName
deriving DecidableEq

/-- Why an operation was refused. -/
inductive Error
  | metricEntry (name : String) (value : Literal)
  | dimension (dimension : Nat)
  | basisVector (vector : Literal) (metric : Metric)
  | blade (blade : Literal) (bladeCount : Nat)
  | booleanConstant
  | nonFiniteConstant (value : Float)
  | notANumber (kind : String)
  | indefiniteCoefficient
  | infiniteCoefficient
  | negativeSource (source : Literal)
  | monomialSign (monomial : Nat) (sign : Literal)
  | monomialCoefficient (monomial : Nat)
  | monomialSpan (monomial : Nat) (start stop : Literal) (available : Nat)
  | termCount (term : Nat) (count : Literal)
  | termMonomial (term : Nat) (monomial : Literal) (available : Nat)
  | elementsOfAlgebras (left right : Metric)
  | expressionsOverAlgebras (left right : Metric)
  | entitiesOfAlgebras (left right : Metric)
  | programOfAlgebra (compiled given : Metric)
  | bindingOverlap (firstStart firstStop secondStart secondStop : Literal)
  | negativeBase (base : Literal)
  | variableConstant
  | grade (grade : Literal) (metric : Metric)
  | noAlgebra
  | foreignBinding (function : String)
  | programArity (expected given : Nat)
  | programStructure (kind : String)
  | divisionByZero
  | divisionByExpression
  | zeroDivisor
  | duplicateBlades (blades : List Literal)
  | storageShape (kind : String) (width : Nat) (shape : List Nat)
  | noMotors
  | negativeCacheSize (value : Literal)
  | negativeLogEpsilon (value : Literal)
  | unknownFormat (name : String)
  | numberTooLarge
  | integerTooLarge
  | malformedNumber
  | unencodableText
  | outOfMemory
  | incompatibleShapes
  | tooManyDimensions
  | unsupportedElements
  | entryTooLarge
  | untypedEntry
  | noValues
  | indexRange
  | argumentCount
  | centerCount
  | notSingleValue
  | notNumeric
  | raggedData
  | malformedText
  | nestedTooDeeply
  | missingFile
  | missingSlot
  | missingMember
  | unresolvedName

namespace Error

/-- Text of a tuple of naturals: a single one keeps its comma. -/
def renderTuple
    (values : List Nat) :
    String :=
  match values with
  | [value] => "(" ++ toString value ++ ",)"
  | _ => "(" ++ ", ".intercalate (values.map toString) ++ ")"

/-- Text of a half-open range of ids. -/
def renderRange
    (start stop : Literal) :
    String :=
  "[" ++ start.render ++ ", " ++ stop.render ++ ")"

/-- The broad kind of an error. -/
def kind : Error → ErrorKind
  | .metricEntry _ _ => .value
  | .dimension _ => .value
  | .basisVector _ _ => .value
  | .blade _ _ => .shape
  | .booleanConstant => .argument
  | .nonFiniteConstant _ => .value
  | .notANumber _ => .argument
  | .indefiniteCoefficient => .value
  | .infiniteCoefficient => .overflow
  | .negativeSource _ => .shape
  | .monomialSign _ _ => .shape
  | .monomialCoefficient _ => .shape
  | .monomialSpan _ _ _ _ => .shape
  | .termCount _ _ => .shape
  | .termMonomial _ _ _ => .shape
  | .elementsOfAlgebras _ _ => .algebraMismatch
  | .expressionsOverAlgebras _ _ => .algebraMismatch
  | .entitiesOfAlgebras _ _ => .algebraMismatch
  | .programOfAlgebra _ _ => .algebraMismatch
  | .bindingOverlap _ _ _ _ => .bindingOverlap
  | .negativeBase _ => .expression
  | .variableConstant => .expression
  | .grade _ _ => .expression
  | .noAlgebra => .expression
  | .foreignBinding _ => .expression
  | .programArity _ _ => .expression
  | .programStructure _ => .expression
  | .divisionByZero => .zeroDivision
  | .divisionByExpression => .argument
  | .zeroDivisor => .zeroDivision
  | .duplicateBlades _ => .shape
  | .storageShape _ _ _ => .shape
  | .noMotors => .value
  | .negativeCacheSize _ => .value
  | .negativeLogEpsilon _ => .value
  | .unknownFormat _ => .value
  | .numberTooLarge => .overflow
  | .integerTooLarge => .value
  | .malformedNumber => .value
  | .unencodableText => .encoding
  | .outOfMemory => .memory
  | .incompatibleShapes => .array
  | .tooManyDimensions => .array
  | .unsupportedElements => .unsupported
  | .entryTooLarge => .array
  | .untypedEntry => .array
  | .noValues => .array
  | .indexRange => .index
  | .argumentCount => .argument
  | .centerCount => .value
  | .notSingleValue => .value
  | .notNumeric => .argument
  | .raggedData => .value
  | .malformedText => .malformedText
  | .nestedTooDeeply => .nesting
  | .missingFile => .missingFile
  | .missingSlot => .missingSlot
  | .missingMember => .missingMember
  | .unresolvedName => .unresolvedName

/-- The message of an error, for the causes that have one. -/
def message? : Error → Option String
  | .metricEntry name value =>
      some (name ++ " must be a non-negative integer, got " ++ value.render)
  | .dimension count =>
      some ("p + q + r must be <= " ++ toString maxDimension ++ ", got " ++
        toString count)
  | .basisVector vector metric =>
      some ("Basis vector " ++ vector.render ++ " out of range for " ++
        metric.render)
  | .blade value bladeCount =>
      some ("Blade " ++ value.render ++ " out of range for algebra with " ++
        toString bladeCount ++ " blades")
  | .booleanConstant => some "Booleans are not valid scalar constants"
  | .nonFiniteConstant value =>
      some ("Cannot use non-finite constant " ++ NumberLayout.plain.render value)
  | .notANumber kind => some ("Expected int, float or Fraction, got " ++ kind)
  | .indefiniteCoefficient => none
  | .infiniteCoefficient => none
  | .negativeSource source => some ("Negative source id " ++ source.render)
  | .monomialSign monomial sign =>
      some ("Monomial " ++ toString monomial ++ " has sign " ++ sign.shown ++
        ", expected +1 or -1")
  | .monomialCoefficient monomial =>
      some ("Monomial " ++ toString monomial ++ " has negative coefficient")
  | .monomialSpan monomial start stop available =>
      some ("Monomial " ++ toString monomial ++ " spans indeterminates " ++
        renderRange start stop ++ " but only " ++ toString available ++ " exist")
  | .termCount term count =>
      some ("Term " ++ toString term ++ " has count " ++ count.render)
  | .termMonomial term monomial available =>
      some ("Term " ++ toString term ++ " references monomial " ++
        monomial.render ++ " but only " ++ toString available ++ " exist")
  | .elementsOfAlgebras left right =>
      some ("Cannot combine elements of " ++ left.renderAlgebra ++ " and " ++
        right.renderAlgebra)
  | .expressionsOverAlgebras left right =>
      some ("Cannot combine expressions over " ++ left.renderAlgebra ++ " and " ++
        right.renderAlgebra)
  | .entitiesOfAlgebras left right =>
      some ("Cannot compute over entities of " ++ left.renderAlgebra ++ " and " ++
        right.renderAlgebra)
  | .programOfAlgebra compiled given =>
      some ("Program compiled for " ++ compiled.renderAlgebra ++
        " got an entity of " ++ given.renderAlgebra)
  | .bindingOverlap firstStart firstStop secondStart secondStop =>
      some ("Id ranges " ++ renderRange firstStart firstStop ++
        " and " ++ renderRange secondStart secondStop ++
        " of distinct bindings overlap")
  | .negativeBase base =>
      some ("base_id must be non-negative, got " ++ base.render)
  | .variableConstant =>
      some "Constant leaves cannot reference indeterminates"
  | .grade index metric =>
      some ("Grade " ++ index.render ++ " out of range for " ++
        metric.renderAlgebra)
  | .noAlgebra =>
      some "Cannot infer the algebra of a constant result computed from no entities"
  | .foreignBinding function =>
      some (function ++
        " returned an expression bound to an entity it was not given")
  | .programArity expected given =>
      some ("Program expects " ++ toString expected ++ " entities, got " ++
        toString given)
  | .programStructure kind =>
      some ("Entity " ++ kind ++ " does not match the compiled structure")
  | .divisionByZero => some "Cannot divide an expression by zero"
  | .divisionByExpression => none
  | .zeroDivisor => none
  | .duplicateBlades blades =>
      some ("Duplicate blades in " ++ Literal.renderTuple blades)
  | .storageShape kind width shape =>
      some (kind ++ " expects storage of shape (..., " ++ toString width ++
        "), got " ++ renderTuple shape)
  | .noMotors => some "compose() needs at least one motor"
  | .negativeCacheSize value =>
      some ("cache_size must be non-negative, got " ++ value.render)
  | .negativeLogEpsilon value =>
      some ("log_epsilon must be non-negative, got " ++ value.render)
  | .unknownFormat name => some ("Unknown floating point dtype: " ++ name)
  | .numberTooLarge => none
  | .integerTooLarge => none
  | .malformedNumber => none
  | .unencodableText => none
  | .outOfMemory => none
  | .incompatibleShapes => none
  | .tooManyDimensions => none
  | .unsupportedElements => none
  | .entryTooLarge => none
  | .untypedEntry => none
  | .noValues => none
  | .indexRange => none
  | .argumentCount => none
  | .centerCount => none
  | .notSingleValue => none
  | .notNumeric => none
  | .raggedData => none
  | .malformedText => none
  | .nestedTooDeeply => none
  | .missingFile => none
  | .missingSlot => none
  | .missingMember => none
  | .unresolvedName => none

/-- The literals that the message of an error shows. -/
def literals : Error → List Literal
  | .metricEntry _ value => [value]
  | .dimension count => [.integer count]
  | .basisVector vector _ => [vector]
  | .blade value _ => [value]
  | .negativeSource source => [source]
  | .monomialSign _ sign => [sign]
  | .monomialSpan _ start stop _ => [start, stop]
  | .termCount _ count => [count]
  | .termMonomial _ monomial _ => [monomial]
  | .bindingOverlap firstStart firstStop secondStart secondStop =>
      [firstStart, firstStop, secondStart, secondStop]
  | .negativeBase base => [base]
  | .grade index _ => [index]
  | .duplicateBlades blades => blades
  | .negativeCacheSize value => [value]
  | .negativeLogEpsilon value => [value]
  | _ => []

/-- What becomes of an error when its message is put together, which fails on too long integers. -/
def reported
    (error : Error) :
    Error :=
  if Literal.arePrintable error.literals then error else .integerTooLarge

end Error

end Versor
