import Versor.Multivector.Draft
import Versor.Number.Hexadecimal
import Versor.Session
import Versor.Proofs.Blade.Vectors
import Versor.Proofs.Reference.Word
import Versor.Proofs.Reference.Blade
import Versor.Proofs.Reference.Element
import Versor.Proofs.Multivector.Views
import Versor.Proofs.Multivector.Merge
import Versor.Proofs.Multivector.Valuation
import Versor.Proofs.Multivector.NormalForm
import Versor.Proofs.Multivector.Range
import Versor.Proofs.Multivector.Operations
import Versor.Proofs.Expression.Build
import Versor.Proofs.Expression.Memo
import Versor.Proofs.Expression.Interpretation
import Versor.Proofs.Expression.Soundness
import Versor.Proofs.Expression.Correspondence
import Versor.Proofs.Expression.Growth
import Versor.Proofs.Expression.Leaves
import Versor.Proofs.Program.Binding
import Versor.Proofs.Expression.Vocabulary
import Versor.Proofs.Program.Execution
import Versor.Proofs.Program.Tree
import Versor.Proofs.Expression.Dependence
import Versor.Proofs.Program.Columns
import Versor.Proofs.Program.Compilation
import Versor.Proofs.Expression.Alike
import Versor.Proofs.Program.Repetition
import Versor.Proofs.Program.Closed
import Versor.Proofs.Program.Sameness
import Versor.Proofs.Engine.Requests
import Versor.Proofs.Engine.Transparency
import Versor.Proofs.Multivector.Validity
import Versor.Proofs.Reference.Associativity
import Versor.Proofs.Multivector.Laws
import Versor.Proofs.Engine.History
import Versor.Proofs.Engine.Foreign
import Versor.Proofs.Engine.Recency
import Versor.Proofs.Engine.Capacity
import Versor.Proofs.Program.Precision
import Versor.Proofs.Expression.Renumbering
import Versor.Proofs.Expression.Traversal
import Versor.Proofs.Program.HandBound
import Versor.Proofs.Engine.Computing
import Versor.Proofs.Engine.Numbering
import Versor.Proofs.Projective.Coordinates
import Versor.Proofs.Projective.Primitives
import Versor.Proofs.Projective.Sandwich
import Versor.Proofs.Projective.RigidMotion
import Versor.Proofs.Tensor.Reals
import Versor.Proofs.Engine.Library
import Versor.Proofs.Tensor.Room
import Versor.Proofs.Engine.Room
import Versor.Proofs.Projective.Selection
import Versor.Proofs.Projective.Conversion
import Versor.Proofs.Projective.Transform
import Versor.Proofs.Projective.MotorGroup
import Versor.Proofs.Tensor.Analysis
import Versor.Proofs.Projective.Logarithm
import Versor.Proofs.Projective.Exponential
import Versor.Proofs.Projective.Incidence
import Versor.Proofs.Projective.Projection
import Versor.Proofs.Projective.Recognition
import Versor.Proofs.Projective.Carrying
import Versor.Proofs.Projective.Construction
import Versor.Proofs.Projective.Equivariance
import Versor.Proofs.Projective.EuclideanLines
import Versor.Proofs.Multivector.Closure
import Versor.Proofs.Reference.Duality
import Versor.Proofs.Multivector.Duality
import Versor.Proofs.Program.Pointwise
import Versor.Proofs.Projective.Relabelling
import Versor.Proofs.Reference.Involution
import Versor.Proofs.Multivector.Involution
import Versor.Proofs.Reference.Grades
import Versor.Proofs.Multivector.GradeParts
import Versor.Proofs.Multivector.MetricIndependence
import Versor.Proofs.Expression.Parts
import Versor.Proofs.Expression.Rebuilding
import Versor.Proofs.Engine.Calls
import Versor.Proofs.Engine.Safety
import Versor.Proofs.Expression.Overlap
import Versor.Proofs.Projective.Conjugation
import Versor.Proofs.Projective.ParameterGroup
import Versor.Proofs.Projective.Restriction
import Versor.Proofs.Projective.Lossless
import Versor.Proofs.Projective.SimpleMotion
import Versor.Proofs.Projective.Pluecker
import Versor.Proofs.Projective.Perpendicular
import Versor.Proofs.Projective.Reading
import Versor.Proofs.Projective.SingleGrade
import Versor.Proofs.Projective.Amounts
import Versor.Proofs.Projective.Center
import Versor.Proofs.Multivector.Contraction
import Versor.Proofs.Expression.Construction
import Versor.Proofs.Program.TermCount
import Versor.Proofs.Blade.Inversions
import Versor.Proofs.Multivector.RoundTrip
import Versor.Proofs.Expression.Locality
