import Xacml.AttributeType
import Xacml.AttributeValue
import Xacml.Bag.Basic
import Xacml.Bag.Sets
import Xacml.Bag.Shared
import Xacml.Bag.Source
import Xacml.Binding
import Xacml.BuildError
import Xacml.Calendar.Basic
import Xacml.Calendar.Text
import Xacml.Cast
import Xacml.Condition
import Xacml.Document.Basic
import Xacml.Document.Forms
import Xacml.Document.Json
import Xacml.Document.Yaml.Node
import Xacml.Document.Yaml.Reader
import Xacml.Document.Yaml.Scalar
import Xacml.Document.Yaml.Spot
import Xacml.Double.Basic
import Xacml.Double.Decimal
import Xacml.Evaluation.Basic
import Xacml.Evaluation.Call
import Xacml.Evaluation.Combinator
import Xacml.Evaluation.Expr
import Xacml.Evaluation.Leaf
import Xacml.Expr.Basic
import Xacml.Expr.Variable
import Xacml.Failure
import Xacml.Function.Basic
import Xacml.Function.Table
import Xacml.Inspect.Expr
import Xacml.Inspect.Layout
import Xacml.Inspect.Value
import Xacml.Integer
import Xacml.Library.Bags
import Xacml.Library.Comparison
import Xacml.Library.Kernel
import Xacml.Library.Numbers
import Xacml.Library.Standard
import Xacml.Library.Strings
import Xacml.Pattern.Basic
import Xacml.Pattern.Cache
import Xacml.Pattern.Mode
import Xacml.Pattern.Reader
import Xacml.Proofs.Evaluation.Seek
import Xacml.Proofs.Evaluation.Ensures
import Xacml.Proofs.Typing.Signature
import Xacml.Proofs.Typing.Value
import Xacml.Request
import Xacml.Scope
import Xacml.Settings
import Xacml.Shape
import Xacml.Signature
import Xacml.Text.Blank
import Xacml.Text.Bytes
import Xacml.Text.Search
import Xacml.Unicode.Casing
import Xacml.Unicode.Category
import Xacml.Unicode.CodeSet
import Xacml.Unicode.Property
import Xacml.Unicode.Script
import Xacml.Proofs.Typing.Library
import Xacml.Proofs.Typing.Call
import Xacml.Proofs.Typing.Binding
import Xacml.Proofs.Typing.Combinator
import Xacml.Proofs.Typing.Expr
import Xacml.Proofs.Scope.Session
import Xacml.Proofs.Typing.Leaf
import Xacml.Proofs.Typing.Soundness
import Xacml.Proofs.Connective.Stops
import Xacml.Proofs.Connective.Threshold
import Xacml.Proofs.Connective.Monotone
import Xacml.Proofs.Evaluation.Alike
import Xacml.Proofs.Expr.Leaves
import Xacml.Proofs.Footprint.Context
import Xacml.Proofs.Footprint.Evaluation
import Xacml.Proofs.Scope.Chain
import Xacml.Proofs.Order.Turn
import Xacml.Proofs.Order.Occurrence
import Xacml.Proofs.Evaluation.Answer
import Xacml.Proofs.Combinator.Search
import Xacml.Proofs.Combinator.Given
import Xacml.Proofs.Combinator.Combination
import Xacml.Proofs.Combinator.Answered
import Xacml.Proofs.Combinator.Reorder
import Xacml.Proofs.Evaluation.Likeness
import Xacml.Proofs.Combinator.Split
import Xacml.Proofs.Combinator.Delay
import Xacml.Proofs.Combinator.EveryCombination
import Xacml.Proofs.Bag.Homogeneous
import Xacml.Proofs.Bag.Multiset
import Xacml.Proofs.Bag.Equality
import Xacml.Proofs.Pattern.Recency
import Xacml.Proofs.Bag.SetLaws
import Xacml.Proofs.Evaluation.Kernel
import Xacml.Proofs.Combinator.SetFunctions
import Xacml.Proofs.Pattern.Precompiled
import Xacml.Proofs.Lexical.Text
import Xacml.Proofs.Lexical.Number
import Xacml.Proofs.Lexical.Calendar
import Xacml.Proofs.Lexical.RoundTrip
import Xacml.Proofs.Lexical.DateTime
import Xacml.Proofs.Request.History
import Xacml.Proofs.Scope.Inlining
import Xacml.Proofs.Combinator.Odometer
import Xacml.Evaluation.Odometer
import Xacml.Proofs.Evaluation.Report
import Xacml.Proofs.Combinator.Arguments
import Xacml.Proofs.Combinator.Product
import Xacml.Proofs.Combinator.OneBag
import Xacml.Proofs.Combinator.TwoBags
import Xacml.Proofs.Lexical.Zoneless
import Xacml.Proofs.Lexical.Numeral
import Xacml.Proofs.Lexical.Timezone
import Xacml.Proofs.Expr.Presence
import Xacml.Proofs.Combinator.Typable
import Xacml.Proofs.Typing.Refusal
import Xacml.Proofs.Evaluation.Strict
import Xacml.Proofs.Arithmetic.Integer
import Xacml.Proofs.Arithmetic.Overflow
import Xacml.Proofs.Comparison.TotalOrder
import Xacml.Proofs.Text.Search
import Xacml.Proofs.Text.Positions
