import QueryOptions.Context
import QueryOptions.Check
import QueryOptions.Main
import QueryOptions.Proofs.Threshold
import QueryOptions.Proofs.Sharing
import QueryOptions.Proofs.Token.Apart
import QueryOptions.Proofs.Height.Tall
import QueryOptions.Proofs.Nested.Agreement
import QueryOptions.Proofs.Nested.Search
import QueryOptions.Proofs.Nested.Unordered
import QueryOptions.Proofs.Scope
import QueryOptions.Proofs.Precedence
import QueryOptions.Proofs.Render
import QueryOptions.Proofs.Pointing
import QueryOptions.Proofs.Search.Render
import QueryOptions.Proofs.Literal
import QueryOptions.Proofs.InOrder
import QueryOptions.Proofs.Shape
import QueryOptions.Proofs.Paths
import QueryOptions.Proofs.Concatenation
import QueryOptions.Proofs.Hosts
import QueryOptions.Proofs.Rendering.RoundTrip
import QueryOptions.Proofs.SameTokens
import QueryOptions.Proofs.Offsets
import QueryOptions.Proofs.Token.Session
import QueryOptions.Proofs.Operators.Options
import QueryOptions.Proofs.Routine
import QueryOptions.Proofs.Outline.Unambiguous
import QueryOptions.Proofs.Keyword.Exact
import QueryOptions.Proofs.Keyword.Worded
import QueryOptions.Proofs.Width
import QueryOptions.Proofs.Search.Implicit
import QueryOptions.Proofs.Parentheses
import QueryOptions.Proofs.Wildcards
import QueryOptions.Proofs.Token.Alone
import QueryOptions.Proofs.Token.Guid
import QueryOptions.Proofs.Token.Quoted
import QueryOptions.Proofs.Token.Numeric
import QueryOptions.Proofs.Token.Decimal
import QueryOptions.Proofs.Token.Integer
import QueryOptions.Proofs.Nested.Raw
