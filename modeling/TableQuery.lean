import TableQuery.Json.Parsing
import TableQuery.Main
import TableQuery.Row.Selection
import TableQuery.Proofs.Token.Scanning
import TableQuery.Proofs.Filter.Acceptance
import TableQuery.Proofs.Pattern.Matching
import TableQuery.Proofs.Predicate.Meaning
import TableQuery.Proofs.Sql.Lockstep
import TableQuery.Proofs.Number.Characters
import TableQuery.Proofs.Sql.Lexeme
import TableQuery.Proofs.Sql.Clause
import TableQuery.Proofs.Filter.FirstFault
import TableQuery.Proofs.Plan.Making
import TableQuery.Proofs.Plan.Refusal
import TableQuery.Proofs.Plan.Calls
import TableQuery.Proofs.Row.Answer
import TableQuery.Proofs.Sql.Binding
import TableQuery.Proofs.Plan.Counting
import TableQuery.Proofs.Number.Rounding
import TableQuery.Proofs.Row.Ranking
import TableQuery.Proofs.Token.Seam
import TableQuery.Proofs.Filter.Composition
import TableQuery.Proofs.Predicate.ThreeValued
import TableQuery.Proofs.Row.Paging
import TableQuery.Proofs.Filter.RoundTrip
import TableQuery.Proofs.Filter.LetterCase
import TableQuery.Proofs.Plan.LetterCase
import TableQuery.Proofs.Pattern.Reading
import TableQuery.Proofs.Session.LastSetting
import TableQuery.Proofs.Json.Reading
import TableQuery.Proofs.Token.Tiling
import TableQuery.Proofs.Json.Decoding
import TableQuery.Proofs.Schema.RoundTrip
import TableQuery.Proofs.Row.KeyOrder
import TableQuery.Proofs.Row.IntegerCells
import TableQuery.Proofs.Number.Reading
import TableQuery.Proofs.Guid
import TableQuery.Proofs.Token.Classes
import TableQuery.Proofs.Filter.Literals
import TableQuery.Proofs.Filter.Timestamps
import TableQuery.Proofs.Number.Denotation
import TableQuery.Proofs.OrderBy
import TableQuery.Proofs.Predicate.Rendering
import TableQuery.Proofs.Schema.Lookup
import TableQuery.Proofs.Filter.Magnitudes
import TableQuery.Proofs.Schema.SnakeCase
import TableQuery.Proofs.Pattern.Escaping
import TableQuery.Proofs.Pattern.Rounds
import TableQuery.Proofs.Predicate.Segments
import TableQuery.Proofs.Guid.RoundTrip
import TableQuery.Proofs.Sorting.Stable
