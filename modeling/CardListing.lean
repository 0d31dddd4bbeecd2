import CardListing.BitSpan
import CardListing.BitSpan.Arithmetic
import CardListing.Card
import CardListing.CardField
import CardListing.Decimal.Double
import CardListing.Decimal.Layout
import CardListing.Decimal.Shortest
import CardListing.Deck.Basic
import CardListing.Deck.Builder
import CardListing.Deck.Entry
import CardListing.Deck.Feed
import CardListing.Deck.Json
import CardListing.Deck.Relisting
import CardListing.Deck.Segmentation
import CardListing.Directive
import CardListing.Event
import CardListing.Json.Basic
import CardListing.Json.Choice
import CardListing.Json.Declared
import CardListing.Json.DecodeError
import CardListing.Json.Encoder
import CardListing.Json.Number
import CardListing.Json.NumberValue
import CardListing.Json.Printer
import CardListing.Json.Quoted
import CardListing.Json.Reader
import CardListing.Json.Scan
import CardListing.Json.Token
import CardListing.Numeral
import CardListing.Reading
import CardListing.Record
import CardListing.Text.Alphabetic
import CardListing.Text.Basic
import CardListing.Text.CharRange
import CardListing.Text.Lines
import CardListing.Text.Quoted
import CardListing.Text.Unprintable
import CardListing.Text.WhiteSpace
import CardListing.Word.Basic
import CardListing.Word.Decoder
import CardListing.Word.Definition
import CardListing.Word.Group
import CardListing.Word.Json
import CardListing.Word.JsonText
import CardListing.Word.Octal
import CardListing.Word.Registers
import CardListing.Proofs.BitSpan.Bits
import CardListing.Proofs.BitSpan.ExactArithmetic
import CardListing.Proofs.BitSpan.Tilings
import CardListing.Proofs.CardContents
import CardListing.Proofs.CardLayout
import CardListing.Proofs.ColumnGrammar
import CardListing.Proofs.Decimal.Rounding
import CardListing.Proofs.Deck.BuilderInvariant
import CardListing.Proofs.Deck.BuilderRuns
import CardListing.Proofs.Deck.BuilderSegments
import CardListing.Proofs.Deck.Concatenation
import CardListing.Proofs.Deck.DirectiveLines
import CardListing.Proofs.Deck.EntryPositions
import CardListing.Proofs.Deck.FeedSchedule
import CardListing.Proofs.Deck.IdleLines
import CardListing.Proofs.Deck.IgnoredLines
import CardListing.Proofs.Deck.JsonRoundTrip
import CardListing.Proofs.Deck.LineAccounts
import CardListing.Proofs.Deck.LineEnds
import CardListing.Proofs.Deck.OutsideColumns
import CardListing.Proofs.Deck.RelistingRoundTrip
import CardListing.Proofs.Deck.StatementLookup
import CardListing.Proofs.Deck.WellFormedEntries
import CardListing.Proofs.Json.Encoding
import CardListing.Proofs.Json.NumberRange
import CardListing.Proofs.Json.Printable
import CardListing.Proofs.Json.RoundTrip.Exact
import CardListing.Proofs.Json.RoundTrip.Number
import CardListing.Proofs.Json.RoundTrip.Quoted
import CardListing.Proofs.Json.RoundTrip.Token
import CardListing.Proofs.Json.RoundTrip.Value
import CardListing.Proofs.LineReading
import CardListing.Proofs.OctalDigits
import CardListing.Proofs.OutsideColumns
import CardListing.Proofs.Text.LineEnds
import CardListing.Proofs.Text.Trimming
import CardListing.Proofs.TrailingWhiteSpace
import CardListing.Proofs.Word.DecodingFaults
import CardListing.Proofs.Word.JsonDecoding
import CardListing.Proofs.Word.Making
import CardListing.Proofs.Word.MemberFaults
import CardListing.Proofs.Word.OctalGroups
import CardListing.Proofs.Word.OctalStyles
import CardListing.Proofs.Word.Packing
import CardListing.Proofs.Word.PartValues
import CardListing.Proofs.Word.RegisterSteps
import CardListing.Proofs.Word.TokenwiseDecoder
import CardListing.Proofs.Word.Truncation
import CardListing.Proofs.Word.ValueBijection
import CardListing.Proofs.Word.WaysOfMaking
