import Gleaner.CommandLine.Run
import Gleaner.Config.Written
import Gleaner.Crawler
import Gleaner.Element
import Gleaner.Html.Reader
import Gleaner.Json.Printer
import Gleaner.Json.Reader
import Gleaner.Main
import Gleaner.Options.Written
import Gleaner.Proofs.Crawler.Agreement
import Gleaner.Proofs.Crawler.Checks
import Gleaner.Proofs.Crawler.Download
import Gleaner.Proofs.Crawler.Fetching
import Gleaner.Proofs.Dictionary
import Gleaner.Proofs.Files
import Gleaner.Proofs.Json
import Gleaner.Proofs.Options.RoundTrip
import Gleaner.Proofs.Options.Shapes
import Gleaner.Proofs.Rule.Building
import Gleaner.Proofs.Rule.Canonical
import Gleaner.Proofs.Rule.Depth
import Gleaner.Proofs.Rule.Direct
import Gleaner.Proofs.Rule.Faithful
import Gleaner.Proofs.Rule.Grammar
import Gleaner.Proofs.Rule.Induction
import Gleaner.Proofs.Rule.Names
import Gleaner.Proofs.Rule.Reading
import Gleaner.Proofs.Rule.Sorting
import Gleaner.Proofs.Session
import Gleaner.Rule.Fault
import Gleaner.Rule.Walk
import Gleaner.Rule.Written
import Gleaner.Url.Reader
import Gleaner.Proofs.Http.Exchange
import Gleaner.Proofs.Http.Field
import Gleaner.Proofs.Crawler.Header
import Gleaner.Proofs.Rule.Obtained
import Gleaner.Proofs.Rule.Addresses
import Gleaner.Proofs.Rule.Results
import Gleaner.Proofs.CommandLine.Run
import Gleaner.Proofs.Rule.Bounds
import Gleaner.Proofs.Json.Nesting
import Gleaner.Proofs.Rule.Calls
import Gleaner.Proofs.Rule.FirstFault
import Gleaner.Proofs.Text
import Gleaner.Proofs.Html.Forest
import Gleaner.Proofs.Element.Find
import Gleaner.Proofs.Element.Style
import Gleaner.Proofs.Element.Dataset
import Gleaner.Proofs.Options.Meaning
import Gleaner.Proofs.Utf8
import Gleaner.Proofs.Json.Cursor
import Gleaner.Proofs.Json.Numbers
import Gleaner.Proofs.Json.ReadBack
import Gleaner.Proofs.Crawler.Timeout
import Gleaner.Proofs.Element.Declarations
import Gleaner.Proofs.Element.Select
import Gleaner.Proofs.Html.Text
import Gleaner.Proofs.Element.Dataset.Keys
import Gleaner.Proofs.CommandLine.Headers
