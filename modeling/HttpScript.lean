import HttpScript.Main
import HttpScript.Memory
import HttpScript.Proofs.Run.Threading
import HttpScript.Proofs.Grammar.Placed
import HttpScript.Proofs.Grammar.RoundTrip
import HttpScript.Proofs.Template.Split
import HttpScript.Proofs.Template.Render
import HttpScript.Proofs.Json.Ordered
import HttpScript.Proofs.JsonPath.Reached
import HttpScript.Proofs.JsonPath.Addresses
import HttpScript.Proofs.Run.Agreement
import HttpScript.Proofs.Run.Fulfilled
import HttpScript.Proofs.Grammar.Backtracking
import HttpScript.Proofs.Grammar.Deepest
import HttpScript.Proofs.Grammar.Parts
import HttpScript.Proofs.Run.FileReads
import HttpScript.Proofs.Http.Redirects
import HttpScript.Proofs.Http.Content
import HttpScript.Proofs.Run.Compose
import HttpScript.Proofs.Cookie.Log
import HttpScript.Proofs.Cookie.Dates
import HttpScript.Proofs.Cookie.Origin
import HttpScript.Proofs.Xml.Pieces
import HttpScript.Proofs.Xml.Embedded
import HttpScript.Proofs.Run.Places
import HttpScript.Proofs.Run.Records
import HttpScript.Proofs.Cookie.Identity
import HttpScript.Proofs.Http.Credentials
import HttpScript.Proofs.Report.Marks
import HttpScript.Proofs.Run.Negation
import HttpScript.Proofs.Run.Headers
import HttpScript.Proofs.Value.Comparison
import HttpScript.Proofs.Query.Subquery
import HttpScript.Proofs.Cookie.Paths
import HttpScript.Proofs.Grammar.Decoding
import HttpScript.Proofs.Grammar.Pieces
import HttpScript.Proofs.Report.OneLine
