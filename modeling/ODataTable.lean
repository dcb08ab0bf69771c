import ODataTable.CommandLine.Run
import ODataTable.Http.Message
import ODataTable.Main
import ODataTable.Source
import ODataTable.Proofs.Batch
import ODataTable.Proofs.Query.Selection
import ODataTable.Proofs.Edm.Coercion
import ODataTable.Proofs.Query.Outcome
import ODataTable.Proofs.Query.Rows
import ODataTable.Proofs.CommandLine.Verdict
import ODataTable.Proofs.Url.Path
import ODataTable.Proofs.Url.Host
import ODataTable.Proofs.Url.Delimited
import ODataTable.Proofs.Url.Written
import ODataTable.Proofs.Query.Target
import ODataTable.Proofs.Service.Version
import ODataTable.Proofs.Edm.Schema
import ODataTable.Proofs.Json.Text
import ODataTable.Proofs.Json.Written
import ODataTable.Proofs.Edm.Resource
import ODataTable.Proofs.Calendar.Legacy
import ODataTable.Proofs.Url.Verbatim
import ODataTable.Proofs.Query.Below
import ODataTable.Proofs.Text.Normal
import ODataTable.Proofs.Url.Name
import ODataTable.Proofs.Url.Refused
import ODataTable.Proofs.Url.Slashes
import ODataTable.Proofs.Url.PathEnd
import ODataTable.Proofs.Service.Trimmed
import ODataTable.Proofs.Json.Mirror
import ODataTable.Proofs.Query.Payload
import ODataTable.Proofs.Json.Local
import ODataTable.Proofs.Json.LocalRecord
import ODataTable.Proofs.Json.Without
import ODataTable.Proofs.Calendar.Date
import ODataTable.Proofs.Calendar.Number
import ODataTable.Proofs.Calendar.Forms
import ODataTable.Proofs.Calendar.Written
import ODataTable.Proofs.Query.Window
import ODataTable.Proofs.Query.Comparison
import ODataTable.Proofs.Frame.Filled
import ODataTable.Proofs.Frame.Steps
import ODataTable.Proofs.Number.Rounding
import ODataTable.Proofs.Number.Literal
import ODataTable.Proofs.Number.Whole
import ODataTable.Proofs.Number.Notation
import ODataTable.Proofs.Edm.Whole
import ODataTable.Proofs.Calendar.Untimed
import ODataTable.Proofs.Edm.Outcome
import ODataTable.Proofs.Query.Composed
import ODataTable.Proofs.Query.Signs
import ODataTable.Proofs.Text.Lossy
