import Interpose.Main
import Interpose.Proofs.Files.Directory
import Interpose.Proofs.Files.Agreement
import Interpose.Proofs.Files.Listing
import Interpose.Proofs.Url.Host
import Interpose.Proofs.Url.Front
import Interpose.Proofs.Text.Utf8
import Interpose.Proofs.Text.Utf16
import Interpose.Proofs.Text.Ascii
import Interpose.Proofs.Text.Normalization
import Interpose.Proofs.Text.Base64
import Interpose.Proofs.Time.Calendar
import Interpose.Proofs.Time.Rfc3339
import Interpose.Proofs.Json.Literal
import Interpose.Proofs.Json.RoundTrip
import Interpose.Proofs.Sniff
import Interpose.Proofs.Classification
import Interpose.Proofs.Http.Headers
import Interpose.Proofs.Http.Multimap
import Interpose.Proofs.Http.Recording
import Interpose.Proofs.Http.Sync
import Interpose.Proofs.Http.Preprocess
import Interpose.Proofs.Http.Target
import Interpose.Proofs.Compression.Stored
import Interpose.Proofs.Http.Encodings
import Interpose.Proofs.CommandLine.Rewrite
import Interpose.Proofs.Cache.Name
import Interpose.Proofs.Cache.ArtifactName
import Interpose.Proofs.Cache.Call
import Interpose.Proofs.Cache.Ending
import Interpose.Proofs.Cache.Permanence
import Interpose.Proofs.Cache.Sharing
import Interpose.Proofs.Cache.Confinement
import Interpose.Proofs.Cache.Settled
import Interpose.Proofs.Cache.Inventory
import Interpose.Proofs.Cache.Listing
import Interpose.Proofs.Pass.Ending
import Interpose.Proofs.Pass.Headers
import Interpose.Proofs.Pass.Index
import Interpose.Proofs.Pass.Order
import Interpose.Proofs.Pass.Tool
import Interpose.Proofs.Pass.Length
import Interpose.Proofs.Pass.Redirect
import Interpose.Proofs.Pass.Transparency
import Interpose.Proofs.Pass.Work
import Interpose.Proofs.Program
import Interpose.Proofs.Pass.Hint
import Interpose.Proofs.Cache.Leftover
import Interpose.Proofs.Pass.Decoding
import Interpose.Proofs.Pass.Blank
import Interpose.Proofs.CommandLine.ClientUrl
import Interpose.Proofs.Toml.Literal
import Interpose.Proofs.Toml.Value
import Interpose.Proofs.Toml.Document
import Interpose.Proofs.Toml.Range
import Interpose.Proofs.Files.Parent
import Interpose.Proofs.Config.RoundTrip
import Interpose.Proofs.Config.Key
import Interpose.Proofs.CommandLine.Assignment
import Interpose.Proofs.CommandLine.Directory
