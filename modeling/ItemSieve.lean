import ItemSieve.Text.Case
import ItemSieve.Text.Numeral
import ItemSieve.Text.Space
import ItemSieve.Text.Width
import ItemSieve.Json.Basic
import ItemSieve.Json.Number
import ItemSieve.Json.Codec
import ItemSieve.Catalog
import ItemSieve.Sieve
import ItemSieve.Search
import ItemSieve.Command.Run
import ItemSieve.Main
import ItemSieve.Proofs.Pointwise
import ItemSieve.Proofs.Filter.Call
import ItemSieve.Proofs.Filter.Check
import ItemSieve.Proofs.Filter.Tag
import ItemSieve.Proofs.Filter.Change
import ItemSieve.Proofs.Filter.Restore
import ItemSieve.Proofs.Sieve.Call
import ItemSieve.Proofs.Sieve.Evaluate
import ItemSieve.Proofs.Sieve.Route
import ItemSieve.Proofs.Sieve.Poll
import ItemSieve.Proofs.Sieve.Restore
import ItemSieve.Proofs.Search.Call
import ItemSieve.Proofs.Search.Replay
import ItemSieve.Proofs.Json.Codec
import ItemSieve.Proofs.Catalog
import ItemSieve.Proofs.Opener
import ItemSieve.Proofs.Settings
import ItemSieve.Proofs.Command.Store
import ItemSieve.Proofs.Filter.Patch
import ItemSieve.Proofs.Search.Patch
import ItemSieve.Proofs.Search.Order
import ItemSieve.Proofs.Search.Request
import ItemSieve.Proofs.Search.Standard
import ItemSieve.Proofs.Search.Refusal
import ItemSieve.Proofs.Search.Label
import ItemSieve.Proofs.Search.Leg
import ItemSieve.Proofs.Filter.Selection
import ItemSieve.Proofs.Text.Order
import ItemSieve.Proofs.Settings.Assign
import ItemSieve.Proofs.Command.Search
import ItemSieve.Proofs.Query
import ItemSieve.Proofs.Text.Case
import ItemSieve.Proofs.RaceSex.Body
import ItemSieve.Proofs.Sieve.Tag
import ItemSieve.Proofs.RaceSex.Report
import ItemSieve.Proofs.Filter.Invariant
import ItemSieve.Proofs.Item
import ItemSieve.Proofs.Command.Listing
import ItemSieve.Proofs.Attribute
