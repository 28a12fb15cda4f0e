import StartPage.Main
import StartPage.Store.Change
import StartPage.Proofs.Restart
import StartPage.Proofs.Move.Cases
import StartPage.Proofs.Report
import StartPage.Proofs.Tally
import StartPage.Proofs.Move.Effect
import StartPage.Proofs.Hits.Ledger
import StartPage.Proofs.Hits.Action
import StartPage.Proofs.Hits.Session
import StartPage.Proofs.Routes
import StartPage.Proofs.Form
import StartPage.Proofs.Template
import StartPage.Proofs.Address
import StartPage.Proofs.Unicode
import StartPage.Proofs.Url.Punycode
import StartPage.Proofs.Url.Name
import StartPage.Proofs.Url.Host
import StartPage.Proofs.Url.Ideograph
import StartPage.Proofs.Resolve
import StartPage.Proofs.Typed
import StartPage.Proofs.Operator
import StartPage.Proofs.Paths
import StartPage.Proofs.Saving
import StartPage.Proofs.Slots
import StartPage.Proofs.Serialized
import StartPage.Proofs.Rule.Offsets
import StartPage.Proofs.Pattern.Emit
import StartPage.Proofs.Pattern.Follow
import StartPage.Proofs.Pattern.Parts
import StartPage.Proofs.Rule.Expression
import StartPage.Proofs.Rule.Failing
import StartPage.Proofs.Rule.Kept
import StartPage.Proofs.Pattern.Literal
import StartPage.Proofs.Rule.Literal
import StartPage.Proofs.Schemeless
import StartPage.Proofs.Unranked
import StartPage.Proofs.Spelling
import StartPage.Proofs.Settings
import StartPage.Proofs.Creation
import StartPage.Proofs.Details
import StartPage.Proofs.Reposition
import StartPage.Proofs.Search
