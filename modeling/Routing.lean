import Routing.Params.Typed
import Routing.Router.Description
import Routing.Router.Registration
import Routing.Proofs.Cache.Transparency
import Routing.Proofs.Pattern.Expression
import Routing.Proofs.Pattern.Values
import Routing.Proofs.Regex.Preference
import Routing.Proofs.Unicode.Uncased
import Routing.Proofs.Pattern.Following
import Routing.Proofs.Pattern.Language
import Routing.Proofs.Regex.Anchored
import Routing.Proofs.Regex.Closing
import Routing.Proofs.Regex.Tied
import Routing.Proofs.Pattern.Covering
import Routing.Proofs.Regex.Groups
import Routing.Proofs.Unicode.Named
import Routing.Proofs.Regex.Marks
import Routing.Proofs.Regex.Openings
import Routing.Proofs.Pattern.Slots
import Routing.Proofs.Session.Accounts
import Routing.Proofs.Router.Redirects
import Routing.Proofs.Router.Dispatch
import Routing.Proofs.Router.Lineage
import Routing.Proofs.Router.Cancelled
import Routing.Proofs.Router.Registering
import Routing.Proofs.Location.Trail
import Routing.Proofs.Location.Reading
import Routing.Proofs.Pattern.Building
import Routing.Proofs.Pattern.Slash
import Routing.Proofs.Router.Failures
import Routing.Proofs.Session.Reports
import Routing.Proofs.Router.Aborted
import Routing.Proofs.Pattern.Rows
import Routing.Proofs.Pattern.Optionals
import Routing.Proofs.Pattern.Formats
import Routing.Proofs.Pattern.Alternatives
import Routing.Proofs.Cache.Recency
import Routing.Proofs.Pattern.Binding
import Routing.Proofs.Pattern.Wildcards
import Routing.Proofs.Router.Rejected
import Routing.Proofs.Router.Announcing
import Routing.Proofs.Router.Deeds
import Routing.Proofs.Session.Passing
import Routing.Proofs.Pattern.Special
import Routing.Proofs.Pattern.Tokens
import Routing.Proofs.Router.Scopes
import Routing.Proofs.Location.Zipper
import Routing.Proofs.Pattern.Translation
import Routing.Proofs.Params.Lookup
import Routing.Proofs.Session.Splicing
