import TagCloud.Json.Literal
import TagCloud.Main
import TagCloud.Site.Request
import TagCloud.Template.Render
import TagCloud.Proofs.Directive.Written
import TagCloud.Proofs.Markup.ReadBack
import TagCloud.Proofs.Site.Receipt
import TagCloud.Proofs.Site.Status
import TagCloud.Proofs.Template.Comment
import TagCloud.Proofs.Agreement
import TagCloud.Proofs.Order.Carried
import TagCloud.Proofs.Order.Stable
import TagCloud.Proofs.Order.Arranged
import TagCloud.Proofs.Number.Rounded
import TagCloud.Proofs.Weight.Spread
import TagCloud.Proofs.Weight.Weighed
import TagCloud.Proofs.Order.Listing
import TagCloud.Proofs.Order.Emitted
import TagCloud.Proofs.Order.Threshold
import TagCloud.Proofs.Number.Nearest
import TagCloud.Proofs.Number.Unpacked
import TagCloud.Proofs.Order.Limit
import TagCloud.Proofs.Order.Counted
import TagCloud.Proofs.Random.Draw
import TagCloud.Proofs.Directive.Refused
import TagCloud.Proofs.Order.Shuffled
import TagCloud.Proofs.Directive.Scanned
import TagCloud.Proofs.Directive.Apart
import TagCloud.Proofs.Directive.Separator
import TagCloud.Proofs.Directive.Sizes
import TagCloud.Proofs.Markup.Interpolated
import TagCloud.Proofs.Site.Confined
import TagCloud.Proofs.Site.Index
import TagCloud.Proofs.CommandLine.Ending
import TagCloud.Proofs.CommandLine.Files
import TagCloud.Proofs.Markup.Framed
import TagCloud.Proofs.CommandLine.Files
import TagCloud.Proofs.Markup.Framed
import TagCloud.Proofs.Directive.Accepted
