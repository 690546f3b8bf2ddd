import Stencil.Session
import Stencil.Token.Printer
import Stencil.Proofs.Engine.Locality
import Stencil.Proofs.Engine.Location
import Stencil.Proofs.Engine.Recovery
import Stencil.Proofs.Failure.Malformed
import Stencil.Proofs.Loader.Search
import Stencil.Proofs.Rendering.Discarded
import Stencil.Proofs.Rendering.Literal
import Stencil.Proofs.Rendering.Mentioned
import Stencil.Proofs.Rendering.Pages
import Stencil.Proofs.Rendering.Segments
import Stencil.Proofs.Rendering.Strictness
import Stencil.Proofs.Session.History
import Stencil.Proofs.Session.Transparency
import Stencil.Proofs.Template.Grammar
import Stencil.Proofs.Template.Roundtrip
import Stencil.Proofs.Token.Cutting
import Stencil.Proofs.Token.Leftmost
import Stencil.Proofs.Bindings
import Stencil.Proofs.Rendering.Guess
import Stencil.Proofs.Rendering.Refilled
import Stencil.Proofs.Files.Name
import Stencil.Proofs.Files.Pattern
import Stencil.Proofs.Files.Relative
import Stencil.Proofs.Loader.Listing
import Stencil.Proofs.Snippet
