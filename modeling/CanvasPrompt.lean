import CanvasPrompt.Api.Gateway
import CanvasPrompt.Auth.Hs256
import CanvasPrompt.Database.Connection
import CanvasPrompt.Proofs.Context.Selection
import CanvasPrompt.Proofs.Generate.Chain
import CanvasPrompt.Proofs.Refine.Outcome
import CanvasPrompt.Proofs.Refine.Request
import CanvasPrompt.Proofs.Alternation
import CanvasPrompt.Proofs.Fallible
import CanvasPrompt.Proofs.Generate.Reply
import CanvasPrompt.Proofs.Generate.Guarantee
import CanvasPrompt.Proofs.Database.Writing
import CanvasPrompt.Proofs.Api.Handlers
import CanvasPrompt.Proofs.Api.Isolation
import CanvasPrompt.Proofs.Api.Delivery
import CanvasPrompt.Proofs.Canvas.Resolution
import CanvasPrompt.Proofs.Context.Growth
import CanvasPrompt.Proofs.Context.Independence
import CanvasPrompt.Proofs.Generate.Secrecy
import CanvasPrompt.Proofs.Database.Deleting
import CanvasPrompt.Proofs.Database.Identity
import CanvasPrompt.Proofs.Api.Logging
import CanvasPrompt.Proofs.Api.ItemLog
import CanvasPrompt.Proofs.Refine.Preamble
import CanvasPrompt.Proofs.Refine.Cleaning
import CanvasPrompt.Proofs.Canvas.FirstWins
import CanvasPrompt.Proofs.Api.PromptLinks
import CanvasPrompt.Proofs.Text.Codes
import CanvasPrompt.Proofs.Text.Splitting
import CanvasPrompt.Proofs.Text.Utf8
import CanvasPrompt.Proofs.Text.Percent
import CanvasPrompt.Proofs.Generate.Sending
import CanvasPrompt.Proofs.Generate.ImageUrl
import CanvasPrompt.Proofs.Text.Base64
import CanvasPrompt.Proofs.Vision.Encoding
import CanvasPrompt.Proofs.Api.Fetching
import CanvasPrompt.Proofs.Refine.Blankness
import CanvasPrompt.Proofs.Json.RoundTrip
import CanvasPrompt.Proofs.Api.WrittenForm
import CanvasPrompt.Proofs.Database.StoredCanvas
import CanvasPrompt.Proofs.Auth.Decoding
import CanvasPrompt.Proofs.Auth.Validity
import CanvasPrompt.Proofs.Text.Numerals
import CanvasPrompt.Proofs.Settings.Loading
import CanvasPrompt.Proofs.Text.Lowering
import CanvasPrompt.Proofs.Prompt.Distinct
