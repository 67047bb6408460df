import GuardedScript.Main
import GuardedScript.Program.Meaning
import GuardedScript.Program.Written
import GuardedScript.Proofs.Activation
import GuardedScript.Proofs.Agreement
import GuardedScript.Proofs.Independence
import GuardedScript.Proofs.Lexical
import GuardedScript.Proofs.Streaming
import GuardedScript.Text.Spacing
import GuardedScript.Workspace.History
import GuardedScript.Proofs.Stopping
import GuardedScript.Proofs.Nesting
import GuardedScript.Proofs.Sequence
import GuardedScript.Proofs.Publication
import GuardedScript.Proofs.Replay
import GuardedScript.Proofs.RoundTrip
import GuardedScript.Proofs.Literals
import GuardedScript.Proofs.ErrorPlaces
import GuardedScript.Proofs.Components
import GuardedScript.Proofs.Returns
import GuardedScript.Proofs.Variables
import GuardedScript.Proofs.Loading
import GuardedScript.Proofs.Normalization
import GuardedScript.Proofs.BlockStack
import GuardedScript.Proofs.RunLog
import GuardedScript.Proofs.Dictionaries
