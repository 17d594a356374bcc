import PipelineScript.Main
import PipelineScript.Verbosity
import PipelineScript.Proofs.Dialogue.Sift
import PipelineScript.Proofs.Dialogue.Trace
import PipelineScript.Proofs.Prompter.Notices
import PipelineScript.Proofs.Script.Decoding
import PipelineScript.Proofs.Script.Bash
import PipelineScript.Proofs.Generate
import PipelineScript.Proofs.Generate.Causality
import PipelineScript.Proofs.Generate.Replay
import PipelineScript.Proofs.Node.Keys
import PipelineScript.Proofs.Node.Scalars
import PipelineScript.Proofs.Selection.Interactive
import PipelineScript.Proofs.Selection.Quit
import PipelineScript.Proofs.Selection.Standing
import PipelineScript.Proofs.Expansion.Bound
import PipelineScript.Proofs.Expansion.Nesting
import PipelineScript.Proofs.Expansion.Scoping
import PipelineScript.Proofs.Expansion.Forwarding
import PipelineScript.Proofs.Expansion.Origin
import PipelineScript.Proofs.Expansion.Account
import PipelineScript.Proofs.Expansion.Filters
import PipelineScript.Proofs.Definition.Rearranged
import PipelineScript.Proofs.Expansion.Footprint
import PipelineScript.Proofs.Expansion.Itinerary
import PipelineScript.Proofs.Expansion.Moving
import PipelineScript.Proofs.Expansion.Resolution
import PipelineScript.Proofs.Expansion.Parameters
import PipelineScript.Proofs.Placeholder.Cut
import PipelineScript.Proofs.Prompter.Lines
import PipelineScript.Proofs.Validation.Candidates
