import TaskScript.Main
import TaskScript.Proofs.Batch.Scripts
import TaskScript.Proofs.Draft.Lifetime
import TaskScript.Proofs.Draft.Refusal
import TaskScript.Proofs.Draft.Sharing
import TaskScript.Proofs.Draft.Sole
import TaskScript.Proofs.Import.Shapes
import TaskScript.Proofs.Job.Demands
import TaskScript.Proofs.Job.Flow
import TaskScript.Proofs.Job.Supply
import TaskScript.Proofs.Pattern.FirstMatch
import TaskScript.Proofs.Plan.Agreement
import TaskScript.Proofs.Plan.Comments
import TaskScript.Proofs.Plan.Emission
import TaskScript.Proofs.Plan.Ending
import TaskScript.Proofs.Plan.Layers
import TaskScript.Proofs.Plan.Layout
import TaskScript.Proofs.Plan.Lines
import TaskScript.Proofs.Plan.Precedence
import TaskScript.Proofs.Plan.Report
import TaskScript.Proofs.Plan.ReportLines
import TaskScript.Proofs.Plan.Unassigned
import TaskScript.Proofs.Plan.Validated
import TaskScript.Proofs.Task.Assigned
import TaskScript.Proofs.Text.Literal
