import ChartParsing.Main
import ChartParsing.Proofs.Chart.Dump
import ChartParsing.Proofs.CommandLine.Verdicts
import ChartParsing.Proofs.Description.Comment
import ChartParsing.Proofs.Description.Composition
import ChartParsing.Proofs.Description.Fault
import ChartParsing.Proofs.Description.Rendering
import ChartParsing.Proofs.Forest.Checked
import ChartParsing.Proofs.Forest.Derivations
import ChartParsing.Proofs.Forest.Locality
import ChartParsing.Proofs.Forest.Loop
import ChartParsing.Proofs.Grammar.Stability
import ChartParsing.Proofs.Usefulness.Acceptance
import ChartParsing.Proofs.Usefulness.Growth
import ChartParsing.Proofs.Usefulness.Reordering
import ChartParsing.Proofs.Usefulness.SententialForm
import ChartParsing.Proofs.Usefulness.WorkLists
