import Semblance.Journal
import Semblance.Proofs.Generate.Aggregates
import Semblance.Proofs.Generate.EmptyObjects
import Semblance.Proofs.Lowering.Admission
import Semblance.Proofs.Lowering.Attribution
import Semblance.Proofs.Lowering.Cycles
import Semblance.Proofs.Lowering.Dangling
import Semblance.Proofs.Lowering.Stability
import Semblance.Proofs.Name.Requests
import Semblance.Proofs.Schedule.Report
import Semblance.Proofs.Shape.Accumulation
import Semblance.Proofs.Shape.Arrays
import Semblance.Proofs.Shape.Properties
import Semblance.Proofs.Shape.Repetition
import Semblance.Proofs.Syntax.Dump
import Semblance.Proofs.Synthesis.Accessors
import Semblance.Proofs.Synthesis.Capture
import Semblance.Proofs.Synthesis.Identifiers
import Semblance.Proofs.Synthesis.Instances
import Semblance.Proofs.Synthesis.Locality
import Semblance.Proofs.Synthesis.Placeholders
import Semblance.Proofs.Synthesis.Returns
