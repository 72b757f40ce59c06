import Pamphlet.Main
import Pamphlet.Proofs.CommandLine
import Pamphlet.Proofs.Job.Agreement
import Pamphlet.Proofs.Job.Confinement
import Pamphlet.Proofs.Job.Failure
import Pamphlet.Proofs.Job.Isolation
import Pamphlet.Proofs.Job.Loading
import Pamphlet.Proofs.Job.Resolution
import Pamphlet.Proofs.Job.Stages
import Pamphlet.Proofs.Job.Timings
import Pamphlet.Proofs.Page.Anchors
import Pamphlet.Proofs.Page.Fragments
import Pamphlet.Proofs.Page.InStep
import Pamphlet.Proofs.Page.Links
import Pamphlet.Proofs.Release.Details
import Pamphlet.Proofs.Release.Download
import Pamphlet.Proofs.Release.Telling
import Pamphlet.Proofs.Settings
import Pamphlet.Proofs.Release.Previous
