import Fleet.CommandLine.Execution
import Fleet.FileSystem.Changes
import Fleet.FileSystem.Ensure
import Fleet.Main
import Fleet.Proofs.CloneCalls
import Fleet.Proofs.ClosingDisplay
import Fleet.Proofs.CommitCalls
import Fleet.Proofs.CompleteClone
import Fleet.Proofs.Description
import Fleet.Proofs.Forwarding
import Fleet.Proofs.GitDisplay
import Fleet.Proofs.History
import Fleet.Proofs.Layout
import Fleet.Proofs.ListGrammar
import Fleet.Proofs.LoadedCampaign
import Fleet.Proofs.Places
import Fleet.Proofs.PointerForms
import Fleet.Proofs.PointerTarget
import Fleet.Proofs.Replay
import Fleet.Proofs.Settings.Overriding
import Fleet.Proofs.ShellWord
import Fleet.Proofs.Transcript
import Fleet.Script
import Fleet.Shell.Spawn
