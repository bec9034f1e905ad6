import CommandConsole.Command.Source
import CommandConsole.Demo
import CommandConsole.Naming
import CommandConsole.Object.Mark
import CommandConsole.Script.Standard
import CommandConsole.Script.Json
import CommandConsole.Ordinal
import CommandConsole.Proofs.Line.Pieces
import CommandConsole.Proofs.Line.RoundTrip
import CommandConsole.Proofs.Line.Grammar
import CommandConsole.Proofs.Text.Canonical
import CommandConsole.Proofs.Command.Identifiers
import CommandConsole.Proofs.Registry.Uniqueness
import CommandConsole.Proofs.Registry.Resolution
import CommandConsole.Proofs.Line.Surplus
import CommandConsole.Proofs.Session.Action
import CommandConsole.Proofs.Session.Run
import CommandConsole.Proofs.Session.Arguments
import CommandConsole.Proofs.Session.Permanence
import CommandConsole.Proofs.Session.Outcome
import CommandConsole.Proofs.Session.LastFault
import CommandConsole.Proofs.Session.Recording
import CommandConsole.Proofs.Session.Typing
import CommandConsole.Proofs.Session.Isolation
import CommandConsole.Proofs.Session.Simulation
import CommandConsole.Proofs.Session.Colours
import CommandConsole.Proofs.Line.Folding
import CommandConsole.Proofs.Session.Hint
import CommandConsole.Proofs.Text.Parts
import CommandConsole.Proofs.Registry.Completions
import CommandConsole.Proofs.Session.Acceptance
import CommandConsole.Proofs.Registry.Narrowing
import CommandConsole.Proofs.Text.Ranking
import CommandConsole.Proofs.Session.Proposals
import CommandConsole.Proofs.Session.Registration
import CommandConsole.Proofs.Registry.Commutation
import CommandConsole.Proofs.History.Walk
import CommandConsole.Proofs.Session.Words
import CommandConsole.Proofs.Session.TypeRegistration
import CommandConsole.Proofs.Session.Members
import CommandConsole.Proofs.Session.Arity
import CommandConsole.Proofs.Registry.Spelling
import CommandConsole.Proofs.Command.Spellings
import CommandConsole.Proofs.Session.Triggering
import CommandConsole.Proofs.Session.Collection
import CommandConsole.Proofs.Demo.Bindings
import CommandConsole.Proofs.Demo.Lines
import CommandConsole.Proofs.Parameter.TypeForm
