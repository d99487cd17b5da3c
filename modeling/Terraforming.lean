import Terraforming.Board.Basic
import Terraforming.Board.Hex
import Terraforming.Board.Layout
import Terraforming.Board.Location
import Terraforming.Board.Placement
import Terraforming.Board.Restriction
import Terraforming.Board.Space
import Terraforming.Board.Tile
import Terraforming.Card.Action
import Terraforming.Card.Basic
import Terraforming.Card.Effect
import Terraforming.Card.Impact
import Terraforming.Card.Points
import Terraforming.Card.Requirement
import Terraforming.Card.Terms
import Terraforming.Catalog.Base
import Terraforming.Catalog.Basic
import Terraforming.Catalog.Corporate
import Terraforming.Catalog.Defect
import Terraforming.Catalog.Design
import Terraforming.CommandLine.Arguments
import Terraforming.CommandLine.Command
import Terraforming.CommandLine.Path
import Terraforming.CommandLine.Run
import Terraforming.Cost
import Terraforming.Data.Ledger
import Terraforming.Data.Table
import Terraforming.Data.Total
import Terraforming.Data.Vocabulary
import Terraforming.Fault
import Terraforming.Game.Basic
import Terraforming.Game.Execute
import Terraforming.Game.Honors
import Terraforming.Game.Operation
import Terraforming.Game.OperationType
import Terraforming.Main
import Terraforming.Player.Basic
import Terraforming.Player.Payment
import Terraforming.Player.Requirements
import Terraforming.Player.Scoring
import Terraforming.Player.Setup
import Terraforming.Proofs.Board.Bonuses
import Terraforming.Proofs.Board.Calls
import Terraforming.Proofs.Board.Distance
import Terraforming.Proofs.Board.Exclusive
import Terraforming.Proofs.Board.Labels
import Terraforming.Proofs.Board.Orders
import Terraforming.Proofs.Board.Sound
import Terraforming.Proofs.Board.Standard
import Terraforming.Proofs.Board.View
import Terraforming.Proofs.Board.Worth
import Terraforming.Proofs.Card.Complete
import Terraforming.Proofs.Card.Kinds
import Terraforming.Proofs.Card.Ready
import Terraforming.Proofs.Card.Sameness
import Terraforming.Proofs.CommandLine.Snapshots
import Terraforming.Proofs.Data.Enumeration
import Terraforming.Proofs.Data.Except
import Terraforming.Proofs.Data.Table
import Terraforming.Proofs.Game.Acceptance
import Terraforming.Proofs.Game.Books
import Terraforming.Proofs.Game.Bystanders
import Terraforming.Proofs.Game.Cards
import Terraforming.Proofs.Game.Commands
import Terraforming.Proofs.Game.Floors
import Terraforming.Proofs.Game.GenerationEnd
import Terraforming.Proofs.Game.Independence
import Terraforming.Proofs.Game.Inventory
import Terraforming.Proofs.Game.Log
import Terraforming.Proofs.Game.Marks
import Terraforming.Proofs.Game.Opening
import Terraforming.Proofs.Game.Owners
import Terraforming.Proofs.Game.Passives
import Terraforming.Proofs.Game.Players
import Terraforming.Proofs.Game.Ranking
import Terraforming.Proofs.Game.Reading
import Terraforming.Proofs.Game.Refusal
import Terraforming.Proofs.Game.Regular
import Terraforming.Proofs.Game.Sameness
import Terraforming.Proofs.Game.Scoring
import Terraforming.Proofs.Game.Sound
import Terraforming.Proofs.Game.Supplied
import Terraforming.Proofs.Game.Tiles
import Terraforming.Proofs.Game.Violations
import Terraforming.Proofs.Player.Payment
import Terraforming.Proofs.Player.Sound
import Terraforming.Proofs.Player.Tender
import Terraforming.Proofs.Random.Shuffle
import Terraforming.Proofs.Search.Branches
import Terraforming.Proofs.Search.Generation
import Terraforming.Proofs.Search.Orderings
import Terraforming.Proofs.Service.Answers
import Terraforming.Proofs.Service.Changes
import Terraforming.Proofs.Service.Dealing
import Terraforming.Proofs.Service.Decisions
import Terraforming.Proofs.Service.Ids
import Terraforming.Proofs.Service.Presentable
import Terraforming.Proofs.Service.Seats
import Terraforming.Proofs.Text.Utf8
import Terraforming.Proofs.Turn.Accounts
import Terraforming.Proofs.Turn.Answers
import Terraforming.Proofs.Turn.Beginnings
import Terraforming.Proofs.Turn.Blocks
import Terraforming.Proofs.Turn.Charges
import Terraforming.Proofs.Turn.Cities
import Terraforming.Proofs.Turn.Complete
import Terraforming.Proofs.Turn.Credit
import Terraforming.Proofs.Turn.Decisions
import Terraforming.Proofs.Turn.Demands
import Terraforming.Proofs.Turn.Discounts
import Terraforming.Proofs.Turn.Drawing
import Terraforming.Proofs.Turn.Emissions
import Terraforming.Proofs.Turn.Entry
import Terraforming.Proofs.Turn.Failures
import Terraforming.Proofs.Turn.Gains
import Terraforming.Proofs.Turn.Holdings
import Terraforming.Proofs.Turn.Invariants
import Terraforming.Proofs.Turn.Inventory
import Terraforming.Proofs.Turn.Legal
import Terraforming.Proofs.Turn.Loop
import Terraforming.Proofs.Turn.Meeting
import Terraforming.Proofs.Turn.Misfits
import Terraforming.Proofs.Turn.Opponents
import Terraforming.Proofs.Turn.Outcomes
import Terraforming.Proofs.Turn.Outline
import Terraforming.Proofs.Turn.Placements
import Terraforming.Proofs.Turn.Playthrough
import Terraforming.Proofs.Turn.Printed
import Terraforming.Proofs.Turn.Production
import Terraforming.Proofs.Turn.Progress
import Terraforming.Proofs.Turn.Questions
import Terraforming.Proofs.Turn.Queues
import Terraforming.Proofs.Turn.Ratings
import Terraforming.Proofs.Turn.Reactions
import Terraforming.Proofs.Turn.Replay
import Terraforming.Proofs.Turn.Resolution
import Terraforming.Proofs.Turn.Resumption
import Terraforming.Proofs.Turn.Rooted
import Terraforming.Proofs.Turn.Sameness
import Terraforming.Proofs.Turn.Session
import Terraforming.Proofs.Turn.Supplied
import Terraforming.Proofs.Turn.Taps
import Terraforming.Proofs.Turn.Targets
import Terraforming.Proofs.Turn.Transport
import Terraforming.Proofs.Wire.Cards
import Terraforming.Proofs.Wire.Catalogs
import Terraforming.Proofs.Wire.Checked
import Terraforming.Proofs.Wire.Games
import Terraforming.Proofs.Wire.Limits
import Terraforming.Proofs.Wire.Loadable
import Terraforming.Proofs.Wire.Loaded
import Terraforming.Proofs.Wire.Parse
import Terraforming.Proofs.Wire.Snapshot
import Terraforming.Proofs.Wire.Tokens
import Terraforming.Random.Generator
import Terraforming.Random.Sha512
import Terraforming.Resource
import Terraforming.Search.Branches
import Terraforming.Search.Generation
import Terraforming.Service.Address
import Terraforming.Service.Basic
import Terraforming.Service.Moves
import Terraforming.Service.Queries
import Terraforming.Service.Rejection
import Terraforming.Service.Reply
import Terraforming.Service.Request
import Terraforming.Service.Response
import Terraforming.Service.Route
import Terraforming.Text.Blank
import Terraforming.Text.Digit
import Terraforming.Text.Numeral
import Terraforming.Text.Percent
import Terraforming.Text.Quoted
import Terraforming.Text.Upper
import Terraforming.Text.Utf8
import Terraforming.Text.Visible
import Terraforming.Turn.Action
import Terraforming.Turn.Choice
import Terraforming.Turn.Demand
import Terraforming.Turn.Legal
import Terraforming.Turn.Play
import Terraforming.Turn.Reaction
import Terraforming.Turn.Refusal
import Terraforming.Turn.Resolve
import Terraforming.Wire.Cards
import Terraforming.Wire.Catalogs
import Terraforming.Wire.Checked
import Terraforming.Wire.Games
import Terraforming.Wire.Json
import Terraforming.Wire.Limits
import Terraforming.Wire.Parse
import Terraforming.Wire.Rounding
import Terraforming.Wire.Snapshot
import Terraforming.Wire.Spelling
import Terraforming.Wire.Style
import Terraforming.Wire.Views
