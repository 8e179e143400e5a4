import BranchingMovie.CommandLine.Desk
import BranchingMovie.Main
import BranchingMovie.Playback.AudioFeed
import BranchingMovie.Playback.Rehearsal
import BranchingMovie.Proofs.Engine.TickRule
import BranchingMovie.Proofs.Graph.Loading
import BranchingMovie.Proofs.Playback.Course
import BranchingMovie.Proofs.HotZone.Lines
import BranchingMovie.Proofs.HotZone.Clicks
import BranchingMovie.Proofs.Playback.Display
import BranchingMovie.Proofs.Playback.Seeking
import BranchingMovie.Proofs.Playback.Recovery
import BranchingMovie.Proofs.Playback.KeptFrames
import BranchingMovie.Proofs.Engine.InputFrame
import BranchingMovie.Proofs.Engine.Endings
import BranchingMovie.Proofs.Engine.Retries
import BranchingMovie.Proofs.Engine.LoadedFilm
import BranchingMovie.Proofs.Script.Grammar
import BranchingMovie.Proofs.HotZone.Grammar
import BranchingMovie.Proofs.Dispatch.Scopes
import BranchingMovie.Proofs.Engine.Installed
import BranchingMovie.Proofs.Engine.ClockShift
import BranchingMovie.Proofs.Simulation.Plan
import BranchingMovie.Proofs.Simulation.Duration
import BranchingMovie.Proofs.Simulation.Delivery
import BranchingMovie.Proofs.Script.Respelling
import BranchingMovie.Proofs.Graph.Respelling
import BranchingMovie.Proofs.Engine.Respelling
import BranchingMovie.Proofs.Simulation.Respelling
import BranchingMovie.Proofs.HotZone.Catalog
import BranchingMovie.Proofs.HotZone.DeadSlots
import BranchingMovie.Proofs.Playback.Decks
import BranchingMovie.Proofs.Playback.Screening
import BranchingMovie.Proofs.Playback.Feeds
import BranchingMovie.Proofs.Asset.Walking
import BranchingMovie.Proofs.Asset.Scanning
import BranchingMovie.Proofs.Playback.DeclaredTiming
import BranchingMovie.Proofs.Playback.SoundShift
import BranchingMovie.Proofs.Playback.Refusals
import BranchingMovie.Proofs.Engine.Gate
import BranchingMovie.Proofs.HotZone.Corners
import BranchingMovie.Proofs.Simulation.InputText
import BranchingMovie.Proofs.Simulation.Recording
import BranchingMovie.Proofs.Dispatch.Calls
import BranchingMovie.Proofs.Dispatch.Numbers
import BranchingMovie.Proofs.Script.BrokenNames
import BranchingMovie.Proofs.Engine.SoleAnswer
import BranchingMovie.Proofs.Asset.StableKeys
import BranchingMovie.Proofs.Engine.CheckedJumps
import BranchingMovie.Proofs.Simulation.CheckedPlays
