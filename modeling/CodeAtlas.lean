import CodeAtlas.Main
import CodeAtlas.Parameter
import CodeAtlas.Proofs.Engine.Cap
import CodeAtlas.Proofs.Engine.Definitions
import CodeAtlas.Proofs.Outline.Ancestors
import CodeAtlas.Proofs.Server.Lookups
import CodeAtlas.Proofs.Server.Session
import CodeAtlas.Proofs.Walk
import CodeAtlas.Repository.Layout
import CodeAtlas.Proofs.Server.Notifications
import CodeAtlas.Proofs.Server.Truncation
import CodeAtlas.Proofs.Contents
import CodeAtlas.Proofs.Outline.Pieces
import CodeAtlas.Proofs.Outline.Variables
import CodeAtlas.Proofs.Engine.Candidates
import CodeAtlas.Proofs.Positions
import CodeAtlas.Proofs.Server.Calls
import CodeAtlas.Proofs.Outline.Tightest
import CodeAtlas.Proofs.Environment.Settings
import CodeAtlas.Proofs.Text.Joined
import CodeAtlas.Proofs.Engine.Outcomes
import CodeAtlas.Proofs.FileSystem.Below
import CodeAtlas.Proofs.Engine.Subdirectory
import CodeAtlas.Proofs.Json.Numbers
import CodeAtlas.Proofs.Json.Tokens
import CodeAtlas.Proofs.Json.Printable
import CodeAtlas.Proofs.Json.ReadBack
import CodeAtlas.Proofs.Server.Frames
import CodeAtlas.Proofs.Outline.LastScope
import CodeAtlas.Proofs.Outline.Canonical
import CodeAtlas.Proofs.Engine.Counters
import CodeAtlas.Proofs.Engine.DocumentOrder
import CodeAtlas.Proofs.Caches.Fifo
import CodeAtlas.Proofs.Caches.Identities
import CodeAtlas.Proofs.Text.Spans
import CodeAtlas.Proofs.Engine.Windows
import CodeAtlas.Proofs.Outline.Blocks
import CodeAtlas.Proofs.Outline.Parameters
import CodeAtlas.Proofs.Comments
import CodeAtlas.Proofs.Documentation
