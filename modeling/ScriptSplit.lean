import ScriptSplit.Disk
import ScriptSplit.Main
import ScriptSplit.Text.Basic
import ScriptSplit.Proofs.Assignment.Grants
import ScriptSplit.Proofs.Assignment.Partition
import ScriptSplit.Proofs.Assignment.Second
import ScriptSplit.Proofs.Scanner.Neutral
import ScriptSplit.Proofs.Scanner.Slices
import ScriptSplit.Proofs.Text.Lines
import ScriptSplit.Proofs.Outline
import ScriptSplit.Proofs.Scanner.Segmentation
import ScriptSplit.Proofs.Scanner.Segmented
import ScriptSplit.Proofs.Group.RoundTrip
import ScriptSplit.Proofs.Group.Conservation
import ScriptSplit.Proofs.Split.Run
import ScriptSplit.Proofs.Split.DryRun
import ScriptSplit.Proofs.Split.Outcomes
import ScriptSplit.Proofs.Disk.Resolution
import ScriptSplit.Proofs.Disk.Directories
import ScriptSplit.Proofs.Split.Writes
import ScriptSplit.Proofs.Split.DiskRun
import ScriptSplit.Proofs.Split.Effect
import ScriptSplit.Proofs.Split.ReadBack
import ScriptSplit.Proofs.Element
import ScriptSplit.Proofs.Selection
import ScriptSplit.Proofs.Text.Pieces
import ScriptSplit.Proofs.Listing
import ScriptSplit.Proofs.Json.Lexical
import ScriptSplit.Proofs.Json.Layout
import ScriptSplit.Proofs.Record.Basic
import ScriptSplit.Proofs.Record.ReadBack
import ScriptSplit.Proofs.Session.Round
import ScriptSplit.Proofs.Session.Refinement
import ScriptSplit.Proofs.Assignment.Rulings
import ScriptSplit.Proofs.Assignment.Account
import ScriptSplit.Proofs.Assignment.Order
import ScriptSplit.Proofs.Assignment.Agreement
import ScriptSplit.Proofs.Assignment.InRange
import ScriptSplit.Proofs.Assignment.Oversized
import ScriptSplit.Proofs.Selection.Tables
import ScriptSplit.Proofs.Session.Course
import ScriptSplit.Proofs.Text.Cutting
import ScriptSplit.Proofs.Scanner.Extension
import ScriptSplit.Proofs.Scanner.Padding
import ScriptSplit.Proofs.Scanner.LineComment
import ScriptSplit.Proofs.Plan.Entries
import ScriptSplit.Proofs.Command.Selections
import ScriptSplit.Proofs.Disk.Place
import ScriptSplit.Proofs.Disk.Parents
import ScriptSplit.Proofs.Command.Places
