import KeyRotation.Batches
import KeyRotation.Calendar
import KeyRotation.Client
import KeyRotation.Config
import KeyRotation.Database
import KeyRotation.Decimal
import KeyRotation.Entries
import KeyRotation.Fault
import KeyRotation.Files
import KeyRotation.Json
import KeyRotation.KeyStatus
import KeyRotation.Main
import KeyRotation.Migration
import KeyRotation.Program.Jobs
import KeyRotation.Program.Log
import KeyRotation.Program.Machine
import KeyRotation.Program.Usage
import KeyRotation.Proofs.Accounting
import KeyRotation.Proofs.Address
import KeyRotation.Proofs.Announcement
import KeyRotation.Proofs.Breakdown
import KeyRotation.Proofs.Calendar
import KeyRotation.Proofs.Commons
import KeyRotation.Proofs.Confinement
import KeyRotation.Proofs.Conversation
import KeyRotation.Proofs.Counters
import KeyRotation.Proofs.Course
import KeyRotation.Proofs.Custody
import KeyRotation.Proofs.Declared
import KeyRotation.Proofs.Decoding
import KeyRotation.Proofs.Destination
import KeyRotation.Proofs.Ending
import KeyRotation.Proofs.Essentials
import KeyRotation.Proofs.Exposure
import KeyRotation.Proofs.Fields
import KeyRotation.Proofs.Grouping
import KeyRotation.Proofs.Insertion
import KeyRotation.Proofs.Inventory
import KeyRotation.Proofs.Keyed
import KeyRotation.Proofs.Layout
import KeyRotation.Proofs.Listing
import KeyRotation.Proofs.Markup
import KeyRotation.Proofs.Misreading
import KeyRotation.Proofs.Overlap
import KeyRotation.Proofs.Partition
import KeyRotation.Proofs.Progress
import KeyRotation.Proofs.Publication
import KeyRotation.Proofs.Readiness
import KeyRotation.Proofs.Refusal
import KeyRotation.Proofs.Replies
import KeyRotation.Proofs.Retention
import KeyRotation.Proofs.Segments
import KeyRotation.Proofs.Showing
import KeyRotation.Proofs.Spelling
import KeyRotation.Proofs.Steady
import KeyRotation.Proofs.Stopping
import KeyRotation.Proofs.Stride
import KeyRotation.Proofs.Totals
import KeyRotation.Proofs.Trace
import KeyRotation.Proofs.Unfinished
import KeyRotation.Report
import KeyRotation.Store
import KeyRotation.Text.Basic
import KeyRotation.Text.Unicode
import KeyRotation.Toml.Document
import KeyRotation.Toml.Lexeme
import KeyRotation.Url
import KeyRotation.Vault
import KeyRotation.Xml.Reader
import KeyRotation.Xml.Token
