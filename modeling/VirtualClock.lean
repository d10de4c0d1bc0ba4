import VirtualClock.Calendar.CivilDate
import VirtualClock.Calendar.WallTime
import VirtualClock.Clock
import VirtualClock.CommandLine.Options
import VirtualClock.CommandLine.Request
import VirtualClock.CommandLine.Run
import VirtualClock.CommandLine.Stop
import VirtualClock.CommandLine.Usage
import VirtualClock.Day
import VirtualClock.Disk
import VirtualClock.Duration
import VirtualClock.Fault
import VirtualClock.Json.Basic
import VirtualClock.Json.Printer
import VirtualClock.Json.Reader
import VirtualClock.Log.Journal
import VirtualClock.Log.Line
import VirtualClock.Log.Record
import VirtualClock.Log.System
import VirtualClock.Log.Template
import VirtualClock.Main
import VirtualClock.Moment.Basic
import VirtualClock.Moment.Comparison
import VirtualClock.Moment.Reader
import VirtualClock.Moment.Text
import VirtualClock.Number.Binary64
import VirtualClock.Number.FloatText
import VirtualClock.Number.Power
import VirtualClock.Number.WholeText
import VirtualClock.Override
import VirtualClock.Session.Action
import VirtualClock.Session.Harness
import VirtualClock.Session.Memory
import VirtualClock.Session.Play
import VirtualClock.Session.Report
import VirtualClock.Session.Step
import VirtualClock.Settings.EnvFile
import VirtualClock.Settings.Schema
import VirtualClock.Settings.Sources
import VirtualClock.Stack
import VirtualClock.Text.Blank
import VirtualClock.Text.Digits
import VirtualClock.Text.LetterCase
import VirtualClock.Text.Likeness
import VirtualClock.Text.Quoted
import VirtualClock.Text.Underscore
import VirtualClock.Text.Visible
import VirtualClock.Traveler.Ambient
import VirtualClock.Traveler.Basic
import VirtualClock.Traveler.Configured
import VirtualClock.Traveler.Views
import VirtualClock.Value
import VirtualClock.Value.Comparison
import VirtualClock.View
import VirtualClock.World
import VirtualClock.Zone.Atlas
import VirtualClock.Zone.Atlas.Africa
import VirtualClock.Zone.Atlas.America
import VirtualClock.Zone.Atlas.Asia
import VirtualClock.Zone.Atlas.Europe
import VirtualClock.Zone.Atlas.Oceania
import VirtualClock.Zone.Atlas.Steady
import VirtualClock.Zone.Basic
import VirtualClock.Zone.Local
import VirtualClock.Zone.Region
import VirtualClock.Zone.Rule
import VirtualClock.Proofs.Runs
import VirtualClock.Proofs.StackOperations
import VirtualClock.Proofs.Anchors
import VirtualClock.Proofs.TravelerOperations
import VirtualClock.Proofs.Projection
import VirtualClock.Proofs.Regions
import VirtualClock.Proofs.Operations
import VirtualClock.Proofs.Processes
import VirtualClock.Proofs.Scopes
import VirtualClock.Proofs.ScopedTravel
import VirtualClock.Proofs.Courses
import VirtualClock.Proofs.EffectiveInstant
import VirtualClock.Proofs.Readings
import VirtualClock.Proofs.SessionPrograms
import VirtualClock.Proofs.Instants
import VirtualClock.Proofs.Ordering
import VirtualClock.Proofs.EqualViews
import VirtualClock.Proofs.Journeys
import VirtualClock.Proofs.Arguments
import VirtualClock.Proofs.JourneyFaults
import VirtualClock.Proofs.CommandOutcomes
import VirtualClock.Proofs.Agreement
import VirtualClock.Proofs.TestCases
import VirtualClock.Proofs.Calendar
import VirtualClock.Proofs.ZoneRules
import VirtualClock.Proofs.OrderlyRegions
import VirtualClock.Proofs.IsoTexts
import VirtualClock.Proofs.WholeSecondTexts
import VirtualClock.Proofs.WholeSecondViews
import VirtualClock.Proofs.RepeatedRuns
import VirtualClock.Proofs.Renaming
import VirtualClock.Proofs.Commands
import VirtualClock.Proofs.Turns
import VirtualClock.Proofs.Isolation
import VirtualClock.Proofs.ClockMoves
import VirtualClock.Proofs.PlainMoments
import VirtualClock.Proofs.LogSetup
import VirtualClock.Proofs.JsonTexts
import VirtualClock.Proofs.PrintedViews
import VirtualClock.Proofs.ZoneNames
import VirtualClock.Proofs.Timelines
import VirtualClock.Proofs.Conversions
import VirtualClock.Proofs.GoverningChanges
import VirtualClock.Proofs.CalmRegions
import VirtualClock.Proofs.LocalReadings
import VirtualClock.Proofs.TravelTargets
import VirtualClock.Proofs.NaiveTargets
import VirtualClock.Proofs.DateTargets
import VirtualClock.Proofs.DigitOrder
import VirtualClock.Proofs.DatabaseTexts
import VirtualClock.Proofs.ExplicitCalls
import VirtualClock.Proofs.JournalAccounts
import VirtualClock.Proofs.ReadingTargets
import VirtualClock.Proofs.StackTables
import VirtualClock.Proofs.StackHygiene
import VirtualClock.Proofs.AmbientBlocks
import VirtualClock.Proofs.LineFields
import VirtualClock.Proofs.TravelStamps
import VirtualClock.Proofs.JsonLines
import VirtualClock.Proofs.JsonLogs
import VirtualClock.Proofs.LoadedSettings
import VirtualClock.Proofs.SettingsInForce
