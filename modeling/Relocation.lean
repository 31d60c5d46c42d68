import Relocation.Text
import Relocation.Dictionary
import Relocation.Date
import Relocation.Double
import Relocation.Json.Value
import Relocation.Json.Document
import Relocation.Json.Decoder
import Relocation.Named
import Relocation.Move.Status
import Relocation.Violation
import Relocation.Wizard.PageKey
import Relocation.Move.Record
import Relocation.Wizard.State
import Relocation.Wizard.Pattern
import Relocation.Wizard.Page
import Relocation.Wizard.Navigation
import Relocation.Audit
import Relocation.Wizard.Flow
import Relocation.Wizard.StandardFlow
import Relocation.Summary.View
import Relocation.Summary.Plan
import Relocation.Move.Store
import Relocation.Move.Wire
import Relocation.Failure
import Relocation.Wizard.Sessions
import Relocation.Files
import Relocation.Move.Fixture
import Relocation.Toml.Value
import Relocation.Toml.Reader
import Relocation.Environment
import Relocation.Settings.Record
import Relocation.Settings.Error
import Relocation.Settings.Interpolation
import Relocation.Settings.Document
import Relocation.Settings.Load
import Relocation.Command.Report
import Relocation.Command.Flow
import Relocation.Command.Summaries
import Relocation.Command.Configuration
import Relocation.Command.Doctor
import Relocation.Command.Line
import Relocation.Text.Hidden
import Relocation.Text.Quoted
import Relocation.Http.Percent
import Relocation.Http.MediaType
import Relocation.Http.Target
import Relocation.Http.Message
import Relocation.Http.Routing
import Relocation.Html
import Relocation.Web.PageDocument
import Relocation.Web.Log
import Relocation.Web.App
import Relocation.Web.Pages
import Relocation.Web.SessionApi
import Relocation.Web.Listing
import Relocation.Web.MoveApi
import Relocation.Web.Router
import Relocation.Web.Start
import Relocation.Main
import Relocation.Proofs.Outcomes
import Relocation.Proofs.DictionaryLookup
import Relocation.Proofs.DictionaryKeys
import Relocation.Proofs.PathParts
import Relocation.Proofs.PatternFilling
import Relocation.Proofs.MatchedPaths
import Relocation.Proofs.RouteSearch
import Relocation.Proofs.StandardPages
import Relocation.Proofs.PageRoutes
import Relocation.Proofs.InFlowNavigation
import Relocation.Proofs.SessionStates
import Relocation.Proofs.OrdersSubmit
import Relocation.Proofs.RequestEffect
import Relocation.Proofs.Runs
import Relocation.Proofs.FailedRequests
import Relocation.Proofs.MoveCreation
import Relocation.Proofs.WizardWalk
import Relocation.Proofs.SettingValues
import Relocation.Proofs.SettingSources
import Relocation.Proofs.KnownMove
import Relocation.Proofs.SessionLiveness
import Relocation.Proofs.LinkTargets
import Relocation.Proofs.HtmlTags
import Relocation.Proofs.NextButton
import Relocation.Proofs.ShowAndSubmit
import Relocation.Proofs.SessionHistories
import Relocation.Proofs.SessionIsolation
import Relocation.Proofs.PlanFailures
import Relocation.Proofs.EscapedPaths
import Relocation.Proofs.MoveStores
import Relocation.Proofs.SummaryRequests
import Relocation.Proofs.FixtureAgreement
import Relocation.Proofs.RouteLookups
import Relocation.Proofs.LinkedPages
import Relocation.Proofs.EquivalentPatterns
import Relocation.Proofs.PathRouting
import Relocation.Proofs.PageAnswers
import Relocation.Proofs.DateTexts
import Relocation.Proofs.JsonGrammar
import Relocation.Proofs.JsonTexts
import Relocation.Proofs.RecordTexts
import Relocation.Proofs.DecimalDigits
import Relocation.Proofs.FieldsByName
import Relocation.Proofs.RecordDecoding
import Relocation.Proofs.AuditTrail
import Relocation.Proofs.PageListings
import Relocation.Proofs.CommandPayloads
import Relocation.Proofs.UnknownSessions
import Relocation.Proofs.DateOrder
import Relocation.Proofs.PlanLegs
import Relocation.Proofs.PlanDays
import Relocation.Proofs.NeighbourPaths
import Relocation.Proofs.PageOrder
import Relocation.Proofs.PageTemplates
import Relocation.Proofs.InterpolatedTexts
import Relocation.Proofs.SettingProblems
import Relocation.Proofs.SummaryListings
import Relocation.Proofs.RepeatedPages
import Relocation.Proofs.MoveHistories
import Relocation.Proofs.NameTables
