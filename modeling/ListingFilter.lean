import ListingFilter.CommandLine
import ListingFilter.Database.Engine
import ListingFilter.Database.SessionScope
import ListingFilter.Http.Service
import ListingFilter.Logging
import ListingFilter.Main
import ListingFilter.SearchPath
import ListingFilter.Proofs.Characters
import ListingFilter.Proofs.Grammar
import ListingFilter.Proofs.Scanning
import ListingFilter.Proofs.Splitting
import ListingFilter.Proofs.Controls
import ListingFilter.Proofs.Rereading
import ListingFilter.Proofs.CleanedTerms
import ListingFilter.Proofs.ClauseMeaning
import ListingFilter.Proofs.AlikeBindings
import ListingFilter.Proofs.TextIndependence
import ListingFilter.Proofs.RepeatedCleaning
import ListingFilter.Proofs.CleanedPage
import ListingFilter.Proofs.NumberedBindings
import ListingFilter.Proofs.Parentheses
import ListingFilter.Proofs.WrittenConditions
import ListingFilter.Proofs.WrittenClauses
import ListingFilter.Proofs.IsolatedConjuncts
import ListingFilter.Proofs.DeclaredNames
import ListingFilter.Proofs.Entries
import ListingFilter.Proofs.OrderTerms
import ListingFilter.Proofs.BoundNames
import ListingFilter.Proofs.PageAgreement
import ListingFilter.Proofs.ParameterValues
import ListingFilter.Proofs.LowerCase
import ListingFilter.Proofs.SearchPatterns
import ListingFilter.Proofs.KnownValues
import ListingFilter.Proofs.Failures
import ListingFilter.Proofs.CalendarBounds
import ListingFilter.Proofs.ValueFailures
import ListingFilter.Proofs.SplitFailures
import ListingFilter.Proofs.ConditionFailures
import ListingFilter.Proofs.CompilationFailures
import ListingFilter.Proofs.UnknownColumns
import ListingFilter.Proofs.SharedRows
import ListingFilter.Proofs.Registration
import ListingFilter.Proofs.Sessions
import ListingFilter.Proofs.Routing
import ListingFilter.Proofs.WritableAnswers
import ListingFilter.Proofs.EndpointRuns
import ListingFilter.Proofs.RequestCourse
import ListingFilter.Proofs.EngineLife
import ListingFilter.Proofs.Concatenation
import ListingFilter.Proofs.NegatedFreeText
import ListingFilter.Proofs.ControlSettings
import ListingFilter.Proofs.SearchPrefix
import ListingFilter.Proofs.OptionValues
import ListingFilter.Proofs.OptionReaders
import ListingFilter.Proofs.CalendarDays
import ListingFilter.Proofs.CalendarShifts
import ListingFilter.Proofs.ContainedTexts
import ListingFilter.Proofs.OrderComposition
import ListingFilter.Proofs.SideBySide
import ListingFilter.Proofs.TableSlots
import ListingFilter.Proofs.ConditionTables
import ListingFilter.Proofs.RenamedTables
import ListingFilter.Proofs.RegistryRuns
import ListingFilter.Proofs.StoredFilters
import ListingFilter.Proofs.ReadJson
import ListingFilter.Proofs.SettingSources
import ListingFilter.Proofs.AddressUrl
import ListingFilter.Proofs.AddressParts
import ListingFilter.Proofs.ScopeLogs
import ListingFilter.Proofs.SessionScopes
import ListingFilter.Proofs.TermLookups
import ListingFilter.Proofs.NumeralLanguages
import ListingFilter.Proofs.DateLanguages
import ListingFilter.Proofs.ValueReadings
import ListingFilter.Proofs.FreshNames
import ListingFilter.Proofs.QuotedLiterals
