import AndroidResources.Text.Quoted
import AndroidResources.Text.Blank
import AndroidResources.Number.Shortest
import AndroidResources.Json.Reader
import AndroidResources.Json.Printer
import AndroidResources.Configuration.Match
import AndroidResources.Configuration.Preference
import AndroidResources.Configuration.Text
import AndroidResources.ResourceId
import AndroidResources.OrderedMap
import AndroidResources.Value.Literal
import AndroidResources.Table.Builder
import AndroidResources.Source.Description
import AndroidResources.Registry.Lookup
import AndroidResources.Registry.Reference
import AndroidResources.BagCache
import AndroidResources.Theme
import AndroidResources.Attribute.Retrieval
import AndroidResources.Service.Request
import AndroidResources.CommandLine.Run
import AndroidResources.Main
import AndroidResources.Proofs.Selection
import AndroidResources.Proofs.SelectionOrder
import AndroidResources.Proofs.ConfigurationDimensions
import AndroidResources.Proofs.ConfigurationMerit
import AndroidResources.Proofs.SelectionStability
import AndroidResources.Proofs.BagComposition
import AndroidResources.Proofs.CacheTransparency
import AndroidResources.Proofs.BagEntries
import AndroidResources.Proofs.CacheInvalidation
import AndroidResources.Proofs.ThemeComposition
import AndroidResources.Proofs.ThemeReplay
import AndroidResources.Proofs.AttributePrecedence
import AndroidResources.Proofs.HandleHistory
import AndroidResources.Proofs.PackageIndex
import AndroidResources.Proofs.CookieHistory
import AndroidResources.Proofs.BagAncestry
import AndroidResources.Proofs.ValueStability
import AndroidResources.Proofs.ReferenceChains
import AndroidResources.Proofs.LocaleFallback
import AndroidResources.Proofs.ThemeHistory
import AndroidResources.Proofs.ThemeCopies
import AndroidResources.Proofs.AttributeValues
import AndroidResources.Proofs.AttributeShape
import AndroidResources.Proofs.ConsultedStyles
import AndroidResources.Proofs.UnusedDimensions
import AndroidResources.Proofs.PreferenceOrder
import AndroidResources.Proofs.ResolutionTrace
import AndroidResources.Proofs.AttributeTexts
import AndroidResources.Proofs.FailedRequests
import AndroidResources.Proofs.HandleMisuse
import AndroidResources.Proofs.TableNames
import AndroidResources.Proofs.TableContents
import AndroidResources.Proofs.RepeatedBuilds
import AndroidResources.Proofs.RequestOrder
import AndroidResources.Proofs.ConfigurationTexts
import AndroidResources.Proofs.EntryChanges
import AndroidResources.Proofs.WholeDimensions
import AndroidResources.Proofs.AssetStreams
import AndroidResources.Proofs.AssetPrecedence
import AndroidResources.Proofs.DirectoryListing
import AndroidResources.Proofs.QualifierWeight
import AndroidResources.Proofs.NameGrammar
import AndroidResources.Proofs.ResultSlots
import AndroidResources.Proofs.PrintedValues
import AndroidResources.Proofs.AttributeLookup
import AndroidResources.Proofs.ComplexValues
import AndroidResources.Proofs.DescriptionTexts
