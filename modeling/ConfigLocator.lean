import ConfigLocator.CommandLine
import ConfigLocator.LogLevel
import ConfigLocator.Main
import ConfigLocator.Proofs.Listing
import ConfigLocator.Proofs.Placeholders
import ConfigLocator.Proofs.Composition
import ConfigLocator.Proofs.DirectoryScan
import ConfigLocator.Proofs.Flattening
import ConfigLocator.Proofs.NameOverride
import ConfigLocator.Proofs.FileNames
import ConfigLocator.Proofs.Beside
import ConfigLocator.Proofs.Failure
import ConfigLocator.Proofs.Existence
import ConfigLocator.Proofs.CandidateNames
import ConfigLocator.Proofs.Imports
import ConfigLocator.Proofs.Growth
import ConfigLocator.Proofs.OptionalMark
import ConfigLocator.Proofs.Dispatch
import ConfigLocator.Proofs.BeyondStore
import ConfigLocator.Proofs.Subdirectories
import ConfigLocator.Proofs.PatternScan
import ConfigLocator.Proofs.ContinuedLines
import ConfigLocator.Proofs.EscapedText
import ConfigLocator.Proofs.PropertiesRoundTrip
import ConfigLocator.Proofs.BaseDirectory
import ConfigLocator.Proofs.NodeReader
import ConfigLocator.Proofs.DocumentFaults
import ConfigLocator.Proofs.Printing
import ConfigLocator.Proofs.Following
import ConfigLocator.Proofs.Expansion
import ConfigLocator.Proofs.PatternMatches
import ConfigLocator.Proofs.PatternRoots
import ConfigLocator.Proofs.PlainGroups
import ConfigLocator.Proofs.ProfilePass
import ConfigLocator.Proofs.Repeats
import ConfigLocator.Proofs.FoundFiles
import ConfigLocator.Proofs.Injection
import ConfigLocator.Proofs.DispatchOrder
import ConfigLocator.Proofs.LaterDocuments
import ConfigLocator.Proofs.Leaves
import ConfigLocator.Proofs.Packages
import ConfigLocator.Proofs.NamedFiles
import ConfigLocator.Proofs.ExtensionHints
import ConfigLocator.Proofs.CleanPath
import ConfigLocator.Proofs.EntryGrammar
import ConfigLocator.Proofs.PackedLocations
import ConfigLocator.Proofs.CharacterCodes
import ConfigLocator.Proofs.LexicalClasses
import ConfigLocator.Proofs.ClosedLines
import ConfigLocator.Proofs.JoinedTexts
import ConfigLocator.Proofs.CodeUnits
import ConfigLocator.Proofs.Recognition
import ConfigLocator.Proofs.FirstOffers
