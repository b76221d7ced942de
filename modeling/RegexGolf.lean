import RegexGolf.Main
import RegexGolf.Proofs.Separation
import RegexGolf.Workbench
import RegexGolf.Proofs.Rearrangement
import RegexGolf.Proofs.Enrichment
import RegexGolf.Proofs.WeightedPass
import RegexGolf.Proofs.HardestFirst
import RegexGolf.Proofs.EarlyStop
import RegexGolf.Proofs.Alternatives
import RegexGolf.Proofs.CommandLine.Groups
import RegexGolf.Proofs.CommandLine.Runs
import RegexGolf.Proofs.IrredundantCover
import RegexGolf.Proofs.WildcardSets
import RegexGolf.Proofs.WindowSets
import RegexGolf.Proofs.CommandLine.AttachedValues
import RegexGolf.Proofs.Sifting
import RegexGolf.Proofs.MatcherHistory
import RegexGolf.Proofs.RunAccounts
import RegexGolf.Proofs.Lines
import RegexGolf.Proofs.WordLists
import RegexGolf.Proofs.CommandLine.Interleaving
import RegexGolf.Proofs.IndexListing
