import TimeMarkup.Binding.Binder
import TimeMarkup.Main
import TimeMarkup.Proofs.Binding.Histories
import TimeMarkup.Proofs.Binding.Passes
import TimeMarkup.Proofs.Binding.Rebinding
import TimeMarkup.Proofs.Locale.LongDates
import TimeMarkup.Proofs.Markup.Pieces
import TimeMarkup.Proofs.Markup.Reparsing
import TimeMarkup.Proofs.Time.Distances
import TimeMarkup.Proofs.Timestamp.Exclusion
import TimeMarkup.Proofs.Timestamp.Roundtrips
import TimeMarkup.Proofs.Watching.InPlace
import TimeMarkup.Proofs.Watching.Polls
import TimeMarkup.Proofs.Markup.Encodings
import TimeMarkup.Proofs.Markup.Attributes
import TimeMarkup.Proofs.Markup.Cuts
import TimeMarkup.Proofs.Markup.Tokens
import TimeMarkup.Proofs.Binding.QuotedValues
import TimeMarkup.Proofs.Markup.Alignment
import TimeMarkup.Proofs.Markup.OpaqueRegions
import TimeMarkup.Proofs.Markup.References
import TimeMarkup.Proofs.Markup.VisibleText
import TimeMarkup.Proofs.Time.RelativeLengths
import TimeMarkup.Proofs.Locale.Spellings
import TimeMarkup.Proofs.Storage.SameFile
import TimeMarkup.Proofs.Storage.Discoveries
import TimeMarkup.Proofs.Command.Obstacles
import TimeMarkup.Proofs.Locale.LanguageTags
import TimeMarkup.Proofs.Binding.Messages
